import PluginReadme.Document.Lowering
import PluginReadme.Readme.Link

/-!
Rendering documents in the form of a plugin readme.  Blocks are written one after the other; each
block but a heading ends with an empty line, and empty lines never pile up unless a block that is
kept as it is brings its own.
-/

namespace PluginReadme.Readme

/-- Ends a line that is written to the output: without blanks at its end. -/
def pushLine (output line : Text) : Text := output ++ Text.trimEnd line ++ ['\n']

/-- Ends a block with an empty line, unless there is one already or nothing has been written. -/
def pushBlank (output : Text) : Text :=
  if output.isEmpty || ['\n', '\n'].isSuffixOf output then output
  else if ['\n'].isSuffixOf output then output ++ ['\n']
  else output ++ ['\n', '\n']

/-- A heading: levels 1 to 3 have a form of their own, deeper ones keep their marks. -/
def headingLine (level : Nat) (text : Text) : Text :=
  match level with
  | 1 => "=== ".toList ++ text ++ " ===".toList
  | 2 => "== ".toList ++ text ++ " ==".toList
  | 3 => "= ".toList ++ text ++ " =".toList
  | _ => List.replicate level '#' ++ ' ' :: text

/-- The mark of an item, given its place in the list. -/
def itemMark (start : Option Nat) (index : Nat) : Text :=
  match start with
  | none => ['*']
  | some first => (toString (first + index)).toList ++ ['.']

/-- A line of a quote. -/
def quoteLine (line : Text) : Text :=
  if line.isEmpty then ['>'] else '>' :: ' ' :: line

/-- Writes a block after what has been written so far. -/
def renderBlock (output : Text) : Block → Text
  | .heading level text => pushLine output (headingLine level (renderLinks text))
  | .list start items =>
    pushBlank (items.zipIdx.foldl (fun output (item, index) =>
      pushLine output (itemMark start index ++ ' ' :: renderLinks item)) output)
  | .paragraph text => pushBlank (pushLine output (renderLinks text))
  | .quote text =>
    pushBlank ((Text.lines (renderLinks text)).foldl (fun output line =>
      pushLine output (quoteLine line)) output)
  | .blank => pushBlank output
  | .verbatim text => pushBlank (pushLine output text)

/-- Renders a document, without blanks around it. -/
def renderDocument (document : Document) : Text :=
  Text.trim (document.blocks.foldl renderBlock [])

/-- Renders markdown. -/
def render (markdown : Text) : Text := renderDocument (Document.ofMarkdown markdown)

/-- Drops the first line of a text if it is a heading `# title`. -/
def stripLeadingTitle (text : Text) : Text :=
  match text with
  | '#' :: ' ' :: rest => (rest.dropWhile (· != '\n')).tail
  | _ => text

/-- What stands between the readme and the changelog. -/
def changelogHeading : Text := "\n\n== Changelog ==\n".toList

/-- The whole plugin readme of a project: its readme, then its changelog without title. -/
def build (readme changelog : Text) : Text :=
  render readme ++ changelogHeading ++ render (stripLeadingTitle changelog)

end PluginReadme.Readme
