import PluginReadme.Document.Block
import PluginReadme.Markdown.Blocks

/-!
From the block tree of a markdown source to a document.  Every top-level block becomes one block;
the items of a list and of the lists nested in it become one list, an item before the items nested
in it; a blank block stands between two blocks that an empty line separates.
-/

namespace PluginReadme.Document

open Markdown (Node Item Span)

/-- The text of a block that is not a list, on one line. -/
def ownText (source : Text) : Node → Option Text
  | .list .. => none
  | node => some (Text.joinLines (node.span.slice source))

mutual

/-- The entry of an item, then the entries of the items nested in it. -/
def itemEntries (source : Text) : Item → List Text
  | .mk _ children =>
    Text.join [' '] (children.filterMap (ownText source)) :: nestedEntries source children

/-- The entries of the items of some lists and of the items nested in them. -/
def nestedEntries (source : Text) : List Node → List Text
  | [] => []
  | node :: rest => nodeEntries source node ++ nestedEntries source rest

/-- The entries of a list; no other block has any. -/
def nodeEntries (source : Text) : Node → List Text
  | .list _ _ _ items => entries source items
  | _ => []

/-- The entries of some items and of the items nested in them. -/
def entries (source : Text) : List Item → List Text
  | [] => []
  | item :: rest => itemEntries source item ++ entries source rest

end

/-- Takes the mark of a quote off a line, with the blanks before it and one space after it. -/
def stripQuoteMark (line : Text) : Text :=
  let line := Text.trimStart line
  let line := if line.head? = some '>' then line.tail else line
  if line.head? = some ' ' then line.tail else line

/-- Takes the outermost marks off the lines of a quote. -/
def stripQuoteMarks (text : Text) : Text :=
  Text.join ['\n'] ((Text.lines text).map stripQuoteMark)

/-- The block that a top-level node becomes. -/
def lower (source : Text) : Node → Block
  | .heading _ level content => .heading level ((content.map (·.slice source)).getD [])
  | .paragraph span => .paragraph (span.slice source)
  | .quote span _ => .quote (stripQuoteMarks (span.slice source))
  | .list _ _ start items => .list start (entries source items)
  | .verbatim span => .verbatim (span.slice source)

/-- Whether an empty line separates two neighbouring nodes. -/
def separated (source : Text) (node next : Node) : Bool :=
  2 ≤ Text.lineFeeds ((Span.mk node.span.stop next.span.start).slice source)

/-- The blocks of a sequence of top-level nodes. -/
def lowerAll (source : Text) : List Node → List Block
  | [] => []
  | [node] => [lower source node]
  | node :: next :: rest =>
    let gap := if separated source node next then [Block.blank] else []
    lower source node :: (gap ++ lowerAll source (next :: rest))

/-- Reads a document from markdown. -/
def ofMarkdown (source : Text) : Document := ⟨lowerAll source (Markdown.blocksOf source)⟩

end PluginReadme.Document
