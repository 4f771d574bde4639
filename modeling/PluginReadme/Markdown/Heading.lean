import PluginReadme.Markdown.Line
import PluginReadme.Markdown.Tree

/-!
Headings: a line of `#` marks before the text, or a line of `=` or `-` under it.
-/

namespace PluginReadme.Markdown

/-- ASCII punctuation, which a backslash makes literal. -/
def isAsciiPunctuation (c : Char) : Bool :=
  let n := c.toNat
  (0x21 ≤ n && n ≤ 0x2F) || (0x3A ≤ n && n ≤ 0x40) || (0x5B ≤ n && n ≤ 0x60) ||
    (0x7B ≤ n && n ≤ 0x7E)

/-- The span from the first to the last of some columns.  A backslash that makes the first
character literal is not part of the content. -/
def contentSpan (cells : List Cell) : Option Span :=
  match cells, cells.getLast? with
  | first :: rest, some last =>
    let escaped := first.char == '\\' && rest.head?.any (isAsciiPunctuation ·.char)
    some ⟨first.place.offset + (if escaped then 1 else 0), last.place.offset + 1⟩
  | _, _ => none

/-- The content of a marked heading: words of `#` before and after it are marks, too. -/
def markedContent (cells : List Cell) : List Cell :=
  let isMark (cell : Cell) := cell.char == ' ' || cell.char == '#'
  let content := cells.dropWhile isMark
  let closing := (content.reverse.takeWhile isMark).reverse
  (content.reverse.dropWhile isMark).reverse ++ closing.takeWhile (·.char == '#')

/-- A heading line `# text`: its level, from 1 to 6, and its content. -/
def markedHeading (cells : List Cell) : Option (Nat × List Cell) :=
  match dropIndent cells with
  | none => none
  | some cells =>
    let level := (cells.takeWhile (·.char == '#')).length
    let rest := cells.dropWhile (·.char == '#')
    if 1 ≤ level && level ≤ 6 && rest.head?.all (·.char == ' ') then
      some (level, markedContent rest)
    else none

/-- A line under a heading: level 1 for `=`, level 2 for `-`. -/
def underline (cells : List Cell) : Option Nat :=
  match dropIndent cells with
  | some (mark :: rest) =>
    if (mark.char == '=' || mark.char == '-') &&
        allBlank (rest.dropWhile (·.char == mark.char)) then
      some (if mark.char == '=' then 1 else 2)
    else none
  | _ => none

end PluginReadme.Markdown
