import PluginReadme.Markdown.Line

/-!
Fenced code: a line of three or more backticks or tildes, and a closing line of at least as many.
-/

namespace PluginReadme.Markdown

/-- The fence that opens a block of code. -/
structure Fence where
  mark : Char
  size : Nat
  deriving DecidableEq, Repr

/-- The fence that a line opens, with the line from the fence on.  After a fence of backticks
there is no further backtick. -/
def Fence.opened (cells : List Cell) : Option (Fence × List Cell) :=
  match dropIndent cells with
  | some (first :: rest) =>
    let size := ((first :: rest).takeWhile (·.char == first.char)).length
    let info := (first :: rest).dropWhile (·.char == first.char)
    if (first.char == '`' && info.all (·.char != '`') || first.char == '~') && 3 ≤ size then
      some (⟨first.char, size⟩, first :: rest)
    else none
  | _ => none

/-- Whether a line closes the fence. -/
def Fence.closedBy (fence : Fence) (cells : List Cell) : Bool :=
  match dropIndent cells with
  | none => false
  | some cells =>
    fence.size ≤ (cells.takeWhile (·.char == fence.mark)).length &&
      allBlank (cells.dropWhile (·.char == fence.mark))

end PluginReadme.Markdown
