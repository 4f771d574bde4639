import PluginReadme.Text.Blank

/-!
Lines of a markdown source.  Block structure is decided column by column: a tab stands for the
columns up to the next multiple of four, and each column remembers the character it comes from,
so that whatever is found on a line can be traced back to a place in the source.
-/

namespace PluginReadme.Markdown

/-- A place in a line: a character, and how many columns of it (of a tab) lie before the place. -/
structure Place where
  /-- How many characters of the source stand before the character. -/
  offset : Nat
  /-- How many columns of that character are already used up. -/
  used : Nat
  deriving DecidableEq, Repr

/-- One column of a line; the columns of a tab hold spaces. -/
structure Cell where
  char : Char
  place : Place
  deriving DecidableEq, Repr

/-- A line of the source: its columns and the place where its ending stands. -/
structure Line where
  cells : List Cell
  /-- The offset of the line's ending, or of the end of the source. -/
  stop : Nat
  /-- Whether the source ends here, without a line ending. -/
  last : Bool
  deriving DecidableEq, Repr

/-- The width of a tab stop. -/
def tabStop : Nat := 4

/-- The columns of a tab that starts in a given column. -/
def tabCells (offset column : Nat) : List Cell :=
  (List.range (tabStop - column % tabStop)).map fun used => ⟨' ', ⟨offset, used⟩⟩

namespace Line

/-- The place of the next column of a line, given the columns that are left. -/
def placeOf (line : Line) : List Cell → Place
  | [] => ⟨line.stop, 0⟩
  | cell :: _ => cell.place

/-- The offset of the next column of a line, given the columns that are left. -/
def offsetOf (line : Line) (cells : List Cell) : Nat := (line.placeOf cells).offset

/-- Where the line starts. -/
def start (line : Line) : Nat := line.offsetOf line.cells

end Line

/-- The line that `source` begins with, from a column on, and the lines after it.  A line feed, a
carriage return or both together end a line. -/
def splitFrom (offset column : Nat) : Text → Line × List Line
  | [] => (⟨[], offset, true⟩, [])
  | '\r' :: '\n' :: rest =>
    let (line, lines) := splitFrom (offset + 2) 0 rest
    (⟨[], offset, false⟩, line :: lines)
  | '\n' :: rest =>
    let (line, lines) := splitFrom (offset + 1) 0 rest
    (⟨[], offset, false⟩, line :: lines)
  | '\r' :: rest =>
    let (line, lines) := splitFrom (offset + 1) 0 rest
    (⟨[], offset, false⟩, line :: lines)
  | '\t' :: rest =>
    let tab := tabCells offset column
    let (line, lines) := splitFrom (offset + 1) (column + tab.length) rest
    ({ line with cells := tab ++ line.cells }, lines)
  | c :: rest =>
    let (line, lines) := splitFrom (offset + 1) (column + 1) rest
    ({ line with cells := ⟨c, ⟨offset, 0⟩⟩ :: line.cells }, lines)

/-- The lines of a source.  A byte order mark at the very start is no part of the first line. -/
def linesOf : Text → List Line
  | '\uFEFF' :: rest => let (line, lines) := splitFrom 1 0 rest; line :: lines
  | source => let (line, lines) := splitFrom 0 0 source; line :: lines

/-- The characters of some columns. -/
def chars (cells : List Cell) : Text := cells.map (·.char)

/-- Whether all columns are empty. -/
def allBlank (cells : List Cell) : Bool := cells.all (·.char == ' ')

/-- Drops at most `most` empty columns. -/
def dropBlanks : Nat → List Cell → List Cell
  | most + 1, cell :: rest => if cell.char == ' ' then dropBlanks most rest else cell :: rest
  | _, cells => cells

/-- Drops the indentation that a block's first mark may have, which is less than a tab stop.
Nothing is left to find when the mark is indented further. -/
def dropIndent (cells : List Cell) : Option (List Cell) :=
  match dropBlanks (tabStop - 1) cells with
  | [] => some []
  | cell :: rest => if cell.char == ' ' then none else some (cell :: rest)

/-- Drops exactly `count` empty columns. -/
def takeBlanks : Nat → List Cell → Option (List Cell)
  | 0, cells => some cells
  | count + 1, cell :: rest => if cell.char == ' ' then takeBlanks count rest else none
  | _ + 1, [] => none

/-- Drops empty columns at the end. -/
def trimCells (cells : List Cell) : List Cell :=
  (cells.reverse.dropWhile (·.char == ' ')).reverse

end PluginReadme.Markdown
