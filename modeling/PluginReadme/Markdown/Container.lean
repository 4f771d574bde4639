import PluginReadme.Markdown.Line

/-!
Blocks that hold other blocks: quotes, list items and footnotes.  Each is opened by a mark at the
start of a line and goes on over the lines that repeat its mark or its indentation.
-/

namespace PluginReadme.Markdown

/-- Whether a line is a rule: three or more of one of `*`, `-`, `_`, with nothing but blanks. -/
def isRule (cells : List Cell) : Bool :=
  match dropIndent cells with
  | some (mark :: rest) =>
    (mark.char == '*' || mark.char == '-' || mark.char == '_') &&
      rest.all (fun cell => cell.char == mark.char || cell.char == ' ') &&
      2 ≤ rest.countP (·.char == mark.char)
  | _ => false

/-- The mark that opens a list item. -/
structure ItemMark where
  /-- The bullet, or the character after the number. -/
  mark : Char
  /-- The number of an ordered item. -/
  number : Option Nat
  /-- By how many columns the lines of the item are indented. -/
  indent : Nat
  /-- Whether nothing but blanks follows the mark on its line. -/
  bare : Bool
  deriving DecidableEq, Repr

/-- A block that holds other blocks. -/
inductive Container where
  | quote
  | item (mark : ItemMark)
  | footnote
  deriving DecidableEq, Repr

/-- The indentation that a mark between two places asks of the lines after it.  A tab counts as
one column when the mark takes all of it. -/
def markWidth (start stop : Place) : Nat :=
  let first := if start.used = 0 then start.offset else start.offset + 1
  let before := if start.used = 0 then 0 else tabStop - start.used
  let last := if stop.used = 0 then stop.offset else stop.offset + 1
  let after := if stop.used = 0 then 0 else stop.used - 1
  (last - first) + before + after

/-- A quote's mark `>`, with one blank after it. -/
def quoteMark (cells : List Cell) : Option (List Cell) :=
  match dropIndent cells with
  | some (cell :: rest) => if cell.char == '>' then some (dropBlanks 1 rest) else none
  | _ => none

/-- What follows a list mark: at most a tab stop of blanks before the item's text, else one blank
and the rest is indented text of the item. -/
def afterMark (cells : List Cell) : Option (List Cell) :=
  match dropBlanks tabStop cells with
  | [] => none
  | cell :: rest =>
    if (cell :: rest).length == cells.length then none
    else if cell.char == ' ' then some (dropBlanks 1 cells)
    else some (cell :: rest)

/-- A list mark whose bullet or delimiter has been read. -/
def finishItem (line : Line) (start : Place) (interrupting : Bool) (mark : Char)
    (number : Option Nat) (rest : List Cell) : Option (ItemMark × List Cell) :=
  if allBlank rest then
    if interrupting then none
    else some (⟨mark, number, markWidth start (line.placeOf rest) + 1, true⟩, rest)
  else
    (afterMark rest).map fun inner =>
      (⟨mark, number, markWidth start (line.placeOf inner), false⟩, inner)

/-- The value of a run of decimal digits. -/
def decimal (digits : Text) : Nat :=
  digits.foldl (fun value digit => value * 10 + (digit.toNat - '0'.toNat)) 0

/-- The mark of a list item.  A mark that interrupts a paragraph needs text after it, and its
number, if it has one, is 1; a line that is a rule is no item. -/
def itemMark (line : Line) (interrupting : Bool) (cells : List Cell) :
    Option (ItemMark × List Cell) :=
  let start := line.placeOf cells
  match dropIndent cells with
  | some (cell :: rest) =>
    if cell.char == '*' || cell.char == '-' then
      if isRule (cell :: rest) then none
      else finishItem line start interrupting cell.char none rest
    else if cell.char == '+' then finishItem line start interrupting cell.char none rest
    else if cell.char.isDigit && (!interrupting || cell.char == '1') then
      let digits := chars ((cell :: rest).takeWhile (·.char.isDigit))
      if digits.length ≤ 9 && (!interrupting || digits.length == 1) then
        match (cell :: rest).dropWhile (·.char.isDigit) with
        | delimiter :: rest =>
          if delimiter.char == '.' || delimiter.char == ')' then
            finishItem line start interrupting delimiter.char (some (decimal digits)) rest
          else none
        | [] => none
      else none
    else none
  | _ => none

/-- The longest label, in bytes of its UTF-8 form. -/
def labelLimit : Nat := 999

/-- Reads a footnote label up to its `]`; `escaped` says that a backslash stands before. -/
def footnoteLabel (escaped : Bool) (size : Nat) : List Cell → Option (List Cell)
  | [] => none
  | cell :: rest =>
    let c := cell.char
    if labelLimit < size then none
    else if escaped && (c == '[' || c == '\\' || c == ']') then footnoteLabel false (size + 1) rest
    else if c == ' ' || c == '[' then none
    else if c == ']' then if size == 0 then none else some rest
    else footnoteLabel (c == '\\') (size + c.utf8Size) rest

/-- The mark `[^label]:` of a footnote, with the blanks after it. -/
def footnoteMark (cells : List Cell) : Option (List Cell) :=
  match dropIndent cells with
  | some (opening :: caret :: rest) =>
    if opening.char == '[' && caret.char == '^' then
      match footnoteLabel false 0 rest with
      | some (colon :: rest) =>
        if colon.char == ':' then some (dropBlanks rest.length rest) else none
      | _ => none
    else none
  | _ => none

/-- A container that a line opens: at the start of `cells`, with what is left after its mark. -/
def Container.opened (line : Line) (interrupting : Bool) (cells : List Cell) :
    Option (Container × List Cell) :=
  match quoteMark cells with
  | some rest => some (.quote, rest)
  | none =>
    match itemMark line interrupting cells with
    | some (mark, rest) => some (.item mark, rest)
    | none => (footnoteMark cells).map fun rest => (.footnote, rest)

/-- Goes on with a container of indented lines: blank lines belong to it. -/
def continueIndented (indent : Nat) (cells : List Cell) : Option (List Cell) :=
  if allBlank cells then some (dropBlanks indent cells) else takeBlanks indent cells

/-- Goes on with an open container on the next line, or ends it. -/
def Container.continued (cells : List Cell) : Container → Option (Container × List Cell)
  | .quote => (quoteMark cells).map fun rest => (.quote, rest)
  | .item mark =>
    if mark.bare && allBlank cells then none
    else
      (continueIndented mark.indent cells).map fun rest =>
        (.item (if allBlank cells then mark else { mark with bare := false }), rest)
  | .footnote => (continueIndented tabStop cells).map fun rest => (.footnote, rest)

/-- Goes on with as many of the open containers as a line allows, outermost first. -/
def continueAll (cells : List Cell) : List Container → List Container × List Cell
  | [] => ([], cells)
  | container :: inner =>
    match container.continued cells with
    | none => ([], cells)
    | some (container, rest) =>
      let (more, rest) := continueAll rest inner
      (container :: more, rest)

/-- The containers that a line opens one inside the other, outermost first.  Only the first can
interrupt a paragraph; each takes at least one column of the line. -/
def openAll (line : Line) (interrupting : Bool) (cells : List Cell) :
    List (Container × Nat) × List Cell :=
  match Container.opened line interrupting cells with
  | none => ([], cells)
  | some (container, rest) =>
    if rest.length < cells.length then
      let (more, inner) := openAll line false rest
      ((container, line.offsetOf cells) :: more, inner)
    else ([], cells)
termination_by cells.length

end PluginReadme.Markdown
