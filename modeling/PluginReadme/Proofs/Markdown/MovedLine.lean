import PluginReadme.Markdown.Container
import PluginReadme.Markdown.Tree

/-! Lines that stand further along in a source. What a line is and what it opens are told from its
characters alone; its places only go into the blocks that are made of it. Each reader of a line is
shown to commute with the move. -/
namespace PluginReadme.Markdown

/-! ## What is moved -/

/-- A place further along. -/
def Place.moved (ahead : Nat) (place : Place) : Place :=
  { place with offset := place.offset + ahead }

/-- A column further along. -/
def Cell.moved (ahead : Nat) (cell : Cell) : Cell := { cell with place := cell.place.moved ahead }

/-- A line further along. -/
def Line.moved (ahead : Nat) (line : Line) : Line :=
  { line with cells := line.cells.map (Cell.moved ahead), stop := line.stop + ahead }

/-- A span further along. -/
def Span.moved (ahead : Nat) (span : Span) : Span := ⟨span.start + ahead, span.stop + ahead⟩

@[simp] theorem Span.moved_mk (ahead start stop : Nat) :
    (Span.mk start stop).moved ahead = ⟨start + ahead, stop + ahead⟩ := rfl

@[simp] theorem Span.moved_start (ahead : Nat) (span : Span) :
    (span.moved ahead).start = span.start + ahead := rfl

@[simp] theorem Span.moved_stop (ahead : Nat) (span : Span) :
    (span.moved ahead).stop = span.stop + ahead := rfl

/-! ## The columns of a line -/

@[simp] theorem Cell.moved_char (ahead : Nat) (cell : Cell) :
    (cell.moved ahead).char = cell.char := rfl

@[simp] theorem Cell.moved_offset (ahead : Nat) (cell : Cell) :
    (cell.moved ahead).place.offset = cell.place.offset + ahead := rfl

@[simp] theorem chars_moved (ahead : Nat) (cells : List Cell) :
    chars (cells.map (Cell.moved ahead)) = chars cells := by
  simp [chars, Function.comp_def]

@[simp] theorem allBlank_moved (ahead : Nat) (cells : List Cell) :
    allBlank (cells.map (Cell.moved ahead)) = allBlank cells := by
  simp [allBlank, Function.comp_def]

@[simp] theorem takeWhile_moved (ahead : Nat) (test : Char → Bool) (cells : List Cell) :
    (cells.map (Cell.moved ahead)).takeWhile (fun cell => test cell.char) =
      (cells.takeWhile fun cell => test cell.char).map (Cell.moved ahead) := by
  simp [List.takeWhile_map, Function.comp_def]

@[simp] theorem dropWhile_moved (ahead : Nat) (test : Char → Bool) (cells : List Cell) :
    (cells.map (Cell.moved ahead)).dropWhile (fun cell => test cell.char) =
      (cells.dropWhile fun cell => test cell.char).map (Cell.moved ahead) := by
  simp [List.dropWhile_map, Function.comp_def]

@[simp] theorem dropBlanks_moved (ahead most : Nat) (cells : List Cell) :
    dropBlanks most (cells.map (Cell.moved ahead)) =
      (dropBlanks most cells).map (Cell.moved ahead) := by
  induction most generalizing cells with
  | zero => simp [dropBlanks]
  | succ most ih =>
    cases cells with
    | nil => rfl
    | cons cell rest =>
      simp only [List.map_cons, dropBlanks, Cell.moved_char, ih]
      split <;> rfl

@[simp] theorem dropIndent_moved (ahead : Nat) (cells : List Cell) :
    dropIndent (cells.map (Cell.moved ahead)) =
      (dropIndent cells).map (List.map (Cell.moved ahead)) := by
  unfold dropIndent
  rw [dropBlanks_moved]
  cases dropBlanks (tabStop - 1) cells with
  | nil => rfl
  | cons cell rest =>
    by_cases blank : cell.char = ' ' <;> simp [blank]

@[simp] theorem takeBlanks_moved (ahead count : Nat) (cells : List Cell) :
    takeBlanks count (cells.map (Cell.moved ahead)) =
      (takeBlanks count cells).map (List.map (Cell.moved ahead)) := by
  induction count generalizing cells with
  | zero => simp [takeBlanks]
  | succ count ih =>
    cases cells with
    | nil => rfl
    | cons cell rest =>
      simp only [List.map_cons, takeBlanks, Cell.moved_char, ih]
      split <;> rfl

@[simp] theorem trimCells_moved (ahead : Nat) (cells : List Cell) :
    trimCells (cells.map (Cell.moved ahead)) = (trimCells cells).map (Cell.moved ahead) := by
  unfold trimCells
  rw [← List.map_reverse, dropWhile_moved ahead (· == ' '), List.map_reverse]

@[simp] theorem Line.placeOf_moved (ahead : Nat) (line : Line) (cells : List Cell) :
    (line.moved ahead).placeOf (cells.map (Cell.moved ahead)) =
      (line.placeOf cells).moved ahead := by
  cases cells <;> rfl

@[simp] theorem Line.offsetOf_moved (ahead : Nat) (line : Line) (cells : List Cell) :
    (line.moved ahead).offsetOf (cells.map (Cell.moved ahead)) = line.offsetOf cells + ahead := by
  rw [Line.offsetOf, Line.placeOf_moved]
  rfl

/-! ## What a line opens -/

theorem markWidth_moved (ahead : Nat) (start stop : Place) :
    markWidth (start.moved ahead) (stop.moved ahead) = markWidth start stop := by
  unfold markWidth Place.moved
  dsimp only
  split <;> split <;> omega

@[simp] theorem isRule_moved (ahead : Nat) (cells : List Cell) :
    isRule (cells.map (Cell.moved ahead)) = isRule cells := by
  unfold isRule
  rw [dropIndent_moved]
  cases dropIndent cells with
  | none => rfl
  | some inner =>
    cases inner with
    | nil => rfl
    | cons mark rest => simp [Function.comp_def, List.countP_map]

@[simp] theorem quoteMark_moved (ahead : Nat) (cells : List Cell) :
    quoteMark (cells.map (Cell.moved ahead)) =
      (quoteMark cells).map (List.map (Cell.moved ahead)) := by
  unfold quoteMark
  rw [dropIndent_moved]
  cases dropIndent cells with
  | none => rfl
  | some inner =>
    cases inner with
    | nil => rfl
    | cons cell rest =>
      by_cases mark : cell.char = '>' <;> simp [mark]

private theorem afterMark_moved (ahead : Nat) (cells : List Cell) :
    afterMark (cells.map (Cell.moved ahead)) =
      (afterMark cells).map (List.map (Cell.moved ahead)) := by
  unfold afterMark
  rw [dropBlanks_moved, dropBlanks_moved]
  cases dropBlanks tabStop cells with
  | nil => rfl
  | cons cell rest =>
    simp only [List.map_cons, Cell.moved_char, List.length_cons, List.length_map]
    split
    · rfl
    · by_cases blank : cell.char = ' ' <;> simp [blank]

private theorem finishItem_moved (ahead : Nat) (line : Line) (start : Place) (interrupting : Bool)
    (mark : Char) (number : Option Nat) (rest : List Cell) :
    finishItem (line.moved ahead) (start.moved ahead) interrupting mark number
        (rest.map (Cell.moved ahead)) =
      (finishItem line start interrupting mark number rest).map
        (Prod.map id (List.map (Cell.moved ahead))) := by
  unfold finishItem
  rw [allBlank_moved, Line.placeOf_moved, markWidth_moved, afterMark_moved]
  split
  · split <;> rfl
  · cases afterMark rest with
    | none => rfl
    | some inner =>
      simp only [Option.map_some, Line.placeOf_moved, markWidth_moved]
      rfl

@[simp] theorem itemMark_moved (ahead : Nat) (line : Line) (interrupting : Bool)
    (cells : List Cell) :
    itemMark (line.moved ahead) interrupting (cells.map (Cell.moved ahead)) =
      (itemMark line interrupting cells).map (Prod.map id (List.map (Cell.moved ahead))) := by
  unfold itemMark
  rw [dropIndent_moved, Line.placeOf_moved]
  cases dropIndent cells with
  | none => rfl
  | some inner =>
    cases inner with
    | nil => rfl
    | cons cell rest =>
      have digits := takeWhile_moved ahead Char.isDigit (cell :: rest)
      have behind := dropWhile_moved ahead Char.isDigit (cell :: rest)
      have rule := isRule_moved ahead (cell :: rest)
      rw [List.map_cons] at digits behind rule
      simp only [Option.map_some, List.map_cons, Cell.moved_char, finishItem_moved, digits, behind,
        rule, chars_moved, apply_ite (Option.map _), Option.map_none]
      cases (cell :: rest).dropWhile fun cell => cell.char.isDigit with
      | nil => rfl
      | cons delimiter rest =>
        simp only [List.map_cons, Cell.moved_char, finishItem_moved, apply_ite (Option.map _),
          Option.map_none]

private theorem footnoteLabel_moved (ahead : Nat) (escaped : Bool) (size : Nat)
    (cells : List Cell) :
    footnoteLabel escaped size (cells.map (Cell.moved ahead)) =
      (footnoteLabel escaped size cells).map (List.map (Cell.moved ahead)) := by
  induction cells generalizing escaped size with
  | nil => rfl
  | cons cell rest ih =>
    simp only [List.map_cons, footnoteLabel, Cell.moved_char, ih, apply_ite (Option.map _),
      Option.map_none, Option.map_some]

@[simp] theorem footnoteMark_moved (ahead : Nat) (cells : List Cell) :
    footnoteMark (cells.map (Cell.moved ahead)) =
      (footnoteMark cells).map (List.map (Cell.moved ahead)) := by
  unfold footnoteMark
  rw [dropIndent_moved]
  match dropIndent cells with
  | none => rfl
  | some [] => rfl
  | some [opening] => rfl
  | some (opening :: caret :: rest) =>
    simp only [Option.map_some, List.map_cons, Cell.moved_char, footnoteLabel_moved]
    split
    · match footnoteLabel false 0 rest with
      | none => rfl
      | some [] => rfl
      | some (colon :: rest) =>
        simp only [Option.map_some, List.map_cons, Cell.moved_char, List.length_map,
          dropBlanks_moved]
        split <;> rfl
    · rfl

@[simp] theorem Container.opened_moved (ahead : Nat) (line : Line) (interrupting : Bool)
    (cells : List Cell) :
    Container.opened (line.moved ahead) interrupting (cells.map (Cell.moved ahead)) =
      (Container.opened line interrupting cells).map
        (Prod.map id (List.map (Cell.moved ahead))) := by
  unfold Container.opened
  rw [quoteMark_moved, itemMark_moved, footnoteMark_moved]
  cases quoteMark cells with
  | some rest => rfl
  | none =>
    cases itemMark line interrupting cells with
    | some item => rfl
    | none => cases footnoteMark cells <;> rfl

private theorem continueIndented_moved (ahead indent : Nat) (cells : List Cell) :
    continueIndented indent (cells.map (Cell.moved ahead)) =
      (continueIndented indent cells).map (List.map (Cell.moved ahead)) := by
  unfold continueIndented
  rw [allBlank_moved, dropBlanks_moved, takeBlanks_moved]
  split <;> rfl

@[simp] theorem Container.continued_moved (ahead : Nat) (cells : List Cell)
    (container : Container) :
    container.continued (cells.map (Cell.moved ahead)) =
      (container.continued cells).map (Prod.map id (List.map (Cell.moved ahead))) := by
  cases container with
  | quote =>
    simp only [Container.continued, quoteMark_moved]
    cases quoteMark cells <;> rfl
  | item mark =>
    simp only [Container.continued, continueIndented_moved, allBlank_moved]
    split
    · rfl
    · cases continueIndented mark.indent cells <;> rfl
  | footnote =>
    simp only [Container.continued, continueIndented_moved]
    cases continueIndented tabStop cells <;> rfl

@[simp] theorem continueAll_moved (ahead : Nat) (cells : List Cell)
    (containers : List Container) :
    continueAll (cells.map (Cell.moved ahead)) containers =
      Prod.map id (List.map (Cell.moved ahead)) (continueAll cells containers) := by
  induction containers generalizing cells with
  | nil => rfl
  | cons container inner ih =>
    simp only [continueAll, Container.continued_moved]
    cases container.continued cells with
    | none => rfl
    | some found => simp [ih]

/-- Containers that a line opens start further along. -/
def openedMoved (ahead : Nat) (opened : List (Container × Nat)) : List (Container × Nat) :=
  opened.map fun (container, start) => (container, start + ahead)

@[simp] theorem openAll_moved (ahead : Nat) (line : Line) (interrupting : Bool)
    (cells : List Cell) :
    openAll (line.moved ahead) interrupting (cells.map (Cell.moved ahead)) =
      Prod.map (openedMoved ahead) (List.map (Cell.moved ahead))
        (openAll line interrupting cells) := by
  induction size : cells.length using Nat.strongRecOn generalizing cells interrupting with
  | ind size' ih =>
    rw [openAll, openAll, Container.opened_moved]
    cases Container.opened line interrupting cells with
    | none => rfl
    | some found =>
      obtain ⟨container, rest⟩ := found
      simp only [Option.map_some, Prod.map, id, List.length_map, Line.offsetOf_moved]
      by_cases shorter : rest.length < cells.length
      · simp [shorter, ih rest.length (size ▸ shorter) false rest rfl, openedMoved]
      · simp [shorter, openedMoved]

end PluginReadme.Markdown
