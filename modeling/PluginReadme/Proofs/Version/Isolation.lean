import PluginReadme.Proofs.Pattern.Alike
import PluginReadme.Proofs.Pattern.Grouping

/-! A label keeps to itself within the pattern around it. Of two labels with a bar between them, the
one that gives a version at an earlier line is followed, and the first one if it is the same line;
a label in parentheses matches just what it matches by itself. -/
namespace PluginReadme.Isolation
open Pattern Splitting Grouping
open Version (afterLabel find foundAt lineLabel lineStarts)

variable {label first second source : Text} {pattern other : Pattern} {cursor : Cursor}
  {cursors : List Cursor}

/-- The first line start at which a label gives a version, with the version. -/
def hit (label source : Text) : Option (Nat × Text) :=
  (lineStarts source).findSome? fun cursor =>
    (foundAt (lineLabel label).pattern cursor).map (cursor.position, ·)

/-- The hit at the earlier line start, or the first one if they tie. -/
def earlier : Option (Nat × Text) → Option (Nat × Text) → Option (Nat × Text)
  | some first, some second => if first.1 ≤ second.1 then some first else some second
  | some first, none => some first
  | none, second => second

private theorem onwards_position {position : Nat} {previous : Option Char} {text : Text}
    (member : cursor ∈ Cursor.onwards position previous text) : position ≤ cursor.position := by
  induction text generalizing position previous with
  | nil =>
    obtain rfl := List.mem_singleton.mp member
    exact Nat.le_refl _
  | cons c rest ih =>
    rcases List.mem_cons.mp member with rfl | member
    · exact Nat.le_refl _
    · exact Nat.le_of_succ_le (ih member)

private theorem onwards_ascending (position : Nat) (previous : Option Char) (text : Text) :
    (Cursor.onwards position previous text).Pairwise
      fun first second => first.position < second.position := by
  induction text generalizing position previous with
  | nil => exact List.pairwise_singleton _ _
  | cons c rest ih => exact .cons (fun _ member => onwards_position member) (ih _ _)

/-- The places where lines start, in the order in which they come. -/
theorem lineStarts_ascending (source : Text) :
    (lineStarts source).Pairwise fun first second => first.position < second.position :=
  (onwards_ascending 0 none source).filter _

/-- The flags that a label of a version starts with. -/
def lineFlags : Flags := { Flags.initial with multiLine := true }

/-- A label that is used as a pattern, and has neither inline flags nor named groups. -/
structure Proper (label : Text) : Prop where
  valid : (lineLabel label).isLiteral = false
  flagFree : FlagFree label

theorem Proper.parses (proper : Proper label) : ∃ parsed, Parses lineFlags label parsed ∧
    (lineLabel label).pattern = parsed.pattern :=
  parses_of_valid proper.valid proper.flagFree

/-- A letter in so many parentheses. -/
private def nested (depth : Nat) : Text :=
  List.replicate depth '(' ++ 'a' :: List.replicate depth ')'

end PluginReadme.Isolation
