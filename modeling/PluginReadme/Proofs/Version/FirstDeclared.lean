import PluginReadme.Proofs.Version.Finding

/-! Which version a document declares: the one of the first line that starts with the label, a
colon and a number. Nothing else in the document takes part, and a document without such a line
has the version that stands in for a missing one. -/
namespace PluginReadme.FirstDeclared
open Version (find extract)
open Numeral Plain Finding

variable {label source front back version : Text}

/-- A label that stands for its own text: it holds no operator, or it is no valid pattern. -/
def LiteralLabel (label : Text) : Prop :=
  IsPlain label ∨ (Version.lineLabel label).isLiteral = true

theorem lineLabel_literal (literal : LiteralLabel label) :
    (Version.lineLabel label).pattern = Pattern.literal label :=
  read_own rfl rfl _ literal

/-- The first line of a text that starts with a declaration. -/
structure FirstTag (label front back : Text) : Prop where
  starts : StartsLine front
  tagged : Tagged label back
  first : ∀ before after, front = before ++ after → after ≠ [] → StartsLine before →
    ¬ Tagged label (after ++ back)

/-- No line of a text starts with a declaration. -/
def Untagged (label source : Text) : Prop :=
  ∀ front back, source = front ++ back → StartsLine front → ¬ Tagged label back

/-- A text has a first line with a declaration or none at all. -/
theorem first_or_untagged (label source : Text) :
    (∃ front back, source = front ++ back ∧ FirstTag label front back) ∨
      Untagged label source := by
  rcases first_place_or_none (fun front back => StartsLine front ∧ Tagged label back) source with
    ⟨front, back, split, ⟨starts, tagged⟩, first⟩ | none
  · refine Or.inl ⟨front, back, split, starts, tagged, ?_⟩
    intro before after parts filled starts' tagged'
    exact first before after parts filled ⟨starts', tagged'⟩
  · exact Or.inr fun front back split starts tagged => none front back split ⟨starts, tagged⟩

/-- What is found is the version of the first line with a declaration. -/
theorem find_firstTag (literal : LiteralLabel label) (first : FirstTag label front back)
    (declared : Declares label version back) : find (front ++ back) label = some version := by
  have past : search label 0 none (front ++ back) =
      search label (0 + front.length) front.getLast? back := search_past [] 0 first.first
  rw [find_eq (lineLabel_literal literal), past]
  exact search_here _ first.starts declared

theorem find_untagged (literal : LiteralLabel label) (untagged : Untagged label source) :
    find source label = none := by
  have past : search label 0 none (source ++ []) =
      search label (0 + source.length) source.getLast? [] := by
    apply search_past []
    intro before after split filled starts
    rw [List.append_nil]
    exact untagged before after split starts
  rw [find_eq (lineLabel_literal literal)]
  rw [List.append_nil] at past
  rw [past, search_end]

/-- A label that stands for its own text declares a version just where a line starts with the
label, a colon with blanks around it and a number: what is found is the number of the first such
line, with all the digits that its last part has, and without such a line it is nothing. -/
theorem finds_first_declaration (literal : LiteralLabel label) (source : Text) :
    (∀ version, find source label = some version ↔ ∃ front back, source = front ++ back ∧
      FirstTag label front back ∧ Declares label version back) ∧
    ((∃ version, find source label = some version) ↔ ∃ front back, source = front ++ back ∧
      StartsLine front ∧ Tagged label back) ∧
    (Untagged label source →
      find source label = none ∧ extract source label = "0.1.0".toList) := by
  have found (version : Text) : find source label = some version ↔ ∃ front back,
      source = front ++ back ∧ FirstTag label front back ∧ Declares label version back := by
    constructor
    · intro found
      rcases first_or_untagged label source with ⟨front, back, rfl, first⟩ | untagged
      · obtain ⟨other, declared⟩ := tagged_iff.mp first.tagged
        rw [find_firstTag literal first declared] at found
        cases found
        exact ⟨front, back, rfl, first, declared⟩
      · rw [find_untagged literal untagged] at found
        cases found
    · rintro ⟨front, back, rfl, first, declared⟩
      exact find_firstTag literal first declared
  refine ⟨found, ?_, ?_⟩
  · constructor
    · rintro ⟨version, here⟩
      obtain ⟨front, back, split, first, -⟩ := (found version).mp here
      exact ⟨front, back, split, first.starts, first.tagged⟩
    · rintro ⟨front, back, split, starts, tagged⟩
      rcases first_or_untagged label source with ⟨before, after, rfl, first⟩ | untagged
      · obtain ⟨version, declared⟩ := tagged_iff.mp first.tagged
        exact ⟨version, find_firstTag literal first declared⟩
      · exact absurd tagged (untagged front back split starts)
  · intro untagged
    have none := find_untagged literal untagged
    refine ⟨none, ?_⟩
    rw [extract, none]
    rfl

/-- A label that is no pattern, behind a line in which it does not come first. -/
theorem unbalanced_label_finds_first : LiteralLabel "a)(b".toList ∧
    ∃ front back, " a)(b: 9.9.9\na)(b\t:\n1.20.300.4".toList = front ++ back ∧
      FirstTag "a)(b".toList front back ∧ Declares "a)(b".toList "1.20.300".toList back := by
  have literal : LiteralLabel "a)(b".toList := Or.inr (by decide +kernel)
  exact ⟨literal, ((finds_first_declaration literal _).1 _).mp (by decide +kernel)⟩

end PluginReadme.FirstDeclared
