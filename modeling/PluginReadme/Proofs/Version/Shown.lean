import PluginReadme.Proofs.Version.UpToDate

/-! How a declaration is shown in a text: with which version, and whether the blanks around its
colon are those that it is written with. A rule leaves a text as it is just if the first declaration
of its kind is tidy and has the version. -/
namespace PluginReadme.Shown
open Version (Declaration Dialect FileRole Rule isDigit)
open Numeral Plain Rewriting Dialects UpToDate

variable {dialect : Dialect} {text content front back old old' version key : Text}
  {tidy tidy' : Bool} {found : Declaration} {role : FileRole}

/-- A declaration at the start of a text, with its version. It is tidy if no blank stands in front
of its colon, and the first one behind it is a space. -/
inductive Declares : Dialect → Text → Text → Bool → Prop
  | styleHeader {key text gap first pad old rest}
      (laid : Labelled true key text gap first pad old rest) :
      Declares (.styleHeader key) text old (gap.isEmpty && first == ' ')
  | docblock {text first pad old rest}
      (laid : Labelled false "Version".toList text [] first pad old rest) :
      Declares .docblock text old (first == ' ')
  | constant {text head old tail rest} (split : text = head ++ old ++ tail ++ rest)
      (opening : Opening head) (number : IsNumber old) (closing : Closing tail) :
      Declares .constant text old true

/-- No declaration of a kind starts in the front part of a text. -/
def NoneIn (dialect : Dialect) (front back : Text) : Prop :=
  ∀ before after, front = before ++ after → after ≠ [] →
    ∀ old tidy, ¬ Declares dialect (after ++ back) old tidy

/-- The first declaration of a kind in a text. -/
def FirstDeclares (dialect : Dialect) (content old : Text) (tidy : Bool) : Prop :=
  ∃ front back, content = front ++ back ∧ NoneIn dialect front back ∧
    Declares dialect back old tidy

/-! ## What is read -/

/-- What the rule of a dialect reads at the start of a text, if its key is its own text. -/
def reader : Dialect → Text → Option Declaration
  | .styleHeader key => header key
  | .docblock => Declaration.docblock?
  | .constant => Declaration.constant?

theorem reader_steady (dialect : Dialect) : Steady (reader dialect) := by
  cases dialect with
  | styleHeader key => exact (header_reads key).steady
  | docblock => exact docblock_reads.steady
  | constant => exact constant_steady

theorem reader_reads (literal : LiteralKey key) (listed : dialect ∈ role.dialects key) :
    Reads dialect.rule (reader dialect) := by
  cases role with
  | style =>
    obtain rfl := List.mem_singleton.mp listed
    change Reads (.header (Version.keyLabel key).pattern) (header key)
    rw [keyLabel_literal literal]
    exact header_local key
  | source =>
    rcases List.mem_cons.mp listed with rfl | listed
    · exact docblock_local
    · obtain rfl := List.mem_singleton.mp listed
      exact constant_local

/-- A declaration with a label is written just as it is if it is tidy. -/
theorem labelled_tidy {loose : Bool} {stem gap pad rest : Text} {first : Char}
    (laid : Labelled loose stem text gap first pad old rest) :
    (gap.isEmpty && first == ' ') = true ↔ written (labelled stem pad old rest) old = text := by
  rw [laid.split, Bool.and_eq_true, List.isEmpty_iff, beq_iff_eq]
  simp only [written, labelled, List.append_assoc, List.cons_append, List.nil_append,
    List.append_cancel_left_eq]
  constructor
  · rintro ⟨rfl, rfl⟩
    rfl
  · intro same
    cases gap with
    | nil =>
      obtain ⟨-, same⟩ := List.cons.inj same
      exact ⟨rfl, (List.cons.inj same).1.symm⟩
    | cons c gap =>
      have blank := laid.gapBlank c List.mem_cons_self
      rw [← (List.cons.inj same).1, colon_not_blank] at blank
      cases blank

theorem declares_iff : Declares dialect text old tidy ↔ ∃ found, reader dialect text = some found ∧
    found.version = old ∧ (tidy = true ↔ written found old = text) := by
  constructor
  · rintro (⟨laid⟩ | ⟨laid⟩ | ⟨split, opening, number, closing⟩)
    · exact ⟨_, (header_reads _ _ _).mpr ⟨_, _, _, _, _, laid, rfl⟩, rfl, labelled_tidy laid⟩
    · exact ⟨_, (docblock_reads _ _).mpr ⟨_, _, _, _, _, laid, rfl⟩, rfl, labelled_tidy laid⟩
    · exact ⟨⟨_, _, _, _⟩, constant_iff.mpr ⟨split, opening, number, closing⟩, rfl,
        by simp [written, split]⟩
  · rintro ⟨found, read, rfl, tidied⟩
    cases dialect with
    | styleHeader key =>
      obtain ⟨gap, first, pad, old, rest, laid, rfl⟩ := (header_reads key text found).mp read
      have same : tidy = (gap.isEmpty && first == ' ') :=
        Bool.eq_iff_iff.mpr (tidied.trans (labelled_tidy laid).symm)
      exact same ▸ .styleHeader laid
    | docblock =>
      obtain ⟨gap, first, pad, old, rest, laid, rfl⟩ := (docblock_reads text found).mp read
      obtain rfl := laid.tight rfl
      have same : tidy = (first == ' ') :=
        Bool.eq_iff_iff.mpr (tidied.trans (labelled_tidy laid).symm)
      exact same ▸ .docblock laid
    | constant =>
      obtain ⟨split, opening, number, closing⟩ := constant_iff.mp read
      obtain rfl : tidy = true := tidied.mpr split.symm
      exact .constant split opening number closing

theorem reader_none :
    reader dialect text = none ↔ ∀ old tidy, ¬ Declares dialect text old tidy := by
  constructor
  · intro none old tidy declares
    obtain ⟨found, read, -⟩ := declares_iff.mp declares
    exact Option.some_ne_none found (read.symm.trans none)
  · intro absent
    refine Option.eq_none_iff_forall_ne_some.mpr fun found read => ?_
    exact absent found.version (decide (written found found.version = text))
      (declares_iff.mpr ⟨found, read, rfl, decide_eq_true_iff⟩)

theorem noneIn_iff : NoneIn dialect front back ↔ Clear (reader dialect) front back := by
  simp only [NoneIn, Clear, reader_none]

theorem firstDeclares_iff : FirstDeclares dialect content old tidy ↔ ∃ front back found,
    content = front ++ back ∧ Clear (reader dialect) front back ∧
      reader dialect back = some found ∧ found.version = old ∧
      (tidy = true ↔ written found old = back) := by
  simp only [FirstDeclares, noneIn_iff, declares_iff]
  constructor
  · rintro ⟨front, back, split, clear, found, parts⟩
    exact ⟨front, back, found, split, clear, parts⟩
  · rintro ⟨front, back, found, split, clear, parts⟩
    exact ⟨front, back, split, clear, found, parts⟩

/-- There is only one first declaration of a kind. -/
theorem FirstDeclares.unique (first : FirstDeclares dialect content old tidy)
    (second : FirstDeclares dialect content old' tidy') : old = old' ∧ tidy = tidy' := by
  obtain ⟨front, back, found, rfl, clear, read, rfl, tidied⟩ := firstDeclares_iff.mp first
  obtain ⟨before, after, again, split, clear', read', rfl, tidied'⟩ := firstDeclares_iff.mp second
  obtain ⟨rfl, rfl⟩ := first_unique clear read clear' read' split
  rw [read] at read'
  cases read'
  exact ⟨rfl, Bool.eq_iff_iff.mpr (tidied.trans tidied'.symm)⟩

theorem FirstDeclares.behind (clear : NoneIn dialect front back)
    (first : FirstDeclares dialect back old tidy) :
    FirstDeclares dialect (front ++ back) old tidy := by
  obtain ⟨between, after, rfl, clear', declares⟩ := first
  refine ⟨front ++ between, after, by simp, ?_, declares⟩
  rw [noneIn_iff] at clear clear' ⊢
  exact clear_append clear clear'

/-! ## Texts that stay as they are -/

theorem fixed_iff (number : IsNumber version) :
    rewriteText (reader dialect) version content = content ↔
      ∀ old tidy, FirstDeclares dialect content old tidy → old = version ∧ tidy = true := by
  constructor
  · intro fixed old tidy first
    obtain ⟨front, back, found, rfl, clear, read, rfl, tidied⟩ := firstDeclares_iff.mp first
    obtain rfl := version_of_fixed (reader_steady dialect) number clear read fixed
    rw [rewriteText_clear clear, rewriteText_here read] at fixed
    exact ⟨rfl, tidied.mpr (List.append_cancel_left fixed)⟩
  · intro held
    rcases first_or_bare (reader dialect) content with ⟨front, back, found, rfl, clear, read⟩ | bare
    · obtain ⟨same, tidy⟩ := held found.version (decide (written found found.version = back))
        (firstDeclares_iff.mpr ⟨front, back, found, rfl, clear, read, rfl, decide_eq_true_iff⟩)
      rw [rewriteText_clear clear, rewriteText_here read, ← same, of_decide_eq_true tidy]
    · exact rewriteText_bare bare version

end PluginReadme.Shown
