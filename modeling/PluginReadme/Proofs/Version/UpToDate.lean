import PluginReadme.Proofs.Version.SourceRules
import PluginReadme.Version.Found

/-! Files whose version has been brought up to date. Every rule of the file leaves such a text as
it is, and the first declaration of each kind carries the version. -/
namespace PluginReadme.UpToDate
open Version (Declaration Rule FileRole rewriteAll)
open Numeral Plain Rewriting Dialects SourceRules

variable {key version earlier later content label source : Text} {rules : List Rule}
  {role : FileRole} {reads : Text → Option Declaration} {rule : Rule}

/-! ## The version that is copied -/

private theorem foundAt_number {pattern : Pattern} {cursor : Cursor}
    (found : Version.foundAt pattern cursor = some version) : IsNumber version := by
  obtain ⟨stop, -, after⟩ := List.exists_of_findSome?_eq_some found
  unfold Version.afterLabel at after
  split at after
  · rw [Option.map_eq_some_iff] at after
    obtain ⟨⟨number, rest⟩, read, rfl⟩ := after
    exact (number_iff.mp read).2.1
  · cases after

/-- What a document declares is a version number, and so is what stands in for it. -/
theorem find_number (source label : Text) :
    IsNumber ((Version.find source label).getD Version.fallback) := by
  cases found : Version.find source label with
  | none => exact IsNumber.fallback
  | some version =>
    obtain ⟨cursor, -, here⟩ := List.exists_of_findSome?_eq_some found
    exact foundAt_number here

/-! ## Rewriting by all the rules of a file -/

/-- A key of a style sheet that stands for its own text: it holds no operator, or it is no valid
pattern. -/
def LiteralKey (key : Text) : Prop := IsPlain key ∨ (Version.keyLabel key).isLiteral = true

theorem keyLabel_literal (literal : LiteralKey key) :
    (Version.keyLabel key).pattern = Pattern.literal key :=
  read_own rfl rfl _ literal

private theorem style_rules (literal : LiteralKey key) :
    FileRole.style.rules key = [.header (Pattern.literal key)] := by
  rw [← keyLabel_literal literal]
  rfl

theorem rewriteAll_style (literal : LiteralKey key) (version content : Text) :
    rewriteAll (FileRole.style.rules key) version content =
      rewriteText (header key) version content := by
  rw [style_rules literal]
  exact rewrite_eq (header_local key) version content

theorem rewriteAll_source (key version content : Text) :
    rewriteAll (FileRole.source.rules key) version content =
      rewriteText Declaration.constant? version
        (rewriteText Declaration.docblock? version content) := by
  change Rule.rewrite .constant version (Rule.rewrite .docblock version content) = _
  rw [rewrite_eq constant_local, rewrite_eq docblock_local]

/-- A file that is brought up to two versions one after the other comes out as if only the later one
had been written. -/
theorem last_version_wins (literal : LiteralKey key) (number : IsNumber earlier)
    (number' : IsNumber later) (role : FileRole) (content : Text) :
    rewriteAll (role.rules key) later (rewriteAll (role.rules key) earlier content) =
      rewriteAll (role.rules key) later content := by
  cases role with
  | style =>
    simp only [rewriteAll_style literal]
    exact rewriteText_last (header_reads key).steady number later content
  | source =>
    simp only [rewriteAll_source]
    generalize written : rewriteText Declaration.docblock? earlier content = block
    calc rewriteText Declaration.constant? later (rewriteText Declaration.docblock? later
          (rewriteText Declaration.constant? earlier block))
        = rewriteText Declaration.constant? later (rewriteText Declaration.constant? earlier
            (rewriteText Declaration.docblock? later block)) := by
          rw [docblock_constant.comm number' number]
      _ = rewriteText Declaration.constant? later
            (rewriteText Declaration.docblock? later block) :=
          rewriteText_last constant_steady number later _
      _ = rewriteText Declaration.constant? later
            (rewriteText Declaration.docblock? later content) := by
          rw [← written, rewriteText_last docblock_reads.steady number]

/-- A key that overlaps itself, in front of a number that a version with more digits replaces. -/
theorem overlapping_key_last_version_wins :
    LiteralKey ":a:".toList ∧ IsNumber "1.2.30".toList ∧ IsNumber "4.5.6".toList ∧
      rewriteAll (FileRole.style.rules ":a:".toList) "4.5.6".toList
          (rewriteAll (FileRole.style.rules ":a:".toList) "1.2.30".toList
            ":a:a: :\t 7.8.9.0 :a:: 1.0.0".toList) =
        rewriteAll (FileRole.style.rules ":a:".toList) "4.5.6".toList
          ":a:a: :\t 7.8.9.0 :a:: 1.0.0".toList := by
  have literal : LiteralKey ":a:".toList := Or.inl (by decide)
  have number : IsNumber "1.2.30".toList := by decide
  have number' : IsNumber "4.5.6".toList := by decide
  exact ⟨literal, number, number', last_version_wins literal number number' .style _⟩

/-- Each rule leaves a text as it is. -/
def Settled (rules : List Rule) (version content : Text) : Prop :=
  ∀ rule ∈ rules, rule.rewrite version content = content

theorem rewriteAll_settled (settled : Settled rules version content) :
    rewriteAll rules version content = content := by
  induction rules with
  | nil => rfl
  | cons rule rules ih =>
    obtain ⟨here, rest⟩ := List.forall_mem_cons.mp settled
    change rewriteAll rules version (rule.rewrite version content) = content
    rw [here]
    exact ih rest

/-- A text that has been rewritten by all the rules of its file is settled. -/
theorem rewriteAll_settles (literal : LiteralKey key) (number : IsNumber version)
    (role : FileRole) (content : Text) :
    Settled (role.rules key) version (rewriteAll (role.rules key) version content) := by
  cases role with
  | style =>
    intro rule member
    rw [style_rules literal] at member
    obtain rfl := List.mem_singleton.mp member
    rw [rewriteAll_style literal, rewrite_eq (header_local key)]
    exact rewriteText_last (header_reads key).steady number version content
  | source =>
    have docblock := rewriteText_last docblock_reads.steady number version content
    have constant := rewriteText_last constant_steady number version
      (rewriteText Declaration.docblock? version content)
    have kept := docblock_constant.comm number number
      (rewriteText Declaration.docblock? version content)
    rw [docblock] at kept
    intro rule member
    have listed : rule ∈ [Rule.docblock, Rule.constant] := member
    rw [rewriteAll_source]
    rcases List.mem_cons.mp listed with rfl | listed
    · rw [rewrite_eq docblock_local, kept]
    · obtain rfl := List.mem_singleton.mp listed
      rw [rewrite_eq constant_local, constant]

/-! ## What a settled text declares -/

/-- A key, blanks, a colon, at least one blank and a version number, at the start of a text. -/
def HeaderAt (key text version : Text) : Prop :=
  ∃ gap first pad rest, text = key ++ gap ++ ':' :: first :: pad ++ version ++ rest ∧
    Run Text.isBlank gap ∧ Text.isBlank first = true ∧ Run Text.isBlank pad ∧
    IsNumber version ∧ Stops Version.isDigit rest

/-- `Version:`, at least one blank and a version number, at the start of a text. -/
def DocblockAt (text version : Text) : Prop :=
  ∃ first pad rest, text = "Version:".toList ++ first :: pad ++ version ++ rest ∧
    Text.isBlank first = true ∧ Run Text.isBlank pad ∧
    IsNumber version ∧ Stops Version.isDigit rest

/-- The definition of a constant with a version number in quotes, at the start of a text. -/
def ConstantAt (text version : Text) : Prop :=
  ∃ head tail rest, text = head ++ version ++ tail ++ rest ∧ Opening head ∧ IsNumber version ∧
    Closing tail

/-- The first declaration in a text, if there is one, carries a version. -/
def FirstCarries (declares : Text → Text → Prop) (content version : Text) : Prop :=
  ∀ front back other, content = front ++ back →
    (∀ before after, front = before ++ after → after ≠ [] → ∀ any, ¬ declares (after ++ back) any) →
    declares back other → other = version

private theorem carries_of_fixed {declares : Text → Text → Prop} (steady : Steady reads)
    (agree : ∀ text version, declares text version ↔
      ∃ found, reads text = some found ∧ found.version = version)
    (number : IsNumber version) (fixed : rewriteText reads version content = content) :
    FirstCarries declares content version := by
  rintro front back other rfl none here
  obtain ⟨found, read, rfl⟩ := (agree back other).mp here
  refine version_of_fixed steady number ?_ read fixed
  intro before after split filled
  apply Option.eq_none_iff_forall_ne_some.mpr
  intro earlier up
  exact none before after split filled earlier.version
    ((agree _ _).mpr ⟨earlier, up, rfl⟩)

theorem header_carries (literal : LiteralKey key) (number : IsNumber version)
    (settled : Settled (FileRole.style.rules key) version content) :
    FirstCarries (HeaderAt key) content version := by
  have fixed := settled (.header (Version.keyLabel key).pattern) List.mem_cons_self
  rw [keyLabel_literal literal, rewrite_eq (header_local key)] at fixed
  refine carries_of_fixed (header_reads key).steady (fun text version => ?_) number fixed
  constructor
  · rintro ⟨gap, first, pad, rest, split, gapBlank, blank, run, number, stop⟩
    exact ⟨_, (header_reads key _ _).mpr ⟨gap, first, pad, version, rest,
      ⟨split, gapBlank, (fun wrong => nomatch wrong), blank, run, number, stop⟩, rfl⟩, rfl⟩
  · rintro ⟨_, read, rfl⟩
    obtain ⟨gap, first, pad, _, rest, laid, rfl⟩ := (header_reads key _ _).mp read
    exact ⟨gap, first, pad, rest, laid.split, laid.gapBlank, laid.firstBlank, laid.padBlank,
      laid.number, laid.stop⟩

theorem docblock_carries (number : IsNumber version)
    (settled : Settled (FileRole.source.rules key) version content) :
    FirstCarries DocblockAt content version := by
  have fixed := settled .docblock List.mem_cons_self
  rw [rewrite_eq docblock_local] at fixed
  refine carries_of_fixed docblock_reads.steady (fun text version => ?_) number fixed
  constructor
  · rintro ⟨first, pad, rest, split, blank, run, number, stop⟩
    exact ⟨_, (docblock_reads _ _).mpr ⟨[], first, pad, version, rest,
      ⟨split, Run.nil, fun _ => rfl, blank, run, number, stop⟩, rfl⟩, rfl⟩
  · rintro ⟨_, read, rfl⟩
    obtain ⟨gap, first, pad, _, rest, laid, rfl⟩ := (docblock_reads _ _).mp read
    obtain rfl := laid.tight rfl
    exact ⟨first, pad, rest, laid.split, laid.firstBlank, laid.padBlank, laid.number, laid.stop⟩

theorem constant_carries (number : IsNumber version)
    (settled : Settled (FileRole.source.rules key) version content) :
    FirstCarries ConstantAt content version := by
  have fixed := settled .constant (List.mem_cons_of_mem _ List.mem_cons_self)
  rw [rewrite_eq constant_local] at fixed
  refine carries_of_fixed constant_steady (fun text version => ?_) number fixed
  constructor
  · rintro ⟨head, tail, rest, split, opening, number, closing⟩
    exact ⟨⟨head, version, tail, rest⟩, constant_iff.mpr ⟨split, opening, number, closing⟩, rfl⟩
  · rintro ⟨found, read, rfl⟩
    obtain ⟨split, opening, number, closing⟩ := constant_iff.mp read
    exact ⟨found.head, found.tail, found.rest, split, opening, number, closing⟩

end PluginReadme.UpToDate
