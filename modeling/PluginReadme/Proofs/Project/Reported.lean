import PluginReadme.Proofs.Project.FileSync
import PluginReadme.Proofs.Version.Shown

/-! What is reported of a file that could be read. It is reported as updated if the first
declaration of some kind has another version, or if the blanks around its colon are not tidy, and
as unchanged otherwise. -/
namespace PluginReadme.Reported
open Project FileSync
open Version (Dialect FileRole rewriteAll)
open Numeral UpToDate Shown Rewriting Dialects

variable {key version content path : Text} {disk : Disk} {role : FileRole} {dialect : Dialect}

/-- The first declaration of some kind would be written in another way. -/
def Stale (role : FileRole) (key content version : Text) : Prop :=
  ∃ dialect ∈ role.dialects key, ∃ old tidy,
    FirstDeclares dialect content old tidy ∧ (old ≠ version ∨ tidy = false)

/-- Of each kind there is no declaration, or the first one is tidy and has the version. -/
def Current (role : FileRole) (key content version : Text) : Prop :=
  ∀ dialect ∈ role.dialects key, (∀ old tidy, ¬ FirstDeclares dialect content old tidy) ∨
    FirstDeclares dialect content version true

theorem rewriteAll_fixed_iff (literal : LiteralKey key) (number : IsNumber version) :
    rewriteAll (role.rules key) version content = content ↔
      Settled (role.rules key) version content := by
  constructor
  · intro fixed
    have settled := rewriteAll_settles literal number role content
    rwa [fixed] at settled
  · exact rewriteAll_settled

theorem settled_iff (literal : LiteralKey key) (number : IsNumber version) :
    Settled (role.rules key) version content ↔ ∀ dialect ∈ role.dialects key, ∀ old tidy,
      FirstDeclares dialect content old tidy → old = version ∧ tidy = true := by
  unfold Settled FileRole.rules
  rw [List.forall_mem_map]
  refine forall₂_congr fun dialect listed => ?_
  rw [rewrite_eq (reader_reads literal listed), fixed_iff number]

theorem current_iff : Current role key content version ↔ ∀ dialect ∈ role.dialects key, ∀ old tidy,
    FirstDeclares dialect content old tidy → old = version ∧ tidy = true := by
  refine forall₂_congr fun dialect listed => ?_
  constructor
  · rintro (none | held) old tidy first
    · exact absurd first (none old tidy)
    · exact first.unique held
  · intro held
    by_cases none : ∀ old tidy, ¬ FirstDeclares dialect content old tidy
    · exact Or.inl none
    · simp only [not_forall, not_not] at none
      obtain ⟨old, tidy, first⟩ := none
      obtain ⟨rfl, rfl⟩ := held old tidy first
      exact Or.inr first

theorem not_stale_iff : ¬ Stale role key content version ↔ Current role key content version := by
  rw [current_iff]
  simp only [Stale, not_exists, not_and, not_or, not_not, Bool.not_eq_false]

/-- A file that can be read is reported as updated just if it is stale, and as unchanged just if it
is current. -/
theorem status_tells_text (literal : LiteralKey key) (number : IsNumber version)
    (read : disk.read path = .ok content) (role : FileRole) (mode : Mode) :
    ∃ status after,
      (syncFile (role.rules key) version mode path : StateM Disk (Except Failure Status)).run disk =
        pure (.ok status, after) ∧
      (status = .updated ↔ Stale role key content version) ∧
      (status = .unchanged ↔ Current role key content version) := by
  have current : statusOf content (rewriteAll (role.rules key) version content) = .unchanged ↔
      Current role key content version := by
    rw [current_iff, ← settled_iff literal number, ← rewriteAll_fixed_iff literal number]
    simp [statusOf]
  have judged : outcome (role.rules key) version disk path =
      .ok (statusOf content (rewriteAll (role.rules key) version content)) := by
    simp only [outcome, read]
  refine ⟨_, _, by rw [syncFile_run, judged], ?_, current⟩
  rw [← not_not (a := Stale role key content version), not_stale_iff, ← current]
  cases statusOf content (rewriteAll (role.rules key) version content) <;> simp

/-- A style sheet with a blank in front of the colon, and a source file with a tab behind it. -/
private def untidy : Disk where
  workingDirectory := []
  entries := [([['a']], .file "Version : 1.0.0".toList),
    ([['b']], .file "Version:\t2.0.0 define('A_VERSION', '2.0.0');".toList)]

/-- Both declarations of the source file have the version, but one of them is not tidy. -/
theorem tab_behind_colon_is_reported :
    LiteralKey [] ∧ IsNumber "2.0.0".toList ∧
      untidy.read ['b'] = .ok "Version:\t2.0.0 define('A_VERSION', '2.0.0');".toList ∧
      ∃ status after,
        (syncFile (FileRole.source.rules []) "2.0.0".toList .write ['b'] :
          StateM Disk (Except Failure Status)).run untidy = pure (.ok status, after) ∧
        (status = .updated ↔ Stale .source []
          "Version:\t2.0.0 define('A_VERSION', '2.0.0');".toList "2.0.0".toList) ∧
        (status = .unchanged ↔ Current .source []
          "Version:\t2.0.0 define('A_VERSION', '2.0.0');".toList "2.0.0".toList) := by
  have literal : LiteralKey [] := Or.inl (by decide)
  have number : IsNumber "2.0.0".toList := by decide
  have read : untidy.read ['b'] = .ok "Version:\t2.0.0 define('A_VERSION', '2.0.0');".toList := by
    decide
  exact ⟨literal, number, read, status_tells_text literal number read .source .write⟩

/-- A style sheet is reported as updated although its first declaration has the version, because
of the blank in front of the colon. -/
theorem held_version_is_reported_as_updated :
    LiteralKey "Version".toList ∧ IsNumber "1.0.0".toList ∧
      untidy.read ['a'] = .ok "Version : 1.0.0".toList ∧
      (syncFile (FileRole.style.rules "Version".toList) "1.0.0".toList .dryRun ['a'] :
        StateM Disk (Except Failure Status)).run untidy = pure (.ok .updated, untidy) ∧
      ∀ dialect ∈ FileRole.style.dialects "Version".toList, ∀ old tidy,
        FirstDeclares dialect "Version : 1.0.0".toList old tidy → old = "1.0.0".toList := by
  have literal : LiteralKey "Version".toList := Or.inl (by decide)
  have number : IsNumber "1.0.0".toList := by decide
  have judged : outcome (FileRole.style.rules "Version".toList) "1.0.0".toList untidy ['a'] =
      .ok .updated := by decide +kernel
  have laid : Labelled true "Version".toList "Version : 1.0.0".toList [' '] ' ' []
      "1.0.0".toList [] :=
    ⟨rfl, by decide, (fun wrong => nomatch wrong), rfl, Run.nil, number, stops_nil⟩
  have first : FirstDeclares (.styleHeader "Version".toList) "Version : 1.0.0".toList
      "1.0.0".toList false := by
    refine ⟨[], _, rfl, ?_, .styleHeader laid⟩
    exact noneIn_iff.mpr Clear.nil
  refine ⟨literal, number, by decide, by rw [syncFile_run, judged]; rfl, ?_⟩
  intro dialect listed old tidy again
  obtain rfl := List.mem_singleton.mp listed
  exact (again.unique first).1

end PluginReadme.Reported
