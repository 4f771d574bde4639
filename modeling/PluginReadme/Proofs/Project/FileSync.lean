import PluginReadme.Project.Sync
import PluginReadme.Proofs.Files.Walk

/-! What a batch does to a tree of files, one file after the other. The outcome of a file depends
only on what is read at its path, in either mode; files that are apart do not see each other, so
a batch of them is known from the tree it starts from. -/
namespace PluginReadme.FileSync
open Project Walk
open Version (Rule FileRole rewriteAll)

variable {disk after : Disk} {rules : List Rule} {version path content : Text} {mode : Mode}
  {paths : List Text} {place : Place}

/-- What comes of the file at a path, judged by what is read there. -/
def outcome (rules : List Rule) (version : Text) (disk : Disk) (path : Text) :
    Except Failure Status :=
  match disk.read path with
  | .error error => .error (.ofTarget path error)
  | .ok content => .ok (statusOf content (rewriteAll rules version content))

/-- The tree after the version in one file has been brought up to date. -/
def synced (rules : List Rule) (version : Text) (mode : Mode) (disk : Disk) (path : Text) : Disk :=
  match mode, disk.locate path, disk.read path with
  | .write, .ok place, .ok content => disk.set place (.file (rewriteAll rules version content))
  | _, _, _ => disk

/-- The reports of a batch, each from the tree that the files before it have left, and the tree in
the end. -/
def batch (rules : List Rule) (version : Text) (mode : Mode) :
    Disk → List Text → List FileReport × Disk
  | disk, [] => ([], disk)
  | disk, path :: rest =>
    let (files, after) := batch rules version mode (synced rules version mode disk path) rest
    (⟨path, outcome rules version disk path⟩ :: files, after)

theorem read_run (path : Text) (disk : Disk) :
    (Files.read path : StateM Disk (Except FileError Text)).run disk =
      pure (disk.read path, disk) := rfl

theorem write_run (written : disk.write path content = .ok after) :
    (Files.write path content : StateM Disk (Except FileError Unit)).run disk =
      pure (.ok (), after) := by
  simp [Files.write, written]

/-- One file: its outcome is the same whether it is written or not, since writing back what could
be read does not fail. -/
theorem syncFile_run (rules : List Rule) (version : Text) (mode : Mode) (path : Text)
    (disk : Disk) :
    (syncFile rules version mode path : StateM Disk (Except Failure Status)).run disk =
      pure (outcome rules version disk path, synced rules version mode disk path) := by
  cases found : disk.read path with
  | error error => simp [syncFile, read_run, outcome, synced, found]
  | ok content =>
    obtain ⟨place, located, file⟩ := read_ok_iff.mp found
    cases mode with
    | dryRun => simp [syncFile, read_run, outcome, synced, found]
    | write =>
      have written := write_run (write_of_read located file (rewriteAll rules version content))
      simp [syncFile, read_run, written, outcome, synced, found, located]

/-- One file of a batch, with the log that passes through. -/
private def entry (rules : List Rule) (version : Text) (mode : Mode) (path : Text) :
    StateT Log (StateM Disk) FileReport := do
  return ⟨path, ← (syncFile rules version mode path : StateM Disk _)⟩

private theorem entry_run (rules : List Rule) (version : Text) (mode : Mode) (path : Text)
    (log : Log) (disk : Disk) :
    ((entry rules version mode path).run log).run disk =
      pure ((⟨path, outcome rules version disk path⟩, log),
        synced rules version mode disk path) := by
  simp [entry, syncFile_run]

private theorem entries_run (rules : List Rule) (version : Text) (mode : Mode) (paths : List Text)
    (log : Log) (disk : Disk) :
    ((paths.mapM (entry rules version mode)).run log).run disk =
      pure (((batch rules version mode disk paths).1, log),
        (batch rules version mode disk paths).2) := by
  induction paths generalizing disk with
  | nil => rfl
  | cons path rest ih => simp [List.mapM_cons, entry_run, ih, batch]

/-- A batch: the reports in the order of the paths, what is said of them, and the tree in the
end. -/
theorem syncFiles_run (role : FileRole) (key version : Text) (mode : Mode) (paths : List Text)
    (log : Log) (disk : Disk) :
    (syncFiles role key version mode paths : StateT Log (StateM Disk) Batch) log disk =
      let (files, after) := batch (role.rules key) version mode disk paths
      ((⟨files⟩, log ++ keyEvents key role ++ files.map (FileReport.event version mode)),
        after) := by
  have shape : (syncFiles role key version mode paths : StateT Log (StateM Disk) Batch) = do
      let files ← paths.mapM (entry (role.rules key) version mode)
      modify fun log => log ++ keyEvents key role ++ files.map (FileReport.event version mode)
      return ⟨files⟩ := rfl
  change ((syncFiles role key version mode paths : StateT Log (StateM Disk) Batch).run
    log).run disk = _
  rw [shape]
  simp only [StateT.run_bind, entries_run, StateT.run_modify, StateT.run_pure, pure_bind]
  rfl

/-! ## Files that are apart -/

/-- Two paths do not name the same file, be it there or not. -/
def Apart (disk : Disk) (first second : Text) : Prop :=
  ∀ place, disk.destination first = .ok place → disk.destination second ≠ .ok place

/-- Only the places at hand are compared. -/
instance (disk : Disk) (first second : Text) : Decidable (Apart disk first second) :=
  decidable_of_iff (∀ place ∈ (disk.destination first).toOption,
      disk.destination second ≠ .ok place) <| by
    unfold Apart
    cases disk.destination first <;> simp [Except.toOption]

/-- A path of a list leads to this text. -/
def Target (disk : Disk) (paths : List Text) (place : Place) (content : Text) : Prop :=
  ∃ path ∈ paths, disk.locate path = .ok place ∧ disk.entry? place = some (.file content)

/-- The texts that the paths lead to are rewritten once, and nothing else is different. -/
structure Rewritten (rules : List Rule) (version : Text) (before : Disk) (paths : List Text)
    (after : Disk) : Prop where
  shape : SameShape before after
  targets : ∀ place content, Target before paths place content →
    after.entry? place = some (.file (rewriteAll rules version content))
  others : ∀ place, (∀ content, ¬ Target before paths place content) →
    after.entry? place = before.entry? place

theorem Apart.symm (apart : Apart disk first second) : Apart disk second first :=
  fun place named again => apart place again named

theorem Apart.grows (grows : Grows disk after) (apart : Apart disk first second) :
    Apart after first second := by
  intro place named again
  rw [← destination_grows grows] at named again
  exact apart place named again

theorem Rewritten.none (rules : List Rule) (version : Text) (disk : Disk) :
    Rewritten rules version disk [] disk :=
  ⟨SameShape.refl disk, (fun _ _ ⟨_, member, _⟩ => nomatch member), fun _ _ => rfl⟩

private theorem target_congr (members : ∀ path, path ∈ paths ↔ path ∈ more) :
    Target disk paths place content ↔ Target disk more place content := by
  simp only [Target, members]

/-- Only which paths are listed matters. -/
theorem Rewritten.congr (far : Rewritten rules version disk paths after)
    (members : ∀ path, path ∈ paths ↔ path ∈ more) : Rewritten rules version disk more after :=
  ⟨far.shape,
    fun place content target => far.targets place content ((target_congr members).mpr target),
    fun place nowhere => far.others place fun content target =>
      nowhere content ((target_congr members).mp target)⟩

/-- The rewritten tree is known up to the order in which a disk lists its entries. -/
theorem Rewritten.same (left : Rewritten rules version disk paths first)
    (right : Rewritten rules version disk paths second) : Same first second where
  working := left.shape.working.symm.trans right.shape.working
  entries place := by
    by_cases target : ∃ content, Target disk paths place content
    · obtain ⟨content, target⟩ := target
      rw [left.targets place content target, right.targets place content target]
    · have nowhere : ∀ content, ¬ Target disk paths place content :=
        fun content held => target ⟨content, held⟩
      rw [left.others place nowhere, right.others place nowhere]

/-- The order in which the tree at the start lists its entries does not matter either. -/
theorem Rewritten.before_same (far : Rewritten rules version first paths after)
    (same : Same first second) : Rewritten rules version second paths after := by
  have swap (place : Place) (content : Text) :
      Target second paths place content ↔ Target first paths place content := by
    simp only [Target, locate_congr same.shape, same.entries]
  refine ⟨same.symm.shape.trans far.shape, ?_, ?_⟩
  · intro place content target
    exact far.targets place content ((swap place content).mp target)
  · intro place nowhere
    rw [far.others place fun content target => nowhere content ((swap place content).mpr target),
      same.entries]

/-- A path that is apart from all rewritten files reads as before. -/
theorem Rewritten.read_apart (far : Rewritten rules version disk paths after)
    (apart : ∀ other ∈ paths, Apart disk other path) : after.read path = disk.read path := by
  have located : after.locate path = disk.locate path := (locate_congr far.shape path).symm
  have kept : ∀ place, disk.locate path = .ok place → after.entry? place = disk.entry? place := by
    intro place here
    apply far.others
    rintro content ⟨other, member, there, file⟩
    have free : disk.entry? place ≠ some .directory := by simp [file]
    exact apart other member place (destination_of_locate there free)
      (destination_of_locate here free)
  unfold Disk.read
  rw [located]
  cases here : disk.locate path with
  | error error => rfl
  | ok place => simp only [bind, Except.bind, kept place here]

/-- A text that was read is read back rewritten. -/
theorem Rewritten.read_target (far : Rewritten rules version disk paths after)
    (member : path ∈ paths) (found : disk.read path = .ok content) :
    after.read path = .ok (rewriteAll rules version content) := by
  obtain ⟨place, located, file⟩ := read_ok_iff.mp found
  refine read_ok_iff.mpr ⟨place, ?_, far.targets place content ⟨path, member, located, file⟩⟩
  rw [← locate_congr far.shape, located]

/-- A path that could not be read fails as before. -/
theorem Rewritten.read_failed (far : Rewritten rules version disk paths after)
    (failed : disk.read path = .error error) : after.read path = .error error := by
  have located : after.locate path = disk.locate path := (locate_congr far.shape path).symm
  unfold Disk.read at failed ⊢
  rw [located]
  cases here : disk.locate path with
  | error error =>
    rw [here] at failed
    exact failed
  | ok place =>
    rw [here] at failed
    simp only [bind, Except.bind] at failed ⊢
    rw [far.others place]
    · exact failed
    · rintro content ⟨-, -, -, file⟩
      simp [file] at failed

/-- Writing one more file as it was read at the start extends what has been rewritten. -/
theorem Rewritten.write (far : Rewritten rules version disk paths after)
    (found : disk.read path = .ok content) :
    ∃ place, disk.locate path = .ok place ∧
      after.write path (rewriteAll rules version content) =
        .ok (after.set place (.file (rewriteAll rules version content))) ∧
      Rewritten rules version disk (path :: paths)
        (after.set place (.file (rewriteAll rules version content))) := by
  obtain ⟨place, located, file⟩ := read_ok_iff.mp found
  have free : disk.entry? place ≠ some .directory := by simp [file]
  have freeAfter : after.entry? place ≠ some .directory :=
    fun wrong => free ((far.shape.directory_iff place).mpr wrong)
  have takenAfter : (after.entry? place).isSome := by
    rw [← far.shape.taken_iff]
    simp [file]
  refine ⟨place, located, ?_, ?_⟩
  · apply write_of_destination
    rw [← destination_congr far.shape]
    exact destination_of_locate located free
  · refine ⟨far.shape.trans (set_shape freeAfter takenAfter _), ?_, ?_⟩
    · rintro other text ⟨named, member, there, held⟩
      rw [entry_set freeAfter]
      split
      · rename_i same
        subst same
        rw [held] at file
        cases file
        rfl
      · rename_i apart
        rcases List.mem_cons.mp member with rfl | member
        · rw [there] at located
          cases located
          exact absurd rfl apart
        · exact far.targets other text ⟨named, member, there, held⟩
    · intro other nowhere
      rw [entry_set freeAfter, if_neg]
      · exact far.others other fun text ⟨named, member, there, held⟩ =>
          nowhere text ⟨named, List.mem_cons_of_mem _ member, there, held⟩
      · rintro rfl
        exact nowhere content ⟨path, List.mem_cons_self, located, file⟩

/-- A file that cannot be read adds nothing to what is rewritten. -/
theorem Rewritten.skip (far : Rewritten rules version disk paths after)
    (failed : disk.read path = .error error) :
    Rewritten rules version disk (path :: paths) after := by
  have swap (place : Place) (content : Text) :
      Target disk (path :: paths) place content ↔ Target disk paths place content := by
    constructor
    · rintro ⟨named, member, there, held⟩
      rcases List.mem_cons.mp member with rfl | member
      · rw [read_ok_iff.mpr ⟨place, there, held⟩] at failed
        cases failed
      · exact ⟨named, member, there, held⟩
    · rintro ⟨named, member, rest⟩
      exact ⟨named, List.mem_cons_of_mem _ member, rest⟩
  exact ⟨far.shape, fun place content target => far.targets place content ((swap ..).mp target),
    fun place nowhere => far.others place fun content target =>
      nowhere content ((swap ..).mpr target)⟩

theorem outcome_congr (rules : List Rule) (version : Text)
    (same : disk.read path = after.read path) :
    outcome rules version disk path = outcome rules version after path := by
  simp only [outcome, same]

/-- A dry run of a batch leaves the tree alone and judges every file by that tree. -/
theorem batch_dryRun (rules : List Rule) (version : Text) (disk : Disk) (paths : List Text) :
    batch rules version .dryRun disk paths =
      (paths.map fun path => ⟨path, outcome rules version disk path⟩, disk) := by
  induction paths with
  | nil => rfl
  | cons path rest ih => simp [batch, synced, ih]

private theorem batch_onward (apart : paths.Pairwise (Apart disk))
    (far : Rewritten rules version disk done after)
    (fresh : ∀ other ∈ done, ∀ path ∈ paths, Apart disk other path) :
    (batch rules version .write after paths).1 =
        paths.map (fun path => ⟨path, outcome rules version disk path⟩) ∧
      Rewritten rules version disk (paths.reverse ++ done)
        (batch rules version .write after paths).2 := by
  induction paths generalizing after done with
  | nil => exact ⟨rfl, far⟩
  | cons path rest ih =>
    obtain ⟨head, tail⟩ := List.pairwise_cons.mp apart
    have reads : after.read path = disk.read path :=
      far.read_apart fun other member => fresh other member path List.mem_cons_self
    have onward : Rewritten rules version disk (path :: done)
        (synced rules version .write after path) := by
      cases found : disk.read path with
      | error error =>
        simpa [synced, reads, found] using far.skip found
      | ok content =>
        obtain ⟨place, located, -, extended⟩ := far.write found
        rw [locate_congr far.shape] at located
        simpa [synced, reads, found, located] using extended
    have apartFromDone : ∀ other ∈ path :: done, ∀ next ∈ rest, Apart disk other next := by
      intro other member next later
      rcases List.mem_cons.mp member with rfl | member
      · exact head next later
      · exact fresh other member next (List.mem_cons_of_mem _ later)
    obtain ⟨files, finished⟩ := ih tail onward apartFromDone
    refine ⟨?_, by simpa [batch] using finished⟩
    simp [batch, files, outcome_congr rules version reads]

/-- A batch of files that are apart: every file is judged by the tree at the start, and every text
is rewritten once. -/
theorem batch_write (rules : List Rule) (version : Text) (apart : paths.Pairwise (Apart disk)) :
    (batch rules version .write disk paths).1 =
        paths.map (fun path => ⟨path, outcome rules version disk path⟩) ∧
      Rewritten rules version disk paths (batch rules version .write disk paths).2 := by
  obtain ⟨files, finished⟩ := batch_onward apart (Rewritten.none rules version disk)
    (fun _ member => nomatch member)
  exact ⟨files, finished.congr (by simp)⟩

end PluginReadme.FileSync
