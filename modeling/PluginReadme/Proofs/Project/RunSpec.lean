import PluginReadme.Project.Run
import PluginReadme.Proofs.Project.FileSync

/-! A run as a function of the tree it starts from: the readme is made from two documents, then
the two batches follow, each from the tree that the stage before it has left. -/
namespace PluginReadme.RunSpec
open Project Walk FileSync
open Version (FileRole)

variable {config : Config} {mode : Mode} {disk after : Disk} {readme : Generated} {written : Report}

/-- What a task does to the log and to a tree. -/
def does (task : Task (StateM Disk) α) (said : Log) (disk : Disk) :
    (Except Failure α × Log) × Disk :=
  task.run said disk

/-- What a run makes of a tree, its log left out. -/
def runOn (config : Config) (mode : Mode) (disk : Disk) : Except Failure Report × Disk :=
  let ((result, _), after) := (run config mode : Task (StateM Disk) Report).outcome disk
  (result, after)

/-- What is made of two documents. -/
def made (config : Config) (readme changelog : Text) : Generated where
  path := config.readmeTxt
  version := (Version.find readme config.stableTag).getD Version.fallback
  content := Readme.build readme changelog
  isDeclared := (Version.find readme config.stableTag).isSome

/-- The first stage: both documents are read before anything is written. -/
def generateOn (config : Config) (mode : Mode) (disk : Disk) : Except Failure Generated × Disk :=
  match disk.read config.readmeMd, disk.read config.changelogMd with
  | .error error, _ => (.error (.inputNotRead config.readmeMd error), disk)
  | .ok _, .error error => (.error (.inputNotRead config.changelogMd error), disk)
  | .ok readme, .ok changelog =>
    match mode with
    | .dryRun => (.ok (made config readme changelog), disk)
    | .write =>
      match disk.write config.readmeTxt (Readme.build readme changelog) with
      | .error error => (.error (.outputNotWritten config.readmeTxt error), disk)
      | .ok after => (.ok (made config readme changelog), after)

/-- The two batches that follow. -/
def syncOn (config : Config) (mode : Mode) (readme : Generated) (disk : Disk) : Report × Disk :=
  let style :=
    batch (FileRole.style.rules config.versionKey) readme.version mode disk config.styleFiles
  let source :=
    batch (FileRole.source.rules config.versionKey) readme.version mode style.2 config.phpFiles
  (⟨readme, ⟨style.1⟩, ⟨source.1⟩⟩, source.2)

/-! ## Stage by stage -/

theorem does_bind (task : Task (StateM Disk) α) (next : α → Task (StateM Disk) β)
    (said : Log) (disk : Disk) :
    does (task >>= next) said disk =
      match does task said disk with
      | ((.ok value, said), disk) => does (next value) said disk
      | ((.error failure, said), disk) => ((.error failure, said), disk) := by
  have opened : does (task >>= next) said disk =
      (fun reached : (Except Failure α × Log) × Disk =>
        (ExceptT.bindCont next reached.1.1 : StateT Log (StateM Disk) _) reached.1.2 reached.2)
        (does task said disk) := rfl
  rw [opened]
  obtain ⟨⟨result, said⟩, disk⟩ := does task said disk
  cases result with
  | ok value => rfl
  | error failure => rfl

theorem does_pure (value : α) (said : Log) (disk : Disk) :
    does (pure value) said disk = ((.ok value, said), disk) := rfl

theorem does_throw (failure : Failure) (said : Log) (disk : Disk) :
    does (throw failure : Task (StateM Disk) α) said disk = ((.error failure, said), disk) := rfl

theorem does_log (events said : Log) (disk : Disk) :
    does (log events : Task (StateM Disk) Unit) said disk = ((.ok (), said ++ events), disk) := rfl

theorem does_read (path : Text) (said : Log) (disk : Disk) :
    does ((Files.read path : StateM Disk _) : Task (StateM Disk) _) said disk =
      ((.ok (disk.read path), said), disk) := rfl

private theorem does_write (path content : Text) (said : Log) (disk : Disk) :
    does ((Files.write path content : StateM Disk _) : Task (StateM Disk) _) said disk =
      match disk.write path content with
      | .ok after => ((.ok (.ok ()), said), after)
      | .error error => ((.ok (.error error), said), disk) := by
  have opened : does ((Files.write path content : StateM Disk _) : Task (StateM Disk) _) said
      disk = (fun reached : Except FileError Unit × Disk => ((.ok reached.1, said), reached.2))
        ((match disk.write path content with
          | .ok after => (do set after; return .ok () : StateM Disk (Except FileError Unit))
          | .error error => return .error error) disk) := rfl
  rw [opened]
  cases disk.write path content with
  | ok after => rfl
  | error error => rfl

private theorem does_readInput (path : Text) (said : Log) (disk : Disk) :
    does (readInput path) said disk =
      match disk.read path with
      | .ok content => ((.ok content, said), disk)
      | .error error => ((.error (.inputNotRead path error), said), disk) := by
  simp only [readInput, does_bind, does_read]
  cases disk.read path with
  | ok content => rfl
  | error error => rfl

/-- Only the log is left open. -/
theorem does_generate (config : Config) (mode : Mode) (said : Log) (disk : Disk) :
    ∃ more, does (generate config mode) said disk =
      (((generateOn config mode disk).1, more), (generateOn config mode disk).2) := by
  cases readme : disk.read config.readmeMd with
  | error error =>
    exact ⟨said, by simp [generate, does_bind, does_readInput, generateOn, readme]⟩
  | ok text =>
  cases changelog : disk.read config.changelogMd with
  | error error =>
    exact ⟨said, by simp [generate, does_bind, does_readInput, generateOn, readme, changelog]⟩
  | ok changes =>
  cases mode with
  | dryRun =>
    cases found : Version.find text config.stableTag with
    | none =>
      simp [generate, does_bind, does_readInput, does_log, does_pure, -bind_pure_comp, generateOn,
        readme, changelog, made, found]
    | some version =>
      simp [generate, does_bind, does_readInput, does_log, does_pure, -bind_pure_comp, generateOn,
        readme, changelog, made, found]
  | write =>
    cases written : disk.write config.readmeTxt (Readme.build text changes) with
    | error error =>
      cases found : Version.find text config.stableTag with
      | none =>
        simp [generate, does_bind, does_readInput, does_log, does_write, does_throw, generateOn,
          readme, changelog, found, written]
      | some version =>
        simp [generate, does_bind, does_readInput, does_log, does_write, does_throw, generateOn,
          readme, changelog, found, written]
    | ok after =>
      cases found : Version.find text config.stableTag with
      | none =>
        simp [generate, does_bind, does_readInput, does_log, does_write, does_pure,
          -bind_pure_comp, generateOn, readme, changelog, made, found, written]
      | some version =>
        simp [generate, does_bind, does_readInput, does_log, does_write, does_pure,
          -bind_pure_comp, generateOn, readme, changelog, made, found, written]

private theorem does_sync (role : FileRole) (key version : Text) (mode : Mode)
    (paths : List Text) (said : Log) (disk : Disk) :
    ∃ more, does
        ((syncFiles role key version mode paths : StateT Log (StateM Disk) Batch) :
          Task (StateM Disk) Batch) said disk =
      ((.ok ⟨(batch (role.rules key) version mode disk paths).1⟩, more),
        (batch (role.rules key) version mode disk paths).2) := by
  have opened : does
      ((syncFiles role key version mode paths : StateT Log (StateM Disk) Batch) :
        Task (StateM Disk) Batch) said disk =
      (fun reached : (Batch × Log) × Disk => ((.ok reached.1.1, reached.1.2), reached.2))
        ((syncFiles role key version mode paths : StateT Log (StateM Disk) Batch) said disk) := rfl
  rw [opened, syncFiles_run]
  exact ⟨_, rfl⟩

/-- A run goes through its stages whatever has been said before it. -/
private theorem does_stages (config : Config) (mode : Mode) (said : Log) (disk : Disk) :
    ∃ more, does (run config mode) said disk =
      match generateOn config mode disk with
      | (.error failure, after) => ((.error failure, more), after)
      | (.ok readme, middle) =>
        ((.ok (syncOn config mode readme middle).1, more),
          (syncOn config mode readme middle).2) := by
  obtain ⟨more, generated⟩ := does_generate config mode said disk
  rw [run, does_bind, generated]
  obtain ⟨result, middle⟩ := generateOn config mode disk
  cases result with
  | error failure => exact ⟨more, rfl⟩
  | ok readme =>
    obtain ⟨later, style⟩ := does_sync .style config.versionKey readme.version mode
      config.styleFiles more middle
    obtain ⟨last, source⟩ := does_sync .source config.versionKey readme.version mode
      config.phpFiles later
      (batch (FileRole.style.rules config.versionKey) readme.version mode middle
        config.styleFiles).2
    refine ⟨last, ?_⟩
    simp only [does_bind, style, source, does_pure]
    rfl

/-- A run fails only in its first stage, and the batches are told from the tree that it leaves. -/
theorem run_eq (config : Config) (mode : Mode) (disk : Disk) :
    runOn config mode disk =
      match generateOn config mode disk with
      | (.error failure, after) => (.error failure, after)
      | (.ok readme, middle) =>
        (.ok (syncOn config mode readme middle).1, (syncOn config mode readme middle).2) := by
  have opened : runOn config mode disk =
      (fun reached : (Except Failure Report × Log) × Disk => (reached.1.1, reached.2))
        (does (run config mode) [] disk) := rfl
  obtain ⟨more, stages⟩ := does_stages config mode [] disk
  rw [opened, stages]
  obtain ⟨result, middle⟩ := generateOn config mode disk
  cases result with
  | error failure => rfl
  | ok readme => rfl

/-- What a run makes of a tree does not depend on what has been said before it. -/
theorem does_run (config : Config) (mode : Mode) (said : Log) (disk : Disk) :
    ∃ more, does (run config mode) said disk =
      (((runOn config mode disk).1, more), (runOn config mode disk).2) := by
  obtain ⟨more, stages⟩ := does_stages config mode said disk
  refine ⟨more, ?_⟩
  rw [run_eq, stages]
  obtain ⟨result, middle⟩ := generateOn config mode disk
  cases result with
  | error failure => rfl
  | ok readme => rfl

/-- A stage that writes the readme says what one that only looks would have said. -/
theorem generateOn_write (generated : generateOn config .write disk = (.ok readme, after)) :
    generateOn config .dryRun disk = (.ok readme, disk) ∧
      ∃ text changes, disk.read config.readmeMd = .ok text ∧
        disk.read config.changelogMd = .ok changes ∧ readme = made config text changes ∧
        disk.write config.readmeTxt readme.content = .ok after := by
  unfold generateOn at generated ⊢
  split at generated
  · cases generated
  · cases generated
  · rename_i text changes inputs changelog
    dsimp only at generated
    split at generated
    · cases generated
    · rename_i written
      cases generated
      rw [inputs, changelog]
      exact ⟨rfl, text, changes, rfl, rfl, rfl, written⟩

/-- What a run that writes has done: the readme was put in its place, and the two batches started
from there. -/
theorem run_write_ok (ran : runOn config .write disk = (.ok written, after)) :
    ∃ middle, generateOn config .write disk = (.ok written.readme, middle) ∧
      syncOn config .write written.readme middle = (written, after) := by
  rw [run_eq] at ran
  split at ran
  · cases ran
  · rename_i readme middle generated
    cases ran
    exact ⟨middle, generated, rfl⟩

theorem run_dryRun_ok (generated : generateOn config .dryRun disk = (.ok readme, disk)) :
    runOn config .dryRun disk = (.ok (syncOn config .dryRun readme disk).1, disk) := by
  rw [run_eq, generated]
  simp only [syncOn, batch_dryRun]

end PluginReadme.RunSpec
