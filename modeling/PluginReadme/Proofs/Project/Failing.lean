import PluginReadme.Cli.Answer
import PluginReadme.Proofs.Project.RunSpec

/-! A run in the directory of a project that fails. What it fails for is its configuration, a
document or the place of the readme, and it finds that out before it writes anything. A style or
source file that fails is only reported. -/
namespace PluginReadme.Failing
open Project FileSync RunSpec
open Cli (Answer Call answer readArguments)

variable {root : Text} {named : Option Text} {mode : Mode} {disk after : Disk}
  {config : Config} {failure : Failure} {report : Report} {call : Call}

/-- What a run in a directory makes of a tree, its log left out. -/
def runInOn (root : Text) (named : Option Text) (mode : Mode) (disk : Disk) :
    Except Failure Report × Disk :=
  let ((result, _), after) := (runIn root named mode : Task (StateM Disk) Report).outcome disk
  (result, after)

/-- The configuration that is found for a project, with its paths taken from the directory of the
project. -/
def Configured (root : Text) (named : Option Text) (disk : Disk) (config : Config) : Prop :=
  ∃ content own, disk.read (Config.path root named) = .ok content ∧
    Config.ofJson content = .ok own ∧ config = own.resolve root

/-- Both documents of a project can be read. -/
def Readable (disk : Disk) (config : Config) : Prop :=
  ∃ readme changelog, disk.read config.readmeMd = .ok readme ∧
    disk.read config.changelogMd = .ok changelog

/-- Why a run cannot go on. If neither document can be read, it may be told of either. No style or
source file is among the reasons. -/
inductive Hindered (root : Text) (named : Option Text) (mode : Mode) (disk : Disk) :
    Failure → Prop where
  | missing (unread : disk.read (Config.path root named) = .error .notFound) :
      Hindered root named mode disk (.configNotFound (Config.path root named))
  | access {error : FileError} (unread : disk.read (Config.path root named) = .error error)
      (other : error ≠ .notFound) : Hindered root named mode disk (.access error)
  | refused {content : Text} {reason : Json.Failure}
      (read : disk.read (Config.path root named) = .ok content)
      (malformed : Config.ofJson content = .error reason) :
      Hindered root named mode disk
        (.configRefused (Config.path root named) (reason.message content))
  | readme {config : Config} {error : FileError} (configured : Configured root named disk config)
      (unread : disk.read config.readmeMd = .error error) :
      Hindered root named mode disk (.inputNotRead config.readmeMd error)
  | changelog {config : Config} {error : FileError}
      (configured : Configured root named disk config)
      (unread : disk.read config.changelogMd = .error error) :
      Hindered root named mode disk (.inputNotRead config.changelogMd error)
  | output {config : Config} {error : FileError} (configured : Configured root named disk config)
      (readable : Readable disk config) (writes : mode = .write)
      (nowhere : disk.destination config.readmeTxt = .error error) :
      Hindered root named mode disk (.outputNotWritten config.readmeTxt error)

/-! ## The configuration -/

/-- The configuration at a path, or why there is none. -/
def configAt (path : Text) (disk : Disk) : Except Failure Config :=
  match disk.read path with
  | .error .notFound => .error (.configNotFound path)
  | .error error => .error (.access error)
  | .ok content =>
    match Config.ofJson content with
    | .ok config => .ok config
    | .error reason => .error (.configRefused path (reason.message content))

private theorem does_loadConfig (path : Text) (said : Log) (disk : Disk) :
    does (loadConfig path) said disk = ((configAt path disk, said), disk) := by
  simp only [loadConfig, does_bind, does_read, configAt]
  cases disk.read path with
  | error error => cases error <;> rfl
  | ok content =>
    dsimp only
    cases Config.ofJson content with
    | ok config => rfl
    | error reason => rfl

/-- A run in a directory fails with its configuration or goes as the configuration says. -/
theorem runInOn_eq (root : Text) (named : Option Text) (mode : Mode) (disk : Disk) :
    runInOn root named mode disk =
      match configAt (Config.path root named) disk with
      | .error failure => (.error failure, disk)
      | .ok config => runOn (config.resolve root) mode disk := by
  have opened : runInOn root named mode disk =
      (fun reached : (Except Failure Report × Log) × Disk => (reached.1.1, reached.2))
        (does (runIn root named mode) [] disk) := rfl
  rw [opened, runIn]
  simp only [does_bind, does_loadConfig]
  cases configAt (Config.path root named) disk with
  | error failure => rfl
  | ok config =>
    simp only [does_log]
    obtain ⟨more, ran⟩ := does_run (config.resolve root) mode _ disk
    rw [ran]

private theorem configAt_ok (found : configAt (Config.path root named) disk = .ok config) :
    Configured root named disk (config.resolve root) := by
  unfold configAt at found
  split at found
  · cases found
  · cases found
  · rename_i content read
    split at found
    · rename_i accepted
      cases found
      exact ⟨content, config, read, accepted, rfl⟩
    · cases found

private theorem configAt_error (found : configAt (Config.path root named) disk = .error failure) :
    Hindered root named mode disk failure := by
  unfold configAt at found
  split at found
  · rename_i unread
    cases found
    exact .missing unread
  · rename_i error other unread
    cases found
    exact .access unread other
  · rename_i content read
    split at found
    · cases found
    · rename_i reason malformed
      cases found
      exact .refused read malformed

/-- The configuration that is found is the only one that a project has. -/
private theorem configAt_of_configured (configured : Configured root named disk config) :
    ∃ own, configAt (Config.path root named) disk = .ok own ∧ config = own.resolve root := by
  obtain ⟨content, own, read, accepted, rfl⟩ := configured
  exact ⟨own, by simp only [configAt, read, accepted], rfl⟩

/-! ## The readme -/

/-- The first stage of a run fails before anything is written. -/
private theorem generateOn_error (configured : Configured root named disk config)
    (failed : generateOn config mode disk = (.error failure, after)) :
    after = disk ∧ Hindered root named mode disk failure := by
  unfold generateOn at failed
  split at failed
  · rename_i error unread
    cases failed
    exact ⟨rfl, .readme configured unread⟩
  · rename_i error readme unread
    cases failed
    exact ⟨rfl, .changelog configured unread⟩
  · rename_i text changes readme changelog
    cases mode with
    | dryRun => cases failed
    | write =>
      dsimp only at failed
      cases named' : disk.destination config.readmeTxt with
      | ok place =>
        rw [Walk.write_of_destination named'] at failed
        cases failed
      | error error =>
        have unwritten : disk.write config.readmeTxt (Readme.build text changes) =
            .error error := by
          simp only [Disk.write, named', bind, Except.bind]
        rw [unwritten] at failed
        cases failed
        exact ⟨rfl, .output configured ⟨text, changes, readme, changelog⟩ rfl named'⟩

/-- If the first stage of a run ends well, nothing hindered it. -/
private theorem generateOn_ok {readme : Generated} (configured : Configured root named disk config)
    (generated : generateOn config mode disk = (.ok readme, after)) :
    ¬ Hindered root named mode disk failure := by
  obtain ⟨own, found, rfl⟩ := configAt_of_configured configured
  have alone {other : Config} (configured : Configured root named disk other) :
      other = own.resolve root := by
    obtain ⟨again, found', rfl⟩ := configAt_of_configured configured
    rw [found] at found'
    cases found'
    rfl
  intro hindered
  unfold generateOn at generated
  cases hindered with
  | missing unread => simp [configAt, unread] at found
  | @access error unread other =>
    unfold configAt at found
    rw [unread] at found
    cases error with
    | notFound => exact other rfl
    | _ => cases found
  | refused read malformed => simp [configAt, read, malformed] at found
  | readme configured unread =>
    obtain rfl := alone configured
    rw [unread] at generated
    cases generated
  | changelog configured unread =>
    obtain rfl := alone configured
    rw [unread] at generated
    split at generated
    · cases generated
    · cases generated
    · rename_i wrong
      cases wrong
  | output configured readable writes nowhere =>
    obtain rfl := alone configured
    obtain ⟨text, changes, readme, changelog⟩ := readable
    subst writes
    simp only [readme, changelog, Disk.write, nowhere, bind, Except.bind] at generated
    cases generated

/-! ## The run -/

/-- A batch reports on all of its files, whatever comes of them. -/
theorem batch_paths (rules : List Version.Rule) (version : Text) (mode : Mode) (disk : Disk)
    (paths : List Text) : (batch rules version mode disk paths).1.map (·.path) = paths := by
  induction paths generalizing disk with
  | nil => rfl
  | cons path rest ih => simp [batch, ih]

/-- A report has one entry for each file of a configuration, in the order of the configuration. -/
structure Accounts (config : Config) (report : Report) : Prop where
  style : report.style.files.map (·.path) = config.styleFiles
  source : report.source.files.map (·.path) = config.phpFiles

private theorem run_error (configured : Configured root named disk config)
    (failed : runOn config mode disk = (.error failure, after)) :
    after = disk ∧ Hindered root named mode disk failure := by
  rw [run_eq] at failed
  split at failed
  · rename_i generated
    cases failed
    exact generateOn_error configured generated
  · cases failed

private theorem run_ok (configured : Configured root named disk config)
    (ran : runOn config mode disk = (.ok report, after)) :
    (∀ failure, ¬ Hindered root named mode disk failure) ∧ Accounts config report := by
  rw [run_eq] at ran
  split at ran
  · cases ran
  · rename_i generated
    cases ran
    exact ⟨fun failure => generateOn_ok configured generated, batch_paths _ _ _ _ _,
      batch_paths _ _ _ _ _⟩

/-! ## The command line -/

/-- A call of the program that asks for a run in a directory. -/
def Asks (call : Call) (root : Text) (named : Option Text) (mode : Mode) : Prop :=
  ∃ options, readArguments .initial call.arguments = .ok options ∧
    root = options.path.getD call.workingDirectory ∧ named = options.config ∧
    mode = if options.dryRun then .dryRun else .write

/-- The exit status that the result of a run calls for. -/
def statusOf : Except Failure Report → Nat
  | .ok _ => 0
  | .error _ => 2

/-- The program leaves the tree that the run leaves, and exits as its result calls for. -/
private theorem answer_asked (asks : Asks call root named mode) (disk : Disk) :
    ((answer call : StateM Disk Answer) disk).1.status =
        statusOf (runInOn root named mode disk).1 ∧
      ((answer call : StateM Disk Answer) disk).2 = (runInOn root named mode disk).2 := by
  obtain ⟨options, read, rfl, rfl, rfl⟩ := asks
  have opened : (answer call : StateM Disk Answer) = Cli.runWith call options := by
    simp only [answer, read]
  obtain ⟨⟨⟨result, said⟩, after⟩, ended⟩ : ∃ ended, (runIn (options.path.getD
      call.workingDirectory) options.config (if options.dryRun then .dryRun else .write) :
      Task (StateM Disk) Report).outcome disk = ended := ⟨_, rfl⟩
  rw [opened, runInOn, ended, Cli.runWith]
  simp only [bind, StateT.bind, ended]
  cases result with
  | ok report => exact ⟨rfl, rfl⟩
  | error failure => exact ⟨rfl, rfl⟩

/-- A run in a directory that fails leaves the tree as it was, and it fails only for what hinders
it. If nothing does, it ends well and reports on every style and source file, whatever has come of
them. A call that asks for the run exits with status 2 if the run fails and with 0 if it does not,
and does nothing to the tree that the run does not do. -/
theorem failed_run_changes_nothing (root : Text) (named : Option Text) (mode : Mode)
    (disk : Disk) :
    (∀ failure after, runInOn root named mode disk = (.error failure, after) →
        after = disk ∧ Hindered root named mode disk failure) ∧
      ((∃ report after, runInOn root named mode disk = (.ok report, after)) ↔
        ∀ failure, ¬ Hindered root named mode disk failure) ∧
      (∀ report after, runInOn root named mode disk = (.ok report, after) →
        ∃ config, Configured root named disk config ∧ Accounts config report) ∧
      ∀ call, Asks call root named mode →
        (((answer call : StateM Disk Answer) disk).1.status = 2 ↔
            ∃ failure, (runInOn root named mode disk).1 = .error failure) ∧
          (((answer call : StateM Disk Answer) disk).1.status = 0 ↔
            ∃ report, (runInOn root named mode disk).1 = .ok report) ∧
          ((answer call : StateM Disk Answer) disk).2 = (runInOn root named mode disk).2 := by
  have failed : ∀ failure after, runInOn root named mode disk = (.error failure, after) →
      after = disk ∧ Hindered root named mode disk failure := by
    intro failure after ran
    rw [runInOn_eq] at ran
    split at ran
    · rename_i found
      cases ran
      exact ⟨rfl, configAt_error found⟩
    · rename_i found
      exact run_error (configAt_ok found) ran
  have ended : ∀ report after, runInOn root named mode disk = (.ok report, after) →
      (∀ failure, ¬ Hindered root named mode disk failure) ∧
        ∃ config, Configured root named disk config ∧ Accounts config report := by
    intro report after ran
    rw [runInOn_eq] at ran
    split at ran
    · cases ran
    · rename_i found
      obtain ⟨unhindered, accounts⟩ := run_ok (configAt_ok found) ran
      exact ⟨unhindered, _, configAt_ok found, accounts⟩
  refine ⟨failed, ⟨?_, ?_⟩, fun report after ran => (ended report after ran).2, ?_⟩
  · rintro ⟨report, after, ran⟩
    exact (ended report after ran).1
  · intro unhindered
    cases ran : runInOn root named mode disk with
    | mk result after =>
      cases result with
      | ok report => exact ⟨report, after, rfl⟩
      | error failure => exact absurd (failed failure after ran).2 (unhindered failure)
  · intro call asks
    obtain ⟨status, tree⟩ := answer_asked asks disk
    refine ⟨?_, ?_, tree⟩
    · rw [status]
      cases (runInOn root named mode disk).1 <;> simp [statusOf]
    · rw [status]
      cases (runInOn root named mode disk).1 <;> simp [statusOf]

/-- A project whose configuration names two style files, neither of which is there. -/
private def unstyled : Disk where
  workingDirectory := []
  entries := [(["config.json".toList], .file "\x7b\"styleFiles\":[\"a\",\"b\"]\x7d".toList),
    (["README.md".toList], .file []), (["CHANGELOG.md".toList], .file [])]

/-- A project with a style file that is out of date, and a directory in the place of its
changelog. -/
private def undocumented : Disk where
  workingDirectory := []
  entries := [(["config.json".toList], .file "\x7b\"styleFiles\":[\"a\"]\x7d".toList),
    (["README.md".toList], .file "Stable tag: 1.2.0".toList), (["CHANGELOG.md".toList], .directory),
    ([['a']], .file "Version: 1.0.0".toList)]

/-- A call of the program in the root directory, without any argument. -/
private def plainCall : Call := ⟨[], none, false, ['/']⟩

/-- The missing style files do not stop a run; the missing changelog does, and the style file is
as old as before. -/
theorem undocumented_run_changes_nothing :
    (((answer plainCall : StateM Disk Answer) unstyled).1.status = 0 ∧
      ∃ report after, runInOn ['/'] none .write unstyled = (.ok report, after) ∧
        ∃ config, Configured ['/'] none unstyled config ∧ Accounts config report) ∧
    ((answer plainCall : StateM Disk Answer) undocumented).1.status = 2 ∧
      ((answer plainCall : StateM Disk Answer) undocumented).2 = undocumented ∧
      ∃ failure, runInOn ['/'] none .write undocumented = (.error failure, undocumented) ∧
        Hindered ['/'] none .write undocumented failure := by
  have asks : Asks plainCall ['/'] none .write :=
    ⟨⟨none, none, false, false, false⟩, by decide, rfl, rfl, rfl⟩
  have ends : (runInOn ['/'] none .write unstyled).1.isOk = true := by decide +kernel
  have stops : (runInOn ['/'] none .write undocumented).1.isOk = false := by decide +kernel
  constructor
  · obtain ⟨-, -, reported, called⟩ :=
      failed_run_changes_nothing ['/'] none .write unstyled
    obtain ⟨-, status, -⟩ := called plainCall asks
    cases ran : runInOn ['/'] none .write unstyled with
    | mk result after =>
      cases result with
      | error failure => rw [ran] at ends; cases ends
      | ok report =>
        exact ⟨status.mpr ⟨report, by rw [ran]⟩, report, after, rfl, reported report after ran⟩
  · obtain ⟨failed, -, -, called⟩ :=
      failed_run_changes_nothing ['/'] none .write undocumented
    obtain ⟨status, -, tree⟩ := called plainCall asks
    cases ran : runInOn ['/'] none .write undocumented with
    | mk result after =>
      cases result with
      | ok report => rw [ran] at stops; cases stops
      | error failure =>
        obtain ⟨rfl, hindered⟩ := failed failure after ran
        exact ⟨status.mpr ⟨failure, by rw [ran]⟩, by rw [tree, ran], failure, rfl, hindered⟩

end PluginReadme.Failing
