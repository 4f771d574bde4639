import Mathlib.Data.List.Forall2
import PluginReadme.Proofs.Project.RunSpec

/-! A dry run beside a run that writes, from one tree. The readme is the same, and so is what is
said of each file that no earlier stage of the writing run has touched; a file that such a stage
makes or rewrites is seen by the later stages of that run alone. -/
namespace PluginReadme.DryRun
open Project Walk FileSync RunSpec
open Version (FileRole)

variable {config : Config} {disk after : Disk} {written : Report} {path : Text}

/-- What is said of the files of a batch, a failure by its kind. -/
def verdicts (batch : Batch) : List (Text × Except Text Status) :=
  batch.files.map fun file => (file.path, file.result.mapError Failure.code)

/-- A path does not lead to the readme that a run has made nor, where there was none before,
through it. -/
def ClearOfReadme (config : Config) (before after : Disk) (path : Text) : Prop :=
  ∀ place, after.destination config.readmeTxt = .ok place →
    (before.entry? place).isSome ∧ after.locate path ≠ .ok place ∨ ¬ Meets after path place

/-- Two batches report on the same files in the same order, and they say the same of those that
are clear. -/
def Agree (clear : Text → Prop) (dry written : Batch) : Prop :=
  List.Forall₂ (fun seen found => seen.path = found.path ∧ (clear found.path → seen = found))
    dry.files written.files

private theorem agree_outcomes {clear : Text → Prop} {first second : Text → Except Failure Status}
    (paths : List Text) (same : ∀ path ∈ paths, clear path → first path = second path) :
    Agree clear ⟨paths.map fun path => ⟨path, first path⟩⟩
      ⟨paths.map fun path => ⟨path, second path⟩⟩ := by
  unfold Agree
  rw [List.forall₂_map_left_iff, List.forall₂_map_right_iff, List.forall₂_same]
  intro path member
  refine ⟨rfl, ?_⟩
  intro clean
  rw [same path member clean]

/-- Putting the readme in its place is not seen along a path that is clear of it. -/
private theorem read_clear (free : disk.entry? place ≠ some .directory) (content : Text)
    (shape : SameShape (disk.set place (.file content)) after)
    (named : after.destination config.readmeTxt = .ok place)
    (clear : ClearOfReadme config disk after path) :
    (disk.set place (.file content)).read path = disk.read path := by
  rcases clear place named with ⟨taken, elsewhere⟩ | unmet
  · rw [← locate_congr shape] at elsewhere
    exact read_elsewhere free taken content elsewhere
  · rw [← meets_congr shape] at unmet
    exact read_unmet free content unmet

/-- If a run that writes ends well, so does the dry run from the same tree, which stays as it is.
The two make the same readme. They report on the same files in the same order, and they agree on
every style file that is clear of the readme, and on every source file that is also apart from the
style files. -/
theorem dry_run_agrees (style : config.styleFiles.Pairwise (Apart disk))
    (source : config.phpFiles.Pairwise (Apart disk))
    (ran : runOn config .write disk = (.ok written, after)) :
    ∃ dry, runOn config .dryRun disk = (.ok dry, disk) ∧ dry.readme = written.readme ∧
      Agree (ClearOfReadme config disk after) dry.style written.style ∧
      Agree (fun path => ClearOfReadme config disk after path ∧
        ∀ other ∈ config.styleFiles, Apart disk other path) dry.source written.source := by
  obtain ⟨middle, generated, synced⟩ := run_write_ok ran
  obtain ⟨looked, -, -, -, -, -, put⟩ := generateOn_write generated
  obtain ⟨place, named, rfl⟩ := write_ok_iff.mp put
  have free := destination_free named
  have grown := set_grows free written.readme.content
  obtain ⟨styleFiles, styled⟩ := batch_write (FileRole.style.rules config.versionKey)
    written.readme.version (style.imp (Apart.grows grown))
  have onward := grown.trans styled.shape.grows
  obtain ⟨sourceFiles, finished⟩ := batch_write (FileRole.source.rules config.versionKey)
    written.readme.version (source.imp (Apart.grows onward))
  have ended : after = (syncOn config .write written.readme
      (disk.set place (.file written.readme.content))).2 := by rw [synced]
  have shape : SameShape (disk.set place (.file written.readme.content)) after :=
    ended ▸ styled.shape.trans finished.shape
  have there : after.destination config.readmeTxt = .ok place :=
    (destination_grows (grown.trans shape.grows)).mp named
  refine ⟨_, run_dryRun_ok looked, rfl, ?_, ?_⟩
  · have batches : written.style = ⟨(batch (FileRole.style.rules config.versionKey)
        written.readme.version .write _ config.styleFiles).1⟩ :=
      (congrArg (·.1.style) synced).symm
    rw [batches, styleFiles, syncOn]
    simp only [batch_dryRun]
    refine agree_outcomes _ fun path _ clear => ?_
    exact (outcome_congr _ _ (read_clear free _ shape there clear)).symm
  · have batches : written.source = ⟨(batch (FileRole.source.rules config.versionKey)
        written.readme.version .write _ config.phpFiles).1⟩ :=
      (congrArg (·.1.source) synced).symm
    rw [batches, sourceFiles, syncOn]
    simp only [batch_dryRun]
    refine agree_outcomes _ fun path _ clear => ?_
    obtain ⟨clean, apart⟩ := clear
    have kept := styled.read_apart fun other member => Apart.grows grown (apart other member)
    exact (outcome_congr _ _ (kept.trans (read_clear free _ shape there clean))).symm

/-- A project with one style file and the same file as its source file. -/
private def shared : Config :=
  { Config.standard with styleFiles := [['a']], phpFiles := [['a'], ['b']] }

/-- The two documents, and one file that declares a version. -/
private def documents : Disk where
  workingDirectory := []
  entries := [(["README.md".toList], .file []), (["CHANGELOG.md".toList], .file []),
    ([['a']], .file "* Version: 1.0.0".toList)]

/-- The style file is clear of the readme, so that the dry run has to agree on it. -/
theorem shared_dry_run_agrees :
    shared.styleFiles.Pairwise (Apart documents) ∧ shared.phpFiles.Pairwise (Apart documents) ∧
      ∃ written after, runOn shared .write documents = (.ok written, after) ∧
        ∃ dry, runOn shared .dryRun documents = (.ok dry, documents) ∧
          dry.readme = written.readme ∧
          Agree (ClearOfReadme shared documents after) dry.style written.style ∧
          Agree (fun path => ClearOfReadme shared documents after path ∧
            ∀ other ∈ shared.styleFiles, Apart documents other path) dry.source written.source := by
  have style : shared.styleFiles.Pairwise (Apart documents) := by decide
  have source : shared.phpFiles.Pairwise (Apart documents) := by decide
  have ends : (runOn shared .write documents).1.isOk = true := by decide +kernel
  refine ⟨style, source, ?_⟩
  cases ran : runOn shared .write documents with
  | mk result after =>
    cases result with
    | error failure => rw [ran] at ends; cases ends
    | ok written => exact ⟨written, after, rfl, dry_run_agrees style source ran⟩

/-- What a dry run would have to tell in advance: all that the run reports. -/
def Foretells (config : Config) (disk : Disk) : Prop :=
  ∀ written after, runOn config .write disk = (.ok written, after) →
    ∃ dry, runOn config .dryRun disk = (.ok dry, disk) ∧ dry.readme = written.readme ∧
      verdicts dry.style = verdicts written.style ∧ verdicts dry.source = verdicts written.source

/-- A project that lists its readme as a style file. -/
private def listed : Config := { Config.standard with styleFiles := ["readme.txt".toList] }

private theorem not_foretold (view : Report → List (Text × Except Text Status))
    (seen : ∀ dry written, verdicts dry.style = verdicts written.style →
      verdicts dry.source = verdicts written.source → view dry = view written)
    (ends : ((runOn config .write disk).1.map view).toOption.isSome)
    (differs : (runOn config .dryRun disk).1.map view ≠ (runOn config .write disk).1.map view) :
    ¬ Foretells config disk := by
  intro foretells
  cases ran : runOn config .write disk with
  | mk result after =>
    cases result with
    | error failure => rw [ran] at ends; cases ends
    | ok written =>
      obtain ⟨dry, looked, -, style, source⟩ := foretells written after ran
      apply differs
      rw [looked, ran]
      exact congrArg Except.ok (seen dry written style source)

/-- The dry run misses a readme that the run itself makes, and the version that the first batch
puts into a file of the second. -/
theorem dry_run_differs :
    (listed.styleFiles.Pairwise (Apart documents) ∧ listed.phpFiles.Pairwise (Apart documents) ∧
      ¬ Foretells listed documents) ∧
    shared.styleFiles.Pairwise (Apart documents) ∧ shared.phpFiles.Pairwise (Apart documents) ∧
      ¬ Foretells shared documents := by
  refine ⟨⟨by decide, by decide, ?_⟩, by decide, by decide, ?_⟩
  · exact not_foretold (fun report => verdicts report.style) (fun _ _ style _ => style)
      (by decide +kernel) (by decide +kernel)
  · exact not_foretold (fun report => verdicts report.source) (fun _ _ _ source => source)
      (by decide +kernel) (by decide +kernel)

end PluginReadme.DryRun
