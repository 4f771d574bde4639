import PluginReadme.Proofs.Project.RunSpec
import PluginReadme.Proofs.Project.Schedule

/-! A run beside the same work done in order: the readme is put in its place, then the texts of the
style files are replaced one after the other, then those of the source files. Each replacement
starts from the tree that the ones before it have left, so that a file may stand in several places
of a configuration. -/
namespace PluginReadme.Stepwise
open Project Walk FileSync RunSpec Schedule
open Version (FileRole rewriteAll)

/-- The tree in which the text at a path is replaced by what is made of it. A path that cannot be
read is passed over. -/
def replaced (make : Text → Text) (disk : Disk) (path : Text) : Disk :=
  match disk.read path with
  | .error _ => disk
  | .ok content =>
    match disk.write path (make content) with
    | .error _ => disk
    | .ok after => after

/-- What is to be said of a file: whether replacing its text has changed it, or why it could not be
read. -/
inductive Verdict (make : Text → Text) (disk : Disk) (path : Text) :
    Except Failure Status → Prop where
  | updated {content : Text} (found : disk.read path = .ok content)
      (changed : (replaced make disk path).read path ≠ .ok content) :
      Verdict make disk path (.ok .updated)
  | unchanged {content : Text} (found : disk.read path = .ok content)
      (kept : (replaced make disk path).read path = .ok content) :
      Verdict make disk path (.ok .unchanged)
  | failed {error : FileError} (unread : disk.read path = .error error) :
      Verdict make disk path (.error (.ofTarget path error))

/-- The verdicts on files whose texts are replaced one after the other. -/
inductive Verdicts (make : Text → Text) : Disk → List Text → List FileReport → Prop where
  | nil {disk : Disk} : Verdicts make disk [] []
  | cons {disk : Disk} {path : Text} {result : Except Failure Status} {paths : List Text}
      {files : List FileReport} (verdict : Verdict make disk path result)
      (rest : Verdicts make (replaced make disk path) paths files) :
      Verdicts make disk (path :: paths) (⟨path, result⟩ :: files)

/-- What the text of a file of a role becomes. -/
def rewriting (config : Config) (report : Report) (role : FileRole) : Text → Text :=
  rewriteAll (role.rules config.versionKey) report.readme.version

/-- A run whose files are worked on at the same time, batch after batch. -/
inductive AtOnce (config : Config) (disk : Disk) : Report → Disk → Prop where
  | ended {readme : Generated} {said : Log} {made : Disk} {first second : Pool}
      (generated : does (generate config .write) [] disk = ((.ok readme, said), made))
      (style : Steps (.start .style config.versionKey readme.version .write config.styleFiles made)
        first) (styleEnded : Ended first)
      (source : Steps (.start .source config.versionKey readme.version .write config.phpFiles
        first.disk) second) (sourceEnded : Ended second) :
      AtOnce config disk ⟨readme, first.report, second.report⟩ second.disk

/-- The tree in the end and the report are those of the work done in order, and nothing is
different but at the places that the paths of a configuration name. -/
structure InOrder (config : Config) (disk : Disk) (report : Report) (made styled after : Disk) :
    Prop where
  put : disk.write config.readmeTxt report.readme.content = .ok made
  styled_eq : styled = config.styleFiles.foldl (replaced (rewriting config report .style)) made
  after_eq : after = config.phpFiles.foldl (replaced (rewriting config report .source)) styled
  style : Verdicts (rewriting config report .style) made config.styleFiles report.style.files
  source : Verdicts (rewriting config report .source) styled config.phpFiles report.source.files
  others : ∀ place, (∀ path ∈ config.readmeTxt :: (config.styleFiles ++ config.phpFiles),
    disk.destination path ≠ .ok place) → after.entry? place = disk.entry? place
  working : after.workingDirectory = disk.workingDirectory

variable {make : Text → Text} {config : Config} {disk after last made : Disk} {report : Report}
  {path content : Text} {paths : List Text} {place : Place}

/-! ## One file -/

private theorem replaced_ok (located : disk.locate path = .ok place)
    (file : disk.entry? place = some (.file content)) :
    replaced make disk path = disk.set place (.file (make content)) := by
  have found := read_ok_iff.mpr ⟨place, located, file⟩
  simp only [replaced, found, write_of_read located file]

private theorem replaced_error {error : FileError} (unread : disk.read path = .error error) :
    replaced make disk path = disk := by
  simp only [replaced, unread]

private theorem replaced_shape (make : Text → Text) (disk : Disk) (path : Text) :
    SameShape disk (replaced make disk path) := by
  cases found : disk.read path with
  | error error =>
    rw [replaced_error found]
    exact SameShape.refl disk
  | ok content =>
    obtain ⟨place, located, file⟩ := read_ok_iff.mp found
    rw [replaced_ok located file]
    exact set_shape (by simp [file]) (by simp [file]) _

/-- A text that is replaced is read back as what was made of it. -/
private theorem replaced_read (found : disk.read path = .ok content) :
    (replaced make disk path).read path = .ok (make content) := by
  obtain ⟨place, located, file⟩ := read_ok_iff.mp found
  have shape := replaced_shape make disk path
  refine read_ok_iff.mpr ⟨place, ?_, ?_⟩
  · rw [← locate_congr shape, located]
  · rw [replaced_ok located file, entry_set (by simp [file]), if_pos rfl]

/-- Replacing a text changes nothing but the place that its path names. -/
private theorem replaced_others (elsewhere : disk.destination path ≠ .ok place) :
    Disk.entry? (replaced make disk path) place = disk.entry? place := by
  cases found : disk.read path with
  | error error => rw [replaced_error found]
  | ok content =>
    obtain ⟨home, located, file⟩ := read_ok_iff.mp found
    rw [replaced_ok located file, entry_set (by simp [file]), if_neg]
    rintro rfl
    exact elsewhere (destination_of_locate located (by simp [file]))

private theorem replaced_eq_synced (rules : List Version.Rule) (version : Text) (disk : Disk)
    (path : Text) :
    replaced (rewriteAll rules version) disk path = synced rules version .write disk path := by
  cases found : disk.read path with
  | error error => simp [replaced_error found, synced, found]
  | ok content =>
    obtain ⟨place, located, file⟩ := read_ok_iff.mp found
    simp [replaced_ok located file, synced, found, located]

private theorem outcome_verdict (rules : List Version.Rule) (version : Text) (disk : Disk)
    (path : Text) :
    Verdict (rewriteAll rules version) disk path (outcome rules version disk path) := by
  cases found : disk.read path with
  | error error =>
    have said : outcome rules version disk path = .error (.ofTarget path error) := by
      simp [outcome, found]
    exact said ▸ .failed found
  | ok content =>
    have read := @replaced_read (rewriteAll rules version) _ _ _ found
    by_cases same : rewriteAll rules version content = content
    · have said : outcome rules version disk path = .ok .unchanged := by
        simp [outcome, found, statusOf, same]
      rw [same] at read
      exact said ▸ .unchanged found read
    · have said : outcome rules version disk path = .ok .updated := by
        simp [outcome, found, statusOf, same]
      have changed : (replaced (rewriteAll rules version) disk path).read path ≠ .ok content := by
        rw [read]
        intro again
        exact same (Except.ok.inj again)
      exact said ▸ .updated found changed

/-! ## A batch -/

private theorem batch_in_order (rules : List Version.Rule) (version : Text) (disk : Disk)
    (paths : List Text) :
    Verdicts (rewriteAll rules version) disk paths (batch rules version .write disk paths).1 ∧
      (batch rules version .write disk paths).2 =
        paths.foldl (replaced (rewriteAll rules version)) disk := by
  induction paths generalizing disk with
  | nil => exact ⟨.nil, rfl⟩
  | cons path rest ih =>
    obtain ⟨verdicts, tree⟩ := ih (synced rules version .write disk path)
    rw [← replaced_eq_synced] at verdicts
    refine ⟨.cons (outcome_verdict rules version disk path) ?_, ?_⟩
    · rw [← replaced_eq_synced]
      exact verdicts
    · rw [List.foldl_cons, replaced_eq_synced]
      exact tree

private theorem replacements_shape (make : Text → Text) (disk : Disk) (paths : List Text) :
    SameShape disk (paths.foldl (replaced make) disk) := by
  induction paths generalizing disk with
  | nil => exact SameShape.refl disk
  | cons path rest ih => exact (replaced_shape make disk path).trans (ih _)

private theorem replacements_others
    (elsewhere : ∀ path ∈ paths, disk.destination path ≠ .ok place) :
    Disk.entry? (paths.foldl (replaced make) disk) place = disk.entry? place := by
  induction paths generalizing disk with
  | nil => rfl
  | cons path rest ih =>
    rw [List.foldl_cons, ih, replaced_others (elsewhere path List.mem_cons_self)]
    intro other member
    rw [← destination_congr (replaced_shape make disk path)]
    exact elsewhere other (List.mem_cons_of_mem path member)

/-! ## The run -/

/-- The batches that follow once the readme has been put in its place. -/
private theorem in_order_of_put {readme : Generated}
    (put : disk.write config.readmeTxt readme.content = .ok made) :
    ∃ styled, InOrder config disk (syncOn config .write readme made).1 made styled
      (syncOn config .write readme made).2 := by
  obtain ⟨home, named, filled⟩ := write_ok_iff.mp put
  have free := destination_free named
  have grown : Grows disk made := filled ▸ set_grows free _
  obtain ⟨style, styled⟩ := batch_in_order (FileRole.style.rules config.versionKey)
    readme.version made config.styleFiles
  obtain ⟨source, ended⟩ := batch_in_order (FileRole.source.rules config.versionKey)
    readme.version
    (batch (FileRole.style.rules config.versionKey) readme.version .write made config.styleFiles).2
    config.phpFiles
  have shape := replacements_shape (rewriteAll (FileRole.style.rules config.versionKey)
    readme.version) made config.styleFiles
  rw [← styled] at shape
  refine ⟨_, put, styled, ended, style, source, ?_, ?_⟩
  · intro place elsewhere
    have there (path : Text)
        (member : path ∈ config.readmeTxt :: (config.styleFiles ++ config.phpFiles)) :
        made.destination path ≠ .ok place := by
      rw [Ne, ← destination_grows grown]
      exact elsewhere path member
    rw [syncOn, ended, replacements_others, styled, replacements_others, filled, entry_set free,
      if_neg]
    · rintro rfl
      exact elsewhere config.readmeTxt List.mem_cons_self named
    · intro path member
      exact there path (by simp [member])
    · intro path member
      rw [← destination_congr shape]
      exact there path (by simp [member])
  · rw [syncOn, ended, ← (replacements_shape _ _ _).working, ← shape.working, grown.working]

/-- A batch whose tasks have all ended in some schedule has the reports and the tree of the batch
that is worked on file by file, if it starts from the same tree. -/
private theorem pool_eq_batch {role : FileRole} {key version : Text} {start : Disk} {pool : Pool}
    (apart : paths.Pairwise (Apart disk)) (same : Same start disk)
    (steps : Steps (.start role key version .write paths start) pool) (ended : Ended pool) :
    pool.report = ⟨(batch (role.rules key) version .write disk paths).1⟩ ∧
      Same (batch (role.rules key) version .write disk paths).2 pool.disk := by
  have coherent := coherent_steps (apart.imp (Apart.grows same.symm.shape.grows)) steps
  obtain ⟨files, rewritten⟩ := batch_write (role.rules key) version apart
  constructor
  · have reported := report_eq coherent ended
    simp only [outcome_congr _ _ (read_congr same _)] at reported
    rw [files, ← reported]
  · have finished : Rewritten (role.rules key) version start paths pool.disk :=
      through_ended coherent ended
    exact rewritten.same (finished.before_same same)

private theorem run_of_atOnce (style : config.styleFiles.Pairwise (Apart disk))
    (source : config.phpFiles.Pairwise (Apart disk)) (ran : AtOnce config disk report last) :
    ∃ after, runOn config .write disk = (.ok report, after) ∧ Same after last := by
  obtain ⟨generated, stylePool, styleEnded, sourcePool, sourceEnded⟩ := ran
  rename_i readme said made first second
  obtain ⟨more, opened⟩ := does_generate config .write [] disk
  rw [generated] at opened
  have stage : generateOn config .write disk = (.ok readme, made) := by
    simp only [Prod.mk.injEq] at opened
    exact Prod.ext opened.1.1.symm opened.2.symm
  obtain ⟨-, -, -, -, -, -, put⟩ := generateOn_write stage
  obtain ⟨home, named, filled⟩ := write_ok_iff.mp put
  have grown : Grows disk made := filled ▸ set_grows (destination_free named) _
  have styleApart := style.imp (Apart.grows grown)
  obtain ⟨styleReport, styleTree⟩ :=
    pool_eq_batch styleApart (Same.refl made) stylePool styleEnded
  have styled := (batch_write (FileRole.style.rules config.versionKey) readme.version
    styleApart).2
  obtain ⟨sourceReport, sourceTree⟩ := pool_eq_batch
    (source.imp (Apart.grows (grown.trans styled.shape.grows))) styleTree.symm sourcePool
    sourceEnded
  refine ⟨_, ?_, sourceTree⟩
  rw [run_eq, stage]
  simp only [syncOn, styleReport, sourceReport]

private theorem atOnce_of_run (style : config.styleFiles.Pairwise (Apart disk))
    (source : config.phpFiles.Pairwise (Apart disk))
    (ran : runOn config .write disk = (.ok report, after)) :
    ∃ last, AtOnce config disk report last := by
  obtain ⟨made, generated, -⟩ := run_write_ok ran
  obtain ⟨said, opened⟩ := does_generate config .write [] disk
  rw [generated] at opened
  obtain ⟨first, stylePool, styleEnded⟩ := start_ends .style config.versionKey
    report.readme.version .write config.styleFiles made
  obtain ⟨second, sourcePool, sourceEnded⟩ := start_ends .source config.versionKey
    report.readme.version .write config.phpFiles first.disk
  have scheduled := AtOnce.ended opened stylePool styleEnded sourcePool sourceEnded
  obtain ⟨again, alone, _⟩ := run_of_atOnce style source scheduled
  rw [ran] at alone
  obtain ⟨same, -⟩ := Prod.mk.inj alone
  exact ⟨second.disk, Except.ok.inj same ▸ scheduled⟩

/-- A run that writes goes in order. So does every run whose batches are worked on by a schedule,
of which there is at least one: it has the same report, and the same entry at every place in the
end. -/
theorem run_goes_in_order (style : config.styleFiles.Pairwise (Apart disk))
    (source : config.phpFiles.Pairwise (Apart disk)) :
    (∀ report after, runOn config .write disk = (.ok report, after) →
        (∃ made styled, InOrder config disk report made styled after) ∧
        ∃ last, AtOnce config disk report last) ∧
      ∀ report last, AtOnce config disk report last →
        ∃ made styled after, runOn config .write disk = (.ok report, after) ∧
          InOrder config disk report made styled after ∧ Same after last := by
  have inOrder : ∀ report after, runOn config .write disk = (.ok report, after) →
      ∃ made styled, InOrder config disk report made styled after := by
    intro report after ran
    obtain ⟨made, generated, synced⟩ := run_write_ok ran
    obtain ⟨-, -, -, -, -, -, put⟩ := generateOn_write generated
    obtain ⟨styled, ordered⟩ := in_order_of_put put
    rw [synced] at ordered
    exact ⟨made, styled, ordered⟩
  constructor
  · intro report after ran
    exact ⟨inOrder report after ran, atOnce_of_run style source ran⟩
  · intro report last ran
    obtain ⟨after, alone, same⟩ := run_of_atOnce style source ran
    obtain ⟨made, styled, ordered⟩ := inOrder report after alone
    exact ⟨made, styled, after, alone, ordered, same⟩

/-- A project that lists its readme in both batches, with a file that is not there. -/
private def tangled : Config :=
  { Config.standard with
    styleFiles := ["readme.txt".toList, ['a']], phpFiles := [['a'], ['b'], "readme.txt".toList] }

/-- The two documents, and one file that declares a version in the way of both roles. -/
private def documents : Disk where
  workingDirectory := []
  entries := [(["README.md".toList], .file "Version: 1.0.0".toList),
    (["CHANGELOG.md".toList], .file []), ([['a']], .file "* Version: 1.0.0".toList)]

/-- The readme is made and then brought up to date as a style file and as a source file. -/
theorem tangled_run_goes_in_order :
    tangled.styleFiles.Pairwise (Apart documents) ∧ tangled.phpFiles.Pairwise (Apart documents) ∧
      ∃ report after, runOn tangled .write documents = (.ok report, after) ∧
        (∃ made styled, InOrder tangled documents report made styled after) ∧
        ∃ last, AtOnce tangled documents report last ∧ Same after last := by
  have style : tangled.styleFiles.Pairwise (Apart documents) := by decide
  have source : tangled.phpFiles.Pairwise (Apart documents) := by decide
  have ends : (runOn tangled .write documents).1.isOk = true := by decide +kernel
  obtain ⟨forward, back⟩ := run_goes_in_order style source
  refine ⟨style, source, ?_⟩
  cases ran : runOn tangled .write documents with
  | mk result after =>
    cases result with
    | error failure => rw [ran] at ends; cases ends
    | ok report =>
      obtain ⟨inOrder, last, scheduled⟩ := forward report after ran
      obtain ⟨_, _, again, alone, _, same⟩ := back report last scheduled
      rw [ran] at alone
      obtain ⟨-, rfl⟩ := Prod.mk.inj alone
      exact ⟨report, after, rfl, inOrder, last, scheduled, same⟩

end PluginReadme.Stepwise
