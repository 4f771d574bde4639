import PluginReadme.Proofs.Project.RunSpec
import PluginReadme.Proofs.Version.UpToDate

/-! A run that follows a run. The first one leaves every file settled, so that the second one finds
the documents as they were, writes what is there already, and says of each file that failed what
was said before. -/
namespace PluginReadme.SecondRun
open Project Walk FileSync RunSpec UpToDate Numeral
open Version (Rule FileRole rewriteAll)

variable {config : Config} {disk after before : Disk} {written : Report} {path content : Text}
  {rules : List Rule} {version : Text} {paths more : List Text} {place : Place}

/-- Every text that the paths lead to is settled. -/
def SettledOn (rules : List Rule) (version : Text) (disk : Disk) (paths : List Text) : Prop :=
  ∀ place content, Target disk paths place content → Settled rules version content

/-- Rewriting once settles a text. -/
def Settles (rules : List Rule) (version : Text) : Prop :=
  ∀ content, Settled rules version (rewriteAll rules version content)

private theorem rewritten_settled (settles : Settles rules version)
    (far : Rewritten rules version before paths after) :
    SettledOn rules version after paths := by
  rintro place content ⟨path, member, located, file⟩
  rw [← locate_congr far.shape] at located
  by_cases target : ∃ old, Target before paths place old
  · obtain ⟨old, target⟩ := target
    rw [far.targets place old target] at file
    cases file
    exact settles old
  · rw [far.others place fun old held => target ⟨old, held⟩] at file
    exact absurd ⟨content, path, member, located, file⟩ target

/-- Rewriting other files leaves settled files settled. -/
private theorem settled_onward (settled : SettledOn rules version before paths)
    (far : Rewritten others version before more after)
    (apart : ∀ path ∈ paths, ∀ other ∈ more, Apart before path other) :
    SettledOn rules version after paths := by
  rintro place content ⟨path, member, located, file⟩
  rw [← locate_congr far.shape] at located
  refine settled place content ⟨path, member, located, ?_⟩
  rw [← file]
  refine (far.others place ?_).symm
  rintro old ⟨other, listed, there, held⟩
  have free : before.entry? place ≠ some .directory := by simp [held]
  exact apart path member other listed place (destination_of_locate located free)
    (destination_of_locate there free)

private theorem settled_same (settled : SettledOn rules version before paths)
    (same : Same before after) : SettledOn rules version after paths := by
  rintro place content ⟨path, member, located, file⟩
  rw [← locate_congr same.shape] at located
  rw [← same.entries] at file
  exact settled place content ⟨path, member, located, file⟩

/-- Settled files stay as they are. -/
private theorem same_of_settled (settled : SettledOn rules version before paths)
    (far : Rewritten rules version before paths after) : Same before after where
  working := far.shape.working
  entries place := by
    by_cases target : ∃ content, Target before paths place content
    · obtain ⟨content, target⟩ := target
      rw [far.targets place content target, rewriteAll_settled (settled place content target)]
      obtain ⟨_, _, _, file⟩ := target
      exact file
    · exact (far.others place fun content held => target ⟨content, held⟩).symm

/-- What is said of a file the second time: a failure is said again, and nothing is updated. -/
def repeated (file : FileReport) : FileReport :=
  { file with result := file.result.map fun _ => .unchanged }

private theorem outcome_repeated (far : Rewritten rules version before paths after)
    (settled : SettledOn rules version after paths) (member : path ∈ paths)
    (same : again.read path = after.read path) :
    (⟨path, outcome rules version again path⟩ : FileReport) =
      repeated ⟨path, outcome rules version before path⟩ := by
  cases found : before.read path with
  | error error => simp [outcome, repeated, same, found, far.read_failed found, Except.map]
  | ok content =>
    have read := far.read_target member found
    obtain ⟨place, located, file⟩ := read_ok_iff.mp read
    have fixed := rewriteAll_settled (settled place _ ⟨path, member, located, file⟩)
    simp [outcome, repeated, same, found, read, fixed, statusOf, Except.map]

theorem updated_repeated (files : List FileReport) :
    Batch.updated ⟨files.map repeated⟩ = [] := by
  rw [Batch.updated, Batch.withStatus, List.map_eq_nil_iff, List.filter_eq_nil_iff]
  intro file member
  obtain ⟨first, -, rfl⟩ := List.mem_map.mp member
  rcases first with ⟨path, error | status⟩ <;> simp [repeated, Except.map]

theorem failures_repeated (files : List FileReport) :
    Batch.failures ⟨files.map repeated⟩ = Batch.failures ⟨files⟩ := by
  induction files with
  | nil => rfl
  | cons file rest ih =>
    simp only [Batch.failures, List.map_cons, List.filter_cons] at ih ⊢
    rcases file with ⟨path, error | status⟩ <;> simpa [repeated, Except.map] using ih

/-! ## The two runs -/

/-- The documents, the readme and the files of both batches name pairwise different files. -/
def AllApart (config : Config) (disk : Disk) : Prop :=
  ([config.readmeMd, config.changelogMd, config.readmeTxt] ++ config.styleFiles ++
    config.phpFiles).Pairwise (Apart disk)

/-- What a run has done, stage by stage: the documents are read, the readme is put in its place,
then each batch rewrites its files. -/
structure Stages (config : Config) (disk : Disk) (readme : Generated) (place : Place)
    (middle styled after : Disk) : Prop where
  named : disk.destination config.readmeTxt = .ok place
  put : middle = disk.set place (.file readme.content)
  style : Rewritten (FileRole.style.rules config.versionKey) readme.version middle
    config.styleFiles styled
  source : Rewritten (FileRole.source.rules config.versionKey) readme.version styled
    config.phpFiles after

/-- What the batches report, each judged by the tree that it starts from. -/
def reportOn (config : Config) (readme : Generated) (middle styled : Disk) : Report where
  readme := readme
  style := ⟨config.styleFiles.map fun path =>
    ⟨path, outcome (FileRole.style.rules config.versionKey) readme.version middle path⟩⟩
  source := ⟨config.phpFiles.map fun path =>
    ⟨path, outcome (FileRole.source.rules config.versionKey) readme.version styled path⟩⟩

variable {readme : Generated} {middle styled : Disk} {text changes : Text}

theorem Stages.grows (stages : Stages config disk readme place middle styled after) :
    Grows disk middle :=
  stages.put ▸ set_grows (destination_free stages.named) _

theorem Stages.shape (stages : Stages config disk readme place middle styled after) :
    SameShape middle after :=
  stages.style.shape.trans stages.source.shape

/-- A run whose documents can be read and whose readme can be put in its place goes through its
stages. -/
theorem run_stages (style : config.styleFiles.Pairwise (Apart disk))
    (source : config.phpFiles.Pairwise (Apart disk))
    (input : disk.read config.readmeMd = .ok text)
    (changelog : disk.read config.changelogMd = .ok changes)
    (named : disk.destination config.readmeTxt = .ok place) :
    ∃ middle styled after,
      Stages config disk (made config text changes) place middle styled after ∧
      runOn config .write disk =
        (.ok (reportOn config (made config text changes) middle styled), after) := by
  have put := write_of_destination named (Readme.build text changes)
  have grown := set_grows (destination_free named) (Readme.build text changes)
  obtain ⟨styleFiles, styled⟩ := batch_write (FileRole.style.rules config.versionKey)
    (made config text changes).version (style.imp (Apart.grows grown))
  obtain ⟨sourceFiles, finished⟩ := batch_write (FileRole.source.rules config.versionKey)
    (made config text changes).version
    (source.imp (Apart.grows (grown.trans styled.shape.grows)))
  refine ⟨_, _, _, ⟨named, rfl, styled, finished⟩, ?_⟩
  have generated : generateOn config .write disk =
      (.ok (made config text changes), disk.set place (.file (Readme.build text changes))) := by
    simp only [generateOn, input, changelog, put]
  rw [run_eq, generated]
  simp only [syncOn, reportOn]
  rw [styleFiles, sourceFiles]
  rfl

/-- A run that ends well has gone through its stages. -/
theorem stages_of_run (style : config.styleFiles.Pairwise (Apart disk))
    (source : config.phpFiles.Pairwise (Apart disk))
    (ran : runOn config .write disk = (.ok written, after)) :
    ∃ text changes place middle styled, disk.read config.readmeMd = .ok text ∧
      disk.read config.changelogMd = .ok changes ∧
      Stages config disk (made config text changes) place middle styled after ∧
      written = reportOn config (made config text changes) middle styled := by
  obtain ⟨middle, generated, -⟩ := run_write_ok ran
  obtain ⟨-, text, changes, input, changelog, readme, put⟩ := generateOn_write generated
  obtain ⟨place, named, -⟩ := write_ok_iff.mp put
  obtain ⟨middle, styled, ended, stages, same⟩ := run_stages style source input changelog named
  rw [ran] at same
  obtain ⟨rfl, rfl⟩ : written = _ ∧ after = ended := by simpa using same
  exact ⟨text, changes, place, middle, styled, input, changelog, stages, rfl⟩

/-- A document that is apart from all that is written reads as before. -/
private theorem Stages.document (stages : Stages config disk readme place middle styled after)
    (found : disk.read path = .ok text) (readmeApart : Apart disk path config.readmeTxt)
    (style : ∀ other ∈ config.styleFiles, Apart disk path other)
    (source : ∀ other ∈ config.phpFiles, Apart disk path other) :
    after.read path = .ok text := by
  have kept : middle.read path = .ok text := by
    obtain ⟨home, located, file⟩ := read_ok_iff.mp found
    have elsewhere : home ≠ place := by
      rintro rfl
      exact readmeApart home (destination_of_locate located (by simp [file])) stages.named
    refine read_ok_iff.mpr ⟨home, locate_grows stages.grows located, ?_⟩
    rw [stages.put, entry_set (destination_free stages.named), if_neg elsewhere, file]
  have onward := stages.grows.trans stages.style.shape.grows
  rw [stages.source.read_apart fun other member => (source other member).symm.grows onward,
    stages.style.read_apart fun other member => (style other member).symm.grows stages.grows,
    kept]

/-- The readme is still there when the files have been rewritten. -/
private theorem Stages.readme_kept (stages : Stages config disk readme place middle styled after)
    (style : ∀ other ∈ config.styleFiles, Apart disk config.readmeTxt other)
    (source : ∀ other ∈ config.phpFiles, Apart disk config.readmeTxt other) :
    after.entry? place = some (.file readme.content) := by
  have untouched {tree : Disk} {paths : List Text} (grows : Grows disk tree)
      (apart : ∀ other ∈ paths, Apart disk config.readmeTxt other) (content : Text) :
      ¬ Target tree paths place content := by
    rintro ⟨other, member, located, file⟩
    exact (apart other member).grows grows place ((destination_grows grows).mp stages.named)
      (destination_of_locate located (by simp [file]))
  rw [stages.source.others place (untouched (stages.grows.trans stages.style.shape.grows) source),
    stages.style.others place (untouched stages.grows style), stages.put,
    entry_set (destination_free stages.named), if_pos rfl]

/-! ## What is settled -/

/-- A batch that is run again says of each file what was said before, but that nothing is
updated. -/
structure Repeats (first again : Batch) : Prop where
  files : again.files = first.files.map repeated
  updated : again.updated = []
  failures : again.failures = first.failures

private theorem repeats_of_files {first again : Batch}
    (files : again.files = first.files.map repeated) : Repeats first again := by
  obtain ⟨files'⟩ := again
  obtain rfl : files' = _ := files
  exact ⟨rfl, updated_repeated first.files, failures_repeated first.files⟩

/-- In the tree that a run leaves, the first declaration of each kind in every file that did not
fail carries the version of the readme. -/
structure Carried (config : Config) (after : Disk) (written : Report) : Prop where
  style : ∀ file ∈ written.style.files, file.result.isOk = true → ∃ text,
    after.read file.path = .ok text ∧
      FirstCarries (HeaderAt config.versionKey) text written.readme.version
  source : ∀ file ∈ written.source.files, file.result.isOk = true → ∃ text,
    after.read file.path = .ok text ∧
      FirstCarries DocblockAt text written.readme.version ∧
      FirstCarries ConstantAt text written.readme.version

private theorem read_of_outcome (done : (outcome rules version disk path).isOk = true) :
    ∃ content, disk.read path = .ok content := by
  cases found : disk.read path with
  | error error => simp [outcome, found, Except.isOk, Except.toBool] at done
  | ok content => exact ⟨content, rfl⟩

/-- Who is apart from whom. -/
private structure Roles (config : Config) (disk : Disk) : Prop where
  style : config.styleFiles.Pairwise (Apart disk)
  source : config.phpFiles.Pairwise (Apart disk)
  across : ∀ path ∈ config.styleFiles, ∀ other ∈ config.phpFiles, Apart disk path other
  documents : ∀ path ∈ [config.readmeMd, config.changelogMd, config.readmeTxt],
    (∀ other ∈ config.styleFiles, Apart disk path other) ∧
      ∀ other ∈ config.phpFiles, Apart disk path other
  readme : Apart disk config.readmeMd config.readmeTxt
  changelog : Apart disk config.changelogMd config.readmeTxt

private theorem roles_of_apart (apart : AllApart config disk) : Roles config disk := by
  obtain ⟨front, source, before⟩ := List.pairwise_append.mp apart
  obtain ⟨documents, style, ahead⟩ := List.pairwise_append.mp front
  simp only [List.pairwise_cons, List.mem_cons, List.not_mem_nil, or_false, forall_eq_or_imp,
    forall_eq] at documents
  exact ⟨style, source,
    fun path member other later => before path (List.mem_append_right _ member) other later,
    fun path member => ⟨ahead path member, before path (List.mem_append_left _ member)⟩,
    documents.1.2, documents.2.1⟩

private theorem Stages.across (stages : Stages config disk readme place middle styled after)
    (roles : Roles config disk) :
    ∀ path ∈ config.styleFiles, ∀ other ∈ config.phpFiles, Apart styled path other :=
  fun path member other later =>
    (roles.across path member other later).grows (stages.grows.trans stages.style.shape.grows)

/-- The batch of source files leaves the style files alone. -/
private theorem Stages.style_kept (stages : Stages config disk readme place middle styled after)
    (roles : Roles config disk) (member : path ∈ config.styleFiles) :
    after.read path = styled.read path :=
  stages.source.read_apart fun other later => (stages.across roles path member other later).symm

private theorem Stages.carried (stages : Stages config disk readme place middle styled after)
    (roles : Roles config disk) (literal : LiteralKey config.versionKey)
    (number : IsNumber readme.version) :
    Carried config after (reportOn config readme middle styled) := by
  have settles := rewriteAll_settles literal number
  constructor
  · intro file member done
    obtain ⟨path, listed, rfl⟩ := List.mem_map.mp member
    obtain ⟨content, found⟩ := read_of_outcome done
    have read := stages.style.read_target listed found
    exact ⟨_, (stages.style_kept roles listed).trans read,
      header_carries literal number (settles .style content)⟩
  · intro file member done
    obtain ⟨path, listed, rfl⟩ := List.mem_map.mp member
    obtain ⟨content, found⟩ := read_of_outcome done
    exact ⟨_, stages.source.read_target listed found,
      docblock_carries number (settles .source content),
      constant_carries number (settles .source content)⟩

/-- The stages of a run that follows: its files are settled, so that no stage changes the tree. -/
private theorem Stages.same (stages : Stages config disk readme place middle styled after)
    (stages' : Stages config after readme place middle' styled' last)
    (roles : Roles config disk) (literal : LiteralKey config.versionKey)
    (number : IsNumber readme.version) :
    Same after middle' ∧ Same after styled' ∧ Same after last := by
  have settles := rewriteAll_settles literal number
  have settledStyle := settled_onward (rewritten_settled (settles .style) stages.style)
    stages.source (stages.across roles)
  have settledSource := rewritten_settled (settles .source) stages.source
  have readmeApart := roles.documents config.readmeTxt (by simp)
  have kept := stages.readme_kept readmeApart.1 readmeApart.2
  have same : Same after middle' := by
    refine ⟨stages'.grows.working, ?_⟩
    intro other
    rw [stages'.put, entry_set (destination_free stages'.named)]
    split
    · rename_i here
      rw [here, kept]
    · rfl
  have sameStyled := same.trans
    (same_of_settled (settled_same settledStyle same) stages'.style)
  have sameLast := sameStyled.trans
    (same_of_settled (settled_same settledSource sameStyled) stages'.source)
  exact ⟨same, sameStyled, sameLast⟩

/-- When all files of a project are apart and the key of its style sheets is literal, a run leaves
the version of the readme as the first one in every file that did not fail, and a second run ends
well with the same readme, updates nothing, fails where the first one did, and leaves the tree as
it was. -/
theorem second_run_changes_nothing (apart : AllApart config disk)
    (literal : LiteralKey config.versionKey)
    (ran : runOn config .write disk = (.ok written, after)) :
    Carried config after written ∧
      ∃ again last, runOn config .write after = (.ok again, last) ∧
        again.readme = written.readme ∧ Repeats written.style again.style ∧
        Repeats written.source again.source ∧ Same after last := by
  have roles := roles_of_apart apart
  obtain ⟨text, changes, place, middle, styled, input, changelog, stages, rfl⟩ :=
    stages_of_run roles.style roles.source ran
  have number : IsNumber (made config text changes).version := find_number text config.stableTag
  have settles := rewriteAll_settles literal number
  refine ⟨stages.carried roles literal number, ?_⟩
  have documentRead (path : Text) (member : path ∈ [config.readmeMd, config.changelogMd])
      (aside : Apart disk path config.readmeTxt) {content : Text}
      (found : disk.read path = .ok content) : after.read path = .ok content := by
    have beside := roles.documents path (List.mem_append_left [config.readmeTxt] member)
    exact stages.document found aside beside.1 beside.2
  have grown := stages.grows.trans stages.shape.grows
  obtain ⟨middle', styled', last, stages', ran'⟩ := run_stages
    (roles.style.imp (Apart.grows grown)) (roles.source.imp (Apart.grows grown))
    (documentRead config.readmeMd (by simp) roles.readme input)
    (documentRead config.changelogMd (by simp) roles.changelog changelog)
    ((destination_grows grown).mp stages.named)
  obtain ⟨same, sameStyled, sameLast⟩ := stages.same stages' roles literal number
  refine ⟨_, last, ran', rfl, repeats_of_files ?_, repeats_of_files ?_, sameLast⟩
  · simp only [reportOn, List.map_map]
    apply List.map_congr_left
    intro path member
    exact outcome_repeated stages.style (rewritten_settled (settles .style) stages.style) member
      ((read_congr same.symm path).trans (stages.style_kept roles member))
  · simp only [reportOn, List.map_map]
    apply List.map_congr_left
    intro path member
    exact outcome_repeated stages.source (rewritten_settled (settles .source) stages.source) member
      (read_congr sameStyled.symm path)

/-- A project with one file of each role. -/
private def project : Config :=
  { Config.standard with styleFiles := [['a'], ['c']], phpFiles := [['b']] }

private def files : Disk where
  workingDirectory := []
  entries := [(["README.md".toList], .file "Stable tag: 2.0.0".toList),
    (["CHANGELOG.md".toList], .file []), ([['a']], .file "Version : 1.0.0".toList),
    ([['b']], .file "Version: 1.0.0 define('A_VERSION', '1.0.0');".toList)]

/-- One file of each role is updated and one is missing. -/
theorem project_second_run_changes_nothing :
    AllApart project files ∧ LiteralKey project.versionKey ∧
      ∃ written after, runOn project .write files = (.ok written, after) ∧
        Carried project after written ∧
        ∃ again last, runOn project .write after = (.ok again, last) ∧
          again.readme = written.readme ∧ Repeats written.style again.style ∧
          Repeats written.source again.source ∧ Same after last := by
  have apart : AllApart project files := by
    unfold AllApart
    decide
  have literal : LiteralKey project.versionKey := Or.inl (by decide)
  have ends : (runOn project .write files).1.isOk = true := by decide +kernel
  refine ⟨apart, literal, ?_⟩
  cases ran : runOn project .write files with
  | mk result after =>
    cases result with
    | error failure => rw [ran] at ends; cases ends
    | ok written => exact ⟨written, after, rfl, second_run_changes_nothing apart literal ran⟩

end PluginReadme.SecondRun
