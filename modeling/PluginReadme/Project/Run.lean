import PluginReadme.Project.Sync
import PluginReadme.Readme.Render
import PluginReadme.Version.Found

/-!
A run on a project: the readme is made from its documents, then the version that the readme
declares is brought into the style sheets and the source files.
-/

namespace PluginReadme.Project

/-- A computation that keeps a log and can fail; the log stays when it fails. -/
abbrev Task (m : Type → Type) := ExceptT Failure (StateT Log m)

/-- The readme that was made. -/
structure Generated where
  path : Text
  version : Text
  content : Text
  /-- Whether the document declares the version, so that it is not the one that stands in. -/
  isDeclared : Bool
  deriving DecidableEq, Repr

/-- What a run did. -/
structure Report where
  readme : Generated
  style : Batch
  source : Batch
  deriving DecidableEq, Repr

/-- Whether no file failed. -/
def Report.isOk (report : Report) : Bool := report.style.isOk && report.source.isOk

variable [Monad m] [Files m]

/-- Adds events to the log. -/
def log (events : Log) : Task m Unit := modify (· ++ events)

/-- Reads a document. -/
def readInput (path : Text) : Task m Text := do
  match ← (Files.read path : m _) with
  | .ok content => return content
  | .error error => throw (.inputNotRead path error)

/-- What is said when a document declares no version. -/
private def undeclared (config : Config) : Event where
  level := .warn
  target := Event.targetOf "pipeline"
  message := "no version found in ".toList ++ config.readmeMd ++ ", falling back to ".toList
    ++ Version.fallback
  fields := [("pattern".toList, config.stableTag)]

/-- What is said of a document that was read. -/
private def parsed (document : Document) : Event where
  level := .debug
  target := Event.targetOf "document"
  message := "parsed markdown document".toList
  fields := [("blocks".toList, (toString document.blocks.length).toList)]

/-- What is said of the readme. -/
private def generated (mode : Mode) (path : Text) : Event where
  level := .info
  target := Event.targetOf "pipeline"
  message := match mode with
    | .write => "Generated ".toList ++ path
    | .dryRun => path ++ " would be generated".toList
  fields := []

/-- Makes the readme of a project.  Nothing is written unless both documents can be read. -/
def generate (config : Config) (mode : Mode) : Task m Generated := do
  let readme ← readInput config.readmeMd
  let changelog ← readInput config.changelogMd
  let found := Version.find readme config.stableTag
  log (labelEvents config.stableTag (Version.lineLabel config.stableTag))
  if found.isNone then log [undeclared config]
  let content := Readme.build readme changelog
  log [parsed (.ofMarkdown readme), parsed (.ofMarkdown (Readme.stripLeadingTitle changelog))]
  if mode = .write then
    match ← (Files.write config.readmeTxt content : m _) with
    | .ok () => pure ()
    | .error error => throw (.outputNotWritten config.readmeTxt error)
  log [generated mode config.readmeTxt]
  return ⟨config.readmeTxt, found.getD Version.fallback, content, found.isSome⟩

/-- Makes the readme and brings the version into the style sheets, then into the source files. -/
def run (config : Config) (mode : Mode) : Task m Report := do
  let readme ← generate config mode
  let sync (role : Version.FileRole) (files : List Text) : StateT Log m Batch :=
    syncFiles role config.versionKey readme.version mode files
  let style ← sync .style config.styleFiles
  let source ← sync .source config.phpFiles
  return ⟨readme, style, source⟩

/-- Reads the configuration at a path. -/
def loadConfig (path : Text) : Task m Config := do
  match ← (Files.read path : m _) with
  | .error .notFound => throw (.configNotFound path)
  | .error error => throw (.access error)
  | .ok content =>
    match Config.ofJson content with
    | .ok config => return config
    | .error failure => throw (.configRefused path (failure.message content))

/-- What is said of the configuration that was read. -/
private def loaded (path : Text) : Event where
  level := .debug
  target := Event.targetOf "pipeline"
  message := "loaded config".toList
  fields := [("config".toList, path)]

/-- Runs on the project in a directory, with its own configuration or a named one. -/
def runIn (root : Text) (named : Option Text) (mode : Mode) : Task m Report := do
  let path := Config.path root named
  let config ← loadConfig path
  log [loaded path]
  run (config.resolve root) mode

/-- What comes of a task, and its log. -/
def Task.outcome (task : Task m α) : m (Except Failure α × Log) := task.run.run []

end PluginReadme.Project
