import PluginReadme.Log
import PluginReadme.Project.Failure
import PluginReadme.Version.Declaration

/-!
Bringing the version in files up to date, batch by batch.  A file that fails is reported and does
not keep the others from being written.
-/

namespace PluginReadme.Project

open Version (FileRole Rule rewriteAll)

/-- Whether files are written or only looked at. -/
inductive Mode where
  | write
  | dryRun
  deriving DecidableEq, Repr

/-- What comes of a file: `updated` if its declarations change. -/
inductive Status where
  | updated
  | unchanged
  deriving DecidableEq, Repr

/-- A file and what came of it. -/
structure FileReport where
  path : Text
  result : Except Failure Status
  deriving DecidableEq, Repr

/-- The files of a batch in the order in which they were given. -/
structure Batch where
  files : List FileReport
  deriving DecidableEq, Repr

namespace Batch

def withStatus (status : Status) (batch : Batch) : List Text :=
  (batch.files.filter fun file => match file.result with
    | .ok found => found == status
    | .error _ => false).map (·.path)

/-- The files that were given another version. -/
def updated (batch : Batch) : List Text := batch.withStatus .updated

/-- The files that have the version or no declaration at all. -/
def unchanged (batch : Batch) : List Text := batch.withStatus .unchanged

/-- The files that failed. -/
def failures (batch : Batch) : List Text :=
  (batch.files.filter fun file => match file.result with
    | .ok _ => false
    | .error _ => true).map (·.path)

/-- Whether no file failed. -/
def isOk (batch : Batch) : Bool := batch.failures.isEmpty

end Batch

/-- What a text becomes, and whether that is a change. -/
def statusOf (content rewritten : Text) : Status :=
  if rewritten = content then .unchanged else .updated

/-- Brings the version in one file up to date. -/
def syncFile [Monad m] [Files m] (rules : List Rule) (version : Text) (mode : Mode)
    (path : Text) : m (Except Failure Status) := do
  match ← Files.read path with
  | .error error => return .error (.ofTarget path error)
  | .ok content =>
    let rewritten := rewriteAll rules version content
    match mode with
    | .dryRun => return .ok (statusOf content rewritten)
    | .write =>
      match ← Files.write path rewritten with
      | .error error => return .error (.ofTarget path error)
      | .ok () => return .ok (statusOf content rewritten)

/-- What is said of a label that is no valid pattern. -/
def labelEvents (label : Text) (read : Label) : Log :=
  if read.isLiteral then
    [{ level := .debug
       target := Event.targetOf "version"
       message := "pattern is not a valid regex, matching literally".toList
       fields := [("label".toList, Text.quoted label)] }]
  else []

/-- What is said of the key of the files of a role. -/
def keyEvents (key : Text) : FileRole → Log
  | .style => labelEvents key (Version.keyLabel key)
  | .source => []

/-- What is said of a file. -/
def FileReport.event (version : Text) (mode : Mode) (file : FileReport) : Event :=
  let event (level : Level) (message : Text) : Event :=
    ⟨level, Event.targetOf "sync", message, []⟩
  match file.result with
  | .ok .updated =>
    let change := match mode with
      | .dryRun => " would be updated to version ".toList
      | .write => " updated with version ".toList
    event .info (file.path ++ change ++ version)
  | .ok .unchanged => event .debug (file.path ++ " has no version declaration to update".toList)
  | .error (.targetMissing _) => event .warn (file.path ++ " does not exist, skipping".toList)
  | .error failure =>
    event .error ("error updating ".toList ++ file.path ++ ": ".toList ++ failure.message)

/-- Brings the version in files of one role up to date, in the order in which they are given. -/
def syncFiles [Monad m] [Files m] (role : FileRole) (key version : Text) (mode : Mode)
    (paths : List Text) : StateT Log m Batch := do
  let rules := role.rules key
  let files ← paths.mapM fun path => do
    return ⟨path, ← (syncFile rules version mode path : m _)⟩
  modify fun log => log ++ keyEvents key role ++ files.map (FileReport.event version mode)
  return ⟨files⟩

end PluginReadme.Project
