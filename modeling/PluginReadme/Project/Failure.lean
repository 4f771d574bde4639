import PluginReadme.Config.Json
import PluginReadme.Files.Access

/-!
Why a run on a project fails, or a file of a project cannot be brought up to date.
-/

namespace PluginReadme.Project

/-- A failure. -/
inductive Failure where
  /-- The configuration cannot be read. -/
  | access (cause : FileError)
  | configNotFound (path : Text)
  | configRefused (path reason : Text)
  | inputNotRead (path : Text) (cause : FileError)
  | outputNotWritten (path : Text) (cause : FileError)
  | targetMissing (path : Text)
  | targetNotUpdated (path : Text) (cause : FileError)
  deriving DecidableEq, Repr

namespace Failure

/-- The failure of an access to a file that carries a version. -/
def ofTarget (path : Text) : FileError → Failure
  | .notFound => targetMissing path
  | cause => targetNotUpdated path cause

/-- A path as it is shown. -/
private def shown (path : Text) : Text := '`' :: path ++ ['`']

/-- The words for a failure. -/
def message : Failure → Text
  | access cause => cause.message
  | configNotFound path => "config file not found: ".toList ++ shown path
  | configRefused path reason =>
    "failed to parse config file ".toList ++ shown path ++ ": ".toList ++ reason
  | inputNotRead path _ => "failed to read input document ".toList ++ shown path
  | outputNotWritten path _ => "failed to write ".toList ++ shown path
  | targetMissing path => "target file not found: ".toList ++ shown path
  | targetNotUpdated path _ => "failed to update target file ".toList ++ shown path

/-- The name of a kind of failure, which a user can look up. -/
def code (failure : Failure) : Text :=
  "mdwp::".toList ++ match failure with
    | access _ => "io_error".toList
    | configNotFound _ => "config_not_found".toList
    | configRefused _ _ => "config_parse".toList
    | inputNotRead _ _ => "input_read".toList
    | outputNotWritten _ _ => "output_write".toList
    | targetMissing _ => "target_file_missing".toList
    | targetNotUpdated _ _ => "target_file_io".toList

/-- What a user can do about a failure. -/
def help? : Failure → Option Text
  | configNotFound _ =>
    some "create a `config.json` in the project root or pass `--config <file>`".toList
  | configRefused _ _ =>
    some ("check that the config is a JSON object with camelCase keys such as ".toList
      ++ "`readmeMdPath`".toList)
  | inputNotRead _ _ => some "check `readmeMdPath` and `changelogMdPath` in the config".toList
  | targetMissing _ =>
    some "remove the entry from `styleFiles` / `phpFiles` or create the file".toList
  | access _ => none
  | outputNotWritten _ _ => none
  | targetNotUpdated _ _ => none

/-- The error of the access that failed, unless the failure says all about it. -/
def access? : Failure → Option FileError
  | access cause => some cause
  | inputNotRead _ cause => some cause
  | outputNotWritten _ cause => some cause
  | targetNotUpdated _ cause => some cause
  | configNotFound _ => none
  | configRefused _ _ => none
  | targetMissing _ => none

/-- What lies behind a failure and is not in its message. -/
def cause? : Failure → Option FileError
  | access _ => none
  | failure => failure.access?

end Failure

/-- Two results are equal if they are both failures or both values, and these are equal. -/
instance decideResult [DecidableEq ε] [DecidableEq α] : DecidableEq (Except ε α)
  | .ok first, .ok second =>
    if h : first = second then .isTrue (h ▸ rfl) else .isFalse fun same => h (by cases same; rfl)
  | .error first, .error second =>
    if h : first = second then .isTrue (h ▸ rfl) else .isFalse fun same => h (by cases same; rfl)
  | .ok _, .error _ => .isFalse fun same => by cases same
  | .error _, .ok _ => .isFalse fun same => by cases same

end PluginReadme.Project
