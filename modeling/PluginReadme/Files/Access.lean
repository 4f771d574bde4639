import PluginReadme.Text.Blank

/-!
Access to files: what a program needs of the files it works on, and how an access can fail.
-/

namespace PluginReadme

/-- Why a file cannot be read or written. -/
inductive FileError where
  | notFound
  | notDirectory
  | isDirectory
  /-- The bytes of the file are not UTF-8. -/
  | notText
  /-- The path holds the character with code zero. -/
  | zeroInPath
  /-- Another reason, in the words of the system. -/
  | other (reason : Text)
  deriving DecidableEq, Repr

/-- The words for an error. -/
def FileError.message : FileError → Text
  | notFound => "No such file or directory (os error 2)".toList
  | notDirectory => "Not a directory (os error 20)".toList
  | isDirectory => "Is a directory (os error 21)".toList
  | notText => "stream did not contain valid UTF-8".toList
  | zeroInPath => "file name contained an unexpected NUL byte".toList
  | other reason => reason

/-- Reading and writing whole files as texts. -/
class Files (m : Type → Type) where
  read (path : Text) : m (Except FileError Text)
  /-- Replaces the content of a file, which is made if there is none. -/
  write (path content : Text) : m (Except FileError Unit)

end PluginReadme
