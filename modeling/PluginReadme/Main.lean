import PluginReadme.Cli.Answer

/-!
The program: reads the call from its environment, answers it and prints the answer.
-/

namespace PluginReadme

/-- What an error of the system says about a file. -/
private def fileError (error : IO.Error) : FileError :=
  match error with
  | .noFileOrDirectory _ _ _ => .notFound
  | .noSuchThing _ _ _ => .notFound
  | .inappropriateType _ 20 _ => .notDirectory
  | .inappropriateType _ 21 _ => .isDirectory
  | error => .other (toString error).toList

/-- Runs an access to a file. -/
private def access (path : Text) (action : String → IO (Except FileError α)) :
    IO (Except FileError α) := do
  if path.contains '\x00' then return .error .zeroInPath
  try action (String.ofList path) catch error => return .error (fileError error)

instance : Files IO where
  read path := access path fun name => do
    match String.fromUTF8? (← IO.FS.readBinFile name) with
    | some content => return .ok content.toList
    | none => return .error .notText
  write path content := access path fun name => do
    IO.FS.writeFile name (String.ofList content)
    return .ok ()

end PluginReadme

open PluginReadme in
/-- Answers a call of the program. -/
def main (arguments : List String) : IO UInt32 := do
  let call : Cli.Call := {
    arguments := arguments.map String.toList
    logFilter := (← IO.getEnv "RUST_LOG").map String.toList
    noColor := (← IO.getEnv "NO_COLOR").isSome
    workingDirectory := (← IO.currentDir).toString.toList }
  let answer : Cli.Answer ← Cli.answer call
  (← IO.getStdout).putStr (String.ofList answer.output)
  (← IO.getStderr).putStr (String.ofList answer.errors)
  return UInt32.ofNat answer.status
