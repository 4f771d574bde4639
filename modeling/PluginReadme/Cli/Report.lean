import PluginReadme.Project.Failure
import PluginReadme.Text.Wrap

/-!
How the command line shows a failure: its code, its message, what lies behind it and what can be
done about it, in lines of at most 80 columns.
-/

namespace PluginReadme.Cli

/-- Puts a text in a colour, if colours are used. -/
def painted (isColored : Bool) (code : String) (text : Text) : Text :=
  if isColored then '\x1b' :: '[' :: code.toList ++ 'm' :: text ++ "\x1b[0m".toList else text

/-- The colours of errors and of help. -/
private def red : String := "31"
private def cyan : String := "36"

/-- The columns of the report. -/
private def reportWidth : Nat := 78

/-- The marks of a report; without colours they are ASCII. -/
structure Marks where
  cross : Text
  bar : Text
  arrow : Text

private def Marks.of (isColored : Bool) : Marks :=
  if isColored then ⟨['×'], ['│'], "╰─▶".toList⟩ else ⟨['x'], ['|'], "`->".toList⟩

/-- The message, behind a mark. -/
private def messagePart (isColored : Bool) (failure : Project.Failure) : Text :=
  let marks := Marks.of isColored
  let indent (mark : Text) : Text := "  ".toList ++ painted isColored red mark ++ [' ']
  Text.wrap ⟨reportWidth, indent marks.cross, indent marks.bar, 4, 4⟩ failure.message

/-- The error behind a failure. -/
private def causePart (isColored : Bool) (cause : FileError) : Text :=
  let first := painted isColored red ("  ".toList ++ (Marks.of isColored).arrow ++ [' '])
  let later := painted isColored red (List.replicate 6 ' ')
  Text.wrap ⟨reportWidth, first, later, 6, 6⟩ cause.message

/-- What can be done. -/
private def helpPart (isColored : Bool) (help : Text) : Text :=
  let first := painted isColored cyan "  help: ".toList
  Text.wrap ⟨reportWidth, first, List.replicate 8 ' ', 8, 8⟩ help

/-- The report of a failure. -/
def report (isColored : Bool) (failure : Project.Failure) : Text :=
  let parts := [painted isColored red failure.code, [], messagePart isColored failure]
    ++ (failure.cause?.map (causePart isColored)).toList
    ++ (failure.help?.map (helpPart isColored)).toList
  Text.join ['\n'] parts ++ ['\n', '\n']

end PluginReadme.Cli
