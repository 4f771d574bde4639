import PluginReadme.Cli.Report
import PluginReadme.Log

/-!
How the command line shows an event of the log: one line with the level, the message and the named
values.
-/

namespace PluginReadme.Cli

/-- A level, in five columns. -/
private def levelName : Level → Text
  | .error => "ERROR".toList
  | .warn => " WARN".toList
  | .info => " INFO".toList
  | .debug => "DEBUG".toList
  | .trace => "TRACE".toList

/-- The colour of a level. -/
private def levelColor : Level → String
  | .error => "31"
  | .warn => "33"
  | .info => "32"
  | .debug => "34"
  | .trace => "35"

/-- A character of a message; those that steer a terminal are written as codes. -/
private def harmless (c : Char) : Text :=
  if c == '\x1b' then "\\x1b".toList
  else if c == '\x07' then "\\x07".toList
  else if c == '\x08' then "\\x08".toList
  else if c == '\x0c' then "\\x0c".toList
  else if c == '\x7f' then "\\x7f".toList
  else if 0x80 ≤ c.toNat && c.toNat ≤ 0x9F then
    "\\u\x7b".toList ++ Text.hexadecimal c.toNat ++ ['\x7d']
  else [c]

/-- A named value. -/
private def field (isColored : Bool) (field : Text × Text) : Text :=
  ' ' :: painted isColored "3" field.1 ++ painted isColored "2" ['='] ++ field.2

/-- The line of an event. -/
def logLine (isColored : Bool) (event : Event) : Text :=
  painted isColored (levelColor event.level) (levelName event.level)
    ++ ' ' :: event.message.flatMap harmless ++ event.fields.flatMap (field isColored) ++ ['\n']

end PluginReadme.Cli
