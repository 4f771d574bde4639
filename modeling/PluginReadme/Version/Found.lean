import PluginReadme.Pattern.Label
import PluginReadme.Pattern.Search
import PluginReadme.Version.Number

/-!
Finding the version that a document declares: at the start of a line a label, a colon with blanks
around it, and the version number.
-/

namespace PluginReadme.Version

/-- The label of a version that is searched for line by line. -/
def lineLabel (label : Text) : Label :=
  Label.read { Pattern.Flags.initial with multiLine := true } ["version".toList] label

/-- The number after a label and a colon. -/
def afterLabel (text : Text) : Option Text :=
  match Text.trimStart text with
  | ':' :: rest => (number (Text.trimStart rest)).map (·.1)
  | _ => none

/-- The places of a text where a line starts. -/
def lineStarts (text : Text) : List Cursor :=
  (Cursor.onwards 0 none text).filter fun cursor => cursor.previous.all (· == '\n')

/-- The version at a place where a line starts, for the preferred match of the label that a version
follows. -/
def foundAt (label : Pattern) (cursor : Cursor) : Option Text :=
  (label.ends cursor).findSome? fun stop => afterLabel stop.rest

/-- The first version that a text declares with a label, if there is one. -/
def find (source label : Text) : Option Text :=
  (lineStarts source).findSome? (foundAt (lineLabel label).pattern)

/-- The first version that a text declares with a label, or the one that stands in for it. -/
def extract (source label : Text) : Text := (find source label).getD fallback

end PluginReadme.Version
