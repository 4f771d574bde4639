import PluginReadme.Text.Blank

/-!
Version numbers: three runs of ASCII digits with a dot between each two.
-/

namespace PluginReadme.Version

/-- A digit of a version number. -/
def isDigit (c : Char) : Bool := '0' ≤ c && c ≤ '9'

/-- The digits that a text starts with, as many as there are and at least one, and what follows
them. -/
def digits (text : Text) : Option (Text × Text) :=
  match text.span isDigit with
  | ([], _) => none
  | (digits, rest) => some (digits, rest)

/-- The number that a text starts with and what follows it. -/
def number (text : Text) : Option (Text × Text) := do
  let (major, rest) ← digits text
  let '.' :: rest := rest | none
  let (minor, rest) ← digits rest
  let '.' :: rest := rest | none
  let (fix, rest) ← digits rest
  some (major ++ '.' :: minor ++ '.' :: fix, rest)

/-- The number that stands in for one that is not found. -/
def fallback : Text := "0.1.0".toList

end PluginReadme.Version
