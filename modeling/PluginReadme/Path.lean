import PluginReadme.Text.Blank

/-!
Paths as texts.  A path is kept as it is written; only where two paths are compared do repeated
slashes and single dots stand for nothing.
-/

namespace PluginReadme.Path

/-- Whether a path starts at the root. -/
def isAbsolute (path : Text) : Bool := path.head? == some '/'

/-- A path taken from a directory: an absolute path stays as it is. -/
def join (directory path : Text) : Text :=
  if isAbsolute path then path
  else if directory.isEmpty || directory.getLast? == some '/' then directory ++ path
  else directory ++ '/' :: path

/-- The parts of a path between its slashes. -/
def parts (path : Text) : List Text := path.splitOn '/'

/-- Drops the first part of a path if there is a slash behind it, with the slash, and else all of
it. -/
private def dropPart (path : Text) : Text := (path.dropWhile (· != '/')).drop 1

/-- Drops parts at the start that stand for nothing. -/
private def dropBlank : Text → Text
  | '/' :: rest => dropBlank rest
  | '.' :: '/' :: rest => dropBlank rest
  | ['.'] => []
  | path => path

/-- Drops parts at the end that stand for nothing; the path is given from its end on. -/
private def dropBlankEnd : Text → Text
  | '/' :: rest => dropBlankEnd rest
  | '.' :: '/' :: rest => dropBlankEnd rest
  | ['.'] => []
  | path => path

/-- Whether a path starts with a single dot. -/
private def startsHere (path : Text) : Bool := path == ['.'] || ['.', '/'].isPrefixOf path

/-- What is left of two paths after the slash or the single dot that both may start with. -/
private def afterStart (directory path : Text) : Option (Text × Text) :=
  if isAbsolute directory != isAbsolute path || startsHere directory != startsHere path then none
  else if isAbsolute path || startsHere path then some (directory.drop 1, path.drop 1)
  else some (directory, path)

/-- Takes the parts of a directory from the start of a path. -/
private def dropParts : Nat → Text → Text → Option Text
  | 0, _, _ => none
  | fuel + 1, directory, path =>
    let directory := dropBlank directory
    let path := dropBlank path
    if directory.isEmpty then some path
    else if directory.takeWhile (· != '/') == path.takeWhile (· != '/') then
      dropParts fuel (dropPart directory) (dropPart path)
    else none

/-- The path from a directory to a path in it, if it is written as one. -/
def within? (directory path : Text) : Option Text := do
  if directory.isEmpty then some path
  else
    let (directory, path) ← afterStart directory path
    let path ← dropParts (directory.length + 1) directory path
    some (dropBlankEnd path.reverse).reverse

end PluginReadme.Path
