import PluginReadme.Files.Access
import PluginReadme.Path

/-!
A tree of files as a value: which directories and files there are, and how a path leads to one of
them.
-/

namespace PluginReadme

/-- The names that lead from the root to a file or a directory. -/
abbrev Place := List Text

/-- What is at a place. -/
inductive Entry where
  | directory
  | file (content : Text)
  /-- A file whose bytes are not UTF-8. -/
  | binary (bytes : List UInt8)
  deriving DecidableEq, Repr

/-- A tree of files.  The working directory and what is above it are always directories. -/
structure Disk where
  workingDirectory : Place
  entries : List (Place × Entry)
  deriving DecidableEq, Repr

namespace Disk

/-- What is at a place. -/
def entry? (disk : Disk) (place : Place) : Option Entry :=
  if place.isPrefixOf disk.workingDirectory then some .directory else disk.entries.lookup place

/-- Goes from a directory along one part of a path. -/
def step (disk : Disk) (place : Place) (part : Text) : Except FileError Place :=
  match disk.entry? place with
  | some .directory =>
    if part.isEmpty || part == ['.'] then .ok place
    else if part == ['.', '.'] then .ok place.dropLast
    else
      let next := place ++ [part]
      if (disk.entry? next).isSome then .ok next else .error .notFound
  | some _ => .error .notDirectory
  | none => .error .notFound

/-- Where a path starts. -/
def start (disk : Disk) (path : Text) : Place :=
  if Path.isAbsolute path then [] else disk.workingDirectory

/-- The place that a path leads to; every part of the path has to be there. -/
def locate (disk : Disk) (path : Text) : Except FileError Place :=
  if path.contains '\x00' then .error .zeroInPath
  else if path.isEmpty then .error .notFound
  else (Path.parts path).foldlM disk.step (disk.start path)

/-- Reads the file at a path. -/
def read (disk : Disk) (path : Text) : Except FileError Text := do
  match disk.entry? (← disk.locate path) with
  | some (.file content) => .ok content
  | some (.binary _) => .error .notText
  | some .directory => .error .isDirectory
  | none => .error .notFound

/-- The tree with another entry at a place. -/
def set (disk : Disk) (place : Place) (entry : Entry) : Disk :=
  if disk.entries.any (·.1 == place) then
    { disk with
      entries := disk.entries.map fun found => if found.1 == place then (place, entry) else found }
  else { disk with entries := disk.entries ++ [(place, entry)] }

/-- The place of the file that is written at a path.  Only the directories on the way have to be
there; a path that ends as the path of a directory does not name a file. -/
def destination (disk : Disk) (path : Text) : Except FileError Place :=
  if path.contains '\x00' then .error .zeroInPath
  else if path.isEmpty then .error .notFound
  else
    let parts := (Path.parts path).filter (!·.isEmpty)
    match parts.getLast? with
    | none => .error .isDirectory
    | some name => do
      let parent ← parts.dropLast.foldlM disk.step (disk.start path)
      -- A part that stands for nothing, so that the parent has to be a directory.
      let parent ← disk.step parent []
      if path.getLast? == some '/' || name == ['.'] || name == ['.', '.'] then .error .isDirectory
      else
        let place := parent ++ [name]
        if disk.entry? place == some .directory then .error .isDirectory else .ok place

/-- Writes a file at a path. -/
def write (disk : Disk) (path content : Text) : Except FileError Disk := do
  return disk.set (← disk.destination path) (.file content)

/-- The tree with an entry at a path from the working directory, and with the directories on the
way. -/
def put (disk : Disk) (path : Text) (entry : Entry) : Disk :=
  let place := disk.workingDirectory ++ (Path.parts path).filter (!·.isEmpty)
  let above := (List.range place.length).map place.take
  let missing := above.filter fun parent => (disk.entry? parent).isNone
  (missing.foldl (fun disk parent => disk.set parent .directory) disk).set place entry

/-- The tree without what is at a path from the working directory and below it. -/
def remove (disk : Disk) (path : Text) : Disk :=
  let place := disk.workingDirectory ++ (Path.parts path).filter (!·.isEmpty)
  { disk with entries := disk.entries.filter fun found => !place.isPrefixOf found.1 }

end Disk

instance : Files (StateM Disk) where
  read path := do return (← get).read path
  write path content := do
    match (← get).write path content with
    | .ok disk => set disk; return .ok ()
    | .error error => return .error error

end PluginReadme
