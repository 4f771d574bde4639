import PluginReadme.Text.Lines

/-!
The arguments of the command line.  They are read from left to right; the first thing that is wrong
with them is what the user is told, and a request for help or for the version is answered as soon
as it is read.
-/

namespace PluginReadme.Cli

/-- An option. -/
inductive Flag where
  | version
  | path
  | config
  | dryRun
  | verbose
  | noColor
  | help
  deriving DecidableEq, Repr

namespace Flag

/-- The options in their order. -/
def all : List Flag := [version, path, config, dryRun, verbose, noColor, help]

/-- The long name of an option, without its hyphens. -/
def name : Flag → Text
  | version => "version".toList
  | path => "path".toList
  | config => "config".toList
  | dryRun => "dry-run".toList
  | verbose => "verbose".toList
  | noColor => "no-color".toList
  | help => "help".toList

/-- What the value of an option is called, if it takes one. -/
def value? : Flag → Option Text
  | path => some "PATH".toList
  | config => some "CONFIG".toList
  | _ => none

/-- An option as it is written, with its value. -/
def usage (flag : Flag) : Text :=
  "--".toList ++ flag.name ++ match flag.value? with
    | some value => " <".toList ++ value ++ ['>']
    | none => []

/-- The option with a long name. -/
def ofName? (name : Text) : Option Flag := all.find? (·.name == name)

/-- The option with a letter. -/
def ofLetter? : Char → Option Flag
  | 'v' => some version
  | 'p' => some path
  | 'c' => some config
  | 'h' => some help
  | _ => none

end Flag

/-- What the arguments ask for. -/
structure Options where
  path : Option Text
  config : Option Text
  dryRun : Bool
  verbose : Bool
  noColor : Bool
  deriving DecidableEq, Repr

/-- Why arguments are not accepted. -/
inductive UsageError where
  /-- An argument that is no option; a similar option that was perhaps meant, with the options
  given so far. -/
  | unexpected (argument : Text) (similar : Option (Flag × List Flag))
  /-- A value for an option that takes none, with the options given so far. -/
  | needlessValue (flag : Flag) (value : Text) (given : List Flag)
  | noValue (flag : Flag)
  | repeated (flag : Flag)
  deriving DecidableEq, Repr

/-- Why the reading of arguments ends early. -/
inductive Stop where
  | version
  | shortHelp
  | longHelp
  | refused (error : UsageError)
  deriving DecidableEq, Repr

/-- How far the arguments have been read. -/
structure Progress where
  options : Options
  /-- The options given so far, in their order. -/
  given : List Flag
  /-- An option whose value stands in an argument of its own, and the value once it is read.  It is
  looked at when the next option starts. -/
  pending : Option (Flag × Option Text)
  deriving DecidableEq, Repr

namespace Progress

def initial : Progress := ⟨⟨none, none, false, false, false⟩, [], none⟩

/-- Notes that an option is given. -/
private def give (flag : Flag) (progress : Progress) : Except Stop Progress :=
  if progress.given.contains flag then .error (.refused (.repeated flag))
  else .ok { progress with given := progress.given ++ [flag] }

/-- Sets the value of an option, which cannot be empty. -/
def setValue (flag : Flag) (value : Text) (progress : Progress) : Except Stop Progress := do
  let progress ← progress.give flag
  let options := progress.options
  if value.isEmpty then .error (.refused (.noValue flag))
  else
    match flag with
    | .path => return { progress with options := { options with path := some value } }
    | .config => return { progress with options := { options with config := some value } }
    | _ => return progress

/-- Finishes an option that waits for its value. -/
def settle (progress : Progress) : Except Stop Progress :=
  match progress.pending with
  | none => .ok progress
  | some (flag, none) => .error (.refused (.noValue flag))
  | some (flag, some value) => { progress with pending := none }.setValue flag value

/-- The options given so far, with one that waits for its value; one given twice does not count. -/
def givenInAll (progress : Progress) : List Flag :=
  match progress.pending with
  | some (flag, some _) =>
    if progress.given.contains flag then progress.given.filter (· != flag)
    else progress.given ++ [flag]
  | _ => progress.given

/-- Sets an option without a value. -/
def set (isLong : Bool) (flag : Flag) (progress : Progress) : Except Stop Progress := do
  let progress ← progress.settle
  match flag with
  | .version => .error .version
  | .help => .error (if isLong then .longHelp else .shortHelp)
  | flag =>
    let progress ← progress.give flag
    let options := progress.options
    return { progress with
      options := match flag with
        | .dryRun => { options with dryRun := true }
        | .verbose => { options with verbose := true }
        | .noColor => { options with noColor := true }
        | _ => options }

/-- Starts an option that takes a value: the value is attached, or it is the next argument. -/
def start (flag : Flag) (attached : Option Text) (progress : Progress) : Except Stop Progress := do
  let progress ← progress.settle
  match attached with
  | some value => progress.setValue flag value
  | none => return { progress with pending := some (flag, none) }

end Progress

/-- How alike two texts are: 1 if they are equal, 0 if they have nothing in common.  Characters
match if they are equal and not too far from each other; of the matches, those in another order
count half. -/
def similarity (first second : Text) : Float :=
  let range := max first.length second.length / 2 - 1
  let step (state : List (Option Char) × List Char) (entry : Char × Nat) :=
    let (rest, matched) := state
    let (c, index) := entry
    let isNear (place : Nat) := index ≤ place + range && place ≤ index + range
    match rest.zipIdx.find? fun (other, place) => isNear place && other == some c with
    | some (_, place) => (rest.set place none, matched ++ [c])
    | none => (rest, matched)
  let (rest, matched) := first.zipIdx.foldl step (second.map some, [])
  let matchedSecond := (second.zip rest).filterMap fun (c, left) =>
    if left.isNone then some c else none
  let moved := ((matched.zip matchedSecond).filter fun (c, other) => c != other).length / 2
  let count (n : Nat) : Float := n.toFloat
  if matched.isEmpty then (if first.isEmpty && second.isEmpty then 1 else 0)
  else
    (count matched.length / count first.length + count matched.length / count second.length
      + count (matched.length - moved) / count matched.length) / 3

/-- The option whose name is most like a given one, if any is like it; of several the last. -/
def similarFlag? (name : Text) : Option Flag :=
  (Flag.all.foldl (fun (best : Option (Flag × Float)) flag =>
    let found := similarity name flag.name
    match best with
    | none => if found > 0.7 then some (flag, found) else none
    | some (_, score) => if found > 0.7 && found ≥ score then some (flag, found) else best)
    none).map (·.1)

/-- Reads an argument that starts with two hyphens, which are left out. -/
private def readLong (argument : Text) (progress : Progress) : Except Stop Progress :=
  let name := argument.takeWhile (· != '=')
  let attached := match argument.dropWhile (· != '=') with
    | '=' :: value => some value
    | _ => none
  match Flag.ofName? name with
  | some flag =>
    if flag.value?.isSome then progress.start flag attached
    else
      match attached with
      | some value => .error (.refused (.needlessValue flag value progress.given))
      | none => progress.set true flag
  | none =>
    .error (.refused (.unexpected ("--".toList ++ name)
      ((similarFlag? name).map fun flag => (flag, progress.givenInAll))))

/-- Reads the letters of an argument that starts with one hyphen, which is left out. -/
private def readShort (progress : Progress) : Text → Except Stop Progress
  | [] => .ok progress
  | c :: rest =>
    match Flag.ofLetter? c with
    | none => .error (.refused (.unexpected ['-', c] none))
    | some flag =>
      if flag.value?.isSome then
        progress.start flag (match rest with
          | [] => none
          | '=' :: value => some value
          | value => some value)
      else do readShort (← progress.set false flag) rest

/-- Reads the arguments. -/
def readArguments (progress : Progress) : List Text → Except Stop Options
  | [] => do return (← progress.settle).options
  | argument :: rest =>
    match argument with
    | ['-', '-'] =>
      -- Nothing may follow but the end of the arguments.
      match rest with
      | [] => do return (← progress.settle).options
      | next :: _ => .error (.refused (.unexpected next none))
    | '-' :: '-' :: long => do readArguments (← readLong long progress) rest
    | '-' :: c :: short => do readArguments (← readShort progress (c :: short)) rest
    | argument =>
      match progress.pending with
      | some (flag, none) =>
        readArguments { progress with pending := some (flag, some argument) } rest
      | _ => .error (.refused (.unexpected argument none))

/-- The usage with some options, or with any of them. -/
private def usageLine (flags : List Flag) : Text :=
  "Usage: mdwp ".toList ++
    if flags.isEmpty then "[OPTIONS]".toList else Text.join [' '] (flags.map Flag.usage)

/-- An option after others, unless it is among them. -/
private def withFlag (given : List Flag) (flag : Flag) : List Flag :=
  if given.contains flag then given else given ++ [flag]

/-- The paragraphs of the answer to arguments that are not accepted. -/
private def UsageError.paragraphs : UsageError → List Text
  | unexpected argument similar =>
    let problem := "error: unexpected argument '".toList ++ argument ++ "' found".toList
    match similar with
    | none => [problem, usageLine []]
    | some (flag, given) =>
      [problem, "  tip: a similar argument exists: '--".toList ++ flag.name ++ ['\''],
        usageLine (withFlag given flag)]
  | needlessValue flag value given =>
    ["error: unexpected value '".toList ++ value ++ "' for '".toList ++ flag.usage
        ++ "' found; no more were expected".toList,
      usageLine (withFlag given flag)]
  | noValue flag =>
    ["error: a value is required for '".toList ++ flag.usage
      ++ "' but none was supplied".toList]
  | repeated flag =>
    ["error: the argument '".toList ++ flag.usage ++ "' cannot be used multiple times".toList,
      usageLine []]

/-- The answer to arguments that are not accepted. -/
def UsageError.message (error : UsageError) : Text :=
  Text.join ['\n', '\n']
    (error.paragraphs ++ ["For more information, try '--help'.\n".toList])

end PluginReadme.Cli
