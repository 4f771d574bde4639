import PluginReadme.Log
import PluginReadme.Unicode.Word

/-!
Which events of a log are shown.  A filter is a list of directives, each with a level and perhaps
with the start of the targets it is for; the directive for the longest start decides, and a target
without a directive is not shown.
-/

namespace PluginReadme.Cli

/-- A directive: events up to a level are shown; no level means none at all. -/
structure Directive where
  target : Option Text
  limit : Option Level
  deriving DecidableEq, Repr

/-- The levels by their names. -/
private def levelNames : List (Text × Option Level) :=
  [("error".toList, some .error), ("warn".toList, some .warn), ("info".toList, some .info),
    ("debug".toList, some .debug), ("trace".toList, some .trace), ("off".toList, none)]

/-- The number that a text stands for, which may have a plus sign. -/
private def digits? (text : Text) : Option Nat :=
  let digits := match text with
    | '+' :: rest => rest
    | rest => rest
  if digits.isEmpty || !digits.all Char.isDigit then none
  else some (digits.foldl (fun value c => value * 10 + (c.toNat - '0'.toNat)) 0)

/-- The level that a text names, by its name in any case or by its number. -/
def readLevel (text : Text) : Option (Option Level) :=
  match digits? text with
  | some 0 => some none
  | some 1 => some (some .error)
  | some 2 => some (some .warn)
  | some 3 => some (some .info)
  | some 4 => some (some .debug)
  | some 5 => some (some .trace)
  | _ =>
    if text.isEmpty then some (some .error)
    else (levelNames.find? (·.1 == text.map Char.toLower)).map (·.2)

/-- A level after its `=`; without one all events are shown. -/
private def levelAfter (text : Text) : Option (Option Level) :=
  if text.isEmpty then some (some .trace) else readLevel text

/-- What a part of a filter comes down to. -/
inductive Reading where
  | directive (directive : Directive)
  /-- A part about spans of time, of which a run has none. -/
  | idle
  deriving DecidableEq, Repr

/-- Reads what follows a part in brackets: nothing or a level. -/
private def readAfterSpan : Text → Option Reading
  | [] => some .idle
  | '=' :: level => (levelAfter level).map fun _ => .idle
  | _ => none

/-- Reads a part in brackets: the name of a span and perhaps fields in braces. -/
private def readSpan (text : Text) : Option Reading :=
  match text.dropWhile fun c => c != ']' && c != '\x7b' with
  | ']' :: rest => readAfterSpan rest
  | '\x7b' :: rest =>
    match rest.dropWhile (· != '\x7d') with
    | '\x7d' :: ']' :: after =>
      if ((rest.takeWhile (· != '\x7d')).splitOn ',').any List.isEmpty then none
      else readAfterSpan after
    | _ => none
  | _ => none

/-- Whether a target can start with a character. -/
private def startsTarget (c : Char) : Bool :=
  c == '-' || c == ':' || c == '_' || Unicode.lettersAndNumbers.contains c

/-- Reads a part of a filter.  Its parts are looked for without the blanks around it, but taken
from the text as it stands. -/
def readDirective (text : Text) : Option Reading :=
  let isName (c : Char) : Bool := c != '=' && c != '['
  match Text.trim text with
  | [] => none
  | '[' :: rest => readSpan rest
  | c :: rest =>
    let name := (c :: rest).takeWhile isName
    if !startsTarget c then none
    else
      match (c :: rest).dropWhile isName with
      | '=' :: _ =>
        (levelAfter (text.drop (name.length + 1))).map fun limit =>
          .directive ⟨some (text.take name.length), limit⟩
      | '[' :: span => readSpan span
      | _ =>
        match readLevel text with
        | some limit => some (.directive ⟨none, limit⟩)
        | none => some (.directive ⟨some text, some .trace⟩)

/-- A filter. -/
structure LogFilter where
  directives : List Directive
  deriving DecidableEq, Repr

namespace LogFilter

/-- A filter with one level for all targets. -/
def upTo (level : Level) : LogFilter := ⟨[⟨none, some level⟩]⟩

/-- Reads a filter; one without a part shows errors. -/
def read? (text : Text) : Option LogFilter := do
  let readings ← ((text.splitOn ',').filter (!·.isEmpty)).mapM readDirective
  if readings.isEmpty then some (upTo .error)
  else some ⟨readings.filterMap fun reading => match reading with
    | .directive directive => some directive
    | .idle => none⟩

/-- The directive that decides about a target: the one for the longest start, and of several the
last. -/
def directive? (filter : LogFilter) (target : Text) : Option Directive :=
  let size (directive : Directive) : Nat := (directive.target.map (·.length + 1)).getD 0
  (filter.directives.filter fun directive => directive.target.all (·.isPrefixOf target)).foldl
    (fun best directive => match best with
      | none => some directive
      | some other => if size other ≤ size directive then some directive else best) none

/-- Whether an event is shown. -/
def shows (filter : LogFilter) (event : Event) : Bool :=
  ((filter.directive? event.target).bind (·.limit)).any fun limit => event.level.rank ≤ limit.rank

end LogFilter

end PluginReadme.Cli
