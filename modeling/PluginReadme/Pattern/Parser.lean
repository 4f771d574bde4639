import PluginReadme.Pattern.Basic
import PluginReadme.Pattern.Token

/-!
From the tokens of a pattern to the pattern.  Flags take effect from where they are set to the end
of the group around them, so they are worked out on the way.
-/

namespace PluginReadme.Pattern

/-- A part of a pattern, with how deep its parts are nested. -/
structure Part where
  pattern : Pattern
  depth : Nat
  /-- A change of flags, which cannot be repeated. -/
  isChange : Bool
  deriving Repr

/-- A group that is being read. -/
structure Level where
  /-- The flags outside of the group. -/
  outer : Flags
  captured : Bool
  /-- The alternatives read so far, newest first. -/
  branches : List Part
  /-- The parts of the current alternative, newest first. -/
  parts : List Part
  deriving Repr

/-- How far a pattern has been read: the groups that are open around `level`, innermost first. -/
structure ParseState where
  flags : Flags
  names : List Text
  outer : List Level
  level : Level
  deriving Repr

/-- The parts of an alternative in a row. -/
def inRow : List Part → Part
  | [] => ⟨.empty, 0, false⟩
  | [part] => part
  | part :: older =>
    let all := older.foldl
      (fun (row : Part) part => ⟨.concat part.pattern row.pattern, max row.depth part.depth, false⟩)
      part
    ⟨all.pattern, all.depth + 1, false⟩

/-- The alternatives of a group as one pattern. -/
def Level.whole (level : Level) : Part :=
  let branch := inRow level.parts
  match level.branches with
  | [] => branch
  | older =>
    let all := older.foldl
      (fun (rest : Part) part =>
        ⟨.either part.pattern rest.pattern, max rest.depth part.depth, false⟩)
      branch
    ⟨all.pattern, all.depth + 1, false⟩

def Level.add (part : Part) (level : Level) : Level :=
  { level with parts := part :: level.parts }

/-- The condition that an anchor stands for. -/
def Anchor.resolve (flags : Flags) (anchor : Anchor) : Look :=
  let word := PerlKind.word.set flags.unicode
  match anchor with
  | .lineStart =>
    if !flags.multiLine then .textStart
    else if flags.anyLineEnding then .anyLineStart
    else .lineStart
  | .lineEnd =>
    if !flags.multiLine then .textEnd else if flags.anyLineEnding then .anyLineEnd else .lineEnd
  | .textStart => .textStart
  | .textEnd => .textEnd
  | .wordBoundary => .wordBoundary word
  | .notWordBoundary => .notWordBoundary word
  | .wordStart => .wordStart word
  | .wordEnd => .wordEnd word
  | .wordStartHalf => .noWordBefore word
  | .wordEndHalf => .noWordAfter word

/-- The characters that a dot stands for. -/
def dotSet (flags : Flags) : Unicode.CodeSet :=
  if flags.dotAll then .all
  else if flags.anyLineEnding then (Unicode.CodeSet.mk [(10, 10), (13, 13)]).complement
  else (Unicode.CodeSet.single 10).complement

/-- How deep the parts of a class are nested, for the class as a part of a row and by itself.  A
row of items counts once. -/
private def ClassItem.depths : ClassItem → Nat × Nat
  | .both first second =>
    let row := max first.depths.1 second.depths.2
    (row, row + 1)
  | .bracket _ inner => (inner.depths.2 + 1, inner.depths.2 + 1)
  | .op _ left right =>
    let sides := max left.depths.2 right.depths.2
    (sides + 1, sides + 1)
  | _ => (0, 0)

/-- Whether a pattern can match nothing but the empty text. -/
private def onlyEmpty : Pattern → Bool
  | .empty => true
  | .set _ => false
  | .look _ => true
  | .concat first second => onlyEmpty first && onlyEmpty second
  | .either first second => onlyEmpty first && onlyEmpty second
  | .repeated _ most _ part => most == some 0 || onlyEmpty part
  | .group part => onlyEmpty part

/-- A repeated pattern.  What matches the empty text alone is not worth repeating. -/
private def times (least : Nat) (most : Option Nat) (greedy : Bool) (part : Pattern) : Pattern :=
  let once := onlyEmpty part
  let least := if once then min least 1 else least
  let most := if once then some (min (most.getD 1) 1) else most
  if most == some 0 then .empty
  else if least == 1 && most == some 1 then part
  else .repeated least most greedy part

/-- Reads one more token. -/
def ParseState.step (state : ParseState) (token : Token) : Option ParseState :=
  let add (part : Part) : ParseState := { state with level := state.level.add part }
  match token with
  | .literal char => (char.resolve state.flags).map fun set => add ⟨.set set, 0, false⟩
  | .dot =>
    if state.flags.unicode then some (add ⟨.set (dotSet state.flags), 0, false⟩) else none
  | .anchor anchor => some (add ⟨.look (anchor.resolve state.flags), 0, false⟩)
  | .charClass item =>
    (item.resolve state.flags).map fun set => add ⟨.set set, item.depths.2, false⟩
  | .setFlags change =>
    some { add ⟨.empty, 0, true⟩ with flags := state.flags.change change }
  | .repetition least most greedy =>
    match state.level.parts with
    | [] => none
    | part :: older =>
      if part.isChange then none
      else
        let repeated := times least most (greedy != state.flags.swapGreed) part.pattern
        some { state with
          level := { state.level with parts := ⟨repeated, part.depth + 1, false⟩ :: older } }
  | .bar =>
    some { state with
      level := { state.level with
        branches := inRow state.level.parts :: state.level.branches
        parts := [] } }
  | .openGroup captured name change =>
    if name.any state.names.contains then none
    else
      some {
        flags := state.flags.change change
        names := name.toList ++ state.names
        outer := state.level :: state.outer
        level := ⟨state.flags, captured, [], []⟩ }
  | .close =>
    match state.outer with
    | [] => none
    | level :: outer =>
      let whole := state.level.whole
      let inner := if state.level.captured then .group whole.pattern else whole.pattern
      some { state with
        flags := state.level.outer
        outer := outer
        level := level.add ⟨inner, whole.depth + 1, false⟩ }

/-- A pattern that has been read, with the names of its groups and how deep it is nested. -/
structure Parsed where
  pattern : Pattern
  names : List Text
  depth : Nat
  deriving Repr

/-- Reads the tokens of a pattern. -/
def parseTokens (flags : Flags) (tokens : List Token) : Option Parsed := do
  let state ← tokens.foldlM ParseState.step ⟨flags, [], [], ⟨flags, false, [], []⟩⟩
  match state.outer with
  | [] =>
    let whole := state.level.whole
    some ⟨whole.pattern, state.names, whole.depth⟩
  | _ :: _ => none

end PluginReadme.Pattern
