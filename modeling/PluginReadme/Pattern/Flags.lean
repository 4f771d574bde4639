import PluginReadme.Text.Blank

/-!
Flags of a pattern and how a group of flags in parentheses changes them.
-/

namespace PluginReadme.Pattern

/-- A flag by its letter. -/
inductive Flag where
  | ignoreCase
  | multiLine
  | dotAll
  | swapGreed
  | unicode
  | anyLineEnding
  | ignoreSpace
  deriving DecidableEq, Repr

/-- The flag of a letter. -/
def Flag.ofChar? : Char → Option Flag
  | 'i' => some .ignoreCase
  | 'm' => some .multiLine
  | 's' => some .dotAll
  | 'U' => some .swapGreed
  | 'u' => some .unicode
  | 'R' => some .anyLineEnding
  | 'x' => some .ignoreSpace
  | _ => none

/-- A list of flags that are turned on or off. -/
abbrev FlagChange := List (Flag × Bool)

/-- Reads the flags of a group up to its `:` or `)`; the flags after a `-` are turned off.  No
flag stands twice, and there is at most one `-`, with a flag after it. -/
def FlagChange.read (negated : Bool) (change : FlagChange) : Text → Option (FlagChange × Text)
  | [] => none
  | '-' :: rest =>
    match rest with
    | [] => none
    | c :: _ => if negated || c == ':' || c == ')' then none else FlagChange.read true change rest
  | c :: rest =>
    if c == ':' || c == ')' then some (change, c :: rest)
    else
      match Flag.ofChar? c with
      | none => none
      | some flag =>
        if change.any (·.1 == flag) then none
        else FlagChange.read negated (change ++ [(flag, !negated)]) rest

/-- What a change makes of one flag. -/
def FlagChange.apply (change : FlagChange) (flag : Flag) (value : Bool) : Bool :=
  match change.find? (·.1 == flag) with
  | some (_, on) => on
  | none => value

/-- The flags in force at a place of a pattern.  Spaces are dealt with when a pattern is split into
tokens, so their flag is not among them. -/
structure Flags where
  ignoreCase : Bool
  multiLine : Bool
  dotAll : Bool
  swapGreed : Bool
  unicode : Bool
  anyLineEnding : Bool
  deriving DecidableEq, Repr

namespace Flags

/-- The flags that a pattern starts with. -/
def initial : Flags := ⟨false, false, false, false, true, false⟩

/-- The flags after a change. -/
def change (flags : Flags) (changes : FlagChange) : Flags where
  ignoreCase := changes.apply .ignoreCase flags.ignoreCase
  multiLine := changes.apply .multiLine flags.multiLine
  dotAll := changes.apply .dotAll flags.dotAll
  swapGreed := changes.apply .swapGreed flags.swapGreed
  unicode := changes.apply .unicode flags.unicode
  anyLineEnding := changes.apply .anyLineEnding flags.anyLineEnding

end Flags

end PluginReadme.Pattern
