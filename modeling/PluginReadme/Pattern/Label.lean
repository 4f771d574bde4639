import PluginReadme.Pattern.Parser
import PluginReadme.Pattern.Size

/-!
Labels, which stand in front of a version.  A label is a pattern if it is one by itself and within
the pattern around it; else it stands for its own text.
-/

namespace PluginReadme

/-- What a label stands for. -/
structure Label where
  pattern : Pattern
  /-- Whether the label stands for its own text because it is no valid pattern. -/
  isLiteral : Bool
  deriving DecidableEq, Repr

namespace Label

/-- How deep the parts of a pattern may be nested. -/
def depthLimit : Nat := 250

/-- How much deeper a label is nested within the pattern around it. -/
def depthAround : Nat := 2

/-- The room that the pattern around a label takes. -/
def roomAround : Nat := 1600

/-- The pattern that a label stands for in a group whose names are taken, if it is valid there: the
group must end where the label does, which a comment at the end of the label would prevent. -/
def pattern? (flags : Pattern.Flags) (taken : List Text) (label : Text) : Option Pattern := do
  let tokens ← Pattern.tokens label
  let parsed ← Pattern.parseTokens flags tokens
  let enclosed ← Pattern.tokens (label ++ [')'])
  let isGroup := enclosed.length == tokens.length + 1
  let isNew := !parsed.names.any taken.contains
  let isShallow := parsed.depth + depthAround ≤ depthLimit
  if isGroup && isNew && isShallow && parsed.pattern.fits roomAround then some parsed.pattern
  else none

/-- The longest text that has room as a label, in bytes of its encoding. -/
def longest : Nat := 327630

/-- What a label stands for.  Its own text is used without a look at its size: up to the longest text
it has room, and with a longer label the program gives no answer. -/
def read (flags : Pattern.Flags) (taken : List Text) (label : Text) : Label :=
  match pattern? flags taken label with
  | some pattern => ⟨pattern, false⟩
  | none => ⟨Pattern.literal label, true⟩

end Label

end PluginReadme
