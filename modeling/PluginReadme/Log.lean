import PluginReadme.Text.Quoted

/-!
What a run has to say besides its result: events with a level, the part of the program they come
from, a message and named values.
-/

namespace PluginReadme

/-- How much an event matters, the most pressing first. -/
inductive Level where
  | error
  | warn
  | info
  | debug
  | trace
  deriving DecidableEq, Repr

/-- How far a level is from the most pressing one. -/
def Level.rank : Level → Nat
  | error => 0
  | warn => 1
  | info => 2
  | debug => 3
  | trace => 4

/-- An event; a value is kept as it is shown. -/
structure Event where
  level : Level
  /-- The part of the program that the event comes from. -/
  target : Text
  message : Text
  fields : List (Text × Text)
  deriving DecidableEq, Repr

/-- The events of a run, the first one first. -/
abbrev Log := List Event

/-- The target of a part of the program. -/
def Event.targetOf (part : String) : Text := "mdwp_core::".toList ++ part.toList

end PluginReadme
