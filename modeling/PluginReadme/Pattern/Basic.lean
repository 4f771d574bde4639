import PluginReadme.Unicode.Word

/-!
Patterns and the places of a text where they are looked for.
-/

namespace PluginReadme

open Unicode (CodeSet)

/-- A condition on the place between two characters. -/
inductive Look where
  | textStart
  | textEnd
  | lineStart
  | lineEnd
  /-- Line boundaries where a carriage return ends a line, too. -/
  | anyLineStart
  | anyLineEnd
  | wordBoundary (word : CodeSet)
  | notWordBoundary (word : CodeSet)
  | wordStart (word : CodeSet)
  | wordEnd (word : CodeSet)
  | noWordBefore (word : CodeSet)
  | noWordAfter (word : CodeSet)
  deriving DecidableEq, Repr

/-- A pattern whose flags and classes have been worked out. -/
inductive Pattern where
  | empty
  /-- One character of a set. -/
  | set (chars : CodeSet)
  | look (condition : Look)
  | concat (first second : Pattern)
  /-- The first, or else the second. -/
  | either (first second : Pattern)
  /-- At least `least` times, and at most `most` times if that is given; as often as possible if
  greedy, else as seldom. -/
  | repeated (least : Nat) (most : Option Nat) (greedy : Bool) (part : Pattern)
  /-- A group whose text is kept. -/
  | group (part : Pattern)
  deriving DecidableEq, Repr

/-- A place in a text: how many characters stand before it, the last of them, and what follows. -/
structure Cursor where
  position : Nat
  previous : Option Char
  rest : Text
  deriving DecidableEq, Repr

namespace Cursor

/-- The start of a text. -/
def atStart (text : Text) : Cursor := ⟨0, none, text⟩

/-- The places from a cursor on to the end of the text. -/
def onwards (position : Nat) (previous : Option Char) : Text → List Cursor
  | [] => [⟨position, previous, []⟩]
  | c :: rest => ⟨position, previous, c :: rest⟩ :: onwards (position + 1) (some c) rest

/-- The text between two places. -/
def textTo (start stop : Cursor) : Text := start.rest.take (stop.position - start.position)

/-- Keeps the first of several cursors at the same place. -/
def distinctFrom (seen : Nat) : List Cursor → List Cursor
  | [] => []
  | cursor :: rest =>
    if seen.testBit cursor.position then distinctFrom seen rest
    else cursor :: distinctFrom (seen ||| 1 <<< cursor.position) rest

/-- Keeps the first of several cursors at the same place. -/
def distinct (cursors : List Cursor) : List Cursor := distinctFrom 0 cursors

end Cursor

/-- Whether a condition holds at a place. -/
def Look.holds (cursor : Cursor) (look : Look) : Bool :=
  let before (word : CodeSet) := cursor.previous.any word.contains
  let after (word : CodeSet) := cursor.rest.head?.any word.contains
  match look with
  | .textStart => cursor.previous.isNone
  | .textEnd => cursor.rest.isEmpty
  | .lineStart => cursor.previous.all (· == '\n')
  | .lineEnd => cursor.rest.head?.all (· == '\n')
  | .anyLineStart =>
    cursor.previous.all fun c => c == '\n' || c == '\r' && cursor.rest.head? != some '\n'
  | .anyLineEnd =>
    cursor.rest.head?.all fun c => c == '\r' || c == '\n' && cursor.previous != some '\r'
  | .wordBoundary word => before word != after word
  | .notWordBoundary word => before word == after word
  | .wordStart word => !before word && after word
  | .wordEnd word => before word && !after word
  | .noWordBefore word => !before word
  | .noWordAfter word => !after word

namespace Pattern

/-- Whether a pattern can match the empty text. -/
def canBeEmpty : Pattern → Bool
  | empty => true
  | set _ => false
  | look _ => true
  | concat first second => first.canBeEmpty && second.canBeEmpty
  | either first second => first.canBeEmpty || second.canBeEmpty
  | repeated least _ _ part => least == 0 || part.canBeEmpty
  | group part => part.canBeEmpty

/-- A pattern for exactly one text. -/
def literal : Text → Pattern
  | [] => empty
  | [c] => set (.single c.toNat)
  | c :: rest => concat (set (.single c.toNat)) (literal rest)

end Pattern

end PluginReadme
