import PluginReadme.Pattern.Basic

/-!
The search for a pattern.  A pattern is taken apart into a machine whose forks are the places where
a search can go on in two ways.  The search follows the preferred way first and comes back for the
other one; but it passes a fork only once at a place of the text, since it has then been after all
that there is behind it.  `Pattern.ends` lists the places where the search arrives, in the order in
which it does: the places where a match can end, the preferred one first.
-/

namespace PluginReadme.Pattern

open Unicode (CodeSet)

/-- A pattern as a search goes through it. -/
inductive Machine where
  | done
  | set (chars : CodeSet)
  | look (condition : Look)
  | concat (first second : Machine)
  /-- Two ways to go on, the preferred one first. -/
  | fork (first second : Machine)
  /-- Any number of rounds, with a fork in front of each. -/
  | star (greedy : Bool) (part : Machine)
  /-- At least one round, with a fork behind each. -/
  | plus (greedy : Bool) (part : Machine)
  deriving DecidableEq, Repr

namespace Machine

/-- A fork where more is preferred if greedy. -/
def choice (greedy : Bool) (more less : Machine) : Machine :=
  if greedy then fork more less else fork less more

/-- So many copies of a part in front of a machine. -/
def copies (part : Machine) : Nat → Machine → Machine
  | 0, rest => rest
  | count + 1, rest => concat part (copies part count rest)

/-- At most so many copies of a part, with a fork in front of each. -/
def upTo (greedy : Bool) (part : Machine) : Nat → Machine
  | 0 => done
  | count + 1 => choice greedy (concat part (upTo greedy part count)) done

end Machine

/-- The machine of a pattern.  Any number of rounds that may be empty are no rounds at all, or else
at least one: so the fork behind a round is not the one that the search has come from. -/
def machine : Pattern → Machine
  | empty => .done
  | set chars => .set chars
  | look condition => .look condition
  | concat first second => .concat first.machine second.machine
  | either first second => .fork first.machine second.machine
  | repeated least (some most) greedy part =>
    .copies part.machine least (.upTo greedy part.machine (most - least))
  | repeated 0 none greedy part =>
    if part.canBeEmpty then .choice greedy (.plus greedy part.machine) .done
    else .star greedy part.machine
  | repeated (least + 1) none greedy part =>
    .copies part.machine least (.plus greedy part.machine)
  | group part => part.machine

/-- What a search has been through: the forks that it has passed, each with its places in the text
as a set of bits, and the places where it has arrived, newest first.  A fork is known by the way
down to it in the machine. -/
structure Search where
  passed : List (List Nat × Nat)
  found : List Cursor

namespace Search

/-- A search that has not been anywhere. -/
def start : Search := ⟨[], []⟩

/-- Whether a fork has been passed at a place. -/
def hasPassed (search : Search) (way : List Nat) (place : Nat) : Bool :=
  ((search.passed.lookup way).getD 0).testBit place

/-- Adds a place to those where a fork has been passed. -/
def mark (way : List Nat) (place : Nat) : List (List Nat × Nat) → List (List Nat × Nat)
  | [] => [(way, 1 <<< place)]
  | (other, places) :: rest =>
    if way == other then (other, places ||| 1 <<< place) :: rest
    else (other, places) :: mark way place rest

/-- Passes a fork at a place. -/
def pass (search : Search) (way : List Nat) (place : Nat) : Search :=
  { search with passed := mark way place search.passed }

/-- Arrives at a place. -/
def arrive (search : Search) (cursor : Cursor) : Search :=
  { search with found := cursor :: search.found }

end Search

/-- What a search does from a place on. -/
abbrev Course := Search → Cursor → Search

namespace Course

/-- Goes one way and then the other, unless the fork has been passed at the place. -/
def fork (way : List Nat) (first second : Course) : Course := fun search cursor =>
  if search.hasPassed way cursor.position then search
  else second (first (search.pass way cursor.position) cursor) cursor

/-- Goes through more rounds, with a fork in front of each. -/
def rounds (way : List Nat) (greedy : Bool) (round : Course → Course) (onward : Course) :
    Nat → Course
  | 0 => fun search _ => search
  | fuel + 1 =>
    let more := round (rounds way greedy round onward fuel)
    if greedy then fork way more onward else fork way onward more

/-- Goes through as many more rounds as there can be.  A round either gets further on in the text
or comes back to a fork that has been passed. -/
def again (way : List Nat) (greedy : Bool) (round : Course → Course) (onward : Course) : Course :=
  fun search cursor => rounds way greedy round onward (cursor.rest.length + 1) search cursor

end Course

/-- Goes through a machine, and then onward from each place where it gets to the end of it. -/
def Machine.walk : Machine → List Nat → Course → Course
  | done, _, onward => onward
  | set chars, _, onward => fun search cursor =>
    match cursor.rest with
    | [] => search
    | c :: rest =>
      if chars.contains c then onward search ⟨cursor.position + 1, some c, rest⟩ else search
  | look condition, _, onward => fun search cursor =>
    if condition.holds cursor then onward search cursor else search
  | concat first second, way, onward => first.walk (0 :: way) (second.walk (1 :: way) onward)
  | fork first second, way, onward =>
    Course.fork way (first.walk (0 :: way) onward) (second.walk (1 :: way) onward)
  | star greedy part, way, onward => Course.again way greedy (part.walk (0 :: way)) onward
  | plus greedy part, way, onward =>
    part.walk (0 :: way) (Course.again way greedy (part.walk (0 :: way)) onward)

/-- The places where a match that starts at a place can end, the preferred one first. -/
def ends (pattern : Pattern) (cursor : Cursor) : List Cursor :=
  Cursor.distinct (pattern.machine.walk [] Search.arrive .start cursor).found.reverse

/-- Of the rounds the empty one is preferred, so the first match is empty: `(.*?)*`. -/
example : ((repeated 0 none true (repeated 0 none false (set .all))).ends
    (.atStart "ab".toList)).map Cursor.position = [0, 1, 2] := by decide

/-- A fork that lies ahead of the end of a round is not passed again behind it: `(?:a?b??)+`. -/
example : ((repeated 1 none true (concat (repeated 0 (some 1) true (set (.single 97)))
    (repeated 0 (some 1) false (set (.single 98))))).ends
    (.atStart "ab".toList)).map Cursor.position = [1, 2, 0] := by decide

end PluginReadme.Pattern
