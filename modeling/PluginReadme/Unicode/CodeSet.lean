import PluginReadme.Text.Blank

/-!
Sets of code points as ascending ranges, with the operations that character classes are built
from.
-/

namespace PluginReadme.Unicode

/-- A set of code points: ranges with both ends included, in ascending order, none of which
touches another. -/
structure CodeSet where
  ranges : List (Nat × Nat)
  deriving DecidableEq, Repr

namespace CodeSet

/-- The highest code point. -/
def top : Nat := 0x10FFFF

def empty : CodeSet := ⟨[]⟩

def all : CodeSet := ⟨[(0, top)]⟩

def range (low high : Nat) : CodeSet := ⟨[(low, high)]⟩

def single (code : Nat) : CodeSet := range code code

/-- Whether a code point is in the set. -/
def containsCode (set : CodeSet) (code : Nat) : Bool :=
  set.ranges.any fun (low, high) => low ≤ code && code ≤ high

/-- Whether a character is in the set. -/
def contains (set : CodeSet) (c : Char) : Bool := set.containsCode c.toNat

def isEmpty (set : CodeSet) : Bool := set.ranges.isEmpty

/-- Whether all members are below a code point. -/
def below (set : CodeSet) (bound : Nat) : Bool := set.ranges.all fun (_, high) => high < bound

/-- Joins ranges that overlap or touch, given ranges in the order of their lower ends. -/
def joinRanges : List (Nat × Nat) → List (Nat × Nat)
  | (low, high) :: (nextLow, nextHigh) :: rest =>
    if nextLow ≤ high + 1 then joinRanges ((low, max high nextHigh) :: rest)
    else (low, high) :: joinRanges ((nextLow, nextHigh) :: rest)
  | ranges => ranges
termination_by ranges => ranges.length

/-- The set of the code points in any of some ranges. -/
def ofRanges (ranges : List (Nat × Nat)) : CodeSet :=
  ⟨joinRanges (ranges.mergeSort fun first second => first.1 ≤ second.1)⟩

def union (first second : CodeSet) : CodeSet := ofRanges (first.ranges ++ second.ranges)

/-- The gaps between ranges, from a code point on. -/
private def gaps (bound start : Nat) : List (Nat × Nat) → List (Nat × Nat)
  | [] => if start ≤ bound then [(start, bound)] else []
  | (low, high) :: rest =>
    if start < low then (start, low - 1) :: gaps bound (high + 1) rest
    else gaps bound (high + 1) rest

/-- The code points up to a bound that are not in the set. -/
def complementUpTo (bound : Nat) (set : CodeSet) : CodeSet := ⟨gaps bound 0 set.ranges⟩

def complement (set : CodeSet) : CodeSet := set.complementUpTo top

def inter (first second : CodeSet) : CodeSet :=
  (first.complement.union second.complement).complement

def diff (first second : CodeSet) : CodeSet := first.inter second.complement

def symmDiff (first second : CodeSet) : CodeSet :=
  (first.diff second).union (second.diff first)

end CodeSet

end PluginReadme.Unicode
