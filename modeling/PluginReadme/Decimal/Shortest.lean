import PluginReadme.Text.Blank

/-!
The shortest decimal text of a floating-point number: of all decimals that round to the number, one
with the fewest digits, and of those the nearest.
-/

namespace PluginReadme

/-- A decimal: digits as a number, and the power of ten that they are multiplied with. -/
structure Decimal where
  digits : Nat
  exponent : Int
  deriving DecidableEq, Repr

namespace Decimal

/-- A positive fraction. -/
structure Ratio where
  numerator : Nat
  denominator : Nat
  deriving DecidableEq, Repr

/-- The fraction `significand * base ^ exponent`. -/
def Ratio.scaled (significand base : Nat) (exponent : Int) : Ratio :=
  match exponent with
  | .ofNat n => ⟨significand * Nat.pow base n, 1⟩
  | .negSucc n => ⟨significand, Nat.pow base (n + 1)⟩

def Ratio.le (first second : Ratio) : Bool :=
  first.numerator * second.denominator ≤ second.numerator * first.denominator

def Ratio.lt (first second : Ratio) : Bool := !second.le first

/-- The numbers that round to a floating-point number; the ends round to it, too, if the
significand is even. -/
structure Interval where
  value : Ratio
  low : Ratio
  high : Ratio
  closed : Bool
  deriving DecidableEq, Repr

/-- The interval of a number with a significand and a binary exponent.  Below a power of two the
next number is only half as far away. -/
def Interval.of (significand : Nat) (exponent : Int) (isPower : Bool) : Interval where
  value := .scaled (4 * significand) 2 (exponent - 2)
  low := .scaled (4 * significand - if isPower then 1 else 2) 2 (exponent - 2)
  high := .scaled (4 * significand + 2) 2 (exponent - 2)
  closed := significand % 2 == 0

def Interval.contains (interval : Interval) (ratio : Ratio) : Bool :=
  if interval.closed then interval.low.le ratio && ratio.le interval.high
  else interval.low.lt ratio && ratio.lt interval.high

/-- The decimal with an exponent that is nearest to the number, out of those in the interval. -/
def nearest? (interval : Interval) (exponent : Int) : Option Decimal :=
  let value := interval.value
  let unit := Ratio.scaled 1 10 exponent
  let below := value.numerator * unit.denominator / (value.denominator * unit.numerator)
  let at? (digits : Nat) := interval.contains (.scaled digits 10 exponent)
  match at? below, at? (below + 1) with
  | false, false => none
  | true, false => some ⟨below, exponent⟩
  | false, true => some ⟨below + 1, exponent⟩
  | true, true =>
    -- Twice the middle between both, in units.
    let middle := 2 * below + 1
    let half := Ratio.scaled middle 10 exponent
    let twice : Ratio := ⟨2 * value.numerator, value.denominator⟩
    if twice.lt half || (!half.lt twice && below % 2 == 0) then some ⟨below, exponent⟩
    else some ⟨below + 1, exponent⟩

/-- The first exponent from the highest down, for which a decimal is in the interval. -/
def shortestFrom (interval : Interval) (exponent : Int) : Nat → Decimal
  | 0 => ⟨0, 0⟩
  | fuel + 1 =>
    match nearest? interval exponent with
    | some decimal => decimal
    | none => shortestFrom interval (exponent - 1) fuel

/-- The shortest decimal that rounds to a positive finite number with these bits. -/
def ofBits (bits : Nat) : Decimal :=
  let fraction : Nat := bits % (1 <<< 52)
  let biased : Nat := (bits >>> 52) % (1 <<< 11)
  let (significand, exponent) : Nat × Int :=
    if biased == 0 then (fraction, -1074) else ((1 <<< 52) + fraction, (biased : Int) - 1075)
  let interval := Interval.of significand exponent (fraction == 0 && 1 < biased)
  -- No number exceeds `10 ^ 309`, and the least one needs one digit at `10 ^ -324`.
  shortestFrom interval 309 640

/-- How decimals are written: the exponents of their first digits that are written without an
exponent. -/
structure Layout where
  lowest : Int
  highest : Int

/-- Numbers from `0.00001` to below `10 ^ 16` have no exponent. -/
def Layout.standard : Layout := ⟨-5, 15⟩

/-- A decimal as it is written; a number without an exponent has a digit after its point. -/
def text (layout : Layout) (decimal : Decimal) : Text :=
  let digits := Nat.toDigits 10 decimal.digits
  let count := digits.length
  let first := decimal.exponent + count - 1
  if layout.lowest ≤ first && first ≤ layout.highest then
    if 0 ≤ decimal.exponent then digits ++ List.replicate decimal.exponent.toNat '0' ++ ['.', '0']
    else if 0 ≤ first then
      digits.take (first.toNat + 1) ++ '.' :: digits.drop (first.toNat + 1)
    else '0' :: '.' :: List.replicate ((-first).toNat - 1) '0' ++ digits
  else
    let point := if count == 1 then digits else digits.take 1 ++ '.' :: digits.drop 1
    let sign := if 0 ≤ first then '+' else '-'
    point ++ 'e' :: sign :: Nat.toDigits 10 first.natAbs

/-- The text of a finite floating-point number. -/
def ofFloat (x : Float) : Text :=
  let bits := x.toBits.toNat
  let sign := if 1 <<< 63 ≤ bits then ['-'] else []
  let bits := bits % (1 <<< 63)
  let decimal := if bits == 0 then ⟨0, 0⟩ else ofBits bits
  sign ++ decimal.text .standard

end Decimal

end PluginReadme
