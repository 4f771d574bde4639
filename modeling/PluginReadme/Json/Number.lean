import PluginReadme.Decimal.Shortest
import PluginReadme.Json.Failure

/-!
Numbers of JSON.  Their values are looked at only to say what a value of the wrong type is.
-/

namespace PluginReadme.Json

/-- A digit. -/
def isDigit (c : Char) : Bool := '0' ≤ c && c ≤ '9'

/-- A number as it is written, without its sign. -/
structure Numeral where
  whole : Text
  fraction : Text
  /-- Whether the exponent is negative, and its digits. -/
  exponent : Option (Bool × Text)
  deriving DecidableEq, Repr

/-- Whether an exponent is negative, and what follows its sign. -/
def exponentSign : Text → Bool × Text
  | '+' :: rest => (false, rest)
  | '-' :: rest => (true, rest)
  | rest => (false, rest)

/-- The exponent at the start of a text, if there is one; `atEnd` says why a text is refused that
ends within it. -/
def exponentPart (atEnd : Cause) :
    Text → Except Failure (Option (Bool × Text) × Text)
  | [] => .ok (none, [])
  | c :: rest =>
    if c == 'e' || c == 'E' then
      let sign := exponentSign rest
      let digits := sign.2
      if digits.head?.any isDigit then
        .ok (some (sign.1, digits.takeWhile isDigit), digits.dropWhile isDigit)
      else if digits.isEmpty then failHere atEnd []
      else failNext .wrongNumber digits
    else .ok (none, c :: rest)

/-- The digits before the point: no zero stands before another digit. -/
def wholePart (atEnd : Cause) : Text → Except Failure (Text × Text)
  | [] => failHere atEnd []
  | c :: rest =>
    if c == '0' then
      if rest.head?.any isDigit then failNext .wrongNumber rest else .ok (['0'], rest)
    else if isDigit c then .ok (c :: rest.takeWhile isDigit, rest.dropWhile isDigit)
    else failNext .wrongNumber (c :: rest)

/-- The digits after the point, if there is one; a point has a digit after it. -/
def fractionPart (atEnd : Cause) : Text → Except Failure (Text × Text)
  | '.' :: [] => failHere atEnd []
  | '.' :: c :: rest =>
    if isDigit c then .ok (c :: rest.takeWhile isDigit, rest.dropWhile isDigit)
    else failNext .wrongNumber (c :: rest)
  | text => .ok ([], text)

/-- The number at the start of a text, after its sign; `atEnd` says why a text is refused that ends
within it. -/
def numeral (atEnd : Cause) (text : Text) : Except Failure (Numeral × Text) := do
  let (whole, rest) ← wholePart atEnd text
  let (fraction, rest) ← fractionPart atEnd rest
  let (exponent, rest) ← exponentPart atEnd rest
  return (⟨whole, fraction, exponent⟩, rest)

private theorem length_afterDigits (text : Text) : (text.dropWhile isDigit).length ≤ text.length :=
  (List.dropWhile_suffix isDigit).length_le

private theorem length_wholePart {atEnd : Cause} {text digits rest : Text}
    (h : wholePart atEnd text = .ok (digits, rest)) : rest.length < text.length := by
  unfold wholePart at h
  split at h
  · cases h
  · rename_i c after
    have := length_afterDigits after
    split at h
    · split at h <;> cases h
      simp
    · split at h <;> cases h
      simp only [List.length_cons]
      omega

private theorem length_fractionPart {atEnd : Cause} {text digits rest : Text}
    (h : fractionPart atEnd text = .ok (digits, rest)) : rest.length ≤ text.length := by
  unfold fractionPart at h
  split at h
  · cases h
  · rename_i c after
    have := length_afterDigits after
    split at h <;> cases h
    simp only [List.length_cons]
    omega
  · cases h
    exact Nat.le_refl _

private theorem length_exponentSign (text : Text) :
    (exponentSign text).2.length ≤ text.length := by
  unfold exponentSign
  split <;> simp

private theorem length_exponentPart {atEnd : Cause} {text rest : Text}
    {found : Option (Bool × Text)} (h : exponentPart atEnd text = .ok (found, rest)) :
    rest.length ≤ text.length := by
  unfold exponentPart at h
  split at h
  · cases h
    exact Nat.le_refl _
  · rename_i c after
    have := length_exponentSign after
    have := length_afterDigits (exponentSign after).2
    split at h
    · simp only at h
      split at h
      · cases h
        simp only [List.length_cons]
        omega
      · split at h <;> cases h
    · cases h
      exact Nat.le_refl _

/-- A number takes at least one character. -/
theorem length_numeral {atEnd : Cause} {text rest : Text} {found : Numeral}
    (h : numeral atEnd text = .ok (found, rest)) : rest.length < text.length := by
  unfold numeral at h
  cases whole : wholePart atEnd text with
  | error => simp [whole, bind, Except.bind] at h
  | ok read =>
    obtain ⟨digits, afterWhole⟩ := read
    have := length_wholePart whole
    simp only [whole, bind, Except.bind] at h
    cases fraction : fractionPart atEnd afterWhole with
    | error => simp [fraction] at h
    | ok read =>
      obtain ⟨more, afterFraction⟩ := read
      have := length_fractionPart fraction
      simp only [fraction] at h
      cases exponent : exponentPart atEnd afterFraction with
      | error => simp [exponent] at h
      | ok read =>
        obtain ⟨power, afterAll⟩ := read
        have := length_exponentPart exponent
        simp only [exponent, pure, Except.pure, Except.ok.injEq, Prod.mk.injEq] at h
        obtain ⟨_, rfl⟩ := h
        omega

/-- Skips a number, after its sign. -/
def skipNumber (text : Text) : Except Failure Text := (numeral .wrongNumber text).map (·.2)

/-- Skipping a number takes at least one character. -/
theorem length_skipNumber {text rest : Text} (h : skipNumber text = .ok rest) :
    rest.length < text.length := by
  unfold skipNumber at h
  cases read : numeral .wrongNumber text with
  | error => simp [read, Except.map] at h
  | ok found =>
    simp only [read, Except.map, Except.ok.injEq] at h
    subst h
    exact length_numeral read

/-- Adds digits to a number as long as it fits into 64 bits, and says how many it took. -/
private def absorb (value taken : Nat) : Text → Nat × Nat
  | [] => (value, taken)
  | c :: rest =>
    let larger := value * 10 + (c.toNat - '0'.toNat)
    if larger < 1 <<< 64 then absorb larger (taken + 1) rest else (value, taken)

/-- A number times a power of ten, rounded after each step; none if it gets too large.  A low power
is reached in steps. -/
private def scale (value : Float) (exponent : Int) : Option Float :=
  if exponent.natAbs ≤ 308 then
    let power := Float.ofScientific 1 false exponent.natAbs
    if 0 ≤ exponent then
      let product := value * power
      if product.isInf then none else some product
    else some (value / power)
  else if value == 0 then some value
  else if 0 ≤ exponent then none
  else scale (value / Float.ofScientific 1 false 308) (exponent + 308)
termination_by exponent.natAbs

/-- The digits of an exponent that fit into 31 bits. -/
private def fitting (value taken : Nat) : Text → Nat × Nat
  | [] => (value, taken)
  | c :: rest =>
    let larger := value * 10 + (c.toNat - '0'.toNat)
    if larger < 1 <<< 31 then fitting larger (taken + 1) rest else (value, taken)

/-- What a number is that is read to its end, with `rest` behind it. -/
def Numeral.found (negative : Bool) (rest : Text) (numeral : Numeral) : Except Failure Found :=
  let (value, taken) := absorb 0 0 numeral.whole
  let isWhole := numeral.fraction.isEmpty && numeral.exponent.isNone
  if isWhole && taken == numeral.whole.length && !negative then .ok (.integer value)
  else if isWhole && taken == numeral.whole.length && 0 < value && value ≤ 1 <<< 63 then
    .ok (.integer (-value))
  else
    let (significand, takenLater) := absorb value 0 numeral.fraction
    let exponent : Int := (numeral.whole.length - taken : Nat) - (takenLater : Int)
    let start := (UInt64.ofNat significand).toFloat
    let signed (value : Float) : Found :=
      .decimal (Decimal.ofFloat (if negative then -value else value))
    let scaled (exponent : Int) : Except Failure Found :=
      match scale start exponent with
      | some value => .ok (signed value)
      | none => failHere .numberTooLarge rest
    match numeral.exponent with
    | none => scaled exponent
    | some (isNegative, digits) =>
      let (power, count) := fitting 0 0 digits
      if count < digits.length then
        if significand != 0 && !isNegative then
          failHere .numberTooLarge (digits.drop (count + 1) ++ rest)
        else .ok (signed 0)
      else scaled (if isNegative then exponent - power else exponent + power)

/-- What the number at the start of a text is, after its sign. -/
def numberFound (negative : Bool) (text : Text) : Except Failure (Found × Text) := do
  let (numeral, rest) ← numeral (.unfinished .value) text
  return (← numeral.found negative rest, rest)

end PluginReadme.Json
