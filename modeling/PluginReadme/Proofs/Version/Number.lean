import Mathlib.Data.List.TakeDrop
import Mathlib.Data.List.TakeWhile
import Mathlib.Data.Nat.Find
import PluginReadme.Version.Number

/-! Runs of characters of one kind, and version numbers as three runs of digits with dots between
them. -/
namespace PluginReadme.Numeral
open Version (isDigit digits number)

variable {kind : Char → Bool} {text front back version rest : Text} {first : Char}

/-- A text does not start with a character of a kind. -/
def Stops (kind : Char → Bool) (text : Text) : Prop :=
  ∀ c ∈ text.head?, kind c = false

/-- A text of characters of a kind. -/
def Run (kind : Char → Bool) (text : Text) : Prop :=
  ∀ c ∈ text, kind c = true

instance (kind : Char → Bool) (text : Text) : Decidable (Run kind text) :=
  decidable_of_iff (text.all kind) List.all_eq_true

theorem stops_nil : Stops kind [] := fun _ member => nomatch member

theorem stops_cons (stop : kind c = false) (rest : Text) : Stops kind (c :: rest) := by
  intro found member
  cases member
  exact stop

theorem stops_front (stop : Stops kind (front ++ back)) : Stops kind front := by
  cases front with
  | nil => exact stops_nil
  | cons c rest => exact stop

theorem Run.nil : Run kind [] := fun _ member => nomatch member

theorem run_cons : Run kind (c :: rest) ↔ kind c = true ∧ Run kind rest :=
  List.forall_mem_cons

theorem run_append : Run kind (front ++ back) ↔ Run kind front ∧ Run kind back :=
  List.forall_mem_append

/-- What stands at a place of two joined lists stands behind the first one or inside of it. -/
theorem split_cons {α : Type} {front back before after : List α} {item : α}
    (split : front ++ back = before ++ item :: after) :
    (∃ more, before = front ++ more ∧ back = more ++ item :: after) ∨
      ∃ more, front = before ++ item :: more ∧ after = more ++ back := by
  rcases List.append_eq_append_iff.mp split with ⟨more, ahead, behind⟩ | ⟨more, ahead, behind⟩
  · exact Or.inl ⟨more, ahead, behind⟩
  · cases more with
    | nil => exact Or.inl ⟨[], by simpa using ahead.symm, behind.symm⟩
    | cons first more =>
      obtain ⟨rfl, rest⟩ := List.cons.inj behind
      exact Or.inr ⟨more, ahead, rest⟩

/-- A list has a first place of a kind or none at all. -/
theorem first_place_or_none {α : Type} (kind : List α → List α → Prop) (items : List α) :
    (∃ front back, items = front ++ back ∧ kind front back ∧
      ∀ before after, front = before ++ after → after ≠ [] → ¬ kind before (after ++ back)) ∨
    ∀ front back, items = front ++ back → ¬ kind front back := by
  classical
  by_cases held : ∃ size front back, items = front ++ back ∧ front.length = size ∧ kind front back
  · apply Or.inl
    obtain ⟨front, back, split, size, here⟩ := Nat.find_spec held
    refine ⟨front, back, split, here, ?_⟩
    rintro before after rfl filled early
    have shorter : before.length < Nat.find held := by
      have positive := List.length_pos_iff.mpr filled
      rw [← size, List.length_append]
      omega
    exact Nat.find_min held shorter ⟨before, after ++ back, by simp [split], rfl, early⟩
  · apply Or.inr
    intro front back split here
    exact held ⟨_, front, back, split, rfl, here⟩

/-- A text parts into the run at its start and what follows in just one way. -/
theorem run_iff : text.takeWhile kind = front ∧ text.dropWhile kind = back ↔
    text = front ++ back ∧ Run kind front ∧ Stops kind back := by
  constructor
  · rintro ⟨rfl, rfl⟩
    refine ⟨(List.takeWhile_append_dropWhile).symm, fun c member => ?_, fun c member => ?_⟩
    · exact List.mem_takeWhile_imp member
    · have stopped := List.head?_dropWhile_not kind text
      rw [Option.mem_def.mp member] at stopped
      simpa using stopped
  · rintro ⟨rfl, run, stop⟩
    rw [List.takeWhile_append_of_pos run, List.dropWhile_append_of_pos run]
    cases back with
    | nil => simp
    | cons c rest =>
      have stop : kind c = false := stop c rfl
      simp [stop]

/-- A run and what stops it are told apart in just one way. -/
theorem run_unique {front' back' : Text} (run : Run kind front) (stop : Stops kind back)
    (run' : Run kind front') (stop' : Stops kind back') (same : front ++ back = front' ++ back') :
    front = front' ∧ back = back' := by
  obtain ⟨taken, left⟩ := run_iff.mpr ⟨rfl, run, stop⟩
  obtain ⟨taken', left'⟩ := run_iff.mpr ⟨same, run', stop'⟩
  exact ⟨taken.symm.trans taken', left.symm.trans left'⟩

theorem takeWhile_run (run : Run kind front) (stop : Stops kind back) :
    (front ++ back).takeWhile kind = front :=
  (run_iff.mpr ⟨rfl, run, stop⟩).1

theorem dropWhile_run (run : Run kind front) (stop : Stops kind back) :
    (front ++ back).dropWhile kind = back :=
  (run_iff.mpr ⟨rfl, run, stop⟩).2

theorem digits_iff : digits text = some (front, back) ↔
    text = front ++ back ∧ front ≠ [] ∧ Run isDigit front ∧ Stops isDigit back := by
  have parts := @run_iff isDigit text front back
  unfold digits
  rw [List.span_eq_takeWhile_dropWhile]
  cases taken : text.takeWhile isDigit with
  | nil =>
    constructor
    · intro wrong
      cases wrong
    · rintro ⟨split, filled, run, stop⟩
      exact absurd ((parts.mpr ⟨split, run, stop⟩).1.symm.trans taken) filled
  | cons c more =>
    constructor
    · intro found
      cases found
      obtain ⟨split, run, stop⟩ := run_iff.mp ⟨taken, rfl⟩
      exact ⟨split, List.cons_ne_nil c more, run, stop⟩
    · rintro ⟨split, -, run, stop⟩
      obtain ⟨same, left⟩ := parts.mpr ⟨split, run, stop⟩
      rw [taken] at same
      simp [same, left]

/-- Three runs of digits with dots between them. -/
def IsNumber (version : Text) : Prop :=
  ∃ major minor fix, version = major ++ '.' :: minor ++ '.' :: fix ∧
    (major ≠ [] ∧ Run isDigit major) ∧ (minor ≠ [] ∧ Run isDigit minor) ∧
    (fix ≠ [] ∧ Run isDigit fix)

/-- A number is read up to the first character that is no digit. -/
theorem number_iff : number text = some (version, rest) ↔
    text = version ++ rest ∧ IsNumber version ∧ Stops isDigit rest := by
  have dot : isDigit '.' = false := rfl
  constructor
  · intro found
    unfold number at found
    cases first : digits text with
    | none => rw [first] at found; cases found
    | some major =>
      obtain ⟨major, after⟩ := major
      simp only [first, bind, Option.bind] at found
      split at found
      · rename_i after
        cases second : digits after with
        | none => rw [second] at found; cases found
        | some minor =>
          obtain ⟨minor, after⟩ := minor
          simp only [second] at found
          split at found
          · rename_i after
            cases third : digits after with
            | none => rw [third] at found; cases found
            | some fix =>
              obtain ⟨fix, after⟩ := fix
              simp only [third] at found
              cases found
              obtain ⟨rfl, filledMajor, runMajor, -⟩ := digits_iff.mp first
              obtain ⟨rfl, filledMinor, runMinor, -⟩ := digits_iff.mp second
              obtain ⟨rfl, filledFix, runFix, stop⟩ := digits_iff.mp third
              exact ⟨by simp, ⟨major, minor, fix, rfl, ⟨filledMajor, runMajor⟩,
                ⟨filledMinor, runMinor⟩, filledFix, runFix⟩, stop⟩
          · cases found
      · cases found
  · rintro ⟨rfl, ⟨major, minor, fix, rfl, major', minor', fix'⟩, stop⟩
    have first : digits (major ++ '.' :: (minor ++ '.' :: (fix ++ rest))) =
        some (major, '.' :: (minor ++ '.' :: (fix ++ rest))) :=
      digits_iff.mpr ⟨rfl, major'.1, major'.2, stops_cons dot _⟩
    have second : digits (minor ++ '.' :: (fix ++ rest)) = some (minor, '.' :: (fix ++ rest)) :=
      digits_iff.mpr ⟨rfl, minor'.1, minor'.2, stops_cons dot _⟩
    have third : digits (fix ++ rest) = some (fix, rest) :=
      digits_iff.mpr ⟨rfl, fix'.1, fix'.2, stop⟩
    simp [number, first, second, third]

/-- Whatever follows a number, its last digits may go on there. -/
theorem IsNumber.whole (isNumber : IsNumber version) (rest : Text) : ∃ version' rest',
    version ++ rest = version' ++ rest' ∧ IsNumber version' ∧ Stops isDigit rest' := by
  obtain ⟨major, minor, fix, rfl, major', minor', filled, run⟩ := isNumber
  obtain ⟨split, more, stop⟩ := (@run_iff isDigit rest _ _).mp ⟨rfl, rfl⟩
  refine ⟨_, rest.dropWhile isDigit, ?_, ⟨major, minor, fix ++ rest.takeWhile isDigit, rfl,
    major', minor', by simp [filled], run_append.mpr ⟨run, more⟩⟩, stop⟩
  simp

theorem number_isSome : (number text).isSome = true ↔
    ∃ version rest, text = version ++ rest ∧ IsNumber version := by
  rw [Option.isSome_iff_exists]
  constructor
  · rintro ⟨⟨version, rest⟩, read⟩
    obtain ⟨split, isNumber, -⟩ := number_iff.mp read
    exact ⟨version, rest, split, isNumber⟩
  · rintro ⟨version, rest, rfl, isNumber⟩
    obtain ⟨version', rest', whole⟩ := isNumber.whole rest
    exact ⟨_, number_iff.mpr whole⟩

theorem isNumber_iff : IsNumber version ↔ number version = some (version, []) := by
  rw [number_iff, List.append_nil]
  exact ⟨fun isNumber => ⟨rfl, isNumber, stops_nil⟩, fun read => read.2.1⟩

instance (version : Text) : Decidable (IsNumber version) := decidable_of_iff _ isNumber_iff.symm

theorem IsNumber.fallback : IsNumber Version.fallback := by decide

/-- A character of a version number. -/
def isNumeral (c : Char) : Bool := isDigit c || c == '.'

theorem IsNumber.run (number : IsNumber version) : Run isNumeral version := by
  obtain ⟨major, minor, fix, rfl, ⟨-, major'⟩, ⟨-, minor'⟩, -, fix'⟩ := number
  have digit (part : Text) (run : Run isDigit part) : Run isNumeral part :=
    fun c member => by simp [isNumeral, run c member]
  have dot : isNumeral '.' = true := rfl
  simp [run_append, run_cons, digit, major', minor', fix', dot]

/-- A number starts with a digit. -/
theorem IsNumber.cons (number : IsNumber version) :
    ∃ c rest, version = c :: rest ∧ isDigit c = true := by
  obtain ⟨major, minor, fix, rfl, ⟨filled, run⟩, -⟩ := number
  obtain ⟨c, rest, rfl⟩ := List.exists_cons_of_ne_nil filled
  exact ⟨c, _, rfl, run c List.mem_cons_self⟩

/-! ## Digits and blanks -/

theorem not_blank_of_digit (digit : isDigit first = true) :
    Text.isBlank first = false := by
  simp only [isDigit, Bool.and_eq_true, decide_eq_true_eq, Char.le_def, UInt32.le_iff_toNat_le]
    at digit
  have low : 48 ≤ first.toNat := digit.1
  have high : first.toNat ≤ 57 := digit.2
  simp only [Text.isBlank, Bool.or_eq_false_iff, Bool.and_eq_false_iff, decide_eq_false_iff_not,
    beq_eq_false_iff_ne]
  omega

theorem not_digit_of_blank (blank : Text.isBlank first = true) :
    isDigit first = false := by
  cases digit : isDigit first with
  | false => rfl
  | true => simp [not_blank_of_digit digit] at blank

theorem colon_not_blank : Text.isBlank ':' = false := rfl

/-- A number that follows blanks ends them. -/
theorem number_stops (number : IsNumber version) (rest : Text) :
    Stops Text.isBlank (version ++ rest) := by
  obtain ⟨c, digits, rfl, digit⟩ := number.cons
  exact stops_cons (not_blank_of_digit digit) _

end PluginReadme.Numeral
