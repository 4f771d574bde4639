import PluginReadme.Json.Number
import PluginReadme.Proofs.Json.Grammar
import PluginReadme.Proofs.Version.Number

/-! Numbers that are skipped, up to where no character stands that could go on with them. -/
namespace PluginReadme.JsonText
open Json Numeral

variable {text rest blanks whole fraction exponent : Text} {c : Char}

/-- Whether a character may go on with a number. -/
def inNumber (c : Char) : Bool := isDigit c || c == '.' || c == 'e' || c == 'E'

theorem Digits.run (digits : Digits text) : Run isDigit text := digits.2

theorem Digits.cons (digits : Digits text) : ∃ c more, text = c :: more ∧ isDigit c = true ∧
    Run isDigit more := by
  obtain ⟨c, more, rfl⟩ := List.exists_cons_of_ne_nil digits.1
  obtain ⟨first, run⟩ := run_cons.mp digits.run
  exact ⟨c, more, rfl, first, run⟩

theorem WholePart.read (written : WholePart whole) (stop : Stops isDigit rest) (atEnd : Cause) :
    wholePart atEnd (whole ++ rest) = .ok (whole, rest) := by
  rcases written with rfl | ⟨digits, other⟩
  · have none : rest.head?.any isDigit = false := by
      cases rest with
      | nil => rfl
      | cons c rest => exact stop c rfl
    rw [List.singleton_append, wholePart, if_pos (beq_self_eq_true _), none]
    rfl
  · obtain ⟨c, more, rfl, digit, run⟩ := digits.cons
    have zero : ¬ (c == '0') = true := fun same => other (congrArg some (eq_of_beq same))
    rw [List.cons_append, wholePart, if_neg zero, if_pos digit, takeWhile_run run stop,
      dropWhile_run run stop]

theorem FractionPart.read (written : FractionPart fraction)
    (stop : Stops (fun c => isDigit c || c == '.') rest) (atEnd : Cause) :
    ∃ digits, fractionPart atEnd (fraction ++ rest) = .ok (digits, rest) := by
  have digitless : Stops isDigit rest := fun c head => (Bool.or_eq_false_iff.mp (stop c head)).1
  rcases written with rfl | ⟨digits, filled, rfl⟩
  · refine ⟨[], ?_⟩
    cases rest with
    | nil => rfl
    | cons c rest =>
      have point : c ≠ '.' := fun same => by
        have wrong := stop c rfl
        rw [same] at wrong
        cases wrong
      rw [List.nil_append]
      unfold fractionPart
      split
      · rename_i same
        exact absurd (List.cons.inj same).1 point
      · rename_i same
        exact absurd (List.cons.inj same).1 point
      · rfl
  · obtain ⟨c, more, rfl, digit, run⟩ := filled.cons
    refine ⟨c :: more, ?_⟩
    rw [List.cons_append, List.cons_append, fractionPart, if_pos digit, takeWhile_run run digitless,
      dropWhile_run run digitless]

theorem exponentSign_read {sign digits : Text} (signed : sign = [] ∨ sign = ['+'] ∨ sign = ['-'])
    (filled : Digits digits) (rest : Text) :
    (exponentSign (sign ++ (digits ++ rest))).2 = digits ++ rest := by
  rcases signed with rfl | rfl | rfl
  · obtain ⟨c, more, rfl, digit, -⟩ := filled.cons
    rw [List.nil_append, List.cons_append]
    unfold exponentSign
    split
    · rename_i same
      rw [(List.cons.inj same).1] at digit
      cases digit
    · rename_i same
      rw [(List.cons.inj same).1] at digit
      cases digit
    · rfl
  · rfl
  · rfl

theorem ExponentPart.read (written : ExponentPart exponent) (stop : Stops inNumber rest)
    (atEnd : Cause) : ∃ digits, exponentPart atEnd (exponent ++ rest) = .ok (digits, rest) := by
  rcases written with rfl | ⟨mark, sign, digits, marked, signed, filled, rfl⟩
  · refine ⟨none, ?_⟩
    cases rest with
    | nil => rfl
    | cons c rest =>
      have other : ¬ (c == 'e' || c == 'E') = true := by
        have outside := stop c rfl
        rw [inNumber, Bool.or_assoc] at outside
        rw [(Bool.or_eq_false_iff.mp outside).2]
        decide
      rw [List.nil_append, exponentPart, if_neg other]
  · have digitless : Stops isDigit rest := fun c head => by
      have outside := stop c head
      simp only [inNumber, Bool.or_eq_false_iff] at outside
      exact outside.1.1.1
    have mark' : (mark == 'e' || mark == 'E') = true := by simpa using marked
    have sign' := exponentSign_read signed filled rest
    have run := dropWhile_run filled.run digitless
    have begins : (digits ++ rest).head?.any isDigit = true := by
      obtain ⟨c, more, rfl, digit, -⟩ := filled.cons
      exact digit
    refine ⟨some ((exponentSign (sign ++ (digits ++ rest))).1,
      (digits ++ rest).takeWhile isDigit), ?_⟩
    rw [List.cons_append, List.cons_append, List.append_assoc, exponentPart, if_pos mark']
    simp only [sign', begins, if_true, run]

theorem stops_fraction (fraction' : FractionPart fraction) {kind : Char → Bool}
    (point : kind '.' = false) (stop : Stops kind rest) : Stops kind (fraction ++ rest) := by
  rcases fraction' with rfl | ⟨digits, -, rfl⟩
  · exact stop
  · exact stops_cons point _

theorem stops_exponent (exponent' : ExponentPart exponent) {kind : Char → Bool}
    (small : kind 'e' = false) (capital : kind 'E' = false) (stop : Stops kind rest) :
    Stops kind (exponent ++ rest) := by
  rcases exponent' with rfl | ⟨mark, sign, digits, rfl | rfl, -, -, rfl⟩
  · exact stop
  · exact stops_cons small _
  · exact stops_cons capital _

/-- A number is skipped up to its end. -/
theorem Unsigned.skipped (written : Unsigned text) (stop : Stops inNumber rest) :
    skipNumber (text ++ rest) = .ok rest := by
  obtain ⟨whole, fraction, exponent, whole', fraction', exponent', rfl⟩ := written
  have pointless : Stops (fun c => isDigit c || c == '.') rest := fun c head => by
    have outside := stop c head
    simp only [inNumber, Bool.or_eq_false_iff] at outside ⊢
    exact outside.1.1
  have digitless : Stops isDigit rest := fun c head =>
    (Bool.or_eq_false_iff.mp (pointless c head)).1
  have first := whole'.read (stops_fraction fraction' rfl
    (stops_exponent exponent' rfl rfl digitless)) .wrongNumber
  obtain ⟨more, second⟩ := fraction'.read (stops_exponent exponent' rfl rfl pointless) .wrongNumber
  obtain ⟨power, third⟩ := exponent'.read stop .wrongNumber
  simp only [skipNumber, numeral, List.append_assoc, first, second, third, bind, Except.bind, pure,
    Except.pure, Except.map]

theorem Unsigned.cons (written : Unsigned text) :
    ∃ c more, text = c :: more ∧ isDigit c = true := by
  obtain ⟨whole, fraction, exponent, rfl | ⟨digits, -⟩, -, -, rfl⟩ := written
  · exact ⟨'0', fraction ++ exponent, rfl, rfl⟩
  · obtain ⟨c, more, rfl, digit, -⟩ := digits.cons
    exact ⟨c, more ++ (fraction ++ exponent), rfl, digit⟩

/-- What stands behind blanks is no part of a number. -/
theorem stops_blanks (blank : Blanks blanks) (stop : Stops inNumber rest) :
    Stops inNumber (blanks ++ rest) := by
  cases blanks with
  | nil => exact stop
  | cons c blanks =>
    have listed := blank c List.mem_cons_self
    simp only [List.mem_cons, List.not_mem_nil, or_false] at listed
    rcases listed with rfl | rfl | rfl | rfl <;> exact stops_cons rfl _

end PluginReadme.JsonText
