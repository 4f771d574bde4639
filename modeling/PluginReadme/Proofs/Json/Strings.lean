import PluginReadme.Json.String
import PluginReadme.Proofs.Json.Grammar

/-! Strings as they are read. Whatever characters of a text are escaped, and however, reading the
string gives the text again; a string that is skipped may hold code units that stand for no
character. -/
namespace PluginReadme.JsonText
open Json

variable {c digit letter : Char} {value : Nat} {digits piece content body rest : Text}

/-! ## Code units -/

theorem HexDigit.read (written : HexDigit value digit) : hexDigit? digit = some value := by
  have each : ∀ value < 16, hexDigit? value.digitChar = some value ∧
      hexDigit? value.digitChar.toUpper = some value := by decide
  obtain ⟨bound, rfl | rfl⟩ := written
  · exact (each value bound).1
  · exact (each value bound).2

theorem CodeUnit.read (unit : CodeUnit value digits) (rest : Text) :
    codeUnit (digits ++ rest) = .ok (value, rest) := by
  cases unit with
  | digits one two three four =>
    simp [codeUnit, fourDigits?, one.read, two.read, three.read, four.read]

theorem unicodeEscape_unit (unit : CodeUnit c.toNat digits) (rest : Text) :
    unicodeEscape (digits ++ rest) = .ok (c, rest) := by
  have valid : (c.toNat < 0xD800 || 0xDFFF < c.toNat) = true := by
    rw [Bool.or_eq_true, decide_eq_true_eq, decide_eq_true_eq]
    exact c.valid.imp id And.left
  simp only [unicodeEscape, unit.read, bind, Except.bind]
  rw [if_pos valid, Char.ofNat_toNat]

theorem unicodeEscape_surrogates {high low : Text} (wide : 0x10000 ≤ c.toNat)
    (first : CodeUnit (0xD800 + (c.toNat - 0x10000) / 0x400) high)
    (second : CodeUnit (0xDC00 + (c.toNat - 0x10000) % 0x400) low) (rest : Text) :
    unicodeEscape (high ++ '\\' :: 'u' :: (low ++ rest)) = .ok (c, rest) := by
  have bound : c.toNat < 0x110000 := by
    rcases c.valid with low | ⟨-, high⟩
    · exact Nat.lt_trans low (by decide)
    · exact high
  simp only [unicodeEscape, first.read, bind, Except.bind]
  rw [if_neg (by simp only [Bool.or_eq_true, decide_eq_true_eq]; omega), if_neg (by omega)]
  simp only [expectMark, beq_self_eq_true, if_true, second.read]
  rw [if_neg (by simp only [Bool.or_eq_true, decide_eq_true_eq]; omega)]
  have whole : 0x10000 + (0xD800 + (c.toNat - 0x10000) / 0x400 - 0xD800) * 0x400 +
      (0xDC00 + (c.toNat - 0x10000) % 0x400 - 0xDC00) = c.toNat := by omega
  rw [whole, Char.ofNat_toNat]

/-! ## Characters -/

theorem Letter.read (stands : Letter letter c) : letter ≠ 'u' ∧ shortEscape? letter = some c := by
  cases stands <;> exact ⟨by decide, rfl⟩

theorem stringText_plain (plain : Plain c) (rest : Text) :
    stringText (c :: rest) = (stringText rest).map fun (text, rest) => (c :: text, rest) := by
  obtain ⟨visible, quote, backslash⟩ := plain
  rw [stringText]
  simp [quote, backslash, Nat.not_lt.mpr visible]

theorem stringText_escape (taken : escape piece = .ok (c, rest)) :
    stringText ('\\' :: piece) = (stringText rest).map fun (text, rest) => (c :: text, rest) := by
  rw [stringText, if_neg (by decide), if_pos (beq_self_eq_true _), taken]

/-- A text of plain characters can be written as it is. -/
theorem StringText.of_plain (text : Text) (plain : text.all fun c => decide (Plain c)) :
    StringText text ('"' :: text ++ ['"']) := by
  refine ⟨text, ?_, rfl⟩
  induction text with
  | nil => exact .nil
  | cons c text ih =>
    rw [List.all_cons, Bool.and_eq_true, decide_eq_true_eq] at plain
    exact .cons (.plain plain.1) (ih plain.2)

/-- One character is read, however it is written. -/
theorem CharText.read (written : CharText c piece) (rest : Text) :
    stringText (piece ++ rest) =
      (stringText rest).map fun (text, rest) => (c :: text, rest) := by
  cases written with
  | plain plain => exact stringText_plain plain rest
  | letter stands =>
    obtain ⟨other, read⟩ := stands.read
    apply stringText_escape
    simp [escape, other, read]
  | unit unit => exact stringText_escape (unicodeEscape_unit unit rest)
  | @surrogates _ high low wide first second =>
    have split : '\\' :: 'u' :: high ++ '\\' :: 'u' :: low ++ rest =
        '\\' :: 'u' :: (high ++ '\\' :: 'u' :: (low ++ rest)) := by simp
    rw [split]
    exact stringText_escape (unicodeEscape_surrogates wide first second rest)

/-- A string is read up to its closing quote. -/
theorem Escaped.read (written : Escaped content body) (rest : Text) :
    stringText (body ++ '"' :: rest) = .ok (content, rest) := by
  induction written with
  | nil => rw [List.nil_append, stringText]; rfl
  | cons first written ih =>
    rw [List.append_assoc, first.read, ih]
    rfl

theorem skipString_escape (taken : skipEscape piece = .ok rest) :
    skipString ('\\' :: piece) = skipString rest := by
  rw [skipString, if_neg (by decide), if_pos (beq_self_eq_true _), taken]

/-- A string is skipped up to its closing quote. -/
theorem StringBody.skipped (written : StringBody body) (rest : Text) :
    skipString (body ++ '"' :: rest) = .ok rest := by
  induction written with
  | nil => rw [List.nil_append, skipString]; rfl
  | @plain c body plain written ih =>
    obtain ⟨visible, quote, backslash⟩ := plain
    rw [List.cons_append, skipString]
    simp [quote, backslash, Nat.not_lt.mpr visible, ih]
  | letter stands written ih =>
    obtain ⟨other, read⟩ := stands.read
    rw [← ih]
    apply skipString_escape
    simp [skipEscape, other, read]
  | @unit value digits body unit written ih =>
    rw [← ih, List.append_assoc]
    apply skipString_escape
    simp [skipEscape, unit.read, Except.map]

end PluginReadme.JsonText
