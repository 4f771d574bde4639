import PluginReadme.Json.Failure

/-!
Strings of JSON.  A string is read where its text is asked for, and skipped elsewhere; skipping
does not look at which characters its escapes stand for.
-/

namespace PluginReadme.Json

/-- The value of a hexadecimal digit. -/
def hexDigit? (c : Char) : Option Nat :=
  if '0' ≤ c && c ≤ '9' then some (c.toNat - '0'.toNat)
  else if 'a' ≤ c && c ≤ 'f' then some (c.toNat - 'a'.toNat + 10)
  else if 'A' ≤ c && c ≤ 'F' then some (c.toNat - 'A'.toNat + 10)
  else none

/-- The number that four hexadecimal digits at the start of a text stand for. -/
def fourDigits? : Text → Option (Nat × Text)
  | a :: b :: c :: d :: rest => do
    some ((((← hexDigit? a) * 16 + (← hexDigit? b)) * 16 + (← hexDigit? c)) * 16
      + (← hexDigit? d), rest)
  | _ => none

/-- A code unit of four hexadecimal digits.  Four bytes are taken before they are looked at. -/
def codeUnit (text : Text) : Except Failure (Nat × Text) :=
  match fourDigits? text with
  | some found => .ok found
  | none =>
    if byteCount text < 4 then failHere (.unfinished .string) []
    else .error ⟨.wrongEscape, text, 4⟩

/-- The character of an escape of one letter. -/
def shortEscape? : Char → Option Char
  | '"' => some '"'
  | '\\' => some '\\'
  | '/' => some '/'
  | 'b' => some '\x08'
  | 'f' => some '\x0C'
  | 'n' => some '\n'
  | 'r' => some '\r'
  | 't' => some '\t'
  | _ => none

/-- Reads one given character of an escape of two code units. -/
def expectMark (mark : Char) : Text → Except Failure Text
  | [] => failHere (.unfinished .string) []
  | c :: rest => if c == mark then .ok rest else failNext .noSecondEscape (c :: rest)

/-- The character of an escape by code units, after its `\u`: one code unit, or two surrogates. -/
def unicodeEscape (text : Text) : Except Failure (Char × Text) := do
  let (first, rest) ← codeUnit text
  if first < 0xD800 || 0xDFFF < first then .ok (Char.ofNat first, rest)
  else if 0xDC00 ≤ first then failHere .loneSurrogate rest
  else
    let rest ← expectMark 'u' (← expectMark '\\' rest)
    let (second, rest) ← codeUnit rest
    if second < 0xDC00 || 0xDFFF < second then failHere .loneSurrogate rest
    else .ok (Char.ofNat (0x10000 + (first - 0xD800) * 0x400 + (second - 0xDC00)), rest)

/-- The character of an escape, after its backslash. -/
def escape : Text → Except Failure (Char × Text)
  | [] => failHere (.unfinished .string) []
  | c :: rest =>
    if c == 'u' then unicodeEscape rest
    else
      match shortEscape? c with
      | some char => .ok (char, rest)
      | none => failNext .wrongEscape (c :: rest)

/-- Skips an escape, after its backslash. -/
def skipEscape : Text → Except Failure Text
  | [] => failHere (.unfinished .string) []
  | c :: rest =>
    if c == 'u' then (codeUnit rest).map (·.2)
    else if (shortEscape? c).isSome then .ok rest
    else failNext .wrongEscape (c :: rest)

private theorem length_fourDigits {text rest : Text} {value : Nat}
    (h : fourDigits? text = some (value, rest)) : rest.length < text.length := by
  unfold fourDigits? at h
  split at h
  · simp only [Option.bind_eq_bind, Option.bind_eq_some_iff, Option.some.injEq, Prod.mk.injEq] at h
    obtain ⟨_, _, _, _, _, _, _, _, _, rfl⟩ := h
    simp only [List.length_cons]
    omega
  · cases h

private theorem length_codeUnit {text rest : Text} {value : Nat}
    (h : codeUnit text = .ok (value, rest)) : rest.length < text.length := by
  unfold codeUnit at h
  split at h
  · cases h
    exact length_fourDigits ‹_›
  · split at h <;> cases h

private theorem length_expectMark {mark : Char} {text rest : Text}
    (h : expectMark mark text = .ok rest) : rest.length < text.length := by
  unfold expectMark at h
  split at h
  · cases h
  · split at h
    · cases h
      simp
    · cases h

private theorem length_unicodeEscape {text rest : Text} {char : Char}
    (h : unicodeEscape text = .ok (char, rest)) : rest.length < text.length := by
  unfold unicodeEscape at h
  cases first : codeUnit text with
  | error => simp [first, bind, Except.bind] at h
  | ok found =>
    obtain ⟨unit, middle⟩ := found
    have shorter := length_codeUnit first
    simp only [first, bind, Except.bind] at h
    split at h
    · simp only [Except.ok.injEq, Prod.mk.injEq] at h
      obtain ⟨_, rfl⟩ := h
      exact shorter
    · split at h
      · cases h
      · cases slash : expectMark '\\' middle with
        | error => simp [slash] at h
        | ok afterSlash =>
          have := length_expectMark slash
          simp only [slash] at h
          cases letter : expectMark 'u' afterSlash with
          | error => simp [letter] at h
          | ok afterLetter =>
            have := length_expectMark letter
            simp only [letter] at h
            cases second : codeUnit afterLetter with
            | error => simp [second] at h
            | ok found =>
              obtain ⟨unit, final⟩ := found
              have := length_codeUnit second
              simp only [second] at h
              split at h
              · cases h
              · simp only [Except.ok.injEq, Prod.mk.injEq] at h
                obtain ⟨_, rfl⟩ := h
                omega

/-- An escape takes at least one character. -/
theorem length_escape {text rest : Text} {char : Char} (h : escape text = .ok (char, rest)) :
    rest.length < text.length := by
  unfold escape at h
  split at h
  · cases h
  · split at h
    · have := length_unicodeEscape h
      simp only [List.length_cons]
      omega
    · split at h
      · cases h
        simp
      · cases h

/-- Skipping an escape takes at least one character. -/
theorem length_skipEscape {text rest : Text} (h : skipEscape text = .ok rest) :
    rest.length < text.length := by
  unfold skipEscape at h
  split at h
  · cases h
  · split at h
    · rename_i c after _
      cases unit : codeUnit after with
      | error => simp [unit, Except.map] at h
      | ok found =>
        obtain ⟨value, final⟩ := found
        have := length_codeUnit unit
        simp only [unit, Except.map, Except.ok.injEq] at h
        subst h
        simp only [List.length_cons]
        omega
    · split at h
      · cases h
        simp
      · cases h

/-- The text of a string, after its opening quote. -/
def stringText : Text → Except Failure (Text × Text)
  | [] => failHere (.unfinished .string) []
  | c :: rest =>
    if c == '"' then .ok ([], rest)
    else if c == '\\' then
      match _taken : escape rest with
      | .ok (char, rest) => (stringText rest).map fun (text, rest) => (char :: text, rest)
      | .error failure => .error failure
    else if c.toNat < 0x20 then failNext .controlCharacter (c :: rest)
    else (stringText rest).map fun (text, rest) => (c :: text, rest)
termination_by text => text.length
decreasing_by
  · have := length_escape _taken
    simp only [List.length_cons]
    omega
  · simp

/-- Reading a string takes at least one character. -/
theorem length_stringText {text rest content : Text} (h : stringText text = .ok (content, rest)) :
    rest.length < text.length := by
  fun_induction stringText text generalizing content with
  | case1 => cases h
  | case2 c => cases h; simp
  | case3 c after _ isSlash char found escaped ih =>
    have := length_escape escaped
    cases more : stringText found with
    | error => simp [more, Except.map] at h
    | ok read =>
      simp only [more, Except.map, Except.ok.injEq, Prod.mk.injEq] at h
      have := ih (show stringText found = .ok (read.1, rest) by rw [more, ← h.2])
      simp only [List.length_cons]
      omega
  | case4 => cases h
  | case5 => cases h
  | case6 c after _ _ _ ih =>
    cases more : stringText after with
    | error => simp [more, Except.map] at h
    | ok read =>
      simp only [more, Except.map, Except.ok.injEq, Prod.mk.injEq] at h
      have := ih (show stringText after = .ok (read.1, rest) by rw [more, ← h.2])
      simp only [List.length_cons]
      omega

/-- Skips a string, after its opening quote. -/
def skipString : Text → Except Failure Text
  | [] => failHere (.unfinished .string) []
  | c :: rest =>
    if c == '"' then .ok rest
    else if c == '\\' then
      match _taken : skipEscape rest with
      | .ok rest => skipString rest
      | .error failure => .error failure
    else if c.toNat < 0x20 then failHere .controlCharacter (c :: rest)
    else skipString rest
termination_by text => text.length
decreasing_by
  · have := length_skipEscape _taken
    simp only [List.length_cons]
    omega
  · simp

/-- Skipping a string takes at least one character. -/
theorem length_skipString {text rest : Text} (h : skipString text = .ok rest) :
    rest.length < text.length := by
  fun_induction skipString text with
  | case1 => cases h
  | case2 c => cases h; simp
  | case3 c after _ isSlash found escaped ih =>
    have := ih h
    have := length_skipEscape escaped
    simp only [List.length_cons]
    omega
  | case4 => cases h
  | case5 => cases h
  | case6 c after _ _ _ ih =>
    have := ih h
    simp only [List.length_cons]
    omega

end PluginReadme.Json
