import PluginReadme.Text.Blank

/-! How JSON is written, apart from any reader: blanks, strings with any of their characters
escaped, numbers, and values of any depth. One value can be written in many ways. -/
namespace PluginReadme.JsonText

/-! ## Blanks and strings -/

/-- Blanks between the parts of a value. -/
def Blanks (text : Text) : Prop := ∀ c ∈ text, c ∈ [' ', '\t', '\n', '\r']

instance : DecidablePred Blanks := fun text => text.decidableBAll _

/-- A hexadecimal digit, as a small or a capital letter, with its value. -/
def HexDigit (value : Nat) (digit : Char) : Prop :=
  value < 16 ∧ (digit = value.digitChar ∨ digit = value.digitChar.toUpper)

instance (value : Nat) (digit : Char) : Decidable (HexDigit value digit) :=
  inferInstanceAs
    (Decidable (value < 16 ∧ (digit = value.digitChar ∨ digit = value.digitChar.toUpper)))

/-- A code unit, in four hexadecimal digits. -/
inductive CodeUnit : Nat → Text → Prop where
  | digits {first second third fourth : Nat} {a b c d : Char} (one : HexDigit first a)
      (two : HexDigit second b) (three : HexDigit third c) (four : HexDigit fourth d) :
      CodeUnit (((first * 16 + second) * 16 + third) * 16 + fourth) [a, b, c, d]

/-- A character that may stand for itself in a string. -/
def Plain (c : Char) : Prop := 0x20 ≤ c.toNat ∧ c ≠ '"' ∧ c ≠ '\\'

instance : DecidablePred Plain :=
  fun c => inferInstanceAs (Decidable (0x20 ≤ c.toNat ∧ c ≠ '"' ∧ c ≠ '\\'))

/-- The letters that stand for a character behind a backslash. -/
inductive Letter : Char → Char → Prop where
  | quote : Letter '"' '"'
  | backslash : Letter '\\' '\\'
  | slash : Letter '/' '/'
  | backspace : Letter 'b' '\x08'
  | formFeed : Letter 'f' '\x0C'
  | lineFeed : Letter 'n' '\n'
  | carriageReturn : Letter 'r' '\r'
  | tab : Letter 't' '\t'

/-- A character as it is written in a string: as it is, by a letter, by its code unit, or by two
surrogates. -/
inductive CharText : Char → Text → Prop where
  | plain {c : Char} (plain : Plain c) : CharText c [c]
  | letter {letter c : Char} (stands : Letter letter c) : CharText c ['\\', letter]
  | unit {c : Char} {digits : Text} (unit : CodeUnit c.toNat digits) :
      CharText c ('\\' :: 'u' :: digits)
  | surrogates {c : Char} {high low : Text} (wide : 0x10000 ≤ c.toNat)
      (first : CodeUnit (0xD800 + (c.toNat - 0x10000) / 0x400) high)
      (second : CodeUnit (0xDC00 + (c.toNat - 0x10000) % 0x400) low) :
      CharText c ('\\' :: 'u' :: high ++ '\\' :: 'u' :: low)

/-- A text as it is written in a string, character by character. -/
inductive Escaped : Text → Text → Prop where
  | nil : Escaped [] []
  | cons {c : Char} {piece content body : Text} (first : CharText c piece)
      (rest : Escaped content body) : Escaped (c :: content) (piece ++ body)

/-- A text as a string. -/
def StringText (content text : Text) : Prop :=
  ∃ body, Escaped content body ∧ text = '"' :: body ++ ['"']

/-- What is written in a string, whether or not its code units stand for characters. -/
inductive StringBody : Text → Prop where
  | nil : StringBody []
  | plain {c : Char} {body : Text} (plain : Plain c) (rest : StringBody body) :
      StringBody (c :: body)
  | letter {letter c : Char} {body : Text} (stands : Letter letter c) (rest : StringBody body) :
      StringBody ('\\' :: letter :: body)
  | unit {value : Nat} {digits body : Text} (unit : CodeUnit value digits)
      (rest : StringBody body) : StringBody ('\\' :: 'u' :: digits ++ body)

/-! ## Numbers -/

/-- Digits, at least one of them. -/
def Digits (text : Text) : Prop := text ≠ [] ∧ ∀ c ∈ text, c.isDigit = true

instance : DecidablePred Digits := fun text =>
  have : Decidable (∀ c ∈ text, c.isDigit = true) := text.decidableBAll _
  inferInstanceAs (Decidable (_ ∧ _))

/-- The digits in front of the point: no zero stands in front of another digit. -/
def WholePart (text : Text) : Prop := text = ['0'] ∨ (Digits text ∧ text.head? ≠ some '0')

/-- A point and digits behind it, or nothing. -/
def FractionPart (text : Text) : Prop := text = [] ∨ ∃ digits, Digits digits ∧ text = '.' :: digits

/-- An exponent, with a sign or without, or nothing. -/
def ExponentPart (text : Text) : Prop :=
  text = [] ∨ ∃ mark sign digits, (mark = 'e' ∨ mark = 'E') ∧
    (sign = [] ∨ sign = ['+'] ∨ sign = ['-']) ∧ Digits digits ∧ text = mark :: sign ++ digits

/-- A number behind its sign. -/
def Unsigned (text : Text) : Prop :=
  ∃ whole fraction exponent, WholePart whole ∧ FractionPart fraction ∧ ExponentPart exponent ∧
    text = whole ++ (fraction ++ exponent)

/-! ## Values -/

/-- What can be written of a value: all of it, or, with the blanks around them, a value, the
elements of a list, an entry and the entries of an object. -/
inductive Part where
  | value
  | element
  | elements
  | entry
  | entries
  deriving DecidableEq

/-- A value of any kind and depth as it is written. -/
inductive Written : Part → Text → Prop where
  | null : Written .value "null".toList
  | true : Written .value "true".toList
  | false : Written .value "false".toList
  | number {text : Text} (number : Unsigned text) : Written .value text
  | negative {text : Text} (number : Unsigned text) : Written .value ('-' :: text)
  | string {body : Text} (content : StringBody body) : Written .value ('"' :: body ++ ['"'])
  | emptyList {blanks : Text} (blank : Blanks blanks) : Written .value ('[' :: blanks ++ [']'])
  | list {text : Text} (elements : Written .elements text) : Written .value ('[' :: text ++ [']'])
  | emptyObject {blanks : Text} (blank : Blanks blanks) :
      Written .value ('\x7b' :: blanks ++ ['\x7d'])
  | object {text : Text} (entries : Written .entries text) :
      Written .value ('\x7b' :: text ++ ['\x7d'])
  | element {before text after : Text} (ahead : Blanks before) (value : Written .value text)
      (behind : Blanks after) : Written .element (before ++ (text ++ after))
  | lastElement {text : Text} (element : Written .element text) : Written .elements text
  | elements {text rest : Text} (element : Written .element text)
      (more : Written .elements rest) : Written .elements (text ++ ',' :: rest)
  | entry {before key between text : Text} (ahead : Blanks before) (name : StringBody key)
      (behind : Blanks between) (element : Written .element text) :
      Written .entry (before ++ ('"' :: key ++ '"' :: (between ++ ':' :: text)))
  | lastEntry {text : Text} (entry : Written .entry text) : Written .entries text
  | entries {text rest : Text} (entry : Written .entry text) (more : Written .entries rest) :
      Written .entries (text ++ ',' :: rest)

/-! ## Forms with a content -/

/-- Something with blanks around it. -/
def Spaced (holds : Text → Prop) (text : Text) : Prop :=
  ∃ before inner after, Blanks before ∧ holds inner ∧ Blanks after ∧
    text = before ++ (inner ++ after)

/-- Some things in a row, a comma between two. -/
inductive Row {α : Type} (holds : α → Text → Prop) : List α → Text → Prop where
  | last {item : α} {text : Text} (here : holds item text) : Row holds [item] text
  | more {item : α} {items : List α} {text rest : Text} (here : holds item text)
      (later : Row holds items rest) : Row holds (item :: items) (text ++ ',' :: rest)

/-- Some things, or none, in a row between brackets of some kind. -/
def Enclosed {α : Type} (opening closing : Char) (holds : α → Text → Prop) (items : List α)
    (text : Text) : Prop :=
  ∃ inner, text = opening :: inner ++ [closing] ∧
    ((items = [] ∧ Blanks inner) ∨ Row holds items inner)

/-- An entry of an object with its name and its value. -/
def EntryText (name : Text) (value : Text → Prop) (text : Text) : Prop :=
  ∃ key element, Spaced (StringText name) key ∧ Spaced value element ∧
    text = key ++ ':' :: element

end PluginReadme.JsonText
