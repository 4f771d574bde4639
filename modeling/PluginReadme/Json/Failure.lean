import PluginReadme.Text.Quoted

/-!
Why a JSON text is refused, and where.  A place is counted in lines and in bytes of a line.
-/

namespace PluginReadme.Json

/-- What a JSON text can end in the middle of. -/
inductive Unfinished where
  | value
  | list
  | object
  | string
  deriving DecidableEq, Repr

/-- A value that is of another type than the one asked for. -/
inductive Found where
  | null
  | bool (value : Bool)
  | integer (value : Int)
  /-- A number that is no integer of 64 bits, as it is shown. -/
  | decimal (shown : Text)
  | string (value : Text)
  | list
  | object
  deriving DecidableEq, Repr

/-- A reason to refuse a text. -/
inductive Cause where
  | unfinished (what : Unfinished)
  | noValue
  | wrongWord
  | noColon
  | noCommaOrBracket
  | noCommaOrBrace
  | trailingComma
  | trailingText
  | keyNotString
  | wrongNumber
  | numberTooLarge
  | wrongEscape
  | noSecondEscape
  | loneSurrogate
  | controlCharacter
  | repeatedField (name : Text)
  | wrongType (found : Found) (expected : Text)
  deriving DecidableEq, Repr

/-- A refusal: the text that was not read yet, and how many of its bytes count as read. -/
structure Failure where
  cause : Cause
  rest : Text
  past : Nat
  deriving DecidableEq, Repr

/-- Refuses a text at the place reached. -/
def failHere (cause : Cause) (rest : Text) : Except Failure α := .error ⟨cause, rest, 0⟩

/-- Refuses a text because of the byte that comes next. -/
def failNext (cause : Cause) (rest : Text) : Except Failure α := .error ⟨cause, rest, 1⟩

/-- The name of what is not finished. -/
def Unfinished.name : Unfinished → Text
  | value => "a value".toList
  | list => "a list".toList
  | object => "an object".toList
  | string => "a string".toList

/-- How a value of the wrong type is called. -/
def Found.name : Found → Text
  | null => "null".toList
  | bool value => "boolean `".toList ++ (toString value).toList ++ ['`']
  | integer value => "integer `".toList ++ (toString value).toList ++ ['`']
  | decimal shown => "floating point `".toList ++ shown ++ ['`']
  | string value => "string ".toList ++ Text.quoted value
  | list => "sequence".toList
  | object => "map".toList

/-- The words for a reason. -/
def Cause.message : Cause → Text
  | unfinished what => "EOF while parsing ".toList ++ what.name
  | noValue => "expected value".toList
  | wrongWord => "expected ident".toList
  | noColon => "expected `:`".toList
  | noCommaOrBracket => "expected `,` or `]`".toList
  | noCommaOrBrace => "expected `,` or `\x7d`".toList
  | trailingComma => "trailing comma".toList
  | trailingText => "trailing characters".toList
  | keyNotString => "key must be a string".toList
  | wrongNumber => "invalid number".toList
  | numberTooLarge => "number out of range".toList
  | wrongEscape => "invalid escape".toList
  | noSecondEscape => "unexpected end of hex escape".toList
  | loneSurrogate => "lone leading surrogate in hex escape".toList
  | controlCharacter =>
    "control character (\\u0000-\\u001F) found while parsing a string".toList
  | repeatedField name => "duplicate field `".toList ++ name ++ ['`']
  | wrongType found expected =>
    "invalid type: ".toList ++ found.name ++ ", expected ".toList ++ expected

/-- The bytes of a text. -/
def byteCount (text : Text) : Nat := text.foldr (fun c count => c.utf8Size + count) 0

/-- The line, and the column in it, after so many bytes of a text. -/
def placeAfter (line column : Nat) : Nat → Text → Nat × Nat
  | _, [] => (line, column)
  | count, c :: rest =>
    if count < c.utf8Size then (line, column + count)
    else if c == '\n' then placeAfter (line + 1) 0 (count - 1) rest
    else placeAfter line (column + c.utf8Size) (count - c.utf8Size) rest

/-- The words for a refusal of a text. -/
def Failure.message (source : Text) (failure : Failure) : Text :=
  let read := byteCount source - byteCount failure.rest + failure.past
  let (line, column) := placeAfter 1 0 read source
  failure.cause.message ++ " at line ".toList ++ (toString line).toList ++ " column ".toList
    ++ (toString column).toList

end PluginReadme.Json
