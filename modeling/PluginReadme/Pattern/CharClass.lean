import PluginReadme.Pattern.Flags
import PluginReadme.Unicode.Age
import PluginReadme.Unicode.Break
import PluginReadme.Unicode.CaseFold
import PluginReadme.Unicode.Script
import PluginReadme.Unicode.ScriptExtension
import PluginReadme.Unicode.Word

/-!
Character classes as they are written, and the sets of characters they stand for.
-/

namespace PluginReadme.Pattern

open Unicode (CodeSet)

/-- A character in a pattern; `byte` says that it is written as two hexadecimal digits, which
stand for a byte when Unicode is off. -/
structure Literal where
  char : Char
  byte : Bool
  deriving DecidableEq, Repr

/-- A class of characters with a letter of its own. -/
inductive PerlKind where
  | digit
  | space
  | word
  deriving DecidableEq, Repr

/-- How a Unicode property is asked for. -/
inductive PropertyQuery where
  /-- One name: a property, a category or a script. -/
  | named (name : Text)
  /-- A property and its value. -/
  | valued (name value : Text)
  deriving DecidableEq, Repr

/-- The operations on two classes. -/
inductive ClassOp where
  | inter
  | diff
  | symmDiff
  deriving DecidableEq, Repr

/-- A character class as it is written. -/
inductive ClassItem where
  | empty
  | literal (char : Literal)
  | range (first last : Literal)
  | ascii (members : CodeSet) (negated : Bool)
  | perl (kind : PerlKind) (negated : Bool)
  | property (query : PropertyQuery) (negated : Bool)
  | both (first second : ClassItem)
  | bracket (negated : Bool) (inner : ClassItem)
  | op (kind : ClassOp) (left right : ClassItem)
  deriving Repr

/-- The classes of ASCII characters by their names. -/
def asciiClasses : List (String × List (Nat × Nat)) :=
  [("alnum", [(0x30, 0x39), (0x41, 0x5A), (0x61, 0x7A)]),
    ("alpha", [(0x41, 0x5A), (0x61, 0x7A)]),
    ("ascii", [(0, 0x7F)]),
    ("blank", [(9, 9), (0x20, 0x20)]),
    ("cntrl", [(0, 0x1F), (0x7F, 0x7F)]),
    ("digit", [(0x30, 0x39)]),
    ("graph", [(0x21, 0x7E)]),
    ("lower", [(0x61, 0x7A)]),
    ("print", [(0x20, 0x7E)]),
    ("punct", [(0x21, 0x2F), (0x3A, 0x40), (0x5B, 0x60), (0x7B, 0x7E)]),
    ("space", [(9, 13), (0x20, 0x20)]),
    ("upper", [(0x41, 0x5A)]),
    ("word", [(0x30, 0x39), (0x41, 0x5A), (0x5F, 0x5F), (0x61, 0x7A)]),
    ("xdigit", [(0x30, 0x39), (0x41, 0x46), (0x61, 0x66)])]

/-- The class of ASCII characters with a name. -/
def asciiClass? (name : Text) : Option CodeSet :=
  (asciiClasses.find? (·.1.toList == name)).map fun row => ⟨row.2⟩

/-- The form in which names of properties are compared: in lower case, without blanks, hyphens,
underscores and a leading `is`. -/
def looseName (name : Text) : Text :=
  let lowered := name.map Char.toLower
  let kept (text : Text) := text.filter fun c => c.toNat < 0x80 && !" _-".toList.contains c
  match lowered with
  | 'i' :: 's' :: rest => if kept rest == ['c'] then "isc".toList else kept rest
  | _ => kept lowered

/-- The properties that may be asked for with a value, by their names. -/
def valuedProperties : List (List String × (Text → Option CodeSet)) :=
  [(["gc", "generalcategory"], Unicode.categoryNamed),
    (["sc", "script"], Unicode.scriptNamed),
    (["scx", "scriptextensions"], Unicode.scriptExtensionNamed),
    (["age"], Unicode.ageNamed),
    (["gcb", "graphemeclusterbreak"], Unicode.graphemeBreakNamed),
    (["wb", "wordbreak"], Unicode.wordBreakNamed),
    (["sb", "sentencebreak"], Unicode.sentenceBreakNamed)]

/-- The set that a property query asks for. -/
def PropertyQuery.resolve : PropertyQuery → Option CodeSet
  | .named name =>
    let name := looseName name
    let property :=
      if ["cf", "sc", "lc"].any (·.toList == name) then none else Unicode.propertyNamed name
    property <|> Unicode.categoryNamed name <|> Unicode.scriptNamed name
  | .valued name value => do
    let name := looseName name
    let property ← valuedProperties.find? fun row => row.1.any (·.toList == name)
    property.2 (looseName value)

/-- Closes a class under case if case is ignored. -/
def fold (flags : Flags) (set : CodeSet) : CodeSet :=
  if flags.ignoreCase then if flags.unicode then set.closeCase else set.closeAsciiCase else set

/-- Negates a class.  Without Unicode a class may hold only what is a character by itself. -/
private def negate (flags : Flags) (negated : Bool) (set : CodeSet) : Option CodeSet :=
  if flags.unicode then some (if negated then set.complement else set)
  else
    let set := if negated then set.complementUpTo 0xFF else set
    if set.below 0x80 then some set else none

/-- The code point of a character in a class.  Without Unicode a class holds only ASCII. -/
private def Literal.code? (flags : Flags) (char : Literal) : Option Nat :=
  if flags.unicode || char.char.toNat < 0x80 then some char.char.toNat else none

/-- The set of a class with a letter of its own. -/
def PerlKind.set (unicode : Bool) : PerlKind → CodeSet
  | .digit => if unicode then Unicode.digits else .range 0x30 0x39
  | .space => if unicode then Unicode.blanks else Unicode.asciiBlanks
  | .word => if unicode then Unicode.wordChars else Unicode.asciiWordChars

/-- The set that a class stands for. -/
def ClassItem.resolve (flags : Flags) : ClassItem → Option CodeSet
  | .empty => some .empty
  | .literal char => (char.code? flags).map .single
  | .range first last => do some (.range (← first.code? flags) (← last.code? flags))
  | .ascii members negated => negate flags negated (fold flags members)
  | .perl kind negated => negate flags negated (kind.set flags.unicode)
  | .property query negated => do
    if !flags.unicode then none
    else negate flags negated (fold flags (← query.resolve))
  | .both first second => do some ((← first.resolve flags).union (← second.resolve flags))
  | .bracket negated inner => do negate flags negated (fold flags (← inner.resolve flags))
  | .op kind left right => do
    let left := fold flags (← left.resolve flags)
    let right := fold flags (← right.resolve flags)
    some (match kind with
      | .inter => left.inter right
      | .diff => left.diff right
      | .symmDiff => left.symmDiff right)

/-- The set that a character outside of classes stands for.  Without Unicode a byte beyond ASCII is
no character. -/
def Literal.resolve (flags : Flags) (char : Literal) : Option CodeSet :=
  if flags.unicode || !char.byte || char.char.toNat < 0x80 then
    some (fold flags (.single char.char.toNat))
  else none

end PluginReadme.Pattern
