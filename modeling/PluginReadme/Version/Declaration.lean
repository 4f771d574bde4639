import PluginReadme.Pattern.Label
import PluginReadme.Pattern.Search
import PluginReadme.Version.Number

/-!
Declarations of a version that are rewritten in place: the header of a style sheet, the `Version:`
line of a comment block, and the definition of a constant.
-/

namespace PluginReadme.Version

/-- A way to declare a version. -/
inductive Dialect where
  /-- A key, a colon and the version. -/
  | styleHeader (key : Text)
  /-- `Version:` and the version. -/
  | docblock
  /-- A constant whose name ends in `_VERSION`. -/
  | constant
  deriving DecidableEq, Repr

/-- A declaration as it is written anew, with the version that it carries and what follows it in
the text. -/
structure Declaration where
  head : Text
  version : Text
  tail : Text
  rest : Text
  deriving DecidableEq, Repr

namespace Declaration

/-- A version after blanks, of which the first may be replaced by a space and the others stay. -/
def padded (label text : Text) : Option Declaration :=
  match text with
  | [] => none
  | c :: rest =>
    if Text.isBlank c then
      let pad := rest.takeWhile Text.isBlank
      (number (rest.dropWhile Text.isBlank)).map fun (version, rest) =>
        ⟨label ++ ' ' :: pad, version, [], rest⟩
    else none

/-- A header of a style sheet: a key, blanks, a colon, at least one blank and a version, for the
preferred match of the key that all of this follows. -/
def header? (key : Pattern) (cursor : Cursor) : Option Declaration :=
  (key.ends cursor).findSome? fun stop =>
    match Text.trimStart stop.rest with
    | ':' :: rest => padded (cursor.textTo stop ++ [':']) rest
    | _ => none

/-- What follows a given start of a text. -/
def after? (start text : Text) : Option Text :=
  if start.isPrefixOf text then some (text.drop start.length) else none

/-- The line of a comment block: `Version:`, at least one blank and a version. -/
def docblock? (text : Text) : Option Declaration := do
  padded "Version:".toList (← after? "Version:".toList text)

/-- A character of the name of a constant. -/
def isNameChar (c : Char) : Bool := c.isAlphanum || c == '_'

/-- The start of the definition of a constant up to its version, as it is written, and what
follows: `define(`, the name in quotes, a comma and the opening quote. -/
def definition? (text : Text) : Option (Text × Text) := do
  let start := "define(".toList
  let ending := "_VERSION".toList
  let rest ← after? start text
  let before := rest.takeWhile Text.isBlank
  let '\'' :: rest := rest.dropWhile Text.isBlank | none
  let name := rest.takeWhile isNameChar
  if !ending.isSuffixOf name || name.length ≤ ending.length then none
  else
    let between := "',".toList
    let rest ← after? between (rest.dropWhile isNameChar)
    let gap := rest.takeWhile Text.isBlank
    let '\'' :: rest := rest.dropWhile Text.isBlank | none
    some (start ++ before ++ '\'' :: name ++ between ++ gap ++ ['\''], rest)

/-- The definition of a constant: its start, a version, the closing quote and `);`. -/
def constant? (text : Text) : Option Declaration := do
  let (head, rest) ← definition? text
  let (version, rest) ← number rest
  let '\'' :: rest := rest | none
  let gap := rest.takeWhile Text.isBlank
  let closing := ");".toList
  let rest ← after? closing (rest.dropWhile Text.isBlank)
  some ⟨head, version, '\'' :: gap ++ closing, rest⟩

end Declaration

/-- What a key of a style sheet stands for. -/
def keyLabel (key : Text) : Label := Label.read .initial ["key".toList, "pad".toList] key

/-- A dialect whose key has been read. -/
inductive Rule where
  | header (key : Pattern)
  | docblock
  | constant
  deriving DecidableEq, Repr

/-- The rule that a dialect comes down to. -/
def Dialect.rule : Dialect → Rule
  | styleHeader key => .header (keyLabel key).pattern
  | docblock => .docblock
  | constant => .constant

namespace Rule

/-- The declaration at a place of a text. -/
def declaration? (rule : Rule) (cursor : Cursor) : Option Declaration :=
  match rule with
  | header key => Declaration.header? key cursor
  | docblock => Declaration.docblock? cursor.rest
  | constant => Declaration.constant? cursor.rest

/-- Gives the first declaration from a place on a version; `text` is what follows the place. -/
def rewriteFrom (rule : Rule) (version : Text) (position : Nat) (previous : Option Char)
    (text : Text) : Text :=
  match rule.declaration? ⟨position, previous, text⟩ with
  | some found => found.head ++ version ++ found.tail ++ found.rest
  | none =>
    match text with
    | [] => []
    | c :: rest => c :: rule.rewriteFrom version (position + 1) (some c) rest

/-- Gives the first declaration in a text a version.  A text without a declaration stays. -/
def rewrite (rule : Rule) (version content : Text) : Text := rule.rewriteFrom version 0 none content

end Rule

/-- What a file is, which decides how it declares its version. -/
inductive FileRole where
  | style
  | source
  deriving DecidableEq, Repr

namespace FileRole

/-- The ways in which a file declares its version, in the order in which they are rewritten. -/
def dialects (key : Text) : FileRole → List Dialect
  | style => [.styleHeader key]
  | source => [.docblock, .constant]

/-- The rules for a file. -/
def rules (key : Text) (role : FileRole) : List Rule := (role.dialects key).map Dialect.rule

end FileRole

/-- Gives the declarations of a text a version, one rule after the other. -/
def rewriteAll (rules : List Rule) (version content : Text) : Text :=
  rules.foldl (fun content rule => rule.rewrite version content) content

end PluginReadme.Version
