import PluginReadme.Unicode.Category

/-!
Places where a line of text may be broken, after the line breaking rules of Unicode for the classes
of characters that messages and paths are made of.
-/

namespace PluginReadme.Text

/-- Classes of characters that break lines differently. -/
inductive BreakClass where
  | alphabetic
  | numeric
  | opening
  | closing
  | closingParenthesis
  | quotation
  | exclamation
  | infixMark
  | slash
  | prefixMark
  | postfixMark
  | breakAfter
  | hyphen
  | space
  | glue
  | ideographic
  | combining
  | lineEnd
  deriving DecidableEq, Repr

/-- Ranges of characters that are two columns wide and can stand on lines of their own. -/
def wideRanges : List (Nat × Nat) :=
  [(0x1100, 0x115F), (0x2E80, 0x303E), (0x3041, 0x33FF), (0x3400, 0x4DBF), (0x4E00, 0x9FFF),
    (0xA000, 0xA4CF), (0xA960, 0xA97F), (0xAC00, 0xD7A3), (0xF900, 0xFAFF), (0xFE10, 0xFE19),
    (0xFE30, 0xFE6F), (0xFF01, 0xFF60), (0xFFE0, 0xFFE6), (0x1F300, 0x1F64F), (0x1F680, 0x1F6FF),
    (0x1F900, 0x1F9FF), (0x20000, 0x3FFFD)]

/-- Whether a character is two columns wide. -/
def isWide (c : Char) : Bool :=
  wideRanges.any fun (low, high) => low ≤ c.toNat && c.toNat ≤ high

/-- Characters that take no column of their own. -/
private def zeroWidth : Unicode.CodeSet :=
  ["mn", "me", "cf"].map Unicode.category |>.foldl .union .empty

/-- The columns that a character takes. -/
def charWidth (c : Char) : Nat :=
  if c.toNat < 0x20 || c.toNat == 0x7F then 0
  else if c.toNat < 0x7F then 1
  else if zeroWidth.contains c then 0
  else if isWide c then 2
  else 1

/-- The columns that a text takes. -/
def width (text : Text) : Nat := text.foldr (fun c count => charWidth c + count) 0

/-- The class of a character. -/
def breakClass (c : Char) : BreakClass :=
  if c.isAlpha then .alphabetic
  else if c.isDigit then .numeric
  else if c.toNat < 0x80 then
    match c with
    | ' ' => .space
    | '\n' | '\r' | '\x0B' | '\x0C' => .lineEnd
    | '\t' | '|' => .breakAfter
    | '!' | '?' => .exclamation
    | '"' | '\'' => .quotation
    | '$' | '+' | '\\' => .prefixMark
    | '%' => .postfixMark
    | '(' | '[' | '\x7b' => .opening
    | ')' | ']' => .closingParenthesis
    | '\x7d' => .closing
    | ',' | '.' | ':' | ';' => .infixMark
    | '-' => .hyphen
    | '/' => .slash
    | c => if c.toNat < 0x20 || c.toNat == 0x7F then .combining else .alphabetic
  else if c.toNat == 0xA0 then .glue
  else if zeroWidth.contains c then .combining
  else if isWide c then .ideographic
  else .alphabetic

/-- Classes that no line starts with, even after spaces. -/
private def neverStarts (c : BreakClass) : Bool :=
  c == .closing || c == .closingParenthesis || c == .exclamation || c == .infixMark || c == .slash

/-- Whether a line may be broken between two classes, neither of them a space. -/
private def breaksBetween (before after : BreakClass) : Bool :=
  match before, after with
  | .lineEnd, _ => true
  | _, .lineEnd => false
  | .glue, _ => false
  | before, .glue => before == .breakAfter || before == .hyphen
  | .opening, _ => false
  | _, .quotation => false
  | .quotation, _ => false
  | _, .breakAfter => false
  | _, .hyphen => false
  | .alphabetic, .numeric => false
  | .numeric, .alphabetic => false
  | .prefixMark, .ideographic => false
  | .ideographic, .postfixMark => false
  | .prefixMark, .alphabetic => false
  | .postfixMark, .alphabetic => false
  | .alphabetic, .prefixMark => false
  | .alphabetic, .postfixMark => false
  | .closing, .prefixMark => false
  | .closing, .postfixMark => false
  | .closingParenthesis, .prefixMark => false
  | .closingParenthesis, .postfixMark => false
  | .numeric, .prefixMark => false
  | .numeric, .postfixMark => false
  | .prefixMark, .opening => false
  | .postfixMark, .opening => false
  | .prefixMark, .numeric => false
  | .postfixMark, .numeric => false
  | .hyphen, .numeric => false
  | .infixMark, .numeric => false
  | .numeric, .numeric => false
  | .slash, .numeric => false
  | .alphabetic, .alphabetic => false
  | .infixMark, .alphabetic => false
  | .alphabetic, .opening => false
  | .numeric, .opening => false
  | .closingParenthesis, .alphabetic => false
  | .closingParenthesis, .numeric => false
  | _, after => !neverStarts after

/-- Whether a line may be broken before a class, given the last class that is no space and whether
spaces follow it. -/
private def breaksBefore (before : BreakClass) (spaces : Bool) (after : BreakClass) : Bool :=
  if after == .space then false
  else if !spaces then breaksBetween before after
  else
    !(neverStarts after || after == .lineEnd || before == .opening
      || (before == .quotation && after == .opening))

/-- Splits a text where it may be broken: `last` is the last class that is no space, and `current`
the piece that is being read, last character first. -/
private def piecesFrom (last : BreakClass) (spaces : Bool) (current : Text) : Text → List Text
  | [] => if current.isEmpty then [] else [current.reverse]
  | c :: rest =>
    let found := breakClass c
    -- A mark belongs to the character before it, or stands for a letter.
    let attached := found == .combining && !spaces && !current.isEmpty && last != .lineEnd
    let found := if found == .combining then .alphabetic else found
    if attached then piecesFrom last false (c :: current) rest
    else
      let next := if found == .space then last else found
      if !current.isEmpty && breaksBefore last spaces found then
        current.reverse :: piecesFrom next (found == .space) [c] rest
      else piecesFrom next (found == .space) (c :: current) rest

/-- The pieces of a text between the places where it may be broken. -/
def pieces (text : Text) : List Text := piecesFrom .alphabetic false [] text

end PluginReadme.Text
