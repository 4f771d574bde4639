/-!
Texts as lists of characters, and trimming.  A character is blank when it has the Unicode
property `White_Space`; trimming drops blanks from an end and touches nothing else.
-/

namespace PluginReadme

/-- A text, character by character. -/
abbrev Text := List Char

namespace Text

/-- The property `White_Space`: 25 characters, most of them in the general punctuation block. -/
def isBlank (c : Char) : Bool :=
  let n := c.toNat
  (9 ≤ n && n ≤ 13) || n == 0x20 || n == 0x85 || n == 0xA0 || n == 0x1680 ||
    (0x2000 ≤ n && n ≤ 0x200A) || n == 0x2028 || n == 0x2029 || n == 0x202F ||
    n == 0x205F || n == 0x3000

/-- Drops the blanks at the start. -/
def trimStart (text : Text) : Text := text.dropWhile isBlank

/-- Drops the blanks at the end. -/
def trimEnd (text : Text) : Text := (text.reverse.dropWhile isBlank).reverse

/-- Drops the blanks at both ends. -/
def trim (text : Text) : Text := trimEnd (trimStart text)

end Text

end PluginReadme
