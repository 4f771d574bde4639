import PluginReadme.Unicode.Category
import PluginReadme.Unicode.Property

/-!
Texts in double quotes, as they are shown in messages.  What cannot be seen is written as its code
point in braces.
-/

namespace PluginReadme.Text

/-- Characters that do not show: controls, formats, unassigned ones, separators other than the
space, and marks that join the character before them. -/
private def hidden : Unicode.CodeSet :=
  let categories := ["cc", "cf", "co", "cn", "zl", "zp", "zs"].map Unicode.category
  let marks := (Unicode.propertyNamed "graphemeextend".toList).getD .empty
  ((categories.foldl .union marks).diff (.single 0x20))

/-- The hexadecimal digits of a number. -/
def hexadecimal (n : Nat) : Text := Nat.toDigits 16 n

/-- A character as it is shown in quotes. -/
def quotedChar (c : Char) : Text :=
  if c == '\x00' then "\\0".toList
  else if c == '\t' then "\\t".toList
  else if c == '\r' then "\\r".toList
  else if c == '\n' then "\\n".toList
  else if c == '"' || c == '\\' then ['\\', c]
  else if c.toNat < 0x7F && 0x20 ≤ c.toNat then [c]
  else if hidden.contains c then "\\u\x7b".toList ++ hexadecimal c.toNat ++ ['\x7d']
  else [c]

/-- A text in double quotes. -/
def quoted (text : Text) : Text := '"' :: text.flatMap quotedChar ++ ['"']

end PluginReadme.Text
