import PluginReadme.Unicode.Category
import PluginReadme.Unicode.Property

/-!
Classes of characters that patterns and names refer to.
-/

namespace PluginReadme.Unicode

/-- The characters of words: letters, marks, decimal digits, connectors and joiners. -/
def wordChars : CodeSet :=
  let part (set : Option CodeSet) := set.getD .empty
  ((((part (propertyNamed "alphabetic".toList)).union (part (categoryNamed "m".toList))).union
    (category "nd")).union (category "pc")).union (part (propertyNamed "joincontrol".toList))

/-- The characters of words among ASCII. -/
def asciiWordChars : CodeSet := ⟨[(0x30, 0x39), (0x41, 0x5A), (0x5F, 0x5F), (0x61, 0x7A)]⟩

/-- Decimal digits. -/
def digits : CodeSet := category "nd"

/-- The property `White_Space`. -/
def blanks : CodeSet :=
  ⟨[(9, 13), (0x20, 0x20), (0x85, 0x85), (0xA0, 0xA0), (0x1680, 0x1680), (0x2000, 0x200A),
    (0x2028, 0x2029), (0x202F, 0x202F), (0x205F, 0x205F), (0x3000, 0x3000)]⟩

/-- The blanks of ASCII. -/
def asciiBlanks : CodeSet := ⟨[(9, 13), (0x20, 0x20)]⟩

/-- Letters of all scripts, for names. -/
def letters : CodeSet := (propertyNamed "alphabetic".toList).getD .empty

/-- Letters and numbers of all scripts, for names. -/
def lettersAndNumbers : CodeSet := letters.union ((categoryNamed "n".toList).getD .empty)

end PluginReadme.Unicode
