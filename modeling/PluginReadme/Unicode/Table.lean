import PluginReadme.Unicode.CodeSet

/-!
Tables of code points.  A set is written as numbers in base 36: how many code points are left out,
how many are in, and so on in turn.
-/

namespace PluginReadme.Unicode

/-- The value of a digit in base 36. -/
def digitValue (c : Char) : Nat :=
  if c.isDigit then c.toNat - '0'.toNat else c.toNat - 'a'.toNat + 10

/-- The numbers of a text, which blanks set apart. -/
def readNumbers (text : Text) : List Nat :=
  let step (numbers : List Nat × Nat × Bool) (c : Char) : List Nat × Nat × Bool :=
    let (done, value, inNumber) := numbers
    if c == ' ' || c == '\n' then (if inNumber then value :: done else done, 0, false)
    else (done, value * 36 + digitValue c, true)
  let (done, value, inNumber) := text.foldl step ([], 0, false)
  (if inNumber then value :: done else done).reverse

/-- The ranges that lengths out of and in a set stand for, from a code point on. -/
def rangesOf (start : Nat) : List Nat → List (Nat × Nat)
  | out :: inside :: rest =>
    (start + out, start + out + inside - 1) :: rangesOf (start + out + inside) rest
  | _ => []

/-- The set that a text stands for. -/
def readSet (text : String) : CodeSet := ⟨rangesOf 0 (readNumbers text.toList)⟩

/-- Sets of code points by their names. -/
abbrev Table := List (List String × String)

/-- The set of a name. -/
def Table.find? (table : Table) (name : Text) : Option CodeSet :=
  (List.find? (fun (row : List String × String) => row.1.any (·.toList == name)) table).map
    fun row => readSet row.2

end PluginReadme.Unicode
