import PluginReadme.Unicode.CodeSet

/-!
UTF-8 as ranges of bytes: the sequences of byte ranges that together stand for exactly the
characters of a set.
-/

namespace PluginReadme.Unicode

/-- A range of bytes, both ends included. -/
abbrev ByteRange := Nat × Nat

/-- The code points whose encodings have one length: the bounds, the mark of the first byte, and
how many bytes follow it.  Surrogates have no encoding. -/
private def encodingBands : List (Nat × Nat × Nat × Nat) :=
  [(0, 0x7F, 0, 0), (0x80, 0x7FF, 0xC0, 1), (0x800, 0xD7FF, 0xE0, 2), (0xE000, 0xFFFF, 0xE0, 2),
    (0x10000, CodeSet.top, 0xF0, 3)]

/-- The sequences for the numbers between two bounds that are written as a first byte with a mark
and some bytes of six bits.  Only the first and the last value of the first byte can need sequences
of their own. -/
private def byteSequences (mark : Nat) : Nat → Nat → Nat → List (List ByteRange)
  | 0, low, high => [[(mark + low, mark + high)]]
  | count + 1, low, high =>
    let unit := 1 <<< (6 * (count + 1))
    let (first, last) := (low / unit, high / unit)
    let (from?, to?) := (low % unit != 0, high % unit != unit - 1)
    let under (lead low high : Nat) : List (List ByteRange) :=
      (byteSequences 0x80 count low high).map ((mark + lead, mark + lead) :: ·)
    if first == last then
      if from? || to? then under first (low % unit) (high % unit)
      else [(mark + first, mark + first) :: List.replicate (count + 1) (0x80, 0xBF)]
    else
      let start := if from? then under first (low % unit) (unit - 1) else []
      let stop := if to? then under last 0 (high % unit) else []
      let first := if from? then first + 1 else first
      let last := if to? then last - 1 else last
      let whole :=
        if first ≤ last then
          [(mark + first, mark + last) :: List.replicate (count + 1) (0x80, 0xBF)]
        else []
      start ++ whole ++ stop

/-- The sequences of byte ranges of a set, in the order of its characters. -/
def CodeSet.byteSequences (set : CodeSet) : List (List ByteRange) :=
  set.ranges.flatMap fun (low, high) =>
    encodingBands.flatMap fun (bandLow, bandHigh, mark, count) =>
      let low := max low bandLow
      let high := min high bandHigh
      if low ≤ high then Unicode.byteSequences mark count low high else []

end PluginReadme.Unicode
