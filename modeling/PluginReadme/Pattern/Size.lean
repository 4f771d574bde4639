import PluginReadme.Pattern.Basic
import PluginReadme.Unicode.Encoding

/-!
How large the automaton of a pattern is.  A pattern is only used if its automata fit into a fixed
room, both the one that reads forwards and the one that reads backwards.
-/

namespace PluginReadme.Pattern

open Unicode (ByteRange CodeSet)

/-- The room for the automata of a pattern, in bytes. -/
def room : Nat := 10 * (1 <<< 20)

/-- The bytes of a state. -/
def stateSize : Nat := 32

/-- The bytes of a choice between next states, for each of them. -/
private def branchSize : Nat := 4

/-- The bytes of an edge for a range of bytes. -/
private def edgeSize : Nat := 8

/-- The nodes one step down from a node of the tree of some sequences, which is itself the list of
its sequences. -/
private def nodesBelow (node : List (List ByteRange)) : List (List (List ByteRange)) :=
  let steps := node.splitBy fun first second => first.head? == second.head?
  (steps.map fun step => step.map List.tail).filter fun below => below.any (!·.isEmpty)

/-- The size of a tree of sequences whose equal nodes are stored once, level by level. -/
private def sharedSize : Nat → List (List (List ByteRange)) → Nat
  | 0, _ => 0
  | levels + 1, nodes =>
    let nodes := nodes.eraseDups
    let edges (node : List (List ByteRange)) : Nat :=
      (node.splitBy fun first second => first.head? == second.head?).length
    nodes.foldr (fun node size => stateSize + edgeSize * edges node + size)
      (sharedSize levels (nodes.flatMap nodesBelow))

/-- How many states a tree of sequences has that share what they start with. -/
private def prefixStates (last : List ByteRange) : List (List ByteRange) → Nat
  | [] => 0
  | sequence :: rest =>
    let shared := ((last.zip sequence).takeWhile fun (first, second) => first == second).length
    sequence.length - shared + prefixStates sequence rest

/-- The size of the automaton of a set. -/
def setSize (backwards : Bool) (set : CodeSet) : Nat :=
  match set.ranges with
  | [] => stateSize
  | [(low, high)] =>
    if low == high then stateSize * (Char.ofNat low).utf8Size
    else ranges
  | _ => ranges
where
  ranges : Nat :=
    if set.below 0x80 then 2 * stateSize + edgeSize * set.ranges.length
    else
      let sequences := set.byteSequences
      if backwards then
        2 * stateSize + branchSize * sequences.length + stateSize * prefixStates [] sequences
      else stateSize + sharedSize 4 [sequences]

/-- The size of the automaton of a pattern. -/
def size (backwards : Bool) : Pattern → Nat
  | empty => stateSize
  | set chars => setSize backwards chars
  | look _ => stateSize
  | concat first second => first.size backwards + second.size backwards
  | either first second =>
    first.size backwards + second.size backwards + branchSize + match second with
      | .either _ _ => 0
      | _ => 2 * stateSize + branchSize
  | repeated least most _ part =>
    let one := part.size backwards
    let fork := stateSize + 2 * branchSize
    match most with
    | some most =>
      least * one + (most - least) * (fork + one) + if least < most then stateSize else 0
    | none =>
      if least == 0 then one + fork + if part.canBeEmpty then fork + stateSize else 0
      else least * one + fork
  | group part => part.size backwards + if backwards then 0 else 2 * stateSize

/-- Whether the automata of a pattern fit, with some bytes to spare for what stands around it. -/
def fits (pattern : Pattern) (spare : Nat) : Bool :=
  pattern.size false + spare ≤ room && pattern.size true + spare ≤ room

end PluginReadme.Pattern
