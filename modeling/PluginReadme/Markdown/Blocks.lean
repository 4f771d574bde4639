import PluginReadme.Markdown.Container
import PluginReadme.Markdown.Leaf

/-!
The block structure of a source.  Lines are read one after the other.  Each goes on with the open
containers whose marks it repeats, may open further ones, and what is left of it is handed to the
open leaf block.  A line that repeats too few marks ends the containers left over, unless it goes
on with running text.
-/

namespace PluginReadme.Markdown

/-- A container that is open, with the blocks it holds so far, newest first. -/
structure OpenContainer where
  container : Container
  start : Nat
  children : List Node

/-- Puts a block after its older siblings, newest first.  An item goes to the list right before
it if both have the same mark. -/
def attach (node : Node) (siblings : List Node) : List Node :=
  match node, siblings with
  | .list span mark start items, .list older olderMark olderStart olderItems :: rest =>
    if mark == olderMark then
      .list ⟨older.start, span.stop⟩ olderMark olderStart (olderItems ++ items) :: rest
    else .list span mark start items :: .list older olderMark olderStart olderItems :: rest
  | _, _ => node :: siblings

/-- The block that a container comes to when it ends. -/
def OpenContainer.node (stop : Nat) (level : OpenContainer) : Node :=
  let span : Span := ⟨level.start, stop⟩
  match level.container with
  | .quote => .quote span level.children.reverse
  | .item mark => .list span mark.mark mark.number [.mk span level.children.reverse]
  | .footnote => .verbatim span

/-- The state between two lines. -/
structure Progress where
  /-- The blocks outside all open containers, newest first. -/
  blocks : List Node
  /-- The open containers, innermost first. -/
  stack : List OpenContainer
  leaf : Leaf
  /-- Whether the next line interrupts a paragraph. -/
  interrupting : Bool
  /-- Where the last line ends. -/
  previous : Nat

namespace Progress

/-- Before the first line. -/
def initial : Progress := ⟨[], [], .idle, false, 0⟩

/-- Adds blocks to the innermost container. -/
def add (nodes : List Node) (state : Progress) : Progress :=
  let after (siblings : List Node) :=
    nodes.foldl (fun siblings node => attach node siblings) siblings
  match state.stack with
  | [] => { state with blocks := after state.blocks }
  | level :: outer =>
    { state with stack := { level with children := after level.children } :: outer }

/-- Ends the innermost container at an offset. -/
def closeOne (stop : Nat) (state : Progress) : Progress :=
  match state.stack with
  | [] => state
  | level :: outer => add [level.node stop] { state with stack := outer }

/-- Ends containers until so many are left. -/
def closeTo (depth stop : Nat) (state : Progress) : Progress :=
  (List.range (state.stack.length - depth)).foldl (fun state _ => state.closeOne stop) state

/-- Whether the leaf is the first block of a list item. -/
def startsItem (state : Progress) : Bool :=
  match state.stack with
  | ⟨.item _, _, []⟩ :: _ => true
  | _ => false

/-- Ends the open leaf at the end of the last line. -/
def closeLeaf (stop : Nat) (state : Progress) : Progress :=
  { state.add (state.leaf.nodes state.startsItem stop) with leaf := .idle }

/-- The stack with the outermost containers as a line goes on with them. -/
def refreshed (continued : List Container) (stack : List OpenContainer) :
    List OpenContainer :=
  let outermost := stack.reverse
  let resumed := List.zipWith
    (fun (level : OpenContainer) container => { level with container := container })
    outermost continued
  (resumed ++ outermost.drop continued.length).reverse

/-- Takes over what a line has made of the leaf; containers that end, end in between. -/
def settle (advance : Advance) (keep stop : Nat) (closes : Bool) (state : Progress) :
    Progress :=
  let state := state.add advance.ended
  let state := if closes then state.closeTo keep stop else state
  { state.add advance.made with
    leaf := advance.leaf
    interrupting := advance.interrupting && !closes }

/-- Opens containers one inside the other, outermost first. -/
def push (opened : List (Container × Nat)) (state : Progress) : Progress :=
  { state with
    stack := (opened.map fun (container, start) => ⟨container, start, []⟩).reverse ++ state.stack }

/-- Reads a line that opens no container and goes on with the outermost `keep` of the open ones;
`rest` is what is left of the line behind their marks. -/
def goOn (line : Line) (keep : Nat) (rest : List Cell) (state : Progress) : Progress :=
  let all := keep == state.stack.length
  if rest.isEmpty && line.last then
    if all || state.leaf.acceptsLazy then state
    else (state.closeLeaf state.previous).closeTo keep state.previous
  else
    let lazy := !all
    let advance := state.leaf.advance line state.startsItem state.previous
      ⟨lazy, false, state.interrupting⟩ rest
    let closes := lazy && !(state.leaf.acceptsLazy && advance.leaf.acceptsLazy)
    state.settle advance keep state.previous closes

/-- Reads a line that opens containers. -/
def openMore (line : Line) (keep : Nat) (opened : List (Container × Nat)) (rest : List Cell)
    (state : Progress) : Progress :=
  let state :=
    if keep == state.stack.length then state
    else { (state.closeLeaf state.previous).closeTo keep state.previous with interrupting := false }
  if rest.isEmpty && line.last then (state.closeLeaf state.previous).push opened
  else
    let advance := state.leaf.advance line state.startsItem state.previous
      ⟨false, true, state.interrupting⟩ rest
    let state := (state.add advance.ended).push opened
    { state.add advance.made with leaf := advance.leaf, interrupting := advance.interrupting }

/-- Reads a line. -/
def feed (state : Progress) (line : Line) : Progress :=
  let (continued, cells) := continueAll line.cells (state.stack.reverse.map (·.container))
  let keep := continued.length
  let all := keep == state.stack.length
  let (opened, rest) :=
    if all && state.leaf.isOpaque then ([], cells)
    else openAll line (all && state.interrupting) cells
  let state := { state with stack := refreshed continued state.stack }
  let state :=
    if opened.isEmpty then state.goOn line keep rest else state.openMore line keep opened rest
  { state with previous := line.stop }

/-- Ends all that is open at the end of the source. -/
def finish (stop : Nat) (state : Progress) : List Node :=
  ((state.closeLeaf stop).closeTo 0 stop).blocks.reverse

end Progress

/-- The blocks of a source, in order. -/
def blocksOf (source : Text) : List Node :=
  let lines := linesOf source
  let state := lines.foldl Progress.feed Progress.initial
  state.finish state.previous

end PluginReadme.Markdown
