import PluginReadme.Document.Lowering
import PluginReadme.Proofs.Markdown.MovedLeaf

/-! Sources that stand further along in a text. Between two lines the blocks, the open containers
and the open leaf are the same as for the source alone, only further along, so that the source
comes to the same document behind whatever has been read before it. -/
namespace PluginReadme.Markdown

variable {ahead stop : Nat} {base nodes : List Node} {node : Node} {state : Progress} {line : Line}
  {text : Text}

/-! ## What is moved -/

/-- An open container further along, with the blocks in it. -/
def OpenContainer.moved (ahead : Nat) (level : OpenContainer) : OpenContainer :=
  ⟨level.container, level.start + ahead, level.children.map (Node.moved ahead)⟩

/-- The state between two lines further along, behind blocks that have been read before. -/
def Progress.moved (ahead : Nat) (base : List Node) (state : Progress) : Progress :=
  ⟨state.blocks.map (Node.moved ahead) ++ base, state.stack.map (OpenContainer.moved ahead),
    state.leaf.moved ahead, state.interrupting, state.previous + ahead⟩

@[simp] theorem Progress.moved_leaf (ahead : Nat) (base : List Node) (state : Progress) :
    (state.moved ahead base).leaf = state.leaf.moved ahead := rfl

@[simp] theorem Progress.moved_interrupting (ahead : Nat) (base : List Node) (state : Progress) :
    (state.moved ahead base).interrupting = state.interrupting := rfl

@[simp] theorem Progress.moved_previous (ahead : Nat) (base : List Node) (state : Progress) :
    (state.moved ahead base).previous = state.previous + ahead := rfl

@[simp] theorem Progress.moved_stack (ahead : Nat) (base : List Node) (state : Progress) :
    (state.moved ahead base).stack = state.stack.map (OpenContainer.moved ahead) := rfl

@[simp] theorem Advance.moved_leaf (ahead : Nat) (advance : Advance) :
    (advance.moved ahead).leaf = advance.leaf.moved ahead := rfl

@[simp] theorem Line.moved_last (ahead : Nat) (line : Line) :
    (line.moved ahead).last = line.last := rfl

/-- Blocks, newest first, of which the newest is no list, so that nothing is added to it. -/
def Settled (base : List Node) : Prop :=
  ∀ span mark start items, base.head? ≠ some (.list span mark start items)

theorem settled_nil : Settled [] := nofun

/-! ## Adding blocks and ending containers -/

theorem attach_moved (settled : Settled base) (node : Node) (siblings : List Node) :
    attach (node.moved ahead) (siblings.map (Node.moved ahead) ++ base) =
      (attach node siblings).map (Node.moved ahead) ++ base := by
  cases node with
  | list span mark start items =>
    cases siblings with
    | nil =>
      cases base with
      | nil => rfl
      | cons older rest =>
        cases older with
        | list olderSpan olderMark olderStart olderItems => exact absurd rfl (settled _ _ _ _)
        | _ => rfl
    | cons older rest =>
      cases older with
      | list olderSpan olderMark olderStart olderItems =>
        simp only [List.map_cons, Node.moved, List.cons_append, attach]
        split <;> simp [Node.moved]
      | _ => rfl
  | _ => rfl

private theorem attachAll_moved (settled : Settled base) (nodes siblings : List Node) :
    (nodes.map (Node.moved ahead)).foldl (fun siblings node => attach node siblings)
        (siblings.map (Node.moved ahead) ++ base) =
      (nodes.foldl (fun siblings node => attach node siblings) siblings).map
        (Node.moved ahead) ++ base := by
  induction nodes generalizing siblings with
  | nil => rfl
  | cons node nodes ih => rw [List.map_cons, List.foldl_cons, attach_moved settled, ih,
      List.foldl_cons]

theorem add_moved (settled : Settled base) (nodes : List Node) (state : Progress) :
    (state.moved ahead base).add (nodes.map (Node.moved ahead)) =
      (state.add nodes).moved ahead base := by
  obtain ⟨blocks, stack, leaf, interrupting, previous⟩ := state
  cases stack with
  | nil => simp only [Progress.add, Progress.moved, List.map_nil, attachAll_moved settled]
  | cons level outer =>
    have inside := @attachAll_moved ahead [] settled_nil nodes level.children
    simp only [List.append_nil] at inside
    simp only [Progress.add, Progress.moved, List.map_cons, OpenContainer.moved, inside]

theorem node_moved (ahead stop : Nat) (level : OpenContainer) :
    (level.moved ahead).node (stop + ahead) = (level.node stop).moved ahead := by
  unfold OpenContainer.node OpenContainer.moved
  dsimp only
  split <;> simp [Node.moved, Item.moved]

theorem closeOne_moved (settled : Settled base) (stop : Nat) (state : Progress) :
    (state.moved ahead base).closeOne (stop + ahead) =
      (state.closeOne stop).moved ahead base := by
  obtain ⟨blocks, stack, leaf, interrupting, previous⟩ := state
  cases stack with
  | nil => rfl
  | cons level outer =>
    have closed := @add_moved ahead base settled [level.node stop]
      ⟨blocks, outer, leaf, interrupting, previous⟩
    rw [List.map_cons, List.map_nil, ← node_moved] at closed
    exact closed

theorem closeTo_moved (settled : Settled base) (depth stop : Nat) (state : Progress) :
    (state.moved ahead base).closeTo depth (stop + ahead) =
      (state.closeTo depth stop).moved ahead base := by
  have size : (state.moved ahead base).stack.length = state.stack.length := List.length_map _
  unfold Progress.closeTo
  rw [size]
  induction state.stack.length - depth with
  | zero => rfl
  | succ count ih =>
    rw [List.range_succ, List.foldl_append, List.foldl_append, ih]
    exact closeOne_moved settled stop _

theorem startsItem_moved (state : Progress) :
    (state.moved ahead base).startsItem = state.startsItem := by
  obtain ⟨blocks, stack, leaf, interrupting, previous⟩ := state
  match stack with
  | [] => rfl
  | ⟨.quote, start, children⟩ :: outer => rfl
  | ⟨.footnote, start, children⟩ :: outer => rfl
  | ⟨.item mark, start, []⟩ :: outer => rfl
  | ⟨.item mark, start, child :: children⟩ :: outer => rfl

theorem closeLeaf_moved (settled : Settled base) (stop : Nat) (state : Progress) :
    (state.moved ahead base).closeLeaf (stop + ahead) =
      (state.closeLeaf stop).moved ahead base := by
  have ended : (state.moved ahead base).leaf.nodes (state.moved ahead base).startsItem
      (stop + ahead) = (state.leaf.nodes state.startsItem stop).map (Node.moved ahead) := by
    rw [startsItem_moved]
    exact Leaf.nodes_moved ahead state.startsItem stop state.leaf
  unfold Progress.closeLeaf
  rw [ended, add_moved settled]
  rfl

/-! ## One line -/

private theorem zipWith_moved (outermost : List OpenContainer) (continued : List Container) :
    List.zipWith (fun (level : OpenContainer) container => { level with container := container })
        (outermost.map (OpenContainer.moved ahead)) continued =
      (List.zipWith
        (fun (level : OpenContainer) container => { level with container := container })
        outermost continued).map (OpenContainer.moved ahead) := by
  rw [List.zipWith_map_left, List.map_zipWith]
  rfl

theorem refreshed_moved (continued : List Container) (stack : List OpenContainer) :
    Progress.refreshed continued (stack.map (OpenContainer.moved ahead)) =
      (Progress.refreshed continued stack).map (OpenContainer.moved ahead) := by
  unfold Progress.refreshed
  simp only [← List.map_reverse, zipWith_moved, ← List.map_drop, ← List.map_append]

theorem settle_moved (settled : Settled base) (advance : Advance) (keep stop : Nat) (closes : Bool)
    (state : Progress) :
    (state.moved ahead base).settle (advance.moved ahead) keep (stop + ahead) closes =
      (state.settle advance keep stop closes).moved ahead base := by
  unfold Progress.settle
  simp only [Advance.moved, add_moved settled, closeTo_moved settled]
  cases closes with
  | true =>
    simp only [↓reduceIte, add_moved settled]
    rfl
  | false =>
    simp only [Bool.false_eq_true, ↓reduceIte, add_moved settled]
    rfl

theorem push_moved (opened : List (Container × Nat)) (state : Progress) :
    (state.moved ahead base).push (openedMoved ahead opened) =
      (state.push opened).moved ahead base := by
  unfold Progress.push Progress.moved openedMoved
  simp [Function.comp_def, OpenContainer.moved, List.map_reverse]

theorem goOn_moved (settled : Settled base) (line : Line) (keep : Nat) (rest : List Cell)
    (state : Progress) :
    (state.moved ahead base).goOn (line.moved ahead) keep (rest.map (Cell.moved ahead)) =
      (state.goOn line keep rest).moved ahead base := by
  unfold Progress.goOn
  simp only [Progress.moved_leaf, Progress.moved_interrupting, Progress.moved_previous,
    Progress.moved_stack, Line.moved_last, Advance.moved_leaf, List.length_map, List.isEmpty_map,
    Leaf.acceptsLazy_moved, startsItem_moved, Leaf.advance_moved, settle_moved settled,
    closeLeaf_moved settled, closeTo_moved settled]
  split
  · split <;> rfl
  · rfl

private theorem ready_moved (settled : Settled base) (keep : Nat) (state : Progress) :
    (if keep == (state.moved ahead base).stack.length then state.moved ahead base else
      { ((state.moved ahead base).closeLeaf (state.moved ahead base).previous).closeTo keep
          (state.moved ahead base).previous with interrupting := false }) =
      (if keep == state.stack.length then state else
        { (state.closeLeaf state.previous).closeTo keep state.previous with
          interrupting := false }).moved ahead base := by
  simp only [Progress.moved_stack, Progress.moved_previous, List.length_map,
    closeLeaf_moved settled, closeTo_moved settled]
  split <;> rfl

theorem openMore_moved (settled : Settled base) (line : Line) (keep : Nat)
    (opened : List (Container × Nat)) (rest : List Cell) (state : Progress) :
    (state.moved ahead base).openMore (line.moved ahead) keep (openedMoved ahead opened)
        (rest.map (Cell.moved ahead)) =
      (state.openMore line keep opened rest).moved ahead base := by
  unfold Progress.openMore
  dsimp only
  rw [ready_moved settled]
  generalize (if keep == state.stack.length then state else
    { (state.closeLeaf state.previous).closeTo keep state.previous with
      interrupting := false }) = ready
  simp only [Progress.moved_leaf, Progress.moved_interrupting, Progress.moved_previous,
    Line.moved_last, List.isEmpty_map, startsItem_moved, Leaf.advance_moved,
    closeLeaf_moved settled, push_moved]
  split
  · rfl
  · simp only [Advance.moved, add_moved settled, push_moved]
    rfl

/-- A line that stands further along does further along what it does. -/
theorem feed_moved (settled : Settled base) (line : Line) (state : Progress) :
    (state.moved ahead base).feed (line.moved ahead) = (state.feed line).moved ahead base := by
  have containers : (state.moved ahead base).stack.reverse.map (·.container) =
      state.stack.reverse.map (·.container) := by
    simp [← List.map_reverse, Function.comp_def, OpenContainer.moved]
  have cells : (line.moved ahead).cells = line.cells.map (Cell.moved ahead) := rfl
  unfold Progress.feed
  rw [containers, cells, continueAll_moved]
  generalize continueAll line.cells (state.stack.reverse.map (·.container)) = gone
  obtain ⟨continued, rest⟩ := gone
  have opening (inside interrupting : Bool) :
      (if inside then ([], rest.map (Cell.moved ahead)) else
        openAll (line.moved ahead) interrupting (rest.map (Cell.moved ahead))) =
        Prod.map (openedMoved ahead) (List.map (Cell.moved ahead))
          (if inside then ([], rest) else openAll line interrupting rest) := by
    rw [openAll_moved]
    split <;> rfl
  simp only [Prod.map, id, Progress.moved_stack, Progress.moved_leaf, Progress.moved_interrupting,
    List.length_map, Leaf.isOpaque_moved, refreshed_moved, opening]
  generalize (if continued.length == state.stack.length && state.leaf.isOpaque then ([], rest) else
    openAll line (continued.length == state.stack.length && state.interrupting) rest) = taken
  obtain ⟨opened, inner⟩ := taken
  have resumed := @goOn_moved ahead base settled line continued.length inner
    { state with stack := Progress.refreshed continued state.stack }
  have deeper := @openMore_moved ahead base settled line continued.length opened inner
    { state with stack := Progress.refreshed continued state.stack }
  cases opened with
  | nil => exact congrArg (fun state => { state with previous := line.stop + ahead }) resumed
  | cons first more =>
    exact congrArg (fun state => { state with previous := line.stop + ahead }) deeper

/-- What a line does where nothing is open. -/
theorem feed_outside (blocks : List Node) (interrupting : Bool) (previous : Nat) (line : Line) :
    Progress.feed ⟨blocks, [], .idle, interrupting, previous⟩ line =
      { (if (openAll line interrupting line.cells).1.isEmpty then
          Progress.goOn line 0 (openAll line interrupting line.cells).2
            ⟨blocks, [], .idle, interrupting, previous⟩
        else
          Progress.openMore line 0 (openAll line interrupting line.cells).1
            (openAll line interrupting line.cells).2
            ⟨blocks, [], .idle, interrupting, previous⟩) with previous := line.stop } := rfl

/-- Where nothing is open, it does not matter where the line before has ended. -/
theorem feed_idle (blocks : List Node) (interrupting : Bool) (previous previous' : Nat)
    (line : Line) :
    Progress.feed ⟨blocks, [], .idle, interrupting, previous⟩ line =
      Progress.feed ⟨blocks, [], .idle, interrupting, previous'⟩ line := by
  have advance (here : Situation) (cells : List Cell) :
      Leaf.idle.advance line false previous here cells =
        Leaf.idle.advance line false previous' here cells := rfl
  rw [feed_outside, feed_outside]
  generalize openAll line interrupting line.cells = taken
  obtain ⟨opened, rest⟩ := taken
  have starts (previous : Nat) :
      Progress.startsItem ⟨blocks, [], .idle, interrupting, previous⟩ = false := rfl
  have none_open : (0 == ([] : List OpenContainer).length) = true := rfl
  cases opened with
  | nil =>
    cases ended : rest.isEmpty && line.last with
    | true => simp [Progress.goOn, ended]
    | false =>
      simp only [Progress.goOn, ended]
      rfl
  | cons first more =>
    cases ended : rest.isEmpty && line.last with
    | true =>
      simp only [Progress.openMore, none_open, ↓reduceIte, ended]
      rfl
    | false =>
      simp only [Progress.openMore, none_open, ↓reduceIte, ended, starts, advance,
        List.isEmpty_cons, Bool.false_eq_true, Progress.push, Progress.add]
      split <;> rfl

/-! ## Whole sources -/

theorem tabCells_moved (ahead offset column : Nat) :
    tabCells (offset + ahead) column = (tabCells offset column).map (Cell.moved ahead) := by
  unfold tabCells
  rw [List.map_map]
  rfl

theorem splitFrom_moved (ahead offset column : Nat) (text : Text) :
    splitFrom (offset + ahead) column text =
      ((splitFrom offset column text).1.moved ahead,
        (splitFrom offset column text).2.map (Line.moved ahead)) := by
  induction offset, column, text using splitFrom.induct with
  | case1 offset column => rfl
  | case2 offset column rest line lines split ih =>
    simp only [splitFrom, Nat.add_right_comm offset ahead, ih, Line.moved, List.map_nil,
      List.map_cons]
  | case3 offset column rest line lines split ih =>
    simp only [splitFrom, Nat.add_right_comm offset ahead, ih, Line.moved, List.map_nil,
      List.map_cons]
  | case4 offset column rest alone line lines split ih =>
    have ended (place : Nat) : splitFrom place column ('\r' :: rest) = (⟨[], place, false⟩,
        (splitFrom (place + 1) 0 rest).1 :: (splitFrom (place + 1) 0 rest).2) := by
      rw [splitFrom]
      exact alone
    simp only [ended, Nat.add_right_comm offset ahead, ih, Line.moved, List.map_nil, List.map_cons]
  | case5 offset column rest tab line lines split ih =>
    have size : (tabCells (offset + ahead) column).length = tab.length := by simp [tab, tabCells]
    simp only [splitFrom, size, Nat.add_right_comm offset ahead]
    simp only [tab, ih, tabCells_moved, Line.moved, List.map_append]
  | case6 offset column c rest pair feed carriage tab line lines split ih =>
    have inside (place : Nat) : splitFrom place column (c :: rest) =
        ({ (splitFrom (place + 1) (column + 1) rest).1 with
            cells := ⟨c, ⟨place, 0⟩⟩ :: (splitFrom (place + 1) (column + 1) rest).1.cells },
          (splitFrom (place + 1) (column + 1) rest).2) := by
      rw [splitFrom] <;> assumption
    simp only [inside, Nat.add_right_comm offset ahead, ih, Line.moved, List.map_cons]
    rfl

/-- All blocks of a source further along come behind the blocks that have been read before. -/
theorem finish_moved (settled : Settled base) (stop : Nat) (state : Progress) :
    (state.moved ahead base).finish (stop + ahead) =
      base.reverse ++ (state.finish stop).map (Node.moved ahead) := by
  unfold Progress.finish
  rw [closeLeaf_moved settled, closeTo_moved settled]
  simp [Progress.moved, List.map_reverse]

theorem foldl_feed_moved (settled : Settled base) (lines : List Line) (state : Progress) :
    (lines.map (Line.moved ahead)).foldl Progress.feed (state.moved ahead base) =
      (lines.foldl Progress.feed state).moved ahead base := by
  induction lines generalizing state with
  | nil => rfl
  | cons line lines ih => rw [List.map_cons, List.foldl_cons, feed_moved settled, ih,
      List.foldl_cons]

/-- The blocks that a text at some offset comes to, behind the blocks before it, newest first. -/
def blocksBehind (base : List Node) (offset previous : Nat) (text : Text) : List Node :=
  let (line, lines) := splitFrom offset 0 text
  let state := (line :: lines).foldl Progress.feed ⟨base, [], .idle, false, previous⟩
  state.finish state.previous

theorem blocksBehind_moved (settled : Settled base) (ahead previous : Nat) (text : Text) :
    blocksBehind base ahead previous text =
      base.reverse ++ (blocksBehind [] 0 0 text).map (Node.moved ahead) := by
  have split := splitFrom_moved ahead 0 0 text
  rw [Nat.zero_add] at split
  unfold blocksBehind
  rw [split]
  dsimp only
  rw [List.foldl_cons, feed_idle base false previous (0 + ahead)]
  have read := @foldl_feed_moved ahead base settled
    ((splitFrom 0 0 text).1 :: (splitFrom 0 0 text).2) .initial
  rw [List.map_cons, List.foldl_cons] at read
  rw [show (⟨base, [], .idle, false, 0 + ahead⟩ : Progress) = Progress.initial.moved ahead base
    from rfl, read]
  exact finish_moved settled _ _

/-- A text that starts without a byte order mark. -/
def Unmarked (text : Text) : Prop := text.head? ≠ some '\uFEFF'

instance : DecidablePred Unmarked := fun text =>
  inferInstanceAs (Decidable (text.head? ≠ some '\uFEFF'))

theorem blocksOf_unmarked (unmarked : Unmarked text) :
    blocksOf text = blocksBehind [] 0 0 text := by
  have lines : linesOf text = (splitFrom 0 0 text).1 :: (splitFrom 0 0 text).2 := by
    unfold linesOf
    split
    · exact absurd rfl unmarked
    · rfl
  unfold blocksOf
  rw [lines]
  rfl

/-- A byte order mark at the start of a source only moves its blocks along. -/
theorem blocksOf_marked (unmarked : Unmarked text) :
    blocksOf ('\uFEFF' :: text) = (blocksOf text).map (Node.moved 1) := by
  have behind : blocksOf ('\uFEFF' :: text) = blocksBehind [] 1 0 text := rfl
  rw [behind, blocksOf_unmarked unmarked, blocksBehind_moved settled_nil]
  rfl

end PluginReadme.Markdown
