import PluginReadme.Markdown.Blocks
import PluginReadme.Proofs.Markdown.Leaves

/-! The blocks outside of all containers, line by line. They stand in order up to a place from
which the outermost container or, without one, the open leaf goes on; what happens inside of
containers does not touch them. -/
namespace PluginReadme.Nesting
open Markdown (Node Span Cell Leaf Line Container OpenContainer Progress attach continueAll openAll
  blocksOf linesOf)
open SourceLine Layout Leaves

variable {source : Text} {low high mid : Nat} {node : Node} {nodes blocks : List Node}
  {state next : Progress} {line : Line} {cells : List Cell} {depth : Nat}

/-- Where the open containers start, innermost first. -/
def starts (state : Progress) : List Nat := state.stack.map (·.start)

/-- The outermost container, if there is one, starts behind a place and is open where the last
line ends. -/
def Based (source : Text) (low high : Nat) (starts : List Nat) : Prop :=
  ∀ start ∈ starts.getLast?, low ≤ start ∧ start ≤ high ∧ Led source start ∧ Closed source high

/-- The blocks outside of containers stand in order, and the outermost container behind them. -/
def Ordered (source : Text) (high : Nat) (state : Progress) : Prop :=
  ∃ low, Chain source 0 state.blocks.reverse low ∧ low ≤ high ∧
    Based source low high (starts state)

/-- Without a container the leaf stands behind the blocks. -/
def Standing (source : Text) (high : Nat) (state : Progress) : Prop :=
  ∃ low, Chain source 0 state.blocks.reverse low ∧ low ≤ high ∧
    Based source low high (starts state) ∧ (state.stack = [] → LeafAt source low high state.leaf)

theorem Standing.ordered (standing : Standing source high state) : Ordered source high state := by
  obtain ⟨low, chain, below, based, -⟩ := standing
  exact ⟨low, chain, below, based⟩

/-! ## Adding blocks -/

theorem attach_laid (chain : Chain source 0 blocks.reverse low) (sound : Sound source node)
    (after : low ≤ node.span.start) (fits : node.span.start ≤ node.span.stop) :
    Chain source 0 (attach node blocks).reverse node.span.stop := by
  have behind : Chain source 0 (node :: blocks).reverse node.span.stop := by
    rw [List.reverse_cons]
    exact chain.append (.single sound after fits (Nat.le_refl _))
  unfold attach
  split
  · rename_i span mark start items older olderMark olderStart olderItems rest
    split
    · rw [List.reverse_cons] at chain ⊢
      obtain ⟨mid, first, second⟩ := chain.split
      cases second with
      | cons sound' after' fits' rest' =>
        have := rest'.le
        dsimp only [Node.span] at after' fits' this after fits ⊢
        exact first.append (.single trivial after' (by dsimp only [Node.span]; omega)
          (Nat.le_refl _))
    · exact behind
  · exact behind

theorem attach_all (chain : Chain source 0 blocks.reverse low)
    (more : Chain source low nodes high) :
    Chain source 0 (nodes.foldl (fun siblings node => attach node siblings) blocks).reverse
      high := by
  induction more generalizing blocks with
  | nil below => exact chain.widen (Nat.le_refl 0) below
  | cons sound after fits rest ih => exact ih (attach_laid chain sound after fits)

@[simp] theorem add_leaf (nodes : List Node) (state : Progress) :
    (state.add nodes).leaf = state.leaf := by
  unfold Progress.add
  split <;> rfl

@[simp] theorem add_previous (nodes : List Node) (state : Progress) :
    (state.add nodes).previous = state.previous := by
  unfold Progress.add
  split <;> rfl

@[simp] theorem add_starts (nodes : List Node) (state : Progress) :
    starts (state.add nodes) = starts state := by
  unfold Progress.add starts
  split
  · rfl
  · rename_i level outer stack
    rw [stack]
    rfl

theorem starts_nil : starts state = [] ↔ state.stack = [] := List.map_eq_nil_iff

/-- Blocks that are added inside of a container do not touch those outside. -/
theorem add_inside (inside : state.stack ≠ []) (nodes : List Node) :
    (state.add nodes).blocks = state.blocks := by
  unfold Progress.add
  split
  · contradiction
  · rfl

theorem add_outside (outside : state.stack = []) (nodes : List Node) :
    (state.add nodes).blocks =
      nodes.foldl (fun siblings node => attach node siblings) state.blocks := by
  unfold Progress.add
  split
  · rfl
  · rename_i level outer stack
    rw [stack] at outside
    cases outside

/-! ## Ending containers -/

/-- States with the same blocks outside and the same containers are alike. -/
theorem Ordered.congr (ordered : Ordered source high state) (blocks : next.blocks = state.blocks)
    (same : starts next = starts state) : Ordered source high next := by
  unfold Ordered
  rw [blocks, same]
  exact ordered

/-- A container covers what stands from its start up to its end. -/
theorem node_span (stop : Nat) (level : OpenContainer) :
    (level.node stop).span = ⟨level.start, stop⟩ := by
  unfold OpenContainer.node
  split <;> rfl

private theorem node_sound {level : OpenContainer} (led : Led source level.start)
    (closed : Closed source high) : Sound source (level.node high) := by
  unfold OpenContainer.node
  split
  · exact trivial
  · exact trivial
  · exact ⟨led, closed⟩

theorem Standing.congr (standing : Standing source high state) (blocks : next.blocks = state.blocks)
    (same : starts next = starts state) (leaf : next.leaf = state.leaf) :
    Standing source high next := by
  obtain ⟨low, chain, below, based, laid⟩ := standing
  refine ⟨low, blocks ▸ chain, below, same ▸ based, ?_⟩
  intro outside
  rw [leaf]
  exact laid (starts_nil.mp (same ▸ starts_nil.mpr outside))

theorem closeOne_ordered (ordered : Ordered source high state) :
    Ordered source high (state.closeOne high) := by
  unfold Progress.closeOne
  split
  · exact ordered
  · rename_i level outer stack
    obtain ⟨low, chain, below, based⟩ := ordered
    by_cases outside : outer = []
    · subst outside
      obtain ⟨after, before, led, closed⟩ := based level.start (by simp [starts, stack])
      have attached := attach_laid chain (node_sound led closed)
        (by rw [node_span]; exact after) (by rw [node_span]; exact before)
      rw [node_span] at attached
      refine ⟨high, ?_, Nat.le_refl high, ?_⟩
      · rw [add_outside rfl]
        exact attached
      · rw [add_starts]
        intro start member
        cases member
    · refine ⟨low, ?_, below, ?_⟩
      · rw [add_inside outside]
        exact chain
      · have same : (starts state).getLast? = (outer.map (·.start)).getLast? := by
          have filled : outer.map (·.start) ≠ [] := fun empty =>
            outside (List.map_eq_nil_iff.mp empty)
          rw [starts, stack, List.map_cons, ← List.singleton_append,
            List.getLast?_append_of_ne_nil _ filled]
        rw [add_starts]
        intro start member
        exact based start (same ▸ member)

theorem closeOne_kept (stop : Nat) (state : Progress) :
    (state.closeOne stop).leaf = state.leaf ∧ (state.closeOne stop).previous = state.previous := by
  unfold Progress.closeOne
  split
  · exact ⟨rfl, rfl⟩
  · exact ⟨add_leaf _ _, add_previous _ _⟩

theorem closeOne_starts (stop : Nat) (state : Progress) :
    starts (state.closeOne stop) = (starts state).tail := by
  unfold Progress.closeOne
  split
  · rename_i stack
    simp [starts, stack]
  · rename_i level outer stack
    rw [add_starts]
    simp [starts, stack]

private theorem closeMany_ordered (ordered : Ordered source high state) (count : Nat) :
    Ordered source high ((List.range count).foldl (fun state _ => state.closeOne high) state) := by
  induction count with
  | zero => exact ordered
  | succ count ih =>
    rw [List.range_succ, List.foldl_append]
    exact closeOne_ordered ih

theorem closeTo_ordered (ordered : Ordered source high state) (depth : Nat) :
    Ordered source high (state.closeTo depth high) :=
  closeMany_ordered ordered _

theorem closeTo_kept (depth stop : Nat) (state : Progress) :
    (state.closeTo depth stop).leaf = state.leaf ∧
      (state.closeTo depth stop).previous = state.previous := by
  have many (count : Nat) (closed : Progress)
      (same : closed = (List.range count).foldl (fun state _ => state.closeOne stop) state) :
      closed.leaf = state.leaf ∧ closed.previous = state.previous := by
    induction count generalizing closed with
    | zero => exact same ▸ ⟨rfl, rfl⟩
    | succ count ih =>
      rw [List.range_succ, List.foldl_append, List.foldl_cons, List.foldl_nil] at same
      obtain ⟨leaf, previous⟩ := ih _ rfl
      obtain ⟨leaf', previous'⟩ := closeOne_kept stop
        ((List.range count).foldl (fun state _ => state.closeOne stop) state)
      rw [same]
      exact ⟨leaf'.trans leaf, previous'.trans previous⟩
  exact many _ _ rfl

theorem closeTo_starts (depth stop : Nat) (state : Progress) :
    starts (state.closeTo depth stop) = (starts state).drop ((starts state).length - depth) := by
  have many (count : Nat) :
      starts ((List.range count).foldl (fun state _ => state.closeOne stop) state) =
        (starts state).drop count := by
    induction count with
    | zero => rfl
    | succ count ih =>
      rw [List.range_succ, List.foldl_append, List.foldl_cons, List.foldl_nil, closeOne_starts, ih,
        List.tail_drop]
  have size : (starts state).length = state.stack.length := List.length_map _
  rw [size]
  exact many _

/-- What ends the open leaf at the end of the last line. -/
theorem closeLeaf_ordered (standing : Standing source high state) :
    Ordered source high (state.closeLeaf high) := by
  obtain ⟨low, chain, below, based, leaf⟩ := standing
  by_cases outside : state.stack = []
  · have alone : state.startsItem = false := by simp [Progress.startsItem, outside]
    refine ⟨high, ?_, Nat.le_refl high, ?_⟩
    · have laid := attach_all chain (nodes_laid (leaf outside) below)
      rw [← alone, ← add_outside outside] at laid
      exact laid
    · have none : starts (state.closeLeaf high) = [] := by
        have same : starts (state.closeLeaf high) = starts state := add_starts _ _
        rw [same, starts_nil.mpr outside]
      rw [none]
      intro start member
      cases member
  · have same : starts (state.closeLeaf high) = starts state := add_starts _ _
    refine ⟨low, ?_, below, same ▸ based⟩
    have kept : (state.closeLeaf high).blocks = state.blocks := add_inside outside _
    rw [kept]
    exact chain

theorem Based.later {places : List Nat} {stop : Nat} (based : Based source low high places)
    (above : high ≤ stop) (closed : Closed source stop) : Based source low stop places := by
  intro start member
  obtain ⟨after, before, led, -⟩ := based start member
  exact ⟨after, before.trans above, led, closed⟩

theorem Standing.later {stop : Nat} (standing : Standing source high state) (above : high ≤ stop)
    (closed : Closed source stop) (dense : state.leaf.acceptsLazy = true → Dense source high stop) :
    Standing source stop state := by
  obtain ⟨low, chain, below, based, leaf⟩ := standing
  exact ⟨low, chain, below.trans above, based.later above closed,
    fun outside => (leaf outside).later above closed dense⟩

/-- Inside of a container it does not matter what the leaf is. -/
theorem Ordered.inside {stop : Nat} (ordered : Ordered source high state) (above : high ≤ stop)
    (closed : Closed source stop) (inside : starts state ≠ []) : Standing source stop state := by
  obtain ⟨low, chain, below, based⟩ := ordered
  exact ⟨low, chain, below.trans above, based.later above closed,
    fun outside => absurd (starts_nil.mpr outside) inside⟩

theorem closed_standing (standing : Standing source high state) (depth : Nat) :
    Standing source high ((state.closeLeaf high).closeTo depth high) := by
  obtain ⟨low, chain, below, based⟩ := closeTo_ordered (closeLeaf_ordered standing) depth
  refine ⟨low, chain, below, based, fun _ => ?_⟩
  rw [(closeTo_kept _ _ _).1]
  exact trivial

/-! ## One line -/

theorem continueAll_length (cells : List Cell) (containers : List Container) :
    (continueAll cells containers).1.length ≤ containers.length := by
  induction containers generalizing cells with
  | nil => exact Nat.le_refl 0
  | cons container inner ih =>
    unfold continueAll
    split
    · exact Nat.zero_le _
    · exact Nat.succ_le_succ (ih _)

/-- A line that goes on with no container is left whole. -/
theorem continueAll_whole {containers : List Container}
    (nothing : (continueAll cells containers).1 = []) :
    (continueAll cells containers).2 = cells := by
  cases containers with
  | nil => rfl
  | cons container inner =>
    unfold continueAll at nothing ⊢
    split at nothing
    · rename_i ends
      rfl
    · cases nothing

theorem openAll_whole {interrupting : Bool} (nothing : (openAll line interrupting cells).1 = []) :
    (openAll line interrupting cells).2 = cells := by
  unfold openAll at nothing ⊢
  split at nothing
  · rfl
  · split at nothing
    · cases nothing
    · rename_i short
      simp [short]

theorem openAll_start {interrupting : Bool} {container : Container} {start : Nat}
    {more : List (Container × Nat)}
    (opened : (openAll line interrupting cells).1 = (container, start) :: more) :
    start = line.offsetOf cells := by
  unfold openAll at opened
  split at opened
  · cases opened
  · split at opened
    · cases opened
      rfl
    · cases opened

/-- Going on with containers changes nothing of them but their marks. -/
theorem refreshed_map {α : Type} (f : OpenContainer → α)
    (same : ∀ level container, f { level with container := container } = f level)
    (continued : List Container) (stack : List OpenContainer) :
    (Progress.refreshed continued stack).map f = stack.map f := by
  have resumed (outermost : List OpenContainer) :
      (List.zipWith (fun (level : OpenContainer) container => { level with container := container })
        outermost continued ++ outermost.drop continued.length).map f = outermost.map f := by
    induction continued generalizing outermost with
    | nil => simp
    | cons container continued ih =>
      cases outermost with
      | nil => rfl
      | cons level outermost => simpa [same] using ih outermost
  unfold Progress.refreshed
  dsimp only
  rw [List.map_reverse, resumed, ← List.map_reverse, List.reverse_reverse]

/-- Going on with containers does not change where they start. -/
theorem refreshed_starts (continued : List Container) (stack : List OpenContainer) :
    (Progress.refreshed continued stack).map (·.start) = stack.map (·.start) :=
  refreshed_map _ (fun _ _ => rfl) continued stack

/-- How a line stands to the open containers: it goes on with some of them, and is left whole if it
goes on with none. -/
structure Going (state : Progress) (line : Line) (keep : Nat) (cells : List Cell) : Prop where
  fits : keep ≤ state.stack.length
  whole : keep = 0 → cells = line.cells

private theorem made_outside {made : List Node} {leaf : Leaf} {interrupting : Bool} {stop : Nat}
    (chain : Chain source 0 state.blocks.reverse low) (outside : starts state = [])
    (more : Chain source low made mid) (before : mid ≤ stop) (laid : LeafAt source mid stop leaf) :
    Standing source stop { state.add made with leaf := leaf, interrupting := interrupting } := by
  refine ⟨mid, ?_, before, ?_, fun _ => laid⟩
  · change Chain source 0 (state.add made).blocks.reverse mid
    rw [add_outside (starts_nil.mp outside)]
    exact attach_all chain more
  · change Based source mid stop (starts (state.add made))
    rw [add_starts, outside]
    intro start member
    cases member

private theorem made_inside {made : List Node} {leaf : Leaf} {interrupting : Bool} {stop : Nat}
    (ordered : Ordered source high state) (inside : starts state ≠ []) (above : high ≤ stop)
    (closed : Closed source stop) :
    Standing source stop { state.add made with leaf := leaf, interrupting := interrupting } := by
  have kept : Ordered source high
      { state.add made with leaf := leaf, interrupting := interrupting } :=
    ordered.congr (add_inside (fun empty => inside (starts_nil.mpr empty)) made)
      (add_starts made state)
  exact kept.inside above closed (by
    change starts (state.add made) ≠ []
    rw [add_starts]
    exact inside)

/-- A line that opens no container: the leaf goes on or ends, and with it the containers that the
line does not go on with. -/
theorem settle_standing (standing : Standing source high state)
    (follows : Follows source high line) {keep : Nat} (going : Going state line keep cells)
    (interrupting : Bool) :
    let lazy := !(keep == state.stack.length)
    let advance := state.leaf.advance line state.startsItem high ⟨lazy, false, interrupting⟩ cells
    Standing source line.stop (state.settle advance keep high
      (lazy && !(state.leaf.acceptsLazy && advance.leaf.acceptsLazy))) := by
  intro lazy advance
  have stands := follows.stands
  have after := follows.after
  have above := follows.le
  have step := advance_step line state.startsItem high state.leaf ⟨lazy, false, interrupting⟩ cells
  change Leaves.Step line state.startsItem high lazy false cells state.leaf advance at step
  generalize advance = advance at step ⊢
  unfold Progress.settle
  dsimp only
  by_cases outside : state.stack = []
  · have alone : state.startsItem = false := by simp [Progress.startsItem, outside]
    have none : keep = 0 := by simpa [outside] using going.fits
    have full : lazy = false := by simp [lazy, none, outside]
    obtain ⟨low, chain, below, based, leaf⟩ := standing
    rw [full, alone, going.whole none] at step
    obtain ⟨mid, laid, before, next⟩ := step_laid follows (leaf outside) below step
    obtain ⟨place, ended, made⟩ := laid.split
    have stays : starts (state.add advance.ended) = [] := by
      rw [add_starts, starts_nil.mpr outside]
    have chain' : Chain source 0 (state.add advance.ended).blocks.reverse place := by
      rw [add_outside outside]
      exact attach_all chain ended
    simp only [full, Bool.false_and, Bool.false_eq_true, ↓reduceIte]
    exact made_outside chain' stays made before next
  · have inside : starts state ≠ [] := fun empty => outside (starts_nil.mp empty)
    have ordered : Ordered source high (state.add advance.ended) :=
      standing.ordered.congr (add_inside outside _) (add_starts _ _)
    have inside' : starts (state.add advance.ended) ≠ [] := by
      rw [add_starts]
      exact inside
    split
    · rename_i closes
      simp only [Bool.and_eq_true, Bool.not_eq_true'] at closes
      obtain ⟨short, ends⟩ := closes
      rw [short] at step
      have begun := step_lazy step ends
      have closed := closeTo_ordered ordered keep
      have left : starts ((state.add advance.ended).closeTo keep high) =
          (starts state).drop ((starts state).length - keep) := by
        rw [closeTo_starts, add_starts]
      by_cases none : keep = 0
      · rw [going.whole none] at begun
        obtain ⟨low, chain, below, -⟩ := closed
        obtain ⟨mid, made, before, next⟩ := begun_laid stands begun (below.trans after)
        exact made_outside chain (by rw [left, none, Nat.sub_zero, List.drop_length]) made before
          next
      · have some : starts ((state.add advance.ended).closeTo keep high) ≠ [] := by
          have size := List.length_pos_iff.mpr inside
          rw [left]
          refine List.length_pos_iff.mp ?_
          rw [List.length_drop]
          omega
        exact made_inside closed some above stands.closed
    · exact made_inside ordered inside' above stands.closed

/-- Opening containers: the outermost of them starts with the line, unless it is inside of
another. -/
theorem pushed_ordered (ordered : Ordered source high state)
    (stands : Stands source line.start line.stop line.cells) (after : high ≤ line.start)
    (container : Container) {start : Nat} (more : List (Container × Nat))
    (outside : starts state = [] → start = line.start) :
    Ordered source line.stop (state.push ((container, start) :: more)) ∧
      starts (state.push ((container, start) :: more)) ≠ [] := by
  have above : high ≤ line.stop := after.trans stands.le
  obtain ⟨low, chain, below, based⟩ := ordered
  have split : starts (state.push ((container, start) :: more)) =
      (((container, start) :: more).map (·.2)).reverse ++ starts state := by
    simp [Progress.push, starts, List.map_reverse, Function.comp_def]
  have filled : (((container, start) :: more).map (·.2)).reverse ≠ [] := by simp
  refine ⟨⟨low, chain, below.trans above, ?_⟩, ?_⟩
  · rw [split]
    by_cases empty : starts state = []
    · intro place member
      have same : place = line.start := by
        rw [empty, List.append_nil] at member
        simpa [outside empty, eq_comm] using member
      rw [same]
      exact ⟨below.trans after, stands.le, stands.led, stands.closed⟩
    · rw [Based, List.getLast?_append_of_ne_nil _ empty]
      exact based.later above stands.closed
  · rw [split]
    exact List.append_ne_nil_of_left_ne_nil filled _

/-- A line that opens no container. -/
theorem goOn_standing (standing : Standing source state.previous state)
    (follows : Follows source state.previous line) {keep : Nat}
    (going : Going state line keep cells) :
    Standing source line.stop (state.goOn line keep cells) := by
  unfold Progress.goOn
  dsimp only
  split
  · rename_i ended
    simp only [Bool.and_eq_true] at ended
    have dense := follows.dense_last ended.2
    split
    · exact standing.later follows.le follows.stands.closed fun _ => dense
    · exact (closed_standing standing keep).later follows.le follows.stands.closed fun _ => dense
  · exact settle_standing standing follows going state.interrupting

/-- In front of containers that a line opens, those that it does not go on with have ended. -/
private theorem ready_standing (standing : Standing source state.previous state) {keep : Nat}
    (going : Going state line keep cells) {ready : Progress}
    (same : ready = if keep == state.stack.length then state else
      { (state.closeLeaf state.previous).closeTo keep state.previous with
        interrupting := false }) :
    ready.previous = state.previous ∧ Standing source state.previous ready ∧
      (starts ready = [] → keep = 0) := by
  have fits := going.fits
  rw [same]
  split
  · rename_i all
    refine ⟨rfl, standing, ?_⟩
    intro empty
    rw [starts_nil.mp empty] at all
    simpa using all
  · obtain ⟨-, previous⟩ := closeTo_kept keep state.previous (state.closeLeaf state.previous)
    have kept : starts (state.closeLeaf state.previous) = starts state := add_starts _ _
    refine ⟨previous.trans (add_previous _ _), (closed_standing standing keep).congr rfl rfl rfl,
      fun empty => ?_⟩
    have left : (starts state).drop ((starts state).length - keep) = [] := by
      rw [← kept, ← closeTo_starts]
      exact empty
    have size : (starts state).length = state.stack.length := List.length_map _
    have few := List.drop_eq_nil_iff.mp left
    omega

/-- A line that opens containers. -/
theorem openMore_standing (standing : Standing source state.previous state)
    (follows : Follows source state.previous line) {keep : Nat}
    (going : Going state line keep cells) {container : Container} {start : Nat}
    {more : List (Container × Nat)} (opens : start = line.offsetOf cells) (rest : List Cell) :
    Standing source line.stop (state.openMore line keep ((container, start) :: more) rest) := by
  have stands := follows.stands
  have after := follows.after
  obtain ⟨ready, same⟩ : ∃ ready, ready = if keep == state.stack.length then state else
    { (state.closeLeaf state.previous).closeTo keep state.previous with interrupting := false } :=
    ⟨_, rfl⟩
  obtain ⟨previous, laid, whole⟩ := ready_standing standing going same
  have outside (empty : starts ready = []) : start = line.start := by
    rw [opens, going.whole (whole empty)]
    rfl
  have ended := closeLeaf_ordered laid
  have kept : starts (ready.closeLeaf state.previous) = starts ready := add_starts _ _
  unfold Progress.openMore
  dsimp only
  rw [← same, previous]
  split
  · obtain ⟨ordered, inside⟩ := pushed_ordered ended stands after container more
      fun empty => outside (kept ▸ empty)
    exact ordered.inside (Nat.le_refl _) stands.closed inside
  · have step := advance_step line ready.startsItem state.previous ready.leaf
      ⟨false, true, ready.interrupting⟩ rest
    have nodes := step_pierced step
    have ordered' : Ordered source state.previous (ready.add (ready.leaf.advance line
        ready.startsItem state.previous ⟨false, true, ready.interrupting⟩ rest).ended) := by
      rw [nodes]
      exact ended.congr rfl rfl
    obtain ⟨ordered, inside⟩ := pushed_ordered ordered' stands after container more
      fun empty => outside (by rwa [add_starts] at empty)
    exact made_inside ordered inside (Nat.le_refl _) stands.closed

/-- A line goes on with some of the open containers. What is left of it either opens further ones or
goes to the open leaf. -/
theorem feed_cases (state : Progress) (line : Line) : ∃ resumed keep cells,
    Going resumed line keep cells ∧ starts resumed = starts state ∧
    resumed.blocks = state.blocks ∧ resumed.leaf = state.leaf ∧
    resumed.previous = state.previous ∧
    (state.feed line = { resumed.goOn line keep cells with previous := line.stop } ∨
      ∃ container more rest, state.feed line =
        { resumed.openMore line keep ((container, line.offsetOf cells) :: more) rest with
          previous := line.stop }) := by
  have length := continueAll_length line.cells (state.stack.reverse.map (·.container))
  have whole := @continueAll_whole line.cells (state.stack.reverse.map (·.container))
  unfold Progress.feed
  generalize continueAll line.cells (state.stack.reverse.map (·.container)) = gone at length whole ⊢
  obtain ⟨continued, cells⟩ := gone
  have kept := refreshed_starts continued state.stack
  have size : (Progress.refreshed continued state.stack).length = state.stack.length := by
    simpa using congrArg List.length kept
  refine ⟨{ state with stack := Progress.refreshed continued state.stack }, continued.length,
    cells, ⟨?_, ?_⟩, kept, rfl, rfl, rfl, ?_⟩
  · rw [size]
    simpa using length
  · exact fun none => whole (List.eq_nil_of_length_eq_zero none)
  dsimp only
  generalize taken : (if continued.length == state.stack.length && state.leaf.isOpaque then
    ([], cells) else openAll line (continued.length == state.stack.length && state.interrupting)
      cells) = opening
  obtain ⟨opened, rest⟩ := opening
  cases opened with
  | nil =>
    have same : rest = cells := by
      split at taken
      · cases taken
        rfl
      · rw [← openAll_whole (congrArg Prod.fst taken), taken]
    exact Or.inl (by rw [same]; rfl)
  | cons first more =>
    obtain ⟨container, start⟩ := first
    have opens : start = line.offsetOf cells := by
      split at taken
      · cases taken
      · exact openAll_start (congrArg Prod.fst taken)
    exact Or.inr ⟨container, more, rest, by rw [opens]; rfl⟩

/-- Between two lines the blocks stand in order, and so they do after one more line. -/
theorem feed_standing (standing : Standing source state.previous state)
    (follows : Follows source state.previous line) :
    Standing source (state.feed line).previous (state.feed line) := by
  obtain ⟨resumed, keep, cells, going, kept, blocks, leaf, previous, fed⟩ := feed_cases state line
  have standing : Standing source resumed.previous resumed := by
    rw [previous]
    exact standing.congr blocks kept leaf
  rcases fed with fed | ⟨container, more, rest, fed⟩
  · rw [fed]
    exact (goOn_standing standing (previous ▸ follows) going).congr rfl rfl rfl
  · rw [fed]
    exact (openMore_standing standing (previous ▸ follows) going rfl rest).congr rfl rfl rfl

private theorem lines_standing {lines : List Line} (reads : Reads source low lines)
    (standing : Standing source state.previous state) (here : state.previous = low) :
    Standing source (lines.foldl Progress.feed state).previous
      (lines.foldl Progress.feed state) := by
  induction reads generalizing state with
  | nil low => exact standing
  | cons follows rest ih => exact ih (feed_standing standing (here ▸ follows)) rfl

theorem standing_initial (source : Text) :
    Standing source Progress.initial.previous Progress.initial := by
  refine ⟨0, .nil (Nat.le_refl 0), Nat.le_refl 0, fun start member => ?_, fun _ => trivial⟩
  cases member

/-- The blocks of a source stand in order. -/
theorem blocksOf_laid (source : Text) : ∃ high, Chain source 0 (blocksOf source) high := by
  have last := lines_standing (linesOf_reads source) (standing_initial source) rfl
  obtain ⟨high, chain, -⟩ := closeTo_ordered (closeLeaf_ordered last) 0
  exact ⟨high, chain⟩

end PluginReadme.Nesting
