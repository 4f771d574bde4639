import PluginReadme.Proofs.Markdown.Nesting
import PluginReadme.Proofs.Markdown.Stretches

/-! The whole tree of a source, containers and all. Between two lines every open container starts
behind the blocks in front of it and holds blocks one behind the other; each line keeps it so, and
a container that ends covers what it holds. -/
namespace PluginReadme.Enclosing
open Markdown (Node Item Span Cell Leaf Line Container OpenContainer Progress attach dropBlanks
  takeBlanks continueAll openAll blocksOf linesOf)
open SourceLine Leaves Nesting Stretches

variable {low mid high stop : Nat} {node : Node} {nodes siblings blocks : List Node}
  {line : Line} {cells rest : List Cell} {interrupting : Bool} {container next : Container}

/-! ## Marks at the start of a line -/

private theorem dropBlanks_suffix (most : Nat) (cells : List Cell) :
    dropBlanks most cells <:+ cells := by
  obtain ⟨blanks, split, -⟩ := dropBlanks_split most cells
  exact ⟨blanks, split.symm⟩

private theorem dropIndent_suffix (dropped : Markdown.dropIndent cells = some rest) :
    rest <:+ cells := by
  obtain ⟨blanks, split, -⟩ := dropIndent_split dropped
  exact ⟨blanks, split.symm⟩

private theorem takeBlanks_suffix {count : Nat} (taken : takeBlanks count cells = some rest) :
    rest <:+ cells := by
  induction count generalizing cells with
  | zero =>
    cases taken
    exact List.suffix_refl _
  | succ count ih =>
    cases cells with
    | nil => cases taken
    | cons cell cells =>
      unfold takeBlanks at taken
      split at taken
      · exact (ih taken).trans (List.suffix_cons cell cells)
      · cases taken

private theorem quoteMark_suffix (marked : Markdown.quoteMark cells = some rest) :
    rest <:+ cells := by
  unfold Markdown.quoteMark at marked
  split at marked
  · rename_i cell more dropped
    split at marked
    · cases marked
      apply (dropBlanks_suffix 1 more).trans
      exact (List.suffix_cons cell more).trans (dropIndent_suffix dropped)
    · cases marked
  · cases marked

private theorem afterMark_suffix (marked : Markdown.afterMark cells = some rest) :
    rest <:+ cells := by
  have left := dropBlanks_suffix Markdown.tabStop cells
  unfold Markdown.afterMark at marked
  split at marked
  · cases marked
  · rename_i cell more dropped
    split at marked
    · cases marked
    · split at marked
      · cases marked
        exact dropBlanks_suffix 1 cells
      · cases marked
        exact dropped ▸ left

private theorem finishItem_suffix {start : Markdown.Place} {bullet : Char} {number : Option Nat}
    {mark : Markdown.ItemMark}
    (finished : Markdown.finishItem line start interrupting bullet number cells =
      some (mark, rest)) : rest <:+ cells := by
  unfold Markdown.finishItem at finished
  split at finished
  · split at finished
    · cases finished
    · cases finished
      exact List.suffix_refl _
  · obtain ⟨inner, after, same⟩ := Option.map_eq_some_iff.mp finished
    cases same
    exact afterMark_suffix after

private theorem itemMark_suffix {mark : Markdown.ItemMark}
    (marked : Markdown.itemMark line interrupting cells = some (mark, rest)) :
    rest <:+ cells := by
  unfold Markdown.itemMark at marked
  dsimp only at marked
  split at marked
  · rename_i cell more dropped
    have inner := (List.suffix_cons cell more).trans (dropIndent_suffix dropped)
    split at marked
    · split at marked
      · cases marked
      · exact (finishItem_suffix marked).trans inner
    · split at marked
      · exact (finishItem_suffix marked).trans inner
      · split at marked
        · split at marked
          · split at marked
            · rename_i delimiter left digits
              have behind : delimiter :: left <:+ cells :=
                (digits ▸ List.dropWhile_suffix _).trans (dropIndent_suffix dropped)
              split at marked
              · apply (finishItem_suffix marked).trans
                exact (List.suffix_cons delimiter left).trans behind
              · cases marked
            · cases marked
          · cases marked
        · cases marked
  · cases marked

private theorem footnoteLabel_suffix {escaped : Bool} {size : Nat}
    (labelled : Markdown.footnoteLabel escaped size cells = some rest) : rest <:+ cells := by
  induction cells generalizing escaped size with
  | nil => cases labelled
  | cons cell cells ih =>
    have tail := List.suffix_cons cell cells
    unfold Markdown.footnoteLabel at labelled
    dsimp only at labelled
    split at labelled
    · cases labelled
    · split at labelled
      · exact (ih labelled).trans tail
      · split at labelled
        · cases labelled
        · split at labelled
          · split at labelled
            · cases labelled
            · cases labelled
              exact tail
          · exact (ih labelled).trans tail

private theorem footnoteMark_suffix (marked : Markdown.footnoteMark cells = some rest) :
    rest <:+ cells := by
  unfold Markdown.footnoteMark at marked
  split at marked
  · rename_i opening caret more dropped
    have inner : more <:+ cells :=
      ((List.suffix_cons caret more).trans (List.suffix_cons opening _)).trans
        (dropIndent_suffix dropped)
    split at marked
    · split at marked
      · rename_i colon left labelled
        split at marked
        · cases marked
          apply (dropBlanks_suffix _ left).trans
          exact ((List.suffix_cons colon left).trans (footnoteLabel_suffix labelled)).trans inner
        · cases marked
      · cases marked
    · cases marked
  · cases marked

/-- What is left of a line behind the mark of a container that it opens. -/
theorem opened_suffix (opened : Container.opened line interrupting cells = some (container, rest)) :
    rest <:+ cells := by
  unfold Container.opened at opened
  split at opened
  · rename_i quoted
    cases opened
    exact quoteMark_suffix quoted
  · split at opened
    · rename_i marked
      cases opened
      exact itemMark_suffix marked
    · obtain ⟨inner, marked, same⟩ := Option.map_eq_some_iff.mp opened
      cases same
      exact footnoteMark_suffix marked

private theorem continueIndented_suffix {indent : Nat}
    (goes : Markdown.continueIndented indent cells = some rest) : rest <:+ cells := by
  unfold Markdown.continueIndented at goes
  split at goes
  · cases goes
    exact dropBlanks_suffix _ _
  · exact takeBlanks_suffix goes

/-- What is left of a line that goes on with a container. -/
theorem continued_suffix (goes : container.continued cells = some (next, rest)) :
    rest <:+ cells := by
  cases container with
  | quote =>
    obtain ⟨inner, marked, same⟩ := Option.map_eq_some_iff.mp goes
    cases same
    exact quoteMark_suffix marked
  | item mark =>
    simp only [Container.continued] at goes
    split at goes
    · cases goes
    · obtain ⟨inner, indented, same⟩ := Option.map_eq_some_iff.mp goes
      cases same
      exact continueIndented_suffix indented
  | footnote =>
    obtain ⟨inner, indented, same⟩ := Option.map_eq_some_iff.mp goes
    cases same
    exact continueIndented_suffix indented

theorem continueAll_suffix (cells : List Cell) (containers : List Container) :
    (continueAll cells containers).2 <:+ cells := by
  induction containers generalizing cells with
  | nil => exact List.suffix_refl cells
  | cons container inner ih =>
    unfold continueAll
    split
    · exact List.suffix_refl cells
    · rename_i next rest goes
      exact (ih rest).trans (continued_suffix goes)

/-- The place where a container begins. -/
def mark (opened : Container × Nat) : Span := ⟨opened.2, opened.2⟩

/-- Containers that a line opens begin one behind the other, and what is left of the line lies
behind the last of them. -/
theorem openAll_marks (ahead : Ahead line low cells) (interrupting : Bool) :
    ∃ mid, Apart low ((openAll line interrupting cells).1.map mark) mid ∧
      Ahead line mid (openAll line interrupting cells).2 := by
  induction size : cells.length using Nat.strongRecOn generalizing low cells interrupting with
  | ind size' ih =>
    unfold openAll
    split
    · exact ⟨low, .nil (Nat.le_refl low), ahead⟩
    · rename_i container rest opened
      split
      · rename_i shorter
        have inner := ahead.here.suffix (opened_suffix opened)
        obtain ⟨mid, marks, left⟩ := ih rest.length (size ▸ shorter) inner false rfl
        exact ⟨mid, .cons ahead.offset.1 (Nat.le_refl _) marks, left⟩
      · exact ⟨low, .nil (Nat.le_refl low), ahead⟩

/-! ## Open containers -/

/-- The blocks outside of all containers, and in each open container those that it holds: each
container begins behind what stands outside of it, and in the innermost all stands in front of a
place. -/
inductive Held : List Node → List OpenContainer → Nat → Prop where
  | outside {blocks : List Node} {low : Nat} (row : Row 0 blocks.reverse low) : Held blocks [] low
  | inside {blocks : List Node} {level : OpenContainer} {outer : List OpenContainer}
      {mid low : Nat} (held : Held blocks outer mid) (after : mid ≤ level.start)
      (row : Row level.start level.children.reverse low) : Held blocks (level :: outer) low

variable {stack : List OpenContainer} {state : Progress}

theorem Held.widen (held : Held blocks stack low) (above : low ≤ high) :
    Held blocks stack high := by
  cases held with
  | outside row => exact .outside (row.widen (Nat.le_refl 0) above)
  | inside held after row => exact .inside held after (row.widen (Nat.le_refl _) above)

/-- The marks of the containers do not matter. -/
theorem Held.congr {others : List OpenContainer} (held : Held blocks stack low)
    (same : others.map (fun level => (level.start, level.children)) =
      stack.map fun level => (level.start, level.children)) : Held blocks others low := by
  induction held generalizing others with
  | outside row =>
    obtain rfl := List.map_eq_nil_iff.mp same
    exact .outside row
  | inside held after row ih =>
    cases others with
    | nil => cases same
    | cons level others =>
      obtain ⟨here, outer⟩ := List.cons.inj same
      obtain ⟨start, children⟩ := Prod.mk.inj here
      exact .inside (ih outer) (start ▸ after) (start ▸ children ▸ row)

/-- A block behind its older siblings. An item that goes to the list in front of it makes that list
longer. -/
theorem attach_row (row : Row low siblings.reverse mid) (encloses : Encloses node)
    (after : mid ≤ node.span.start) (fits : node.span.start ≤ node.span.stop) :
    Row low (attach node siblings).reverse node.span.stop := by
  have behind : Row low (node :: siblings).reverse node.span.stop := by
    rw [List.reverse_cons]
    exact row.append (.single encloses after fits (Nat.le_refl _))
  unfold attach
  split
  · rename_i span mark start items older olderMark olderStart olderItems rest
    split
    · rw [List.reverse_cons] at row ⊢
      obtain ⟨place, before, list⟩ := row.split
      obtain ⟨begins, fits', ends⟩ := list.apart.mem List.mem_cons_self
      dsimp only [Node.span] at begins fits' ends after fits ⊢
      refine before.append (.single ?_ begins (by dsimp only [Node.span]; omega) (Nat.le_refl _))
      cases list.inner _ List.mem_cons_self with
      | list apart each inner =>
        cases encloses with
        | list apart' each' inner' =>
          refine .list ?_ (List.forall_mem_append.mpr ⟨each, each'⟩)
            (List.forall_mem_append.mpr ⟨inner, inner'⟩)
          rw [List.map_append]
          exact apart.append (apart'.widen (ends.trans after) (Nat.le_refl _))
    · exact behind
  · exact behind

private theorem attachAll_row (row : Row low siblings.reverse mid) (more : Row mid nodes high) :
    Row low (nodes.foldl (fun siblings node => attach node siblings) siblings).reverse high := by
  induction nodes generalizing siblings mid with
  | nil => exact row.widen (Nat.le_refl low) more.le
  | cons node nodes ih =>
    obtain ⟨apart, inner⟩ := more
    obtain ⟨encloses, inner⟩ := List.forall_mem_cons.mp inner
    cases apart with
    | cons after fits rest => exact ih (attach_row row encloses after fits) ⟨rest, inner⟩

/-- What the blocks and open containers of a state hold. -/
def Holds (state : Progress) (low : Nat) : Prop := Held state.blocks state.stack low

theorem add_holds (holds : Holds state low) (more : Row low nodes high) :
    Holds (state.add nodes) high := by
  obtain ⟨blocks, stack, leaf, interrupting, previous⟩ := state
  unfold Holds Progress.add at *
  cases holds with
  | outside row => exact .outside (attachAll_row row more)
  | inside held after row => exact .inside held after (attachAll_row row more)

/-- A container that ends covers the blocks that it holds. -/
private theorem node_encloses {level : OpenContainer}
    (row : Row level.start level.children.reverse stop) :
    Encloses (level.node stop) := by
  have fits := row.le
  unfold OpenContainer.node
  split
  · exact .quote row.apart row.inner
  · refine .list (.single (Nat.le_refl _) fits (Nat.le_refl _)) ?_ ?_
    · exact List.forall_mem_singleton.mpr row.apart
    · exact List.forall_mem_singleton.mpr row.inner
  · exact .verbatim _

theorem closeOne_holds (holds : Holds state stop) : Holds (state.closeOne stop) stop := by
  obtain ⟨blocks, stack, leaf, interrupting, previous⟩ := state
  unfold Holds at holds
  unfold Progress.closeOne
  cases holds with
  | outside row => exact .outside row
  | @inside level outer mid _ held after row =>
    have inner : Holds ⟨blocks, outer, leaf, interrupting, previous⟩ mid := held
    refine add_holds inner (.single (node_encloses row) ?_ ?_ ?_)
    · rw [node_span]
      exact after
    · rw [node_span]
      exact row.le
    · rw [node_span]

theorem closeTo_holds (holds : Holds state stop) (depth : Nat) :
    Holds (state.closeTo depth stop) stop := by
  unfold Progress.closeTo
  induction state.stack.length - depth with
  | zero => exact holds
  | succ count ih =>
    rw [List.range_succ, List.foldl_append]
    exact closeOne_holds ih

/-- Containers that a line opens one inside the other hold nothing yet. -/
theorem Held.push {opened : List (Container × Nat)} (held : Held blocks stack low)
    (marks : Apart low (opened.map mark) high) :
    Held blocks ((opened.map fun (container, start) => ⟨container, start, []⟩).reverse ++ stack)
      high := by
  induction opened generalizing stack low with
  | nil => exact held.widen marks.le
  | cons first more ih =>
    obtain ⟨container, start⟩ := first
    cases marks with
    | cons after fits rest =>
      have inner : Held blocks (⟨container, start, []⟩ :: stack) start :=
        .inside held after (.nil (Nat.le_refl start))
      rw [List.map_cons, List.reverse_cons, List.append_assoc]
      exact ih inner rest

/-! ## Line by line -/

/-- The open leaf stands behind all that the state holds. -/
def Fits (state : Progress) (high : Nat) : Prop :=
  ∃ low, Holds state low ∧ Open low state.leaf high

theorem Fits.widen (fits : Fits state high) (above : high ≤ stop) : Fits state stop := by
  obtain ⟨low, holds, opened⟩ := fits
  exact ⟨low, holds, opened.widen (Nat.le_refl low) above⟩

theorem closeLeaf_holds (fits : Fits state high) : Holds (state.closeLeaf high) high := by
  obtain ⟨low, holds, opened⟩ := fits
  exact add_holds holds (opened.nodes_row state.startsItem)

theorem closed_fits (fits : Fits state high) (depth : Nat) :
    Fits ((state.closeLeaf high).closeTo depth high) high := by
  refine ⟨high, closeTo_holds (closeLeaf_holds fits) depth, ?_⟩
  rw [(closeTo_kept _ _ _).1]
  exact .idle (Nat.le_refl high)

/-- A line that opens no container: the leaf goes on or ends, and with it the containers that the
line does not go on with. -/
theorem settle_fits {previous : Nat} (fits : Fits state previous)
    (ahead : Ahead line previous cells) (keep : Nat) (interrupting : Bool) :
    let lazy := !(keep == state.stack.length)
    let advance := state.leaf.advance line state.startsItem previous ⟨lazy, false, interrupting⟩
      cells
    Fits (state.settle advance keep previous
      (lazy && !(state.leaf.acceptsLazy && advance.leaf.acceptsLazy))) line.stop := by
  intro lazy advance
  have step := advance_step line state.startsItem previous state.leaf ⟨lazy, false, interrupting⟩
    cells
  change Leaves.Step line state.startsItem previous lazy false cells state.leaf advance at step
  generalize advance = advance at step ⊢
  obtain ⟨low, holds, opened⟩ := fits
  unfold Progress.settle
  dsimp only
  split
  · rename_i closes
    simp only [Bool.and_eq_true, Bool.not_eq_true'] at closes
    obtain ⟨ended, begun⟩ := step_begins step (Or.inr closes)
    have row := opened.nodes_row state.startsItem
    rw [← ended] at row
    have closed := closeTo_holds (add_holds holds row) keep
    obtain ⟨mid, made, next⟩ := begun_row ahead begun
    exact ⟨mid, add_holds closed made, next⟩
  · obtain ⟨mid, row, next⟩ := step_row ahead opened step
    obtain ⟨place, ended, made⟩ := row.split
    exact ⟨mid, add_holds (add_holds holds ended) made, next⟩

theorem goOn_fits (fits : Fits state state.previous) (ahead : Ahead line state.previous cells)
    (keep : Nat) : Fits (state.goOn line keep cells) line.stop := by
  unfold Progress.goOn
  dsimp only
  split
  · split
    · exact fits.widen ahead.below
    · exact (closed_fits fits keep).widen ahead.below
  · exact settle_fits fits ahead keep state.interrupting

/-- A line that opens containers. -/
theorem openMore_fits (fits : Fits state state.previous) (keep : Nat)
    {opened : List (Container × Nat)} (marks : Apart state.previous (opened.map mark) mid)
    (ahead : Ahead line mid rest) : Fits (state.openMore line keep opened rest) line.stop := by
  obtain ⟨ready, same⟩ : ∃ ready, ready = if keep == state.stack.length then state else
    { (state.closeLeaf state.previous).closeTo keep state.previous with interrupting := false } :=
    ⟨_, rfl⟩
  obtain ⟨previous, low, holds, leaf⟩ :
      ready.previous = state.previous ∧ Fits ready state.previous := by
    rw [same]
    split
    · exact ⟨rfl, fits⟩
    · have kept := (closeTo_kept keep state.previous (state.closeLeaf state.previous)).2
      exact ⟨kept.trans (add_previous _ _), closed_fits fits keep⟩
  unfold Progress.openMore
  dsimp only
  rw [← same, previous]
  split
  · have pushed := (closeLeaf_holds ⟨low, holds, leaf⟩).push marks
    exact ⟨mid, pushed, .idle ahead.below⟩
  · have step := advance_step line ready.startsItem state.previous ready.leaf
      ⟨false, true, ready.interrupting⟩ rest
    obtain ⟨ended, begun⟩ := step_begins step (Or.inl rfl)
    have row := leaf.nodes_row ready.startsItem
    rw [← ended] at row
    have pushed := (add_holds holds row).push marks
    obtain ⟨place, made, next⟩ := begun_row ahead begun
    refine ⟨place, add_holds ?_ made, next⟩
    exact pushed

/-- After one more line all is still in its place. -/
theorem feed_fits (fits : Fits state state.previous)
    (ahead : Ahead line state.previous line.cells) :
    Fits (state.feed line) (state.feed line).previous := by
  have left := ahead.suffix
    (continueAll_suffix line.cells (state.stack.reverse.map (·.container)))
  unfold Progress.feed
  generalize continueAll line.cells (state.stack.reverse.map (·.container)) = gone at left ⊢
  obtain ⟨continued, cells⟩ := gone
  dsimp only at left ⊢
  have resumed : Fits { state with stack := Progress.refreshed continued state.stack }
      state.previous := by
    obtain ⟨low, holds, opened⟩ := fits
    exact ⟨low, holds.congr (refreshed_map _ (fun _ _ => rfl) continued state.stack), opened⟩
  generalize taken : (if continued.length == state.stack.length && state.leaf.isOpaque then
    ([], cells) else openAll line (continued.length == state.stack.length && state.interrupting)
      cells) = opening
  obtain ⟨mid, marks, ahead⟩ : ∃ mid, Apart state.previous (opening.1.map mark) mid ∧
      Ahead line mid opening.2 := by
    rw [← taken]
    split
    · exact ⟨state.previous, .nil (Nat.le_refl _), left⟩
    · exact openAll_marks left _
  by_cases nothing : opening.1.isEmpty = true
  · simp only [nothing, ↓reduceIte]
    exact goOn_fits resumed (ahead.widen marks.le) continued.length
  · simp only [nothing]
    exact openMore_fits resumed continued.length marks ahead

private theorem lines_fit {source : Text} {lines : List Line} (reads : Reads source low lines)
    (fits : Fits state state.previous) (here : state.previous = low) :
    Fits (lines.foldl Progress.feed state) (lines.foldl Progress.feed state).previous := by
  induction reads generalizing state with
  | nil low => exact fits
  | cons follows rest ih => exact ih (feed_fits fits (.of_follows (here ▸ follows))) rfl

private theorem lines_within {source : Text} {lines : List Line} (reads : Reads source low lines)
    (within : state.previous ≤ source.length) :
    (lines.foldl Progress.feed state).previous ≤ source.length := by
  induction reads generalizing state with
  | nil low => exact within
  | cons follows rest ih => exact ih follows.stands.stop_le

/-- The blocks of a source lie one behind the other in it, each with all that is in it. -/
theorem blocksOf_within (source : Text) : Row 0 (blocksOf source) source.length := by
  have start : Fits Progress.initial Progress.initial.previous :=
    ⟨0, .outside (.nil (Nat.le_refl 0)), .idle (Nat.le_refl 0)⟩
  have last := lines_fit (linesOf_reads source) start rfl
  have within : ((linesOf source).foldl Progress.feed .initial).previous ≤ source.length :=
    lines_within (linesOf_reads source) (Nat.zero_le _)
  unfold blocksOf Progress.finish
  dsimp only
  generalize (linesOf source).foldl Progress.feed Progress.initial = state at last within ⊢
  have finished := closeTo_holds (closeLeaf_holds last) 0
  have ended : ((state.closeLeaf state.previous).closeTo 0 state.previous).stack = [] := by
    rw [← starts_nil, closeTo_starts, Nat.sub_zero, List.drop_length]
  unfold Holds at finished
  rw [ended] at finished
  cases finished with
  | outside row => exact row.widen (Nat.le_refl 0) within

theorem blocksOf_row (source : Text) : ∃ high, Row 0 (blocksOf source) high :=
  ⟨source.length, blocksOf_within source⟩

end PluginReadme.Enclosing
