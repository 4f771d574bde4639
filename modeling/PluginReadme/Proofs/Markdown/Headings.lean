import PluginReadme.Proofs.Markdown.Nesting

/-! Where the headings of a source come from. A line adds at most one heading to the blocks outside
of all containers: a heading with marks in front of it is a line by itself, and a heading that is
underlined consists of the rows of running text above the line. -/
namespace PluginReadme.Headings
open Markdown (Node Span Cell TextLine Leaf Line Advance Container OpenContainer Progress attach
  blocksOf linesOf contentSpan markedHeading underline trimCells joinedCells definitionsOf textNodes
  underlinedNodes)
open SourceLine Layout Leaves Nesting

variable {source : Text} {low mid high stop level : Nat} {node : Node} {nodes made : List Node}
  {state : Progress} {line : Line} {cells : List Cell} {leaf next : Leaf} {advance : Advance}
  {rows : List TextLine} {lead : Option Span}

/-! ## The headings among blocks -/

/-- Whether a block is a heading. -/
def isHeading : Node → Bool
  | .heading .. => true
  | _ => false

/-- The headings among some blocks. -/
def headings (nodes : List Node) : List Node := nodes.filter isHeading

theorem mem_headings : node ∈ headings nodes ↔ node ∈ nodes ∧ isHeading node = true :=
  List.mem_filter

@[simp] theorem headings_append (nodes more : List Node) :
    headings (nodes ++ more) = headings nodes ++ headings more := List.filter_append ..

theorem attach_headings (node : Node) (siblings : List Node) :
    headings (attach node siblings) = headings [node] ++ headings siblings := by
  unfold attach
  split
  · split <;> rfl
  · exact headings_append [node] siblings

theorem attachAll_headings (nodes siblings : List Node) :
    headings (nodes.foldl (fun siblings node => attach node siblings) siblings) =
      (headings nodes).reverse ++ headings siblings := by
  induction nodes generalizing siblings with
  | nil => rfl
  | cons node nodes ih =>
    have parted := headings_append [node] nodes
    have alone : (headings [node]).reverse = headings [node] := by
      cases heads : isHeading node <;> simp [headings, heads]
    rw [List.singleton_append] at parted
    rw [List.foldl_cons, ih, attach_headings, parted, List.reverse_append, alone,
      List.append_assoc]

/-- Blocks that are no headings add none. -/
theorem add_plain (plain : headings nodes = []) (state : Progress) :
    headings (state.add nodes).blocks = headings state.blocks := by
  by_cases outside : state.stack = []
  · rw [add_outside outside, attachAll_headings, plain, List.reverse_nil, List.nil_append]
  · rw [add_inside outside]

theorem closeOne_headings (stop : Nat) (state : Progress) :
    headings (state.closeOne stop).blocks = headings state.blocks := by
  unfold Progress.closeOne
  split
  · rfl
  · rename_i level outer stack
    have plain : headings [level.node stop] = [] := by
      unfold OpenContainer.node
      split <;> rfl
    rw [add_plain plain]

theorem closeTo_headings (depth stop : Nat) (state : Progress) :
    headings (state.closeTo depth stop).blocks = headings state.blocks := by
  unfold Progress.closeTo
  induction state.stack.length - depth with
  | zero => rfl
  | succ count ih =>
    rw [List.range_succ, List.foldl_append, List.foldl_cons, List.foldl_nil, closeOne_headings, ih]

theorem paragraph_headings (lead : Option Span) :
    headings (lead.map Node.paragraph).toList = [] := by
  cases lead <;> rfl

theorem definitionsOf_headings (rows : List TextLine) : headings (definitionsOf rows).1 = [] := by
  induction size : rows.length using Nat.strongRecOn generalizing rows with
  | ind size' ih =>
    cases rows with
    | nil =>
      rw [definitionsOf]
      rfl
    | cons first more =>
      rcases definitionsOf_cases first more with kept | ⟨endings, parted⟩
      · rw [kept]
        rfl
      · have shorter : (more.drop endings).length < size' := by
          rw [← size, List.length_drop, List.length_cons]
          omega
        rw [parted]
        exact ih (more.drop endings).length shorter _ rfl

theorem textNodes_headings (startsItem : Bool) (lead : Option Span) (rows : List TextLine) :
    headings (textNodes startsItem lead rows) = [] := by
  have defined := definitionsOf_headings rows
  unfold textNodes
  generalize definitionsOf rows = parts at defined
  obtain ⟨definitions, rest⟩ := parts
  dsimp only at defined ⊢
  split
  · rw [headings_append, defined, paragraph_headings]
    rfl
  · cases lead with
    | none =>
      dsimp only
      rw [headings_append, defined]
      rfl
    | some span =>
      dsimp only
      split
      · rfl
      · have apart := headings_append (.paragraph span :: definitions)
        have led := headings_append [.paragraph span] definitions
        rw [List.singleton_append] at led
        rw [apart, led, defined]
        rfl

/-- Where an open leaf ends without a line under it, it comes to no heading. -/
theorem nodes_headings (startsItem : Bool) (stop : Nat) (leaf : Leaf) :
    headings (leaf.nodes startsItem stop) = [] := by
  cases leaf with
  | text lines lead columns => exact textNodes_headings startsItem lead lines.reverse
  | underlined paragraph => exact paragraph_headings paragraph
  | _ => rfl

theorem closeLeaf_headings (stop : Nat) (state : Progress) :
    headings (state.closeLeaf stop).blocks = headings state.blocks :=
  add_plain (nodes_headings _ _ _) state

/-! ## Where a heading comes from -/

/-- A heading of a source: a line with marks, or rows of running text with a line under them. -/
inductive Headed (source : Text) : Node → Prop where
  | marked {row : TextLine} {level : Nat} {content : List Cell}
      (stands : Stands source row.start row.stop row.cells)
      (marked : markedHeading row.cells = some (level, content)) :
      Headed source (.heading ⟨row.start, row.stop⟩ level (contentSpan content))
  | underlined {start low high level : Nat} {first under : TextLine} {rows : List TextLine}
      (laid : Rows source low (first :: rows) high) (starts : start ≤ first.start)
      (below : high ≤ under.start) (stands : Stands source under.start under.stop under.cells)
      (marked : underline under.cells = some level) :
      Headed source (.heading ⟨start, under.stop⟩ level
        (contentSpan (trimCells ((joinedCells (first :: rows)).dropWhile (·.char == ' ')))))

/-- What a whole line begins is a heading only if the line has marks. -/
theorem begun_headed (stands : Stands source line.start line.stop line.cells)
    (begun : Begun line line.cells made next) : ∀ node ∈ headings made, Headed source node := by
  intro node member
  cases begun with
  | heading marked =>
    obtain rfl := List.mem_singleton.mp (List.mem_of_mem_filter member)
    exact @Headed.marked source ⟨line.start, line.cells, line.stop⟩ _ _ stands marked
  | _ => cases member

/-- Running text with a line under it comes to one heading, if it is more than definitions. -/
theorem underlined_headed (leads : Leads source low lead mid high)
    (laid : Rows source mid rows high) (below : high ≤ line.start)
    (stands : Stands source line.start line.stop line.cells)
    (marked : underline line.cells = some level) :
    ∀ node ∈ headings (underlinedNodes lead rows level line.stop).1, Headed source node := by
  have defined := definitionsOf_headings rows
  obtain ⟨place, chain, kept⟩ := definitionsOf_laid laid
  have after := chain.le
  intro node member
  unfold underlinedNodes at member
  generalize definitionsOf rows = parts at defined kept member
  obtain ⟨definitions, rest⟩ := parts
  dsimp only at defined kept member
  cases rest with
  | nil =>
    dsimp only at member
    rw [headings_append, defined, paragraph_headings] at member
    cases member
  | cons first rest =>
    dsimp only at member
    have led : headings (if definitions.isEmpty then [] else
        (lead.map Node.paragraph).toList) = [] := by
      split
      · rfl
      · exact paragraph_headings lead
    rw [headings_append, headings_append, led, defined, List.nil_append,
      List.nil_append] at member
    obtain rfl := List.mem_singleton.mp (List.mem_of_mem_filter member)
    refine @Headed.underlined source _ place high level first ⟨line.start, line.cells, line.stop⟩
      rest kept ?_ below stands marked
    have begins : place ≤ first.start := by
      cases kept with
      | cons stands solid after dense rest => exact after
    cases lead with
    | none => exact Nat.le_refl _
    | some span =>
      dsimp only
      split
      · have inside := (leads.chain.mem List.mem_cons_self).2
        dsimp only [Node.span] at inside
        omega
      · exact Nat.le_refl _

/-- Outside of containers a line adds no other headings. -/
theorem step_headed {previous : Nat} (follows : Follows source previous line)
    (laid : LeafAt source low previous leaf)
    (step : Step line false previous false false line.cells leaf advance) :
    ∀ node ∈ headings (advance.ended ++ advance.made), Headed source node := by
  have plain {nodes : List Node} (none : headings nodes = []) :
      ∀ node ∈ headings (nodes ++ []), Headed source node := by
    rw [headings_append, none]
    exact nofun
  cases step with
  | begun begun =>
    rw [headings_append, nodes_headings, List.nil_append]
    exact begun_headed follows.stands begun
  | underlined marked full inside =>
    obtain ⟨mid, leads, rows⟩ := laid
    rw [List.append_nil]
    exact underlined_headed leads rows follows.after follows.stands marked
  | marks full inside => exact plain (paragraph_headings _)
  | tabled full inside =>
    refine plain ?_
    split
    · exact paragraph_headings _
    · exact textNodes_headings _ _ _
  | _ => exact nofun

/-! ## Line by line -/

/-- All headings outside of containers come from the source. -/
def AllHeaded (source : Text) (state : Progress) : Prop :=
  ∀ node ∈ headings state.blocks, Headed source node

theorem AllHeaded.congr {state next : Progress} (headed : AllHeaded source state)
    (same : headings next.blocks = headings state.blocks) : AllHeaded source next := by
  unfold AllHeaded
  rw [same]
  exact headed

theorem AllHeaded.add (headed : AllHeaded source state)
    (more : state.stack = [] → ∀ node ∈ headings nodes, Headed source node) :
    AllHeaded source (state.add nodes) := by
  by_cases outside : state.stack = []
  · unfold AllHeaded
    rw [add_outside outside, attachAll_headings]
    intro node member
    rcases List.mem_append.mp member with new | old
    · exact more outside node (List.mem_reverse.mp new)
    · exact headed node old
  · exact headed.congr (by rw [add_inside outside])

/-- A line that opens no container. -/
theorem settle_headed (headed : AllHeaded source state) (standing : Standing source high state)
    (follows : Follows source high line) {keep : Nat} (going : Going state line keep cells)
    (interrupting : Bool) :
    let lazy := !(keep == state.stack.length)
    let advance := state.leaf.advance line state.startsItem high ⟨lazy, false, interrupting⟩ cells
    AllHeaded source (state.settle advance keep high
      (lazy && !(state.leaf.acceptsLazy && advance.leaf.acceptsLazy))) := by
  intro lazy advance
  have step := advance_step line state.startsItem high state.leaf ⟨lazy, false, interrupting⟩ cells
  change Leaves.Step line state.startsItem high lazy false cells state.leaf advance at step
  generalize advance = advance at step ⊢
  have kept {made : List Node} {before : Progress} (all : AllHeaded source (before.add made)) :
      AllHeaded source { before.add made with
        leaf := advance.leaf, interrupting := advance.interrupting && !(lazy &&
          !(state.leaf.acceptsLazy && advance.leaf.acceptsLazy)) } := all
  unfold Progress.settle
  dsimp only
  by_cases outside : state.stack = []
  · have alone : state.startsItem = false := by simp [Progress.startsItem, outside]
    have none : keep = 0 := by simpa [outside] using going.fits
    have full : lazy = false := by simp [lazy, none, outside]
    obtain ⟨low, -, -, -, leaf⟩ := standing
    rw [full, alone, going.whole none] at step
    have new := step_headed follows (leaf outside) step
    rw [headings_append] at new
    simp only [full, Bool.false_and, Bool.false_eq_true, ↓reduceIte] at kept ⊢
    refine kept ((headed.add fun _ node member => ?_).add fun _ node member => ?_)
    · exact new node (List.mem_append_left _ member)
    · exact new node (List.mem_append_right _ member)
  · have ended : AllHeaded source (state.add advance.ended) :=
      headed.add fun empty => absurd empty outside
    split
    · rename_i closes
      have closing := closes
      simp only [Bool.and_eq_true, Bool.not_eq_true'] at closing
      obtain ⟨short, ends⟩ := closing
      rw [short] at step
      have begun := step_lazy step ends
      simp only [closes] at kept
      refine kept ((ended.congr (closeTo_headings keep high _)).add fun empty => ?_)
      have left : (starts state).drop ((starts state).length - keep) = [] := by
        rw [← add_starts advance.ended, ← closeTo_starts _ high]
        exact starts_nil.mpr empty
      have none : keep = 0 := by
        have few := List.drop_eq_nil_iff.mp left
        have size := List.length_pos_iff.mpr fun empty => outside (starts_nil.mp empty)
        have fits := going.fits
        rw [show state.stack.length = (starts state).length from (List.length_map _).symm] at fits
        omega
      rw [going.whole none] at begun
      exact begun_headed follows.stands begun
    · rename_i stays
      have stays : (lazy && !(state.leaf.acceptsLazy && advance.leaf.acceptsLazy)) = false := by
        simpa using stays
      simp only [stays] at kept
      refine kept (ended.add fun empty => absurd (starts_nil.mpr empty) ?_)
      rw [add_starts]
      exact fun empty => outside (starts_nil.mp empty)

theorem goOn_headed (headed : AllHeaded source state)
    (standing : Standing source state.previous state)
    (follows : Follows source state.previous line) {keep : Nat}
    (going : Going state line keep cells) : AllHeaded source (state.goOn line keep cells) := by
  unfold Progress.goOn
  dsimp only
  split
  · split
    · exact headed
    · exact headed.congr ((closeTo_headings _ _ _).trans (closeLeaf_headings _ _))
  · exact settle_headed headed standing follows going state.interrupting

/-- A line that opens containers. -/
theorem openMore_headed (headed : AllHeaded source state) (keep : Nat) (first : Container × Nat)
    (more : List (Container × Nat)) (rest : List Cell) :
    AllHeaded source (state.openMore line keep (first :: more) rest) := by
  obtain ⟨ready, same⟩ : ∃ ready, ready = if keep == state.stack.length then state else
    { (state.closeLeaf state.previous).closeTo keep state.previous with interrupting := false } :=
    ⟨_, rfl⟩
  have headed : AllHeaded source ready := by
    rw [same]
    split
    · exact headed
    · exact headed.congr ((closeTo_headings _ _ _).trans (closeLeaf_headings _ _))
  unfold Progress.openMore
  dsimp only
  rw [← same]
  split
  · exact headed.congr (closeLeaf_headings _ _)
  · have step := advance_step line ready.startsItem ready.previous ready.leaf
      ⟨false, true, ready.interrupting⟩ rest
    have plain := nodes_headings ready.startsItem ready.previous ready.leaf
    rw [← step_pierced step] at plain
    have pushed : AllHeaded source ((ready.add _).push (first :: more)) :=
      headed.congr (add_plain plain ready)
    refine pushed.add fun empty => ?_
    simp [Progress.push] at empty

/-- After one more line the headings still come from the source. -/
theorem feed_headed (headed : AllHeaded source state)
    (standing : Standing source state.previous state)
    (follows : Follows source state.previous line) : AllHeaded source (state.feed line) := by
  obtain ⟨resumed, keep, cells, going, kept, blocks, leaf, previous, fed⟩ := feed_cases state line
  have headed : AllHeaded source resumed := headed.congr (by rw [blocks])
  have standing : Standing source resumed.previous resumed := by
    rw [previous]
    exact standing.congr blocks kept leaf
  rcases fed with fed | ⟨container, more, rest, fed⟩
  · rw [fed]
    exact goOn_headed headed standing (previous ▸ follows) going
  · rw [fed]
    exact openMore_headed headed keep _ more rest

private theorem lines_headed {lines : List Line} (reads : Reads source low lines)
    (headed : AllHeaded source state) (standing : Standing source state.previous state)
    (here : state.previous = low) : AllHeaded source (lines.foldl Progress.feed state) := by
  induction reads generalizing state with
  | nil low => exact headed
  | cons follows rest ih =>
    exact ih (feed_headed headed standing (here ▸ follows))
      (feed_standing standing (here ▸ follows)) rfl

/-- Every heading outside of all containers comes from the source. -/
theorem blocksOf_headed (member : node ∈ blocksOf source) (heads : isHeading node = true) :
    Headed source node := by
  have last : AllHeaded source ((linesOf source).foldl Progress.feed .initial) :=
    lines_headed (linesOf_reads source) nofun (standing_initial source) rfl
  obtain ⟨state, same⟩ : ∃ state, state = (linesOf source).foldl Progress.feed .initial := ⟨_, rfl⟩
  have finished : blocksOf source =
      ((state.closeLeaf state.previous).closeTo 0 state.previous).blocks.reverse := by
    rw [same]
    rfl
  rw [finished, List.mem_reverse] at member
  rw [← same] at last
  refine last.congr ?_ node (mem_headings.mpr ⟨member, heads⟩)
  rw [closeTo_headings, closeLeaf_headings]

end PluginReadme.Headings
