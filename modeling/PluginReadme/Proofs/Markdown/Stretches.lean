import PluginReadme.Proofs.Markdown.Leaves

/-! Blocks inside of blocks, and the stretches of the source that they cover. A block covers those
inside of it, and these lie one behind the other; so do the lines of an open leaf, and the blocks it
comes to lie where its lines do, wherever on their lines these begin. -/
namespace PluginReadme.Stretches
open Markdown (Node Item Span Cell TextLine Leaf Line Advance Fence allBlank definitionsOf textNodes
  underlinedNodes joinedCells afterTaskMark)
open SourceLine Leaves

/-- Stretches one behind the other between two places. -/
inductive Apart : Nat → List Span → Nat → Prop where
  | nil {low high : Nat} (below : low ≤ high) : Apart low [] high
  | cons {low high : Nat} {span : Span} {spans : List Span} (after : low ≤ span.start)
      (fits : span.start ≤ span.stop) (rest : Apart span.stop spans high) :
      Apart low (span :: spans) high

variable {low mid high stop : Nat} {span last : Span} {spans more : List Span}

namespace Apart

theorem le (apart : Apart low spans high) : low ≤ high := by
  induction apart with
  | nil below => exact below
  | cons after fits rest ih => omega

theorem append (first : Apart low spans mid) (second : Apart mid more high) :
    Apart low (spans ++ more) high := by
  induction first with
  | nil below =>
    cases second with
    | nil below' => exact .nil (below.trans below')
    | cons after fits rest => exact .cons (below.trans after) fits rest
  | cons after fits rest ih => exact .cons after fits (ih second)

theorem split (apart : Apart low (spans ++ more) high) :
    ∃ mid, Apart low spans mid ∧ Apart mid more high := by
  induction spans generalizing low with
  | nil => exact ⟨low, .nil (Nat.le_refl low), apart⟩
  | cons span spans ih =>
    cases apart with
    | cons after fits rest =>
      obtain ⟨mid, first, second⟩ := ih rest
      exact ⟨mid, .cons after fits first, second⟩

theorem widen (apart : Apart mid spans high) (below : low ≤ mid) (above : high ≤ stop) :
    Apart low spans stop := by
  have joined := (Apart.append (.nil below) apart).append (.nil above)
  rwa [List.nil_append, List.append_nil] at joined

theorem single (after : low ≤ span.start) (fits : span.start ≤ span.stop)
    (before : span.stop ≤ high) : Apart low [span] high :=
  .cons after fits (.nil before)

theorem mem (apart : Apart low spans high) (member : span ∈ spans) :
    low ≤ span.start ∧ span.start ≤ span.stop ∧ span.stop ≤ high := by
  obtain ⟨before, after, rfl⟩ := List.append_of_mem member
  obtain ⟨mid, first, second⟩ := apart.split
  cases second with
  | cons begins fits rest => exact ⟨first.le.trans begins, fits, rest.le⟩

/-- Some of the stretches lie one behind the other, too. -/
theorem sublist (apart : Apart low spans high) (part : more.Sublist spans) :
    Apart low more high := by
  induction part generalizing low with
  | slnil => exact apart
  | cons span part ih =>
    cases apart with
    | cons after fits rest => exact (ih rest).widen (after.trans fits) (Nat.le_refl _)
  | cons_cons span part ih =>
    cases apart with
    | cons after fits rest => exact .cons after fits (ih rest)

/-- Of two stretches the first ends before the second begins. -/
theorem pairwise (apart : Apart low spans high) :
    spans.Pairwise fun span later => span.stop ≤ later.start := by
  induction apart with
  | nil below => exact .nil
  | cons after fits rest ih => exact .cons (fun later member => (rest.mem member).1) ih

/-- From the first stretch to one of them, and those behind that one. -/
theorem behind (apart : Apart low (span :: spans) high) {place : Nat}
    (here : (span :: spans)[place]? = some last) :
    low ≤ span.start ∧ span.start ≤ last.stop ∧ Apart last.stop (spans.drop place) high := by
  cases apart with
  | cons after fits rest =>
    refine ⟨after, ?_⟩
    cases place with
    | zero =>
      cases here
      exact ⟨fits, rest⟩
    | succ place =>
      have here : spans[place]? = some last := here
      obtain ⟨inside, same⟩ := List.getElem?_eq_some_iff.mp here
      have split := List.take_append_drop place spans
      rw [List.drop_eq_getElem_cons inside, same] at split
      rw [← split] at rest
      obtain ⟨mid, first, second⟩ := rest.split
      cases second with
      | cons begins ends others =>
        have reaches := first.le
        exact ⟨by omega, others⟩

/-- The stretch from the first one to the last. -/
theorem ends (apart : Apart low (span :: spans) high)
    (last' : (span :: spans).getLast? = some last) :
    low ≤ span.start ∧ span.start ≤ last.stop ∧ last.stop ≤ high ∧
      Apart low (span :: spans) last.stop := by
  obtain ⟨before, split⟩ := List.getLast?_eq_some_iff.mp last'
  have here := last'
  rw [List.getLast?_eq_getElem?] at here
  obtain ⟨after, fits, rest⟩ := apart.behind here
  refine ⟨after, fits, rest.le, ?_⟩
  rw [split] at apart ⊢
  obtain ⟨mid, first, second⟩ := apart.split
  cases second with
  | cons begins ends' others =>
    exact first.append (.single begins ends' (Nat.le_refl _))

end Apart

/-! ## Blocks inside of blocks -/

/-- A block covers all that is in it: the blocks of a quote, the items of a list and the blocks of
each item lie one behind the other in the stretch that they are part of. -/
inductive Encloses : Node → Prop where
  | heading (span : Span) (level : Nat) (content : Option Span) :
      Encloses (.heading span level content)
  | paragraph (span : Span) : Encloses (.paragraph span)
  | verbatim (span : Span) : Encloses (.verbatim span)
  | quote {span : Span} {children : List Node}
      (apart : Apart span.start (children.map Node.span) span.stop)
      (inner : ∀ child ∈ children, Encloses child) : Encloses (.quote span children)
  | list {span : Span} {mark : Char} {start : Option Nat} {items : List Item}
      (apart : Apart span.start (items.map Item.span) span.stop)
      (each : ∀ item ∈ items,
        Apart item.span.start (item.children.map Node.span) item.span.stop)
      (inner : ∀ item ∈ items, ∀ child ∈ item.children, Encloses child) :
      Encloses (.list span mark start items)

/-- Blocks one behind the other, each with all that is in it. -/
structure Row (low : Nat) (nodes : List Node) (high : Nat) : Prop where
  apart : Apart low (nodes.map Node.span) high
  inner : ∀ node ∈ nodes, Encloses node

variable {node : Node} {nodes others : List Node}

namespace Row

theorem le (row : Row low nodes high) : low ≤ high := row.apart.le

theorem nil (below : low ≤ high) : Row low [] high := ⟨.nil below, nofun⟩

theorem append (first : Row low nodes mid) (second : Row mid others high) :
    Row low (nodes ++ others) high := by
  refine ⟨?_, List.forall_mem_append.mpr ⟨first.inner, second.inner⟩⟩
  rw [List.map_append]
  exact first.apart.append second.apart

theorem split (row : Row low (nodes ++ others) high) :
    ∃ mid, Row low nodes mid ∧ Row mid others high := by
  obtain ⟨apart, inner⟩ := row
  rw [List.map_append] at apart
  obtain ⟨mid, first, second⟩ := apart.split
  obtain ⟨inner, inner'⟩ := List.forall_mem_append.mp inner
  exact ⟨mid, ⟨first, inner⟩, second, inner'⟩

theorem widen (row : Row mid nodes high) (below : low ≤ mid) (above : high ≤ stop) :
    Row low nodes stop :=
  ⟨row.apart.widen below above, row.inner⟩

theorem single (encloses : Encloses node) (after : low ≤ node.span.start)
    (fits : node.span.start ≤ node.span.stop) (before : node.span.stop ≤ high) :
    Row low [node] high :=
  ⟨.single after fits before, List.forall_mem_singleton.mpr encloses⟩

/-- Stretches that are taken from each of the blocks lie one behind the other, too. -/
theorem flatMap {parts : Node → List Span} (row : Row low nodes high)
    (each : ∀ node ∈ nodes, node.span.start ≤ node.span.stop →
      Apart node.span.start (parts node) node.span.stop) :
    Apart low (nodes.flatMap parts) high := by
  induction nodes generalizing low with
  | nil => exact row.apart
  | cons node nodes ih =>
    obtain ⟨apart, inner⟩ := row
    obtain ⟨here, later⟩ := List.forall_mem_cons.mp each
    cases apart with
    | cons after fits behind =>
      rw [List.flatMap_cons]
      refine ((here fits).widen after (Nat.le_refl _)).append ?_
      exact ih ⟨behind, (List.forall_mem_cons.mp inner).2⟩ later

end Row

/-! ## Lines of running text -/

variable {row final : TextLine} {rows : List TextLine} {lead : Option Span} {cell : Cell}
  {level : Nat}

/-- The stretch of a line of running text. -/
def reach (row : TextLine) : Span := ⟨row.start, row.stop⟩

/-- A line of running text has columns, and they come from its stretch. -/
structure Lined (row : TextLine) : Prop where
  filled : row.cells ≠ []
  within : ∀ cell ∈ row.cells, row.start ≤ cell.place.offset ∧ cell.place.offset < row.stop

/-- Lines of running text one behind the other. -/
structure Written (low : Nat) (rows : List TextLine) (high : Nat) : Prop where
  apart : Apart low (rows.map reach) high
  lined : ∀ row ∈ rows, Lined row

theorem Written.append {left : List TextLine} (first : Written low rows mid)
    (second : Written mid left high) : Written low (rows ++ left) high := by
  refine ⟨?_, List.forall_mem_append.mpr ⟨first.lined, second.lined⟩⟩
  rw [List.map_append]
  exact first.apart.append second.apart

/-- From the first line to one of them, and those behind that one; without one to end with it is the
first line alone. -/
private theorem Written.ending (lines : Written low (row :: rows) high) (endings : Nat) :
    ∃ stop, (((row :: rows)[endings]?).getD row).stop = stop ∧ low ≤ row.start ∧
      row.start ≤ stop ∧ Written stop (rows.drop endings) high := by
  obtain ⟨apart, lined⟩ := lines
  have lined : ∀ row ∈ rows.drop endings, Lined row :=
    fun row member => lined row (List.mem_cons_of_mem _ (List.mem_of_mem_drop member))
  cases taken : (row :: rows)[endings]? with
  | some last =>
    have here : ((row :: rows).map reach)[endings]? = some (reach last) := by
      rw [List.getElem?_map, taken]
      rfl
    rw [List.map_cons] at apart here
    obtain ⟨after, fits, rest⟩ := apart.behind here
    rw [← List.map_drop] at rest
    exact ⟨last.stop, rfl, after, fits, rest, lined⟩
  | none =>
    have few := List.getElem?_eq_none_iff.mp taken
    rw [List.length_cons] at few
    rw [List.drop_eq_nil_of_le (by omega)] at lined ⊢
    cases apart with
    | cons after fits rest => exact ⟨row.stop, rfl, after, fits, .nil rest.le, nofun⟩

/-- The stretch from the first line to the last. -/
private theorem Written.ends (lines : Written low (row :: rows) high)
    (last : (row :: rows).getLast? = some final) :
    low ≤ row.start ∧ row.start ≤ final.stop ∧ final.stop ≤ high ∧
      Written row.start (row :: rows) final.stop := by
  obtain ⟨apart, lined⟩ := lines
  have last' : ((row :: rows).map reach).getLast? = some (reach final) := by
    rw [List.getLast?_map, last]
    rfl
  rw [List.map_cons] at apart last'
  obtain ⟨after, fits, before, narrow⟩ := apart.ends last'
  refine ⟨after, fits, before, ?_, lined⟩
  cases narrow with
  | cons after fits rest => exact .cons (Nat.le_refl _) fits rest

/-- The columns of running text come from its lines or from the endings between them. -/
theorem joined_within (lines : Written low rows high) (member : cell ∈ joinedCells rows) :
    low ≤ cell.place.offset ∧ cell.place.offset < high := by
  induction rows generalizing low with
  | nil => cases member
  | cons row rows ih =>
    obtain ⟨apart, lined⟩ := lines
    obtain ⟨here, later⟩ := List.forall_mem_cons.mp lined
    cases apart with
    | cons after fits rest =>
      have after : low ≤ row.start := after
      have fits : row.start ≤ row.stop := fits
      have reaches := rest.le
      dsimp only [reach] at reaches
      have inside (own : cell ∈ row.cells) :
          low ≤ cell.place.offset ∧ cell.place.offset < high := by
        have := here.within cell own
        omega
      cases rows with
      | nil => exact inside member
      | cons next rows =>
        have below : Written row.stop (next :: rows) high := ⟨rest, later⟩
        rcases List.mem_append.mp member with own | behind
        · exact inside own
        · rcases List.mem_cons.mp behind with rfl | behind
          · obtain ⟨filled, within⟩ := later next List.mem_cons_self
            obtain ⟨first, others, split⟩ := List.exists_cons_of_ne_nil filled
            have first' := within first (split ▸ List.mem_cons_self)
            cases rest with
            | cons after' fits' rest' =>
              have := rest'.le
              dsimp only [reach] at after' this ⊢
              omega
          · have := ih below behind
            omega

theorem lead_row (apart : Apart low lead.toList high) :
    Row low (lead.map Node.paragraph).toList high := by
  cases lead with
  | none => exact .nil apart.le
  | some span => exact ⟨apart, List.forall_mem_singleton.mpr (.paragraph span)⟩

/-- The definitions that running text begins with lie in front of the lines that are left. -/
theorem definitionsOf_row (lines : Written low rows high) :
    ∃ mid, Row low (definitionsOf rows).1 mid ∧ Written mid (definitionsOf rows).2 high := by
  induction size : rows.length using Nat.strongRecOn generalizing rows low with
  | ind size' ih =>
    cases rows with
    | nil =>
      rw [definitionsOf]
      exact ⟨low, .nil (Nat.le_refl low), lines⟩
    | cons first more =>
      rcases Layout.definitionsOf_cases first more with kept | ⟨endings, parted⟩
      · rw [kept]
        exact ⟨low, .nil (Nat.le_refl low), lines⟩
      · obtain ⟨stop, same, after, fits, behind⟩ := lines.ending endings
        have shorter : (more.drop endings).length < size' := by
          rw [← size, List.length_drop, List.length_cons]
          omega
        obtain ⟨mid, row, left⟩ := ih (more.drop endings).length shorter behind rfl
        rw [parted, same]
        have one : Row low [.verbatim ⟨first.start, stop⟩] stop :=
          .single (.verbatim _) after fits (Nat.le_refl stop)
        exact ⟨mid, one.append row, left⟩

/-- A task mark and what follows it are columns of the text. -/
private theorem afterTaskMark_column {cells : List Cell} {place : Nat}
    (marked : afterTaskMark cells = some place) :
    ∃ cell ∈ cells, place = cell.place.offset + 1 := by
  unfold afterTaskMark at marked
  split at marked
  · rename_i opening state closing next rest
    split at marked
    · cases marked
      exact ⟨next, by simp, rfl⟩
    · cases marked
  · cases marked

/-- Running text comes to blocks where its lines are. -/
theorem textNodes_row (startsItem : Bool) (led : Apart low lead.toList mid)
    (lines : Written mid rows high) : Row low (textNodes startsItem lead rows) high := by
  obtain ⟨place, defined, kept⟩ := definitionsOf_row lines
  have begins := led.le
  have parts := (lead_row led).append defined
  unfold textNodes
  generalize definitionsOf rows = split at defined kept parts
  obtain ⟨definitions, rest⟩ := split
  dsimp only at defined kept parts ⊢
  cases last : rest.getLast? with
  | none => exact parts.widen (Nat.le_refl low) kept.apart.le
  | some final =>
    obtain ⟨row, more, rfl⟩ : ∃ row more, rest = row :: more := by
      cases rest with
      | nil => cases last
      | cons row more => exact ⟨row, more, rfl⟩
    obtain ⟨after, fits, before, whole⟩ := kept.ends last
    have paragraph {start : Nat} (later : row.start ≤ start) (inside : start ≤ final.stop) :
        Row place [.paragraph ⟨start, final.stop⟩] high :=
      .single (.paragraph _) (after.trans later) inside before
    have plain := paragraph (Nat.le_refl _) fits
    cases lead with
    | none =>
      refine parts.append ?_
      dsimp only [List.head?_cons, Option.map_some, Option.getD_some]
      cases task : (if startsItem && definitions.isEmpty then
          afterTaskMark (joinedCells (row :: more)) else none) with
      | none => exact plain
      | some start =>
        have marked : afterTaskMark (joinedCells (row :: more)) = some start := by
          split at task
          · exact task
          · cases task
        obtain ⟨cell, member, rfl⟩ := afterTaskMark_column marked
        have inside := joined_within whole member
        exact @paragraph (cell.place.offset + 1) (by omega) (by omega)
    | some span =>
      dsimp only
      split
      · have reaches := defined.le
        cases led with
        | cons after' fits' rest' =>
          have := rest'.le
          exact .single (.paragraph _) after' (by dsimp only [Node.span]; omega) before
      · exact parts.append plain

/-- Running text with a line under it comes to blocks that reach up to the end of that line. -/
theorem underlinedNodes_row (led : Apart low lead.toList mid) (lines : Written mid rows high)
    (above : high ≤ stop) : Row low (underlinedNodes lead rows level stop).1 stop := by
  obtain ⟨place, defined, kept⟩ := definitionsOf_row lines
  have parts := (lead_row led).append defined
  unfold underlinedNodes
  generalize definitionsOf rows = split at defined kept parts
  obtain ⟨definitions, rest⟩ := split
  dsimp only at defined kept parts ⊢
  cases rest with
  | nil => exact parts.widen (Nat.le_refl low) (kept.apart.le.trans above)
  | cons row rest =>
    obtain ⟨after, fits⟩ : place ≤ row.start ∧ row.start ≤ stop := by
      cases kept.apart with
      | cons after fits rest => exact ⟨after, fits.trans (rest.le.trans above)⟩
    have heading (content : Option Span) :
        Row place [.heading ⟨row.start, stop⟩ level content] stop :=
      .single (.heading ..) after fits (Nat.le_refl stop)
    by_cases nothing : definitions.isEmpty = true
    · obtain rfl := List.isEmpty_iff.mp nothing
      simp only [List.isEmpty_nil, ↓reduceIte, List.nil_append]
      cases lead with
      | none => exact (heading _).widen parts.le (Nat.le_refl stop)
      | some span =>
        have reaches := defined.le
        cases led with
        | cons after' fits' rest' =>
          have := rest'.le
          exact .single (.heading ..) after' (by dsimp only [Node.span]; omega) (Nat.le_refl stop)
    · simp only [nothing]
      have behind := parts.append (heading
        (Markdown.contentSpan (Markdown.trimCells
          ((joinedCells (row :: rest)).dropWhile (·.char == ' ')))))
      cases lead <;> exact behind

/-- Without text to make a heading of they reach no further than the text. -/
theorem underlinedNodes_short (led : Apart low lead.toList mid) (lines : Written mid rows high)
    (unmarked : (underlinedNodes lead rows level stop).2 = false) :
    Row low (underlinedNodes lead rows level stop).1 high := by
  obtain ⟨place, defined, kept⟩ := definitionsOf_row lines
  have parts := (lead_row led).append defined
  unfold underlinedNodes at unmarked ⊢
  generalize definitionsOf rows = split at defined kept parts unmarked
  obtain ⟨definitions, rest⟩ := split
  cases rest with
  | nil => exact parts.widen (Nat.le_refl low) kept.apart.le
  | cons row rest => cases unmarked

/-! ## What is left of a line -/

variable {line : Line} {cells : List Cell} {leaf next : Leaf} {made : List Node}
  {startsItem lazy pierced : Bool} {previous : Nat} {advance : Advance}

/-- Columns of a line in order, all behind a place. -/
structure Ahead (line : Line) (low : Nat) (cells : List Cell) : Prop where
  below : low ≤ line.stop
  within : ∀ cell ∈ cells, low ≤ cell.place.offset ∧ cell.place.offset < line.stop
  ordered : cells.Pairwise fun cell next => cell.place.offset ≤ next.place.offset

namespace Ahead

/-- The columns of a line that follows what stands up to a place. -/
theorem of_follows {source : Text} (follows : Follows source low line) :
    Ahead line low line.cells := by
  refine ⟨follows.le, fun cell member => ?_, follows.stands.ordered⟩
  have inside := follows.stands.within member
  exact ⟨follows.after.trans inside.1, inside.2⟩

theorem suffix {rest : List Cell} (ahead : Ahead line low cells) (left : rest <:+ cells) :
    Ahead line low rest :=
  ⟨ahead.below, fun cell member => ahead.within cell (left.mem member),
    ahead.ordered.sublist left.sublist⟩

theorem widen (ahead : Ahead line mid cells) (below : low ≤ mid) : Ahead line low cells := by
  refine ⟨below.trans ahead.below, fun cell member => ?_, ahead.ordered⟩
  have inside := ahead.within cell member
  exact ⟨below.trans inside.1, inside.2⟩

/-- Where the columns begin. -/
theorem offset (ahead : Ahead line low cells) :
    low ≤ line.offsetOf cells ∧ line.offsetOf cells ≤ line.stop := by
  cases cells with
  | nil => exact ⟨ahead.below, Nat.le_refl _⟩
  | cons cell rest =>
    have inside := ahead.within cell List.mem_cons_self
    exact ⟨inside.1, Nat.le_of_lt inside.2⟩

/-- They lie behind the first of them, too. -/
theorem here (ahead : Ahead line low cells) : Ahead line (line.offsetOf cells) cells := by
  refine ⟨ahead.offset.2, fun cell member => ⟨?_, (ahead.within cell member).2⟩, ahead.ordered⟩
  cases cells with
  | nil => cases member
  | cons first rest =>
    rcases List.mem_cons.mp member with rfl | later
    · exact Nat.le_refl _
    · exact (List.pairwise_cons.mp ahead.ordered).1 cell later

/-- What is left of a line makes a line of running text. -/
theorem lines (ahead : Ahead line low cells) (solid : allBlank cells = false) :
    Written low [⟨line.offsetOf cells, cells, line.stop⟩] line.stop := by
  refine ⟨.single ahead.offset.1 ahead.offset.2 (Nat.le_refl _), ?_⟩
  refine List.forall_mem_singleton.mpr ⟨?_, ahead.here.within⟩
  rintro rfl
  cases solid

/-- The fence that a line opens. -/
theorem fence {rest : List Cell} (ahead : Ahead line low cells) {fence : Fence}
    (opened : Fence.opened cells = some (fence, rest)) :
    low ≤ line.offsetOf rest ∧ line.offsetOf rest ≤ line.stop := by
  unfold Fence.opened at opened
  split at opened
  · rename_i first more dropped
    obtain ⟨blanks, split, -⟩ := dropIndent_split dropped
    dsimp only at opened
    split at opened
    · cases opened
      exact (ahead.suffix ⟨blanks, split.symm⟩).offset
    · cases opened
  · cases opened

end Ahead

/-! ## Open leaves -/

/-- The stretches that an open leaf has taken so far; a fence has no end yet. -/
def stretches : Leaf → List Span
  | .idle => []
  | .text rows lead _ => lead.toList ++ rows.reverse.map reach
  | .underlined paragraph => paragraph.toList
  | .fence start _ => [⟨start, start⟩]
  | .html start stop _ => [⟨start, stop⟩]
  | .code start stop => [⟨start, stop⟩]
  | .table start stop => [⟨start, stop⟩]

/-- The lines of running text of an open leaf. -/
def textLines : Leaf → List TextLine
  | .text rows _ _ => rows
  | _ => []

/-- An open leaf between two places. -/
structure Open (low : Nat) (leaf : Leaf) (high : Nat) : Prop where
  apart : Apart low (stretches leaf) high
  lined : ∀ row ∈ textLines leaf, Lined row

namespace Open

theorem le (opened : Open low leaf high) : low ≤ high := opened.apart.le

theorem widen (opened : Open mid leaf high) (below : low ≤ mid) (above : high ≤ stop) :
    Open low leaf stop :=
  ⟨opened.apart.widen below above, opened.lined⟩

theorem idle (below : low ≤ high) : Open low .idle high := ⟨.nil below, nofun⟩

/-- The lines of running text behind the one in front of it. -/
theorem text {columns : Option Nat} (opened : Open low (.text rows lead columns) high) :
    ∃ mid, Apart low lead.toList mid ∧ Written mid rows.reverse high := by
  obtain ⟨mid, led, apart⟩ := opened.apart.split
  exact ⟨mid, led, apart, fun row member => opened.lined row (List.mem_reverse.mp member)⟩

theorem of_text (led : Apart low lead.toList mid) (lines : Written mid rows.reverse high)
    (columns : Option Nat) : Open low (.text rows lead columns) high :=
  ⟨led.append lines.apart, fun row member => lines.lined row (List.mem_reverse.mpr member)⟩

/-- A leaf comes to blocks where it stands. -/
theorem nodes_row (opened : Open low leaf high) (startsItem : Bool) :
    Row low (leaf.nodes startsItem high) high := by
  have verbatim {start stop : Nat} (apart : Apart low [⟨start, stop⟩] high) :
      Row low [.verbatim ⟨start, stop⟩] high :=
    ⟨apart, List.forall_mem_singleton.mpr (.verbatim _)⟩
  cases leaf with
  | idle => exact .nil opened.le
  | text rows lead columns =>
    obtain ⟨mid, led, lines⟩ := opened.text
    exact textNodes_row startsItem led lines
  | underlined paragraph => exact lead_row opened.apart
  | fence start fence =>
    obtain ⟨after, -, before⟩ := opened.apart.mem List.mem_cons_self
    exact verbatim (.single after before (Nat.le_refl _))
  | html start last ending =>
    obtain ⟨after, fits, before⟩ := opened.apart.mem List.mem_cons_self
    refine verbatim (.single after ?_ ?_)
    · dsimp only at fits before ⊢
      split <;> omega
    · dsimp only at before ⊢
      split <;> omega
  | code start last => exact verbatim opened.apart
  | table start last => exact verbatim opened.apart

end Open

/-- What a line begins lies on the line. -/
theorem begun_row (ahead : Ahead line low cells) (begun : Begun line cells made next) :
    ∃ mid, Row low made mid ∧ Open mid next line.stop := by
  obtain ⟨after, before⟩ := ahead.offset
  have whole : Apart low [⟨line.offsetOf cells, line.stop⟩] line.stop :=
    .single after before (Nat.le_refl _)
  have nothing : Row low [] low := .nil (Nat.le_refl low)
  have closed : Open line.stop .idle line.stop := .idle (Nat.le_refl _)
  cases begun with
  | blank => exact ⟨low, nothing, .idle ahead.below⟩
  | code => exact ⟨low, nothing, whole, nofun⟩
  | fence opened =>
    obtain ⟨after, before⟩ := ahead.fence opened
    exact ⟨low, nothing, .single after (Nat.le_refl _) before, nofun⟩
  | html ending => exact ⟨low, nothing, whole, nofun⟩
  | whole => exact ⟨line.stop, ⟨whole, List.forall_mem_singleton.mpr (.verbatim _)⟩, closed⟩
  | heading marked =>
    exact ⟨line.stop, ⟨whole, List.forall_mem_singleton.mpr (.heading ..)⟩, closed⟩
  | text columns solid =>
    exact ⟨low, nothing, .of_text (.nil (Nat.le_refl low)) (ahead.lines solid) columns⟩

/-- What a line makes of the open leaf lies where the leaf stood and on the line. -/
theorem step_row (ahead : Ahead line previous cells) (opened : Open low leaf previous)
    (step : Step line startsItem previous lazy pierced cells leaf advance) :
    ∃ mid, Row low (advance.ended ++ advance.made) mid ∧ Open mid advance.leaf line.stop := by
  obtain ⟨after, before⟩ := ahead.offset
  have reaches := ahead.below
  have nothing : Row low ([] ++ []) low := .nil (Nat.le_refl low)
  have later : Open low leaf line.stop := opened.widen (Nat.le_refl low) reaches
  have longer {start last : Nat} (apart : Apart low [⟨start, last⟩] previous) :
      Apart low [⟨start, line.stop⟩] line.stop := by
    obtain ⟨begins, fits, ends⟩ := apart.mem List.mem_cons_self
    exact .single begins ((fits.trans ends).trans reaches) (Nat.le_refl _)
  have marks : Open previous (.underlined (some ⟨line.offsetOf cells, line.stop⟩)) line.stop :=
    ⟨.single after before (Nat.le_refl _), nofun⟩
  cases step with
  | begun begun =>
    obtain ⟨mid, made, next⟩ := begun_row ahead begun
    exact ⟨mid, (opened.nodes_row startsItem).append made, next⟩
  | joined solid inside =>
    obtain ⟨mid, led, lines⟩ := opened.text
    refine ⟨low, nothing, .of_text led ?_ _⟩
    rw [List.reverse_cons]
    exact lines.append (ahead.lines solid)
  | led solid inside =>
    have lines : Written previous [⟨line.offsetOf cells, cells, line.stop⟩].reverse line.stop :=
      ahead.lines solid
    exact ⟨low, nothing, .of_text opened.apart lines _⟩
  | @underlined rows lead columns level marked full inside =>
    obtain ⟨mid, led, lines⟩ := opened.text
    rw [List.append_nil]
    cases heads : (underlinedNodes lead rows.reverse level line.stop).2 with
    | true =>
      exact ⟨line.stop, underlinedNodes_row led lines reaches, .nil (Nat.le_refl _), nofun⟩
    | false => exact ⟨previous, underlinedNodes_short led lines heads, marks⟩
  | marks full inside =>
    rw [List.append_nil]
    exact ⟨previous, lead_row opened.apart, marks⟩
  | row full inside => exact ⟨low, nothing, longer opened.apart, nofun⟩
  | @tabled head rows lead columns full inside =>
    obtain ⟨mid, led, lines⟩ := opened.text
    obtain ⟨apart, lined⟩ := lines
    rw [List.reverse_cons, List.map_append] at apart
    obtain ⟨place, rows', headed⟩ := apart.split
    obtain ⟨begins, fits, ends⟩ := headed.mem List.mem_cons_self
    dsimp only [reach] at begins fits ends
    rw [List.append_nil]
    refine ⟨place, ?_, .single begins ?_ (Nat.le_refl _), nofun⟩
    · split
      · exact (lead_row led).widen (Nat.le_refl low) rows'.le
      · refine textNodes_row startsItem led ⟨rows', fun row member => lined row ?_⟩
        rw [List.reverse_cons]
        exact List.mem_append_left _ member
    · exact (fits.trans ends).trans reaches
  | fenced full inside => exact ⟨low, nothing, later⟩
  | fenceEnds full inside =>
    exact ⟨line.stop, ⟨longer opened.apart, List.forall_mem_singleton.mpr (.verbatim _)⟩,
      .idle (Nat.le_refl _)⟩
  | markup full inside => exact ⟨low, nothing, longer opened.apart, nofun⟩
  | markupEnds full inside =>
    exact ⟨line.stop, ⟨longer opened.apart, List.forall_mem_singleton.mpr (.verbatim _)⟩,
      .idle (Nat.le_refl _)⟩
  | indented full inside => exact ⟨low, nothing, longer opened.apart, nofun⟩
  | gap full inside => exact ⟨low, nothing, later⟩

end PluginReadme.Stretches
