import PluginReadme.Proofs.Markdown.Layout

/-! What a line makes of the open leaf. The line either begins something new, so that the leaf ends
with the line before, or it goes on with the leaf; a leaf that stands in order keeps its order. -/
namespace PluginReadme.Leaves
open Markdown (Node Span Cell TextLine Leaf Line LineKind Situation Advance Fence lineKind
  advanceFresh allBlank contentSpan markedHeading underlinedNodes textNodes)
open Numeral SourceLine Layout

variable {source : Text} {low high mid start stop previous : Nat} {startsItem : Bool}
  {cells rest : List Cell} {line : Line} {leaf next : Leaf} {here : Situation} {made : List Node}
  {advance : Advance} {kind : LineKind}

/-! ## What a line is -/

/-- What can be said of a line of a kind. -/
def Fits (line : Line) (leaf : Leaf) (here : Situation) (cells : List Cell) : LineKind → Prop
  | .fence fence place => ∃ rest, Fence.opened cells = some (fence, rest) ∧
    place = line.offsetOf rest
  | .heading level content => markedHeading cells = some (level, content)
  | .underline level => leaf.acceptsLazy = true ∧ here.lazy = false ∧ here.pierced = false ∧
    Markdown.underline cells = some level
  | .row => (∃ start stop, leaf = .table start stop) ∧ here.lazy = false ∧ here.pierced = false
  | .text _ => allBlank cells = false
  | _ => True

private theorem fits_getD {found : Option LineKind} {other : LineKind}
    (some' : ∀ kind, found = some kind → Fits line leaf here cells kind)
    (none' : Fits line leaf here cells other) : Fits line leaf here cells (found.getD other) := by
  cases found with
  | none => exact none'
  | some kind => exact some' kind rfl

private theorem fits_orElse {first second : Option LineKind}
    (first' : ∀ kind, first = some kind → Fits line leaf here cells kind)
    (second' : ∀ kind, second = some kind → Fits line leaf here cells kind) :
    ∀ kind, (first <|> second) = some kind → Fits line leaf here cells kind := by
  intro kind found
  cases first with
  | none => exact second' kind found
  | some other => exact first' kind found

private theorem fits_heading : ∀ kind, Markdown.headingKind cells = some kind →
    Fits line leaf here cells kind := by
  intro kind found
  unfold Markdown.headingKind at found
  rw [Option.bind_eq_bind, Option.bind_eq_some_iff] at found
  obtain ⟨⟨level, content⟩, read, same⟩ := found
  cases same
  exact read

private theorem fits_fence : ∀ kind, Markdown.fenceKind line cells = some kind →
    Fits line leaf here cells kind := by
  intro kind found
  unfold Markdown.fenceKind at found
  rw [Option.bind_eq_bind, Option.bind_eq_some_iff] at found
  obtain ⟨⟨fence, rest⟩, read, same⟩ := found
  cases same
  exact ⟨rest, read, rfl⟩

private theorem fits_rule : ∀ kind, Markdown.ruleKind cells = some kind →
    Fits line leaf here cells kind := by
  intro kind found
  unfold Markdown.ruleKind at found
  split at found
  · cases found
    exact trivial
  · cases found

private theorem fits_code : ∀ kind, Markdown.codeKind here cells = some kind →
    Fits line leaf here cells kind := by
  intro kind found
  unfold Markdown.codeKind at found
  split at found
  · cases found
    exact trivial
  · cases found

private theorem fits_html : ∀ kind, Markdown.htmlKind here cells = some kind →
    Fits line leaf here cells kind := by
  intro kind found
  unfold Markdown.htmlKind at found
  simp only [Option.bind_eq_bind, Option.bind_eq_some_iff] at found
  obtain ⟨inner, -, ⟨ending, rest⟩, -, same⟩ := found
  cases same
  exact trivial

private theorem fits_underline : ∀ kind, Markdown.underlineKind leaf here cells = some kind →
    Fits line leaf here cells kind := by
  intro kind found
  unfold Markdown.underlineKind at found
  split at found
  · rename_i goes
    obtain ⟨level, marked, rfl⟩ := Option.map_eq_some_iff.mp found
    simp only [Bool.and_eq_true, Bool.not_eq_true'] at goes
    exact ⟨goes.1.1, goes.1.2, goes.2, marked⟩
  · cases found

private theorem fits_table (solid : allBlank cells = false) :
    Fits line leaf here cells (Markdown.tableKind leaf here cells) := by
  unfold Markdown.tableKind
  split
  · split
    · exact solid
    · split
      · exact solid
      · rename_i start stop pierced lazy
        exact ⟨⟨start, stop, rfl⟩, by simpa using lazy, by simpa using pierced⟩
  · exact solid

theorem lineKind_fits (line : Line) (leaf : Leaf) (here : Situation) (cells : List Cell) :
    Fits line leaf here cells (lineKind line leaf here cells) := by
  unfold lineKind
  dsimp only
  split
  · exact trivial
  · rename_i solid
    have solid : allBlank cells = false := by simpa using solid
    split
    · exact fits_getD fits_heading solid
    · split
      · exact fits_getD fits_fence solid
      · split
        · exact fits_getD fits_rule solid
        · exact fits_getD (fits_orElse fits_code (fits_orElse fits_fence (fits_orElse fits_html
            (fits_orElse fits_heading (fits_orElse fits_underline fits_rule)))))
            (fits_table solid)

/-! ## What a line begins -/

/-- What a line is by itself, and the leaf that it leaves open. -/
inductive Begun (line : Line) (cells : List Cell) : List Node → Leaf → Prop where
  | blank : Begun line cells [] .idle
  | code : Begun line cells [] (.code (line.offsetOf cells) line.stop)
  | fence {fence : Fence} {rest : List Cell} (opened : Fence.opened cells = some (fence, rest)) :
      Begun line cells [] (.fence (line.offsetOf rest) fence)
  | html (ending : Markdown.HtmlEnd) :
      Begun line cells [] (.html (line.offsetOf cells) line.stop ending)
  | whole : Begun line cells [.verbatim ⟨line.offsetOf cells, line.stop⟩] .idle
  | heading {level : Nat} {content : List Cell}
      (marked : markedHeading cells = some (level, content)) :
      Begun line cells [.heading ⟨line.offsetOf cells, line.stop⟩ level (contentSpan content)] .idle
  | text (columns : Option Nat) (solid : allBlank cells = false) :
      Begun line cells [] (.text [⟨line.offsetOf cells, cells, line.stop⟩] none columns)

/-- A line under a heading gives it a level. -/
theorem underline_level {level : Nat} (marked : Markdown.underline cells = some level) :
    1 ≤ level := by
  unfold Markdown.underline at marked
  split at marked
  · split at marked
    · cases marked
      split <;> decide
    · cases marked
  · cases marked

/-- What a line makes of the open leaf. -/
inductive Step (line : Line) (startsItem : Bool) (previous : Nat) (lazy pierced : Bool)
    (cells : List Cell) : Leaf → Advance → Prop where
  | begun {leaf next : Leaf} {made : List Node} {interrupting : Bool}
      (begun : Begun line cells made next) :
      Step line startsItem previous lazy pierced cells leaf
        ⟨leaf.nodes startsItem previous, made, next, interrupting⟩
  | joined {lines : List TextLine} {lead : Option Span} {columns columns' : Option Nat}
      {interrupting : Bool} (solid : allBlank cells = false) (inside : pierced = false) :
      Step line startsItem previous lazy pierced cells (.text lines lead columns)
        ⟨[], [], .text (⟨line.offsetOf cells, cells, line.stop⟩ :: lines) lead columns',
          interrupting⟩
  | led {paragraph : Option Span} {columns : Option Nat} {interrupting : Bool}
      (solid : allBlank cells = false) (inside : pierced = false) :
      Step line startsItem previous lazy pierced cells (.underlined paragraph)
        ⟨[], [], .text [⟨line.offsetOf cells, cells, line.stop⟩] paragraph columns, interrupting⟩
  | underlined {lines : List TextLine} {lead : Option Span} {columns : Option Nat} {level : Nat}
      (marked : Markdown.underline cells = some level) (full : lazy = false)
      (inside : pierced = false) :
      Step line startsItem previous lazy pierced cells (.text lines lead columns)
        ⟨(underlinedNodes lead lines.reverse level line.stop).1, [],
          .underlined (if (underlinedNodes lead lines.reverse level line.stop).2 then none
            else some ⟨line.offsetOf cells, line.stop⟩), false⟩
  | marks {paragraph : Option Span} (full : lazy = false) (inside : pierced = false) :
      Step line startsItem previous lazy pierced cells (.underlined paragraph)
        ⟨(paragraph.map Node.paragraph).toList, [],
          .underlined (some ⟨line.offsetOf cells, line.stop⟩), false⟩
  | row {start last : Nat} {interrupting : Bool} (full : lazy = false)
      (inside : pierced = false) :
      Step line startsItem previous lazy pierced cells (.table start last)
        ⟨[], [], .table start line.stop, interrupting⟩
  | tabled {head : TextLine} {lines : List TextLine} {lead : Option Span} {columns : Option Nat}
      (full : lazy = false) (inside : pierced = false) :
      Step line startsItem previous lazy pierced cells (.text (head :: lines) lead columns)
        ⟨if lines.isEmpty then (lead.map Node.paragraph).toList
          else textNodes startsItem lead lines.reverse, [], .table head.start line.stop, false⟩
  | fenced {start : Nat} {fence : Fence} {interrupting : Bool} (full : lazy = false)
      (inside : pierced = false) :
      Step line startsItem previous lazy pierced cells (.fence start fence)
        ⟨[], [], .fence start fence, interrupting⟩
  | fenceEnds {start : Nat} {fence : Fence} (full : lazy = false)
      (inside : pierced = false) :
      Step line startsItem previous lazy pierced cells (.fence start fence)
        ⟨[.verbatim ⟨start, line.stop⟩], [], .idle, false⟩
  | markup {start last : Nat} {ending : Markdown.HtmlEnd} {interrupting : Bool}
      (full : lazy = false) (inside : pierced = false) :
      Step line startsItem previous lazy pierced cells (.html start last ending)
        ⟨[], [], .html start line.stop ending, interrupting⟩
  | markupEnds {start last : Nat} {ending : Markdown.HtmlEnd} (full : lazy = false)
      (inside : pierced = false) :
      Step line startsItem previous lazy pierced cells (.html start last ending)
        ⟨[.verbatim ⟨start, line.stop⟩], [], .idle, false⟩
  | indented {start last : Nat} (full : lazy = false) (inside : pierced = false) :
      Step line startsItem previous lazy pierced cells (.code start last)
        ⟨[], [], .code start line.stop, false⟩
  | gap {start last : Nat} (full : lazy = false) (inside : pierced = false) :
      Step line startsItem previous lazy pierced cells (.code start last)
        ⟨[], [], .code start last, false⟩

private theorem fresh_step (line : Line) (startsItem : Bool) (previous : Nat) (leaf : Leaf)
    (here : Situation) (cells : List Cell) :
    Step line startsItem previous here.lazy here.pierced cells leaf
      (advanceFresh line startsItem previous leaf here cells) := by
  have fits := lineKind_fits line leaf here cells
  unfold advanceFresh
  dsimp only
  generalize lineKind line leaf here cells = kind at fits
  cases kind with
  | blank => exact .begun .blank
  | code => exact .begun .code
  | fence fence place =>
    obtain ⟨rest, opened, rfl⟩ := fits
    exact .begun (.fence opened)
  | html ending rest =>
    dsimp only
    split
    · exact .begun .whole
    · exact .begun (.html ending)
  | heading level content => exact .begun (.heading fits)
  | underline level =>
    obtain ⟨goes, full, inside, marked⟩ := fits
    cases leaf with
    | text lines lead columns => exact .underlined marked full inside
    | underlined paragraph => exact .marks full inside
    | _ => cases goes
  | rule => exact .begun .whole
  | row =>
    obtain ⟨⟨start, stop, rfl⟩, full, inside⟩ := fits
    exact .row full inside
  | text columns =>
    cases leaf with
    | text lines lead columns' =>
      cases pierced : here.pierced with
      | true => exact .begun (.text columns fits)
      | false => exact .joined fits rfl
    | underlined paragraph =>
      cases pierced : here.pierced with
      | true => exact .begun (.text columns fits)
      | false => exact .led fits rfl
    | _ => exact .begun (.text columns fits)

/-- A line does one of these things to the open leaf. -/
theorem advance_step (line : Line) (startsItem : Bool) (previous : Nat) (leaf : Leaf)
    (here : Situation) (cells : List Cell) :
    Step line startsItem previous here.lazy here.pierced cells leaf
      (leaf.advance line startsItem previous here cells) := by
  have fresh (interrupting : Bool) :
      Step line startsItem previous here.lazy here.pierced cells leaf
        (advanceFresh line startsItem previous leaf { here with interrupting := interrupting }
          cells) :=
    fresh_step line startsItem previous leaf { here with interrupting := interrupting } cells
  cases leaf with
  | fence start opening =>
    simp only [Leaf.advance]
    split
    · exact fresh false
    · rename_i stays
      simp only [Bool.or_eq_true, not_or, Bool.not_eq_true] at stays
      split
      · exact .fenceEnds stays.1 stays.2
      · exact .fenced stays.1 stays.2
  | html start last ending =>
    simp only [Leaf.advance]
    split
    · exact fresh false
    · rename_i stays
      simp only [Bool.or_eq_true, not_or, Bool.not_eq_true] at stays
      split
      · exact .markupEnds stays.1.1 stays.1.2
      · exact .markup stays.1.1 stays.1.2
  | code start last =>
    simp only [Leaf.advance]
    split
    · exact fresh false
    · rename_i stays
      simp only [Bool.or_eq_true, not_or, Bool.not_eq_true] at stays
      split
      · exact .indented stays.1 stays.2
      · split
        · exact .gap stays.1 stays.2
        · exact fresh false
  | text lines lead columns =>
    cases lines with
    | nil => exact fresh here.interrupting
    | cons head lines =>
      cases columns with
      | none => exact fresh here.interrupting
      | some columns =>
        simp only [Leaf.advance]
        split
        · rename_i begins
          simp only [Bool.and_eq_true, Bool.not_eq_true'] at begins
          exact .tabled begins.1.1 begins.1.2
        · exact fresh true
  | idle => exact fresh here.interrupting
  | underlined paragraph => exact fresh here.interrupting
  | table start last => exact fresh here.interrupting

/-! ## Leaves in order -/

/-- An open leaf stands in order between two places, of which the second is where the last line
ends. -/
def LeafAt (source : Text) (low high : Nat) : Leaf → Prop
  | .idle => True
  | .text lines lead _ => ∃ mid, Leads source low lead mid high ∧
    Rows source mid lines.reverse high
  | .underlined paragraph => Leads source low paragraph high high
  | .fence start _ => Led source start ∧ low ≤ start ∧ start ≤ high ∧ Closed source high
  | .html start stop _ => Led source start ∧ low ≤ start ∧ start ≤ stop ∧ stop ≤ high ∧
    Closed source stop ∧ Closed source high
  | .code start stop => Led source start ∧ low ≤ start ∧ start ≤ stop ∧ stop ≤ high ∧
    Closed source stop
  | .table start stop => Led source start ∧ low ≤ start ∧ start ≤ stop ∧ stop ≤ high ∧
    Closed source stop

/-- A leaf that stands in order comes to blocks in order. -/
theorem nodes_laid (laid : LeafAt source low high leaf) (below : low ≤ high) :
    Chain source low (leaf.nodes false high) high := by
  cases leaf with
  | idle => exact .nil below
  | text lines lead columns =>
    obtain ⟨mid, leads, rows⟩ := laid
    exact textNodes_laid leads rows
  | underlined paragraph => exact laid.chain
  | fence start fence =>
    obtain ⟨led, after, before, closed⟩ := laid
    exact .verbatim led closed after before (Nat.le_refl high)
  | html start stop ending =>
    obtain ⟨led, after, fits, before, closed, ends⟩ := laid
    by_cases blank : ending = .blankLine
    · simp only [Leaf.nodes, if_pos blank]
      exact .verbatim led closed after fits before
    · simp only [Leaf.nodes, if_neg blank]
      exact .verbatim led ends after (fits.trans before) (Nat.le_refl high)
  | code start stop =>
    obtain ⟨led, after, fits, before, closed⟩ := laid
    exact .verbatim led closed after fits before
  | table start stop =>
    obtain ⟨led, after, fits, before, closed⟩ := laid
    exact .verbatim led closed after fits before

/-- A leaf stays in order when more lines come, if no empty line comes after running text. -/
theorem LeafAt.later (laid : LeafAt source low high leaf) (above : high ≤ stop)
    (closed : Closed source stop) (dense : leaf.acceptsLazy = true → Dense source high stop) :
    LeafAt source low stop leaf := by
  cases leaf with
  | idle => exact trivial
  | text lines lead columns =>
    obtain ⟨mid, leads, rows⟩ := laid
    have dense := dense rfl
    exact ⟨mid, leads.later dense, rows.widen above dense⟩
  | underlined paragraph =>
    obtain ⟨chain, led⟩ := laid.later (dense rfl)
    exact ⟨chain.widen (Nat.le_refl low) above, led⟩
  | fence start fence =>
    obtain ⟨led, after, before, -⟩ := laid
    exact ⟨led, after, before.trans above, closed⟩
  | html start last ending =>
    obtain ⟨led, after, fits, before, ends, -⟩ := laid
    exact ⟨led, after, fits, before.trans above, ends, closed⟩
  | code start last =>
    obtain ⟨led, after, fits, before, ends⟩ := laid
    exact ⟨led, after, fits, before.trans above, ends⟩
  | table start last =>
    obtain ⟨led, after, fits, before, ends⟩ := laid
    exact ⟨led, after, fits, before.trans above, ends⟩

/-- Empty columns are dropped from the front. -/
theorem dropBlanks_split (most : Nat) (cells : List Cell) :
    ∃ blanks, cells = blanks ++ Markdown.dropBlanks most cells ∧
      (∀ cell ∈ blanks, cell.char = ' ') ∧ blanks.length ≤ most := by
  induction most generalizing cells with
  | zero => exact ⟨[], by simp [Markdown.dropBlanks], by simp, Nat.le_refl 0⟩
  | succ most ih =>
    cases cells with
    | nil => exact ⟨[], rfl, by simp, Nat.zero_le _⟩
    | cons cell rest =>
      unfold Markdown.dropBlanks
      split
      · rename_i blank
        obtain ⟨blanks, split, all, few⟩ := ih rest
        refine ⟨cell :: blanks, by rw [List.cons_append, ← split], ?_, Nat.succ_le_succ few⟩
        exact List.forall_mem_cons.mpr ⟨by simpa using blank, all⟩
      · exact ⟨[], rfl, by simp, Nat.zero_le _⟩

/-- An indentation takes less than a tab stop. -/
theorem dropIndent_short (dropped : Markdown.dropIndent cells = some rest) :
    ∃ blanks, cells = blanks ++ rest ∧ (∀ cell ∈ blanks, cell.char = ' ') ∧
      blanks.length < Markdown.tabStop := by
  obtain ⟨blanks, split, all, few⟩ := dropBlanks_split (Markdown.tabStop - 1) cells
  have few : blanks.length < Markdown.tabStop := Nat.lt_succ_of_le few
  unfold Markdown.dropIndent at dropped
  generalize Markdown.dropBlanks (Markdown.tabStop - 1) cells = left at split dropped
  cases left with
  | nil =>
    cases dropped
    exact ⟨blanks, split, all, few⟩
  | cons cell more =>
    dsimp only at dropped
    split at dropped
    · cases dropped
    · cases dropped
      exact ⟨blanks, split, all, few⟩

theorem dropIndent_split (dropped : Markdown.dropIndent cells = some rest) :
    ∃ blanks, cells = blanks ++ rest ∧ ∀ cell ∈ blanks, cell.char = ' ' := by
  obtain ⟨blanks, split, all, -⟩ := dropIndent_short dropped
  exact ⟨blanks, split, all⟩

private theorem mem_markedContent {cell : Cell} (member : cell ∈ Markdown.markedContent cells) :
    cell ∈ cells := by
  unfold Markdown.markedContent at member
  dsimp only at member
  generalize content : cells.dropWhile _ = inner at member
  have inside : cell ∈ inner := by
    rcases List.mem_append.mp member with front | back
    · exact List.mem_reverse.mp ((List.dropWhile_sublist _).mem (List.mem_reverse.mp front))
    · have closing := List.mem_reverse.mp ((List.takeWhile_sublist _).mem back)
      exact List.mem_reverse.mp ((List.takeWhile_sublist _).mem closing)
  exact (List.dropWhile_sublist _).mem (content ▸ inside)

theorem markedHeading_within {level : Nat} {content : List Cell}
    (marked : markedHeading cells = some (level, content)) :
    1 ≤ level ∧ ∀ cell ∈ content, cell ∈ cells := by
  unfold markedHeading at marked
  split at marked
  · cases marked
  · rename_i inner dropped
    obtain ⟨blanks, split, -⟩ := dropIndent_split dropped
    dsimp only at marked
    split at marked
    · rename_i levels
      cases marked
      simp only [Bool.and_eq_true, decide_eq_true_eq] at levels
      refine ⟨levels.1.1, ?_⟩
      intro cell member
      have inside := (List.dropWhile_sublist _).mem (mem_markedContent member)
      rw [split]
      exact List.mem_append_right blanks inside
    · cases marked

/-- The content of a marked heading is a part of its line. -/
private theorem heading_sound (stands : Stands source start stop cells) {level : Nat}
    {content : List Cell} (marked : markedHeading cells = some (level, content)) :
    Sound source (.heading ⟨start, stop⟩ level (contentSpan content)) := by
  obtain ⟨positive, within⟩ := markedHeading_within marked
  refine ⟨positive, ?_⟩
  intro place member
  obtain ⟨first, more, last, head, ends, begins, stops⟩ := contentSpan_cases member
  have first' := stands.within (within first (by simp [head]))
  have last' := stands.within (within last (List.mem_of_getLast? ends))
  have after : start ≤ place.start := by omega
  have before : place.stop ≤ stop := by omega
  exact ⟨after, before, Or.inr (stands.unbroken after before), stands.dense.mono after before⟩

private theorem fence_led (stands : Stands source start stop cells) {fence : Fence}
    (opened : Fence.opened cells = some (fence, rest)) :
    Led source (line.offsetOf rest) ∧ start ≤ line.offsetOf rest ∧ line.offsetOf rest ≤ stop := by
  unfold Fence.opened at opened
  split at opened
  · rename_i first more dropped
    dsimp only at opened
    split at opened
    · cases opened
      obtain ⟨blanks, rfl, all⟩ := dropIndent_split dropped
      have member : first ∈ blanks ++ first :: more := by simp
      have within := stands.within member
      exact ⟨stands.led_at all, within.1, Nat.le_of_lt within.2⟩
    · cases opened
  · cases opened

/-- What a whole line begins stands in order behind everything in front of the line. -/
theorem begun_laid (stands : Stands source line.start line.stop line.cells)
    (begun : Begun line line.cells made next) (below : low ≤ line.start) :
    ∃ mid, Chain source low made mid ∧ mid ≤ line.stop ∧ LeafAt source mid line.stop next := by
  have fits := stands.le
  have stretch : Led source line.start ∧ low ≤ line.start ∧ line.start ≤ line.stop ∧
      line.stop ≤ line.stop ∧ Closed source line.stop :=
    ⟨stands.led, below, fits, Nat.le_refl _, stands.closed⟩
  have empty : Chain source low [] low := .nil (Nat.le_refl low)
  cases begun with
  | blank => exact ⟨low, empty, below.trans fits, trivial⟩
  | code => exact ⟨low, empty, below.trans fits, stretch⟩
  | fence opened =>
    obtain ⟨led, after, before⟩ := fence_led stands opened
    exact ⟨low, empty, below.trans fits, led, below.trans after, before, stands.closed⟩
  | html ending =>
    exact ⟨low, empty, below.trans fits, stands.led, below, fits, Nat.le_refl _, stands.closed,
      stands.closed⟩
  | whole =>
    exact ⟨line.stop, .verbatim stands.led stands.closed below fits (Nat.le_refl _),
      Nat.le_refl _, trivial⟩
  | heading marked =>
    exact ⟨line.stop, .single (heading_sound stands marked) below fits (Nat.le_refl _),
      Nat.le_refl _, trivial⟩
  | text columns solid =>
    exact ⟨low, empty, below.trans fits, low, .none source low _, .single stands solid below⟩

/-- What a whole line makes of a leaf outside of containers stands in order. -/
theorem step_laid (follows : Follows source previous line)
    (laid : LeafAt source low previous leaf) (below : low ≤ previous)
    (step : Step line false previous false false line.cells leaf advance) :
    ∃ mid, Chain source low (advance.ended ++ advance.made) mid ∧ mid ≤ line.stop ∧
      LeafAt source mid line.stop advance.leaf := by
  have stands := follows.stands
  have after := follows.after
  have fits := stands.le
  have reaches := follows.le
  have empty : Chain source low ([] ++ []) low := .nil (Nat.le_refl low)
  have here : low ≤ line.stop := below.trans reaches
  have under : Leads source previous (some ⟨line.start, line.stop⟩) line.stop line.stop := by
    refine ⟨.single ⟨stands.led, stands.closed, stands.dense⟩ after fits (Nat.le_refl _), ?_⟩
    intro span member
    cases member
    exact stands.dense
  cases step with
  | begun begun =>
    obtain ⟨mid, made, before, next⟩ := begun_laid stands begun after
    exact ⟨mid, (nodes_laid laid below).append made, before, next⟩
  | joined solid inside =>
    obtain ⟨mid, leads, rows⟩ := laid
    have dense := follows.dense solid
    refine ⟨low, empty, here, mid, leads.later dense, ?_⟩
    rw [List.reverse_cons]
    exact rows.append (.single stands solid after) dense
  | led solid inside =>
    have leads : Leads source low _ previous previous := laid
    exact ⟨low, empty, here, previous, leads.later (follows.dense solid),
      .single stands solid after⟩
  | @underlined lines lead columns level marked full inside =>
    obtain ⟨mid, leads, rows⟩ := laid
    rw [List.append_nil]
    cases heads : (underlinedNodes lead lines.reverse level line.stop).2 with
    | true =>
      exact ⟨line.stop, underlinedNodes_laid leads.chain rows (underline_level marked) reaches,
        Nat.le_refl _, .none source _ _⟩
    | false =>
      exact ⟨previous, underlinedNodes_unmarked leads.chain rows heads, reaches, under⟩
  | marks full inside =>
    rw [List.append_nil]
    exact ⟨previous, laid.chain, reaches, under⟩
  | row full inside =>
    obtain ⟨led, begins, ends, before, -⟩ := laid
    exact ⟨low, empty, here, led, begins, by omega, Nat.le_refl _, stands.closed⟩
  | @tabled head lines lead columns full inside =>
    obtain ⟨mid, leads, rows⟩ := laid
    rw [List.reverse_cons] at rows
    obtain ⟨place, rows, headed⟩ := rows.split
    have leads : Leads source low lead mid place := ⟨leads.chain, fun span member =>
      (leads.dense span member).mono (Nat.le_refl _) headed.le⟩
    rw [List.append_nil]
    cases headed with
    | cons head' solid begins dense rest =>
      have := head'.le
      have := rest.le
      have ended : Chain source low (if lines.isEmpty then (lead.map Node.paragraph).toList
          else textNodes false lead lines.reverse) place := by
        split
        · exact leads.chain.widen (Nat.le_refl low) rows.le
        · exact textNodes_laid leads rows
      exact ⟨place, ended, by omega, head'.led, begins, by omega, Nat.le_refl _, stands.closed⟩
  | fenced full inside => exact ⟨low, empty, here, laid.later reaches stands.closed nofun⟩
  | fenceEnds full inside =>
    obtain ⟨led, begins, before, -⟩ := laid
    exact ⟨line.stop, .verbatim led stands.closed begins (before.trans reaches) (Nat.le_refl _),
      Nat.le_refl _, trivial⟩
  | markup full inside =>
    obtain ⟨led, begins, ends, before, -⟩ := laid
    exact ⟨low, empty, here, led, begins, by omega, Nat.le_refl _, stands.closed, stands.closed⟩
  | markupEnds full inside =>
    obtain ⟨led, begins, ends, before, -⟩ := laid
    exact ⟨line.stop, .verbatim led stands.closed begins (by omega) (Nat.le_refl _),
      Nat.le_refl _, trivial⟩
  | indented full inside =>
    obtain ⟨led, begins, ends, before, -⟩ := laid
    exact ⟨low, empty, here, led, begins, by omega, Nat.le_refl _, stands.closed⟩
  | gap full inside => exact ⟨low, empty, here, laid.later reaches stands.closed nofun⟩

/-- A line that opens a container, or that ends containers, begins something new. -/
theorem step_begins {lazy pierced : Bool}
    (step : Step line startsItem previous lazy pierced cells leaf advance)
    (ends : pierced = true ∨
      lazy = true ∧ (leaf.acceptsLazy && advance.leaf.acceptsLazy) = false) :
    advance.ended = leaf.nodes startsItem previous ∧
      Begun line cells advance.made advance.leaf := by
  cases step with
  | begun begun => exact ⟨rfl, begun⟩
  | joined solid inside => simp [inside, Leaf.acceptsLazy] at ends
  | led solid inside => simp [inside, Leaf.acceptsLazy] at ends
  | _ => simp_all

/-- A line that opens a container ends the leaf with the line before it. -/
theorem step_pierced {lazy : Bool}
    (step : Step line startsItem previous lazy true cells leaf advance) :
    advance.ended = leaf.nodes startsItem previous :=
  (step_begins step (Or.inl rfl)).1

/-- A line that ends containers begins something new. -/
theorem step_lazy {pierced : Bool}
    (step : Step line startsItem previous true pierced cells leaf advance)
    (ends : (leaf.acceptsLazy && advance.leaf.acceptsLazy) = false) :
    Begun line cells advance.made advance.leaf :=
  (step_begins step (Or.inr ⟨rfl, ends⟩)).2

end PluginReadme.Leaves
