import PluginReadme.Markdown.Leaf
import PluginReadme.Proofs.Markdown.SourceLine

/-! Where blocks stand in a source. Blocks that are copied begin and end with a line, and the
blocks that an open leaf comes to follow each other in the order of its lines. -/
namespace PluginReadme.Layout
open Markdown (Node Span Cell TextLine Leaf Line definitionsOf textNodes underlinedNodes allBlank
  contentSpan trimCells joinedCells)
open Numeral SourceLine

variable {source : Text} {low mid high start stop : Nat} {node : Node} {nodes more : List Node}
  {row last : TextLine} {rows left : List TextLine} {lead : Option Span} {leaf : Leaf}
  {cells before after : List Cell} {cell : Cell} {line : Line} {level : Nat}

/-- A block stands where it may be copied from: from the start of a line to the end of one. The
content of a heading ends where a line does or holds no end of a line. No empty line stands in
running text. -/
def Sound (source : Text) : Node → Prop
  | .heading span level content => 1 ≤ level ∧ ∀ place ∈ content, span.start ≤ place.start ∧
    place.stop ≤ span.stop ∧ (Closed source place.stop ∨ '\n' ∉ place.slice source) ∧
    Dense source place.start place.stop
  | .paragraph span => Led source span.start ∧ Closed source span.stop ∧
    Dense source span.start span.stop
  | .verbatim span => Led source span.start ∧ Closed source span.stop
  | .quote .. => True
  | .list .. => True

/-- Sound blocks one after the other between two places. -/
inductive Chain (source : Text) : Nat → List Node → Nat → Prop where
  | nil {low high : Nat} (below : low ≤ high) : Chain source low [] high
  | cons {low high : Nat} {node : Node} {nodes : List Node} (sound : Sound source node)
      (after : low ≤ node.span.start) (fits : node.span.start ≤ node.span.stop)
      (rest : Chain source node.span.stop nodes high) : Chain source low (node :: nodes) high

theorem Chain.le (chain : Chain source low nodes high) : low ≤ high := by
  induction chain with
  | nil below => exact below
  | cons sound after fits rest ih => omega

theorem Chain.mem (chain : Chain source low nodes high) (member : node ∈ nodes) :
    Sound source node ∧ node.span.start ≤ node.span.stop ∧ node.span.stop ≤ high := by
  induction chain with
  | nil below => cases member
  | cons sound after fits rest ih =>
    rcases List.mem_cons.mp member with rfl | later
    · exact ⟨sound, fits, rest.le⟩
    · exact ih later

theorem Chain.append (first : Chain source low nodes mid) (second : Chain source mid more high) :
    Chain source low (nodes ++ more) high := by
  induction first with
  | nil below =>
    cases second with
    | nil below' => exact .nil (below.trans below')
    | cons sound after fits rest => exact .cons sound (below.trans after) fits rest
  | cons sound after fits rest ih => exact .cons sound after fits (ih second)

theorem Chain.split (chain : Chain source low (nodes ++ more) high) :
    ∃ mid, Chain source low nodes mid ∧ Chain source mid more high := by
  induction nodes generalizing low with
  | nil => exact ⟨low, .nil (Nat.le_refl low), chain⟩
  | cons node nodes ih =>
    cases chain with
    | cons sound after fits rest =>
      obtain ⟨mid, first, second⟩ := ih rest
      exact ⟨mid, .cons sound after fits first, second⟩

theorem Chain.single (sound : Sound source node) (after : low ≤ node.span.start)
    (fits : node.span.start ≤ node.span.stop) (before : node.span.stop ≤ high) :
    Chain source low [node] high :=
  .cons sound after fits (.nil before)

theorem Chain.verbatim (led : Led source start) (closed : Closed source stop) (after : low ≤ start)
    (fits : start ≤ stop) (before : stop ≤ high) :
    Chain source low [.verbatim ⟨start, stop⟩] high :=
  .single ⟨led, closed⟩ after fits before

theorem Chain.widen (chain : Chain source mid nodes high) (below : low ≤ mid)
    (above : high ≤ stop) : Chain source low nodes stop := by
  have joined := (Chain.append (.nil below) chain).append (.nil above)
  rwa [List.nil_append, List.append_nil] at joined

/-! ## Lines of running text -/

/-- Lines of running text one after the other between two places, none of them blank. From the
first of them to the second place there is no empty line. -/
inductive Rows (source : Text) : Nat → List TextLine → Nat → Prop where
  | nil {low high : Nat} (below : low ≤ high) : Rows source low [] high
  | cons {low high : Nat} {row : TextLine} {rows : List TextLine}
      (stands : Stands source row.start row.stop row.cells) (solid : allBlank row.cells = false)
      (after : low ≤ row.start) (dense : Dense source row.start high)
      (rest : Rows source row.stop rows high) : Rows source low (row :: rows) high

theorem Rows.le (laid : Rows source low rows high) : low ≤ high := by
  induction laid with
  | nil below => exact below
  | cons stands solid after dense rest ih =>
    have := stands.le
    omega

theorem Rows.append (first : Rows source low rows mid) (second : Rows source mid left high)
    (dense : Dense source mid high) : Rows source low (rows ++ left) high := by
  induction first with
  | nil below =>
    cases second with
    | nil below' => exact .nil (below.trans below')
    | cons stands solid after dense' rest =>
      exact .cons stands solid (below.trans after) dense' rest
  | cons stands solid after dense' rest ih =>
    exact .cons stands solid after (dense'.append dense) (ih second dense)

theorem Rows.widen (laid : Rows source low rows high) (above : high ≤ stop)
    (dense : Dense source high stop) : Rows source low rows stop := by
  have joined := laid.append (.nil above) dense
  rwa [List.append_nil] at joined

theorem Rows.split (laid : Rows source low (rows ++ left) high) :
    ∃ mid, Rows source low rows mid ∧ Rows source mid left high := by
  induction rows generalizing low with
  | nil => exact ⟨low, .nil (Nat.le_refl low), laid⟩
  | cons row rows ih =>
    cases laid with
    | cons stands solid after dense rest =>
      obtain ⟨mid, first, second⟩ := ih rest
      exact ⟨mid, .cons stands solid after (dense.mono (Nat.le_refl _) second.le) first, second⟩

theorem Rows.single (stands : Stands source row.start row.stop row.cells)
    (solid : allBlank row.cells = false) (after : low ≤ row.start) :
    Rows source low [row] row.stop :=
  .cons stands solid after stands.dense (.nil (Nat.le_refl _))

/-- The rows behind one of them come after it. -/
theorem Rows.behind (laid : Rows source low rows high) {place : Nat}
    (here : rows[place]? = some last) :
    Closed source last.stop ∧ low ≤ last.stop ∧
      Rows source last.stop (rows.drop (place + 1)) high := by
  induction laid generalizing place with
  | nil below => cases here
  | @cons low high row rows stands solid after dense rest ih =>
    have order := stands.le
    cases place with
    | zero =>
      cases here
      exact ⟨stands.closed, by omega, rest⟩
    | succ place =>
      obtain ⟨closed, below, behind⟩ := ih here
      exact ⟨closed, by omega, behind⟩

/-- Where a stretch of rows ends, and the rows behind it; without a row to end with it is the first
row alone. -/
private theorem Rows.ending (laid : Rows source low (row :: rows) high) (endings : Nat) :
    ∃ stop, (((row :: rows)[endings]?).getD row).stop = stop ∧ Led source row.start ∧
      Closed source stop ∧ low ≤ row.start ∧ row.start ≤ stop ∧
      Rows source stop (rows.drop endings) high := by
  cases laid with
  | cons stands solid after dense rest =>
    have here : Rows source row.start (row :: rows) high :=
      .cons stands solid (Nat.le_refl _) dense rest
    cases taken : (row :: rows)[endings]? with
    | some last =>
      obtain ⟨closed, below, behind⟩ := here.behind taken
      exact ⟨last.stop, rfl, stands.led, closed, after, below, behind⟩
    | none =>
      have few : rows.length ≤ endings := by
        have := List.getElem?_eq_none_iff.mp taken
        rw [List.length_cons] at this
        omega
      rw [List.drop_eq_nil_of_le few]
      exact ⟨row.stop, rfl, stands.led, stands.closed, after, stands.le, .nil rest.le⟩

/-- A line in front of running text, if there is one. From there on there is no empty line. -/
structure Leads (source : Text) (low : Nat) (lead : Option Span) (mid high : Nat) : Prop where
  chain : Chain source low (lead.map Node.paragraph).toList mid
  dense : ∀ span ∈ lead, Dense source span.start high

theorem Leads.none (source : Text) (low high : Nat) : Leads source low none low high :=
  ⟨.nil (Nat.le_refl low), nofun⟩

theorem Leads.later (leads : Leads source low lead mid high) (dense : Dense source high stop) :
    Leads source low lead mid stop :=
  ⟨leads.chain, fun span member => (leads.dense span member).append dense⟩

/-- Rows from the first to the last make a stretch that may be copied. -/
theorem Rows.stretch (laid : Rows source low (row :: rows) high)
    (ends : (row :: rows).getLast? = some last) :
    Led source row.start ∧ Closed source last.stop ∧ Dense source row.start high ∧
      low ≤ row.start ∧ row.start ≤ last.stop ∧ last.stop ≤ high := by
  cases laid with
  | cons stands solid after dense rest =>
    have here : Rows source row.start (row :: rows) high :=
      .cons stands solid (Nat.le_refl _) dense rest
    rw [List.getLast?_eq_getElem?] at ends
    obtain ⟨closed, below, behind⟩ := here.behind ends
    exact ⟨stands.led, closed, dense, after, below, behind.le⟩

theorem definitionsOf_cases (first : TextLine) (more : List TextLine) :
    definitionsOf (first :: more) = ([], first :: more) ∨
      ∃ endings, definitionsOf (first :: more) =
        (.verbatim ⟨first.start, (((first :: more)[endings]?).getD first).stop⟩ ::
          (definitionsOf (more.drop endings)).1, (definitionsOf (more.drop endings)).2) := by
  rw [definitionsOf]
  dsimp only
  split
  · exact Or.inl rfl
  · exact Or.inr ⟨_, rfl⟩

/-- The definitions that running text begins with come in front of the rows that are left. -/
theorem definitionsOf_laid (laid : Rows source low rows high) :
    ∃ mid, Chain source low (definitionsOf rows).1 mid ∧
      Rows source mid (definitionsOf rows).2 high := by
  induction size : rows.length using Nat.strongRecOn generalizing rows low with
  | ind size' ih =>
    cases rows with
    | nil =>
      rw [definitionsOf]
      exact ⟨low, .nil (Nat.le_refl low), laid⟩
    | cons first more =>
      rcases definitionsOf_cases first more with kept | ⟨endings, parted⟩
      · rw [kept]
        exact ⟨low, .nil (Nat.le_refl low), laid⟩
      · obtain ⟨stop, same, led, closed, after, fits, behind⟩ := laid.ending endings
        have shorter : (more.drop endings).length < size' := by
          rw [← size, List.length_drop, List.length_cons]
          omega
        obtain ⟨mid, chain, laid⟩ := ih (more.drop endings).length shorter behind rfl
        rw [parted, same]
        exact ⟨mid, .cons ⟨led, closed⟩ after fits chain, laid⟩

/-- Running text outside of list items comes to blocks in order; `lead` is a line in front of it. -/
theorem textNodes_laid (leads : Leads source low lead mid high)
    (laid : Rows source mid rows high) :
    Chain source low (textNodes false lead rows) high := by
  obtain ⟨leads, led⟩ := leads
  obtain ⟨place, defined, kept⟩ := definitionsOf_laid laid
  unfold textNodes
  generalize definitionsOf rows = parts at defined kept
  obtain ⟨definitions, rest⟩ := parts
  dsimp only at defined kept ⊢
  cases ends : rest.getLast? with
  | none => exact (leads.append defined).widen (Nat.le_refl low) kept.le
  | some last =>
    obtain ⟨row, rest, rfl⟩ : ∃ row more, rest = row :: more := by
      cases rest with
      | nil => cases ends
      | cons row more => exact ⟨row, more, rfl⟩
    obtain ⟨starts, closed, inside, after, fits, below⟩ := kept.stretch ends
    have paragraph : Chain source place [.paragraph ⟨row.start, last.stop⟩] high :=
      .single ⟨starts, closed, inside.mono (Nat.le_refl _) below⟩ after fits below
    cases lead with
    | none => exact (leads.append defined).append paragraph
    | some span =>
      dsimp only
      split
      · have := defined.le
        cases leads with
        | cons sound after' fits' rest' =>
          have := rest'.le
          have inside := (led span rfl).mono (Nat.le_refl _) below
          refine .single ⟨sound.1, closed, inside⟩ after' ?_ below
          dsimp only [Node.span] at fits' this ⊢
          omega
      · exact (leads.append defined).append paragraph

/-! ## The content of a heading -/

theorem contentSpan_cases {place : Span} (content : place ∈ contentSpan cells) :
    ∃ first rest last, cells = first :: rest ∧ cells.getLast? = some last ∧
      first.place.offset ≤ place.start ∧ place.stop = last.place.offset + 1 := by
  unfold contentSpan at content
  split at content
  · rename_i first rest last ends
    cases content
    exact ⟨first, rest, last, rfl, ends, Nat.le_add_right .., rfl⟩
  · cases content

private theorem trimCells_split (cells : List Cell) :
    ∃ blanks, cells = trimCells cells ++ blanks ∧ ∀ cell ∈ blanks, cell.char = ' ' := by
  obtain ⟨blanks, split, blank⟩ := Lines.dropEnd_split (fun cell : Cell => cell.char == ' ') cells
  exact ⟨blanks, split, fun cell member => by simpa using blank cell member⟩

private theorem trimCells_last (ends : (trimCells cells).getLast? = some cell) :
    cell.char ≠ ' ' := by
  unfold trimCells at ends
  rw [List.getLast?_reverse] at ends
  have stopped := List.head?_dropWhile_not (fun cell : Cell => cell.char == ' ') cells.reverse
  rw [ends] at stopped
  simpa using stopped

/-- A column of running text does not come from in front of it. -/
private theorem joined_start (laid : Rows source low rows high) (member : cell ∈ joinedCells rows) :
    low ≤ cell.place.offset := by
  induction laid with
  | nil below => simp [joinedCells] at member
  | @cons low high row rows stands solid after dense rest ih =>
    have order := stands.le
    have inside (here : cell ∈ row.cells) : low ≤ cell.place.offset := by
      have := stands.within here
      omega
    cases rows with
    | nil => exact inside member
    | cons next rows =>
      rcases List.mem_append.mp member with here | later
      · exact inside here
      · rcases List.mem_cons.mp later with rfl | later
        · dsimp only
          omega
        · have := ih later
          omega

private theorem solid_joined (laid : Rows source low (row :: rows) high) :
    ∃ cell ∈ joinedCells (row :: rows), cell.char ≠ ' ' := by
  cases laid with
  | cons stands solid after dense rest =>
    obtain ⟨cell, member, filled⟩ := List.all_eq_false.mp solid
    have filled : cell.char ≠ ' ' := by simpa using filled
    cases rows with
    | nil => exact ⟨cell, member, filled⟩
    | cons next rows => exact ⟨cell, List.mem_append_left _ member, filled⟩

/-- The last column of running text that is not empty stands in its last row. -/
private theorem joined_last (laid : Rows source low (row :: rows) high)
    (split : joinedCells (row :: rows) = before ++ cell :: after) (solid : cell.char ≠ ' ')
    (blank : ∀ cell ∈ after, cell.char = ' ') :
    Closed source (cell.place.offset + 1) ∧ cell.place.offset + 1 ≤ high := by
  induction rows generalizing low row before with
  | nil =>
    cases laid with
    | cons stands solid' after' dense rest =>
      have split : row.cells = before ++ cell :: after := split
      have member : cell ∈ row.cells := by simp [split]
      have inside := stands.within member
      have := rest.le
      exact ⟨(split ▸ stands).closed_at solid blank, by omega⟩
  | cons next rows ih =>
    cases laid with
    | cons stands solid' after' dense rest =>
      have joined : joinedCells (row :: next :: rows) =
          (row.cells ++ [⟨'\n', ⟨row.stop, 0⟩⟩]) ++ joinedCells (next :: rows) := by
        rw [List.append_assoc]
        rfl
      rw [joined] at split
      rcases split_cons split with ⟨more, -, behind⟩ | ⟨more, -, tail⟩
      · exact ih rest behind
      · obtain ⟨found, inside, filled⟩ := solid_joined rest
        exact absurd (blank found (tail ▸ List.mem_append_right more inside)) filled

theorem joined_content (laid : Rows source low (row :: rows) high) {place : Span}
    (content : place ∈ contentSpan
      (trimCells ((joinedCells (row :: rows)).dropWhile (·.char == ' ')))) :
    low ≤ place.start ∧ place.stop ≤ high ∧ Closed source place.stop := by
  obtain ⟨first, rest, last, head, ends, start, stop⟩ := contentSpan_cases content
  generalize text : (joinedCells (row :: rows)).dropWhile (·.char == ' ') = stripped at *
  obtain ⟨blanks, trimmed, blank⟩ := trimCells_split stripped
  obtain ⟨most, split⟩ := List.getLast?_eq_some_iff.mp ends
  have whole : joinedCells (row :: rows) =
      ((joinedCells (row :: rows)).takeWhile (·.char == ' ') ++ most) ++ last :: blanks := by
    have parted := List.takeWhile_append_dropWhile
      (p := fun cell : Cell => cell.char == ' ') (l := joinedCells (row :: rows))
    rw [text, trimmed, split] at parted
    exact parted.symm.trans (by simp)
  have inside : first ∈ joinedCells (row :: rows) := by
    have member : first ∈ trimCells stripped := head ▸ List.mem_cons_self
    have member : first ∈ stripped := trimmed ▸ List.mem_append_left blanks member
    exact (List.dropWhile_sublist _).mem (text ▸ member)
  obtain ⟨closed, below⟩ := joined_last laid whole (trimCells_last ends) blank
  have := joined_start laid inside
  exact ⟨by omega, by omega, stop ▸ closed⟩

/-- The blocks of running text that turns out to be a heading; the heading goes up to the line
under it. -/
theorem underlinedNodes_laid (leads : Chain source low (lead.map Node.paragraph).toList mid)
    (laid : Rows source mid rows high) (marked : 1 ≤ level) (above : high ≤ stop) :
    Chain source low (underlinedNodes lead rows level stop).1 stop := by
  obtain ⟨place, defined, kept⟩ := definitionsOf_laid laid
  unfold underlinedNodes
  generalize definitionsOf rows = parts at defined kept
  obtain ⟨definitions, rest⟩ := parts
  dsimp only at defined kept ⊢
  cases rest with
  | nil => exact (leads.append defined).widen (Nat.le_refl low) (kept.le.trans above)
  | cons row rest =>
    obtain ⟨here, after, dense⟩ : Rows source row.start (row :: rest) high ∧
        place ≤ row.start ∧ Dense source row.start high := by
      cases kept with
      | cons stands solid after dense rest =>
        exact ⟨.cons stands solid (Nat.le_refl _) dense rest, after, dense⟩
    have fits : row.start ≤ stop := here.le.trans above
    have heading (first : Nat) (before : first ≤ row.start) :
        Sound source (.heading ⟨first, stop⟩ level (contentSpan
          (trimCells ((joinedCells (row :: rest)).dropWhile (·.char == ' '))))) := by
      refine ⟨marked, ?_⟩
      intro content member
      obtain ⟨start, ends, closed⟩ := joined_content here member
      exact ⟨before.trans start, ends.trans above, Or.inl closed, dense.mono start ends⟩
    have behind := (leads.append defined).append
      (.single (heading row.start (Nat.le_refl _)) after fits (Nat.le_refl stop))
    cases lead with
    | none => simpa using behind
    | some span =>
      by_cases nothing : definitions.isEmpty = true
      · have := defined.le
        cases leads with
        | cons sound after' fits' rest' =>
          have := rest'.le
          dsimp only [Node.span] at after' fits' this
          obtain rfl := List.isEmpty_iff.mp nothing
          simp only [List.isEmpty_nil, ↓reduceIte, List.nil_append]
          exact .single (heading span.start (by omega)) after' (by dsimp only [Node.span]; omega)
            (Nat.le_refl stop)
      · simp only [nothing]
        exact behind

/-- Without text to make a heading of, the blocks end with the running text. -/
theorem underlinedNodes_unmarked (leads : Chain source low (lead.map Node.paragraph).toList mid)
    (laid : Rows source mid rows high)
    (unmarked : (underlinedNodes lead rows level stop).2 = false) :
    Chain source low (underlinedNodes lead rows level stop).1 high := by
  obtain ⟨place, defined, kept⟩ := definitionsOf_laid laid
  unfold underlinedNodes at unmarked ⊢
  generalize definitionsOf rows = parts at defined kept unmarked
  obtain ⟨definitions, rest⟩ := parts
  cases rest with
  | nil => exact (leads.append defined).widen (Nat.le_refl low) kept.le
  | cons row rest => cases unmarked

end PluginReadme.Layout
