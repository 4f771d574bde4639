import PluginReadme.Markdown.Line
import PluginReadme.Markdown.Tree
import PluginReadme.Proofs.Text.Lines

/-! Where the lines of a markdown source stand in it, and which place each of their columns comes
from. -/
namespace PluginReadme.SourceLine
open Markdown (Cell Line Place tabCells tabStop splitFrom linesOf allBlank)
open Numeral Lines

variable {source text front back body : Text} {offset column start stop low : Nat} {c : Char}
  {cells before after : List Cell} {cell : Cell} {line : Line} {lines : List Line}

/-- Whether a character indents a line. -/
def isIndent (c : Char) : Bool := c == ' ' || c == '\t'

/-- The columns of a character. -/
def columnsAt (offset column : Nat) (c : Char) : List Cell :=
  if c = '\t' then tabCells offset column else [⟨c, ⟨offset, 0⟩⟩]

/-- The columns of a stretch of a line. -/
def columns (offset column : Nat) : Text → List Cell
  | [] => []
  | c :: rest =>
    let here := columnsAt offset column c
    here ++ columns (offset + 1) (column + here.length) rest

private theorem columnsAt_cons (offset column : Nat) (c : Char) :
    ∃ cell rest, columnsAt offset column c = cell :: rest := by
  unfold columnsAt
  split
  · have wide : 0 < tabStop - column % tabStop := by
      have := Nat.mod_lt column (show 0 < tabStop by decide)
      omega
    obtain ⟨width, same⟩ := Nat.exists_eq_add_of_lt wide
    rw [tabCells, same, Nat.zero_add, List.range_succ_eq_map]
    exact ⟨_, _, rfl⟩
  · exact ⟨_, _, rfl⟩

private theorem mem_columnsAt (member : cell ∈ columnsAt offset column c) :
    cell.place.offset = offset ∧ (cell.char = ' ' → isIndent c = true) ∧
      (cell.char ≠ ' ' → c = cell.char ∧ columnsAt offset column c = [cell]) := by
  unfold columnsAt at member ⊢
  split at member
  · rename_i tab
    obtain ⟨used, -, rfl⟩ := List.mem_map.mp member
    exact ⟨rfl, fun _ => by rw [tab]; rfl, fun wrong => absurd rfl wrong⟩
  · rename_i other
    cases List.mem_singleton.mp member
    refine ⟨rfl, fun blank => ?_, fun _ => ⟨rfl, if_neg other⟩⟩
    have same : c = ' ' := blank
    rw [same]
    rfl

/-- A character whose columns are all empty indents. -/
private theorem indent_of_columnsAt (blank : ∀ cell ∈ columnsAt offset column c, cell.char = ' ') :
    isIndent c = true := by
  obtain ⟨first, more, here⟩ := columnsAt_cons offset column c
  have inside : first ∈ columnsAt offset column c := here ▸ List.mem_cons_self
  exact (mem_columnsAt inside).2.1 (blank first inside)

private theorem columnsAt_blank (indent : isIndent c = true) :
    ∀ cell ∈ columnsAt offset column c, cell.char = ' ' := by
  unfold columnsAt
  split
  · intro cell member
    obtain ⟨used, -, rfl⟩ := List.mem_map.mp member
    rfl
  · rename_i other
    intro cell member
    cases List.mem_singleton.mp member
    simpa [isIndent, other] using indent

theorem columns_head (split : columns offset column body = cell :: after) :
    cell.place.offset = offset := by
  cases body with
  | nil => cases split
  | cons c rest =>
    obtain ⟨first, more, here⟩ := columnsAt_cons offset column c
    have inside : first ∈ columnsAt offset column c := here ▸ List.mem_cons_self
    rw [columns, here] at split
    cases split
    exact (mem_columnsAt inside).1

theorem columns_nil (empty : columns offset column body = []) : body = [] := by
  cases body with
  | nil => rfl
  | cons c rest =>
    obtain ⟨first, more, here⟩ := columnsAt_cons offset column c
    rw [columns, here] at empty
    cases empty

/-- Each column comes from a place in the stretch. -/
theorem columns_within (member : cell ∈ columns offset column body) :
    offset ≤ cell.place.offset ∧ cell.place.offset < offset + body.length := by
  induction body generalizing offset column with
  | nil => cases member
  | cons c rest ih =>
    rw [List.length_cons]
    rcases List.mem_append.mp member with here | later
    · have same := (mem_columnsAt here).1
      omega
    · have := ih later
      omega

/-- The columns of a stretch come from its places in order. -/
theorem columns_ordered (offset column : Nat) (body : Text) :
    (columns offset column body).Pairwise
      fun cell next => cell.place.offset ≤ next.place.offset := by
  induction body generalizing offset column with
  | nil => exact .nil
  | cons c rest ih =>
    refine List.pairwise_append.mpr ⟨List.pairwise_of_forall_mem_list ?_, ih _ _, ?_⟩
    · intro cell here next there
      exact ((mem_columnsAt here).1.trans (mem_columnsAt there).1.symm).le
    · intro cell here next later
      have place := (mem_columnsAt here).1
      have behind := (columns_within later).1
      omega

/-- A stretch whose columns are all empty indents. -/
theorem indent_of_blank (blank : ∀ cell ∈ columns offset column body, cell.char = ' ') :
    Run isIndent body := by
  induction body generalizing offset column with
  | nil => exact Run.nil
  | cons c rest ih =>
    exact run_cons.mpr
      ⟨indent_of_columnsAt fun cell member => blank cell (List.mem_append_left _ member),
        ih fun cell member => blank cell (List.mem_append_right _ member)⟩

/-- What stands in front of a column, when all columns in front of it are empty. -/
theorem columns_indented (split : columns offset column body = before ++ cell :: after)
    (blank : ∀ cell ∈ before, cell.char = ' ') :
    ∃ front back, body = front ++ back ∧ cell.place.offset = offset + front.length ∧
      Run isIndent front := by
  induction body generalizing offset column before with
  | nil => simp [columns] at split
  | cons c rest ih =>
    rw [columns] at split
    rcases split_cons split with ⟨more, ahead, behind⟩ | ⟨more, here, -⟩
    · obtain ⟨front, back, rfl, place, indent⟩ := ih behind
        fun cell member => blank cell (by simp [ahead, member])
      have first : ∀ cell ∈ columnsAt offset column c, cell.char = ' ' :=
        fun cell member => blank cell (by simp [ahead, member])
      exact ⟨c :: front, back, rfl, by rw [place, List.length_cons]; omega,
        run_cons.mpr ⟨indent_of_columnsAt first, indent⟩⟩
    · have inside : cell ∈ columnsAt offset column c := by simp [here]
      exact ⟨[], c :: rest, rfl, (mem_columnsAt inside).1, Run.nil⟩

/-- What stands behind a column that is not empty. -/
theorem columns_behind (split : columns offset column body = before ++ cell :: after)
    (solid : cell.char ≠ ' ') :
    ∃ front back column', body = front ++ cell.char :: back ∧
      cell.place.offset = offset + front.length ∧
      after = columns (cell.place.offset + 1) column' back := by
  induction body generalizing offset column before with
  | nil => simp [columns] at split
  | cons c rest ih =>
    rw [columns] at split
    rcases split_cons split with ⟨more, -, behind⟩ | ⟨more, ahead, left⟩
    · obtain ⟨front, back, column', rfl, place, left⟩ := ih behind
      exact ⟨c :: front, back, column', rfl, by rw [place, List.length_cons]; omega, left⟩
    · have inside : cell ∈ columnsAt offset column c := by simp [ahead]
      obtain ⟨place, -, alone⟩ := mem_columnsAt inside
      obtain ⟨same, single⟩ := alone solid
      have last : more = [] := by
        have size := congrArg List.length (single.symm.trans ahead)
        simp only [List.length_append, List.length_cons, List.length_nil] at size
        exact List.eq_nil_of_length_eq_zero (by omega)
      refine ⟨[], rest, column + (columnsAt offset column c).length, by rw [← same]; rfl, place, ?_⟩
      rw [left, last, place]
      rfl

/-- A stretch whose columns begin with less than a tab stop of empty ones begins with spaces. -/
theorem columns_spaces (split : columns offset column body = before ++ cell :: after)
    (solid : cell.char ≠ ' ') (blank : ∀ cell ∈ before, cell.char = ' ')
    (short : column + before.length < tabStop) :
    ∃ back, body = List.replicate before.length ' ' ++ cell.char :: back ∧
      after = columns (offset + before.length + 1) (column + before.length + 1) back := by
  induction body generalizing offset column before with
  | nil => simp [columns] at split
  | cons c rest ih =>
    rw [columns] at split
    cases before with
    | nil =>
      obtain ⟨first, more, here⟩ := columnsAt_cons offset column c
      have same : first = cell := by
        rw [here] at split
        exact (List.cons.inj split).1
      subst same
      obtain ⟨-, -, alone⟩ := mem_columnsAt (here ▸ List.mem_cons_self)
      obtain ⟨char, single⟩ := alone solid
      rw [single] at split
      exact ⟨rest, by rw [char]; rfl, (List.cons.inj split).2.symm⟩
    | cons first before =>
      have few : (columnsAt offset column c).length ≤ (first :: before).length := by
        by_contra more
        have inside : (columnsAt offset column c)[(first :: before).length]? = some cell := by
          have behind :
              (first :: before ++ cell :: after)[(first :: before).length]? = some cell := by
            rw [List.getElem?_append_right (Nat.le_refl _), Nat.sub_self]
            rfl
          rwa [← split, List.getElem?_append_left (by omega)] at behind
        have single := (mem_columnsAt (List.mem_of_getElem? inside)).2.2 solid
        rw [single.2] at more
        simp at more
      by_cases tab : c = '\t'
      · have wide : (columnsAt offset column c).length = tabStop - column % tabStop := by
          simp [columnsAt, tab, tabCells]
        have low : column % tabStop = column := Nat.mod_eq_of_lt (by omega)
        rw [wide, low] at few
        omega
      · have single : columnsAt offset column c = [⟨c, ⟨offset, 0⟩⟩] := if_neg tab
        rw [single] at split
        obtain ⟨rfl, rest'⟩ := List.cons.inj split
        obtain ⟨here, later⟩ := List.forall_mem_cons.mp blank
        have here : c = ' ' := here
        obtain ⟨back, rfl, left⟩ := ih rest' later (by
          rw [List.length_cons] at short
          rw [List.length_singleton]
          omega)
        refine ⟨back, by rw [here]; rfl, ?_⟩
        rw [left, List.length_singleton, List.length_cons]
        congr 1 <;> omega

/-- The first column of a stretch is empty if the stretch starts with an indentation. -/
theorem columns_empty_head : (∀ cell ∈ (columns offset column body).head?, cell.char = ' ') ↔
    ∀ c ∈ body.head?, isIndent c = true := by
  cases body with
  | nil => exact ⟨fun _ => nofun, fun _ => nofun⟩
  | cons c rest =>
    obtain ⟨first, more, here⟩ := columnsAt_cons offset column c
    have inside : first ∈ columnsAt offset column c := here ▸ List.mem_cons_self
    rw [columns, here]
    constructor
    · intro blank c' head
      cases head
      exact (mem_columnsAt inside).2.1 (blank first rfl)
    · intro indent cell head
      cases head
      exact columnsAt_blank (indent c rfl) _ inside

/-! ## Places of a source -/

/-- A stretch of a source, and what stands around it. -/
theorem slice_parts (fits : start ≤ stop) (within : stop ≤ source.length) :
    source = source.take start ++ ((Markdown.Span.mk start stop).slice source ++ source.drop stop) ∧
      ((Markdown.Span.mk start stop).slice source).length = stop - start := by
  have behind : (source.drop start).drop (stop - start) = source.drop stop := by
    rw [List.drop_drop, Nat.add_sub_cancel' fits]
  have whole : (Markdown.Span.mk start stop).slice source ++ source.drop stop =
      source.drop start := by
    rw [← behind]
    exact List.take_append_drop _ _
  refine ⟨by rw [whole, List.take_append_drop], ?_⟩
  rw [Markdown.Span.slice, List.length_take, List.length_drop]
  exact Nat.min_eq_left (Nat.sub_le_sub_right within start)

/-- A line of a source begins behind a text: at the start, behind a byte order mark, or behind the
end of a line. -/
def LineStart (front : Text) : Prop :=
  front = [] ∨ front = ['\uFEFF'] ∨ front.getLast? = some '\n' ∨ front.getLast? = some '\r'

theorem lineStart_feed (front : Text) : LineStart (front ++ ['\n']) :=
  Or.inr (Or.inr (Or.inl List.getLast?_concat))

/-- Nothing but indentation stands between the start of a line and a place. -/
def Led (source : Text) (place : Nat) : Prop :=
  ∃ front indent back, source = front ++ (indent ++ back) ∧
    place = front.length + indent.length ∧ LineStart front ∧ Run isIndent indent

/-- Nothing but indentation stands between a place and the end of its line. -/
def Closed (source : Text) (place : Nat) : Prop :=
  ∃ front indent back, source = front ++ (indent ++ back) ∧ place = front.length ∧
    Run isIndent indent ∧ Stops inLine back

/-- A line of a source, from its start up to its end, and its columns. -/
def Stands (source : Text) (start stop : Nat) (cells : List Cell) : Prop :=
  ∃ front body back, source = front ++ (body ++ back) ∧ start = front.length ∧
    stop = front.length + body.length ∧ LineStart front ∧ Run inLine body ∧ Stops inLine back ∧
    cells = columns front.length 0 body

theorem Stands.led (stands : Stands source start stop cells) : Led source start := by
  obtain ⟨front, body, back, rfl, rfl, -, starts, -⟩ := stands
  exact ⟨front, [], body ++ back, rfl, rfl, starts, Run.nil⟩

theorem Stands.closed (stands : Stands source start stop cells) : Closed source stop := by
  obtain ⟨front, body, back, rfl, rfl, rfl, -, -, stops, -⟩ := stands
  exact ⟨front ++ body, [], back, by simp, by simp, Run.nil, stops⟩

theorem Stands.le (stands : Stands source start stop cells) : start ≤ stop := by
  obtain ⟨front, body, back, rfl, rfl, rfl, -⟩ := stands
  omega

theorem Stands.stop_le (stands : Stands source start stop cells) : stop ≤ source.length := by
  obtain ⟨front, body, back, rfl, rfl, rfl, -⟩ := stands
  simp only [List.length_append]
  omega

theorem Stands.within (stands : Stands source start stop cells) (member : cell ∈ cells) :
    start ≤ cell.place.offset ∧ cell.place.offset < stop := by
  obtain ⟨front, body, back, rfl, rfl, rfl, -, -, -, rfl⟩ := stands
  exact columns_within member

theorem Stands.ordered (stands : Stands source start stop cells) :
    cells.Pairwise fun cell next => cell.place.offset ≤ next.place.offset := by
  obtain ⟨front, body, back, rfl, rfl, rfl, -, -, -, rfl⟩ := stands
  exact columns_ordered _ _ _

/-- Behind empty columns a line is still only indented. -/
theorem Stands.led_at (stands : Stands source start stop (before ++ cell :: after))
    (blank : ∀ cell ∈ before, cell.char = ' ') : Led source cell.place.offset := by
  obtain ⟨front, body, back, rfl, rfl, rfl, starts, -, -, split⟩ := stands
  obtain ⟨indent, more, rfl, place, run⟩ := columns_indented split.symm blank
  exact ⟨front, indent, more ++ back, by simp, place, starts, run⟩

/-- In front of empty columns a line has ended but for indentation. -/
theorem Stands.closed_at (stands : Stands source start stop (before ++ cell :: after))
    (solid : cell.char ≠ ' ') (blank : ∀ cell ∈ after, cell.char = ' ') :
    Closed source (cell.place.offset + 1) := by
  obtain ⟨front, body, back, rfl, rfl, rfl, -, -, stops, split⟩ := stands
  obtain ⟨first, rest, column', rfl, place, left⟩ := columns_behind split.symm solid
  refine ⟨front ++ (first ++ [cell.char]), rest, back, by simp, by simp [place]; omega, ?_, stops⟩
  exact indent_of_blank (left ▸ blank)

/-- No line ends between two places of a line. -/
theorem Stands.inside (stands : Stands source start stop cells) {first last : Nat}
    (after : start ≤ first) (before : last ≤ stop) :
    Run inLine ((Markdown.Span.mk first last).slice source) := by
  obtain ⟨front, body, back, rfl, rfl, rfl, -, run, -⟩ := stands
  intro c member
  rcases Nat.lt_or_ge first last with filled | empty
  · have inside : c ∈ (front ++ body).drop first := by
      rw [Markdown.Span.slice, List.take_drop, ← List.append_assoc,
        List.take_append_of_le_length (by simp; omega), ← List.take_drop] at member
      exact List.mem_of_mem_take member
    have within := List.drop_subset_drop_left _ after inside
    rw [List.drop_left] at within
    exact run c within
  · rw [Markdown.Span.slice, Nat.sub_eq_zero_of_le empty] at member
    cases member

theorem Stands.unbroken (stands : Stands source start stop cells) {first last : Nat}
    (after : start ≤ first) (before : last ≤ stop) :
    '\n' ∉ (Markdown.Span.mk first last).slice source :=
  fun member => nomatch stands.inside after before '\n' member

private theorem first_inLine {place : Nat} (inside : place < (source.takeWhile inLine).length)
    {c : Char} (here : source[place]? = some c) : inLine c = true := by
  have whole := @List.takeWhile_append_dropWhile _ inLine source
  rw [← whole, List.getElem?_append_left inside] at here
  exact List.mem_takeWhile_imp (List.mem_of_getElem? here)

/-- A line that ends where the first one does is the first one, at most without a byte order
mark. -/
theorem Stands.first_line (stands : Stands source start stop cells)
    (first : stop = (source.takeWhile inLine).length) : ∃ front body,
      (front = [] ∨ front = ['\uFEFF']) ∧ source.takeWhile inLine = front ++ body ∧
      cells = columns front.length 0 body := by
  obtain ⟨front, body, back, rfl, rfl, rfl, starts, run, stops, rfl⟩ := stands
  have below {c : Char} (last : front.getLast? = some c) (outside : inLine c = false) : False := by
    obtain ⟨before, rfl⟩ := List.getLast?_eq_some_iff.mp last
    have here : (before ++ [c] ++ (body ++ back))[before.length]? = some c := by simp
    rw [List.length_append, List.length_singleton] at first
    have inside := first_inLine (by omega) here
    rw [outside] at inside
    cases inside
  rcases starts with rfl | rfl | feed | carriage
  · exact ⟨[], body, Or.inl rfl, takeWhile_run run stops, rfl⟩
  · have marked : Run inLine ('\uFEFF' :: body) := run_cons.mpr ⟨by decide, run⟩
    exact ⟨['\uFEFF'], body, Or.inr rfl, takeWhile_run marked stops, rfl⟩
  · exact (below feed (by decide)).elim
  · exact (below carriage (by decide)).elim

/-- No line ends before the first one does. -/
theorem Stands.first_le (stands : Stands source start stop cells) :
    (source.takeWhile inLine).length ≤ stop := by
  obtain ⟨front, body, back, rfl, rfl, rfl, -, -, stops, -⟩ := stands
  by_contra short
  cases back with
  | nil =>
    have fits := (List.takeWhile_sublist inLine (l := front ++ (body ++ []))).length_le
    simp only [List.length_append, List.length_nil] at fits
    omega
  | cons c more =>
    have here : (front ++ (body ++ c :: more))[front.length + body.length]? = some c := by
      rw [← List.append_assoc, List.getElem?_append_right (by simp)]
      simp
    have inside := first_inLine (by omega) here
    rw [stops c rfl] at inside
    cases inside

/-! ## Empty lines -/

/-- No line feed between two places stands right in front of another one. -/
def Dense (source : Text) (low high : Nat) : Prop :=
  ∀ place, low ≤ place → place < high → source[place]? = some '\n' → source[place + 1]? ≠ some '\n'

theorem Dense.mono (dense : Dense source low high) (after : low ≤ start) (before : stop ≤ high) :
    Dense source start stop :=
  fun place begins ends => dense place (after.trans begins) (Nat.lt_of_lt_of_le ends before)

theorem Dense.append (first : Dense source low mid) (second : Dense source mid high) :
    Dense source low high := by
  intro place begins ends
  rcases Nat.lt_or_ge place mid with inside | behind
  · exact first place begins inside
  · exact second place behind ends

theorem Stands.not_feed (stands : Stands source start stop cells) {place : Nat}
    (after : start ≤ place) (before : place < stop) : source[place]? ≠ some '\n' := by
  obtain ⟨front, body, back, rfl, rfl, rfl, -, run, -⟩ := stands
  obtain ⟨index, rfl⟩ := Nat.exists_eq_add_of_le after
  have bound : index < body.length := by omega
  rw [List.getElem?_append_right (Nat.le_add_right ..), Nat.add_sub_cancel_left,
    List.getElem?_append_left bound, List.getElem?_eq_getElem bound]
  intro feed
  have inside := run _ (List.getElem_mem bound)
  rw [Option.some.inj feed] at inside
  cases inside

theorem Stands.dense (stands : Stands source start stop cells) : Dense source start stop :=
  fun _ after before feed => absurd feed (stands.not_feed after before)

/-- A line that follows what stands up to a place: the one line feed that may be between them ends
the line before. -/
structure Follows (source : Text) (low : Nat) (line : Line) : Prop where
  stands : Stands source line.start line.stop line.cells
  after : low ≤ line.start
  parted : ∀ feed, low ≤ feed → feed < line.start → source[feed]? = some '\n' →
    feed + 1 = line.start
  last : line.last = true → source.length ≤ line.stop

theorem Follows.le (follows : Follows source low line) : low ≤ line.stop :=
  follows.after.trans follows.stands.le

private theorem dense_of_head (follows : Follows source low line)
    (head : source[line.start]? ≠ some '\n') : Dense source low line.stop := by
  intro place begins ends feed
  rcases Nat.lt_or_ge place line.start with ahead | inside
  · rw [follows.parted place begins ahead feed]
    exact head
  · exact follows.stands.dense place inside ends feed

/-- A line that is not blank leaves no empty line between it and the line in front of it. -/
theorem Follows.dense (follows : Follows source low line) (solid : allBlank line.cells = false) :
    Dense source low line.stop := by
  obtain ⟨cell, member, -⟩ := List.all_eq_false.mp solid
  have within := follows.stands.within member
  exact dense_of_head follows (follows.stands.not_feed (Nat.le_refl _) (by omega))

/-- Neither does the last line. -/
theorem Follows.dense_last (follows : Follows source low line) (last : line.last = true) :
    Dense source low line.stop := by
  apply dense_of_head follows
  have ended := follows.last last
  have fits := follows.stands.le
  rcases Nat.lt_or_ge line.start line.stop with filled | empty
  · exact follows.stands.not_feed (Nat.le_refl _) filled
  · rw [List.getElem?_eq_none (by omega)]
    exact nofun

/-! ## The lines of a source -/

/-- What ends a line. -/
inductive Ending : Text → Prop where
  | feed : Ending ['\n']
  | carriage : Ending ['\r']
  | both : Ending ['\r', '\n']

theorem splitFrom_inside (inside : inLine c = true) (offset column : Nat) (text : Text) :
    splitFrom offset column (c :: text) =
      let (line, lines) := splitFrom (offset + 1)
        (column + (columnsAt offset column c).length) text
      ({ line with cells := columnsAt offset column c ++ line.cells }, lines) := by
  by_cases tab : c = '\t'
  · subst tab
    rfl
  · have alone : columnsAt offset column c = [⟨c, ⟨offset, 0⟩⟩] := if_neg tab
    rw [splitFrom, alone]
    · rfl
    · rintro rest rfl
      cases inside
    · rintro rfl
      cases inside
    · rintro rfl
      cases inside
    · exact tab

/-- What follows the ending that a text begins with. -/
def behindEnding : Text → Text
  | '\r' :: '\n' :: rest => rest
  | _ :: rest => rest
  | [] => []

theorem behindEnding_return (other : c ≠ '\n') (rest : Text) :
    behindEnding ('\r' :: c :: rest) = c :: rest := by
  unfold behindEnding
  split
  · rename_i same
    cases same
    exact absurd rfl other
  · rename_i same
    cases same
    rfl
  · contradiction

/-- What stands below the first line of a text. -/
def linesBelow (text : Text) : Text := behindEnding (text.dropWhile inLine)

/-- The end of a line, and the next line. -/
theorem splitFrom_break (outside : inLine c = false) (offset column : Nat) (text : Text) :
    ∃ ending, c :: text = ending ++ behindEnding (c :: text) ∧ Ending ending ∧
      splitFrom offset column (c :: text) = (⟨[], offset, false⟩,
        (splitFrom (offset + ending.length) 0 (behindEnding (c :: text))).1 ::
          (splitFrom (offset + ending.length) 0 (behindEnding (c :: text))).2) := by
  by_cases feed : c = '\n'
  · subst feed
    exact ⟨['\n'], rfl, .feed, rfl⟩
  · obtain rfl := (inLine_eq_false.mp outside).resolve_left feed
    cases text with
    | nil => exact ⟨['\r'], rfl, .carriage, rfl⟩
    | cons d text =>
      by_cases pair : d = '\n'
      · subst pair
        exact ⟨['\r', '\n'], rfl, .both, rfl⟩
      · have alone := behindEnding_return pair text
        refine ⟨['\r'], by rw [alone]; rfl, .carriage, ?_⟩
        rw [alone, splitFrom]
        · rfl
        · rintro rest same
          cases same
          exact pair rfl

theorem splitFrom_first (offset column : Nat) (text : Text) :
    (splitFrom offset column text).1 =
      ⟨columns offset column (text.takeWhile inLine), offset + (text.takeWhile inLine).length,
        (text.dropWhile inLine).isEmpty⟩ := by
  induction text generalizing offset column with
  | nil => rfl
  | cons c rest ih =>
    cases inside : inLine c with
    | true =>
      rw [splitFrom_inside inside]
      simp only [ih, List.takeWhile_cons, List.dropWhile_cons, inside, ↓reduceIte, columns,
        List.length_cons, Line.mk.injEq, true_and, and_true]
      omega
    | false =>
      obtain ⟨ending, -, -, split⟩ := splitFrom_break inside offset column rest
      simp [split, inside, columns]

/-- The lines below the first one. -/
theorem splitFrom_rest (offset column : Nat) (text : Text) :
    (text.dropWhile inLine = [] ∧ (splitFrom offset column text).2 = []) ∨
      ∃ ending, text.dropWhile inLine = ending ++ linesBelow text ∧ Ending ending ∧
        (splitFrom offset column text).2 =
          let place := offset + (text.takeWhile inLine).length + ending.length
          (splitFrom place 0 (linesBelow text)).1 :: (splitFrom place 0 (linesBelow text)).2 := by
  unfold linesBelow
  induction text generalizing offset column with
  | nil => exact Or.inl ⟨rfl, rfl⟩
  | cons c more ih =>
    cases inside : inLine c with
    | true =>
      rw [splitFrom_inside inside]
      rw [List.dropWhile_cons_of_pos inside, List.takeWhile_cons_of_pos inside, List.length_cons]
      rcases ih (offset + 1) (column + (columnsAt offset column c).length) with
        last | ⟨ending, split, ended, behind⟩
      · exact Or.inl last
      · refine Or.inr ⟨ending, split, ended, ?_⟩
        have same : offset + ((more.takeWhile inLine).length + 1) + ending.length =
            offset + 1 + (more.takeWhile inLine).length + ending.length := by omega
        rw [same]
        exact behind
    | false =>
      have outside : ¬ inLine c = true := by simp [inside]
      obtain ⟨ending, split, ended, behind⟩ := splitFrom_break inside offset column more
      rw [List.dropWhile_cons_of_neg outside, List.takeWhile_cons_of_neg outside]
      exact Or.inr ⟨ending, split, ended, congrArg Prod.snd behind⟩

/-- Lines of a source, each of which follows the one in front of it. -/
inductive Reads (source : Text) : Nat → List Line → Prop where
  | nil (low : Nat) : Reads source low []
  | cons {low : Nat} {line : Line} {lines : List Line} (follows : Follows source low line)
      (rest : Reads source line.stop lines) : Reads source low (line :: lines)

theorem start_columns (offset column : Nat) (body : Text) (last : Bool) :
    (Line.mk (columns offset column body) (offset + body.length) last).start = offset := by
  unfold Line.start Line.offsetOf Line.placeOf
  split
  · rename_i empty
    rw [columns_nil empty, List.length_nil, Nat.add_zero]
  · rename_i cell rest split
    exact columns_head split

private theorem Ending.lineStart {ending : Text} (ends : Ending ending) (front : Text) :
    LineStart (front ++ ending) := by
  cases ends with
  | feed => exact lineStart_feed front
  | carriage => exact Or.inr (Or.inr (Or.inr List.getLast?_concat))
  | both =>
    rw [← List.singleton_append, ← List.append_assoc]
    exact lineStart_feed _

/-- The line feed of an ending is its last character. -/
private theorem Ending.feed_last {ending : Text} (ends : Ending ending) {place : Nat}
    (feed : ending[place]? = some '\n') : place + 1 = ending.length := by
  cases ends with
  | feed => cases place <;> simp_all
  | carriage => cases place <;> simp_all
  | both => rcases place with _ | _ | place <;> simp_all

theorem reads_split (front : Text) (starts : LineStart front) (below : low ≤ front.length)
    (text : Text) (parted : ∀ feed, low ≤ feed → feed < front.length → front[feed]? = some '\n' →
      feed + 1 = front.length) :
    Reads (front ++ text) low
      ((splitFrom front.length 0 text).1 :: (splitFrom front.length 0 text).2) := by
  induction size : text.length using Nat.strongRecOn generalizing text front low with
  | ind size' ih =>
    have whole := List.takeWhile_append_dropWhile (p := inLine) (l := text)
    obtain ⟨-, run, stops⟩ := (@run_iff inLine text _ _).mp ⟨rfl, rfl⟩
    have first := splitFrom_first front.length 0 text
    have start :=
      start_columns front.length 0 (text.takeWhile inLine) (text.dropWhile inLine).isEmpty
    refine .cons ⟨?_, ?_, ?_, ?_⟩ ?_
    · rw [first, start]
      exact ⟨front, _, _, by rw [whole], rfl, rfl, starts, run, stops, rfl⟩
    · rw [first, start]
      exact below
    · rw [first, start]
      intro feed after before here
      rw [List.getElem?_append_left before] at here
      exact parted feed after before here
    · rw [first]
      intro ended
      have ended : text.dropWhile inLine = [] := List.isEmpty_iff.mp ended
      rw [ended, List.append_nil] at whole
      rw [List.length_append, whole]
    · rw [first]
      rcases splitFrom_rest front.length 0 text with
        ⟨-, last⟩ | ⟨ending, split, ended, behind⟩
      · rw [last]
        exact .nil _
      · have filled : 0 < ending.length := by cases ended <;> simp
        have source : front ++ text =
            (front ++ text.takeWhile inLine ++ ending) ++ linesBelow text := by
          rw [List.append_assoc, List.append_assoc, ← split, whole]
        have place : front.length + (text.takeWhile inLine).length + ending.length =
            (front ++ text.takeWhile inLine ++ ending).length := by
          simp [Nat.add_assoc]
        have shorter : (linesBelow text).length < size' := by
          have total := congrArg List.length (whole.symm.trans (congrArg _ split))
          simp at total
          omega
        have parted' : ∀ feed, front.length + (text.takeWhile inLine).length ≤ feed →
            feed < (front ++ text.takeWhile inLine ++ ending).length →
            (front ++ text.takeWhile inLine ++ ending)[feed]? = some '\n' →
            feed + 1 = (front ++ text.takeWhile inLine ++ ending).length := by
          intro feed after before here
          rw [List.getElem?_append_right (by simpa using after)] at here
          have last := ended.feed_last here
          simp only [List.length_append] at last ⊢
          omega
        rw [behind, source]
        simp only [place]
        exact ih (linesBelow text).length shorter _ (ended.lineStart _)
          (by simp only [List.length_append]; omega) (linesBelow text) parted' rfl

/-- The lines of a source are the stretches between the ends of its lines. -/
theorem linesOf_reads (source : Text) : Reads source 0 (linesOf source) := by
  unfold linesOf
  split
  · refine reads_split ['\uFEFF'] (Or.inr (Or.inl rfl)) (Nat.zero_le _) _ ?_
    intro feed after before here
    cases feed <;> simp at here
  · exact reads_split [] (Or.inl rfl) (Nat.zero_le _) source fun feed _ wrong => nomatch wrong

end PluginReadme.SourceLine
