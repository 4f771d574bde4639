import PluginReadme.Proofs.Markdown.Leaves
import PluginReadme.Proofs.Markdown.Moved

/-! Lines that are a heading by themselves. Which text makes a line a title, a heading of the first
level; and what comes of a source that begins with a heading line: the heading, then the blocks of
the lines below it, as if there were no others. -/
namespace PluginReadme.MarkedLine
open Markdown (Node Cell Line Leaf Situation Container Fence Progress allBlank blocksBehind chars
  contentSpan dropBlanks dropIndent lineKind markedHeading openAll splitFrom takeBlanks tabStop)
open SourceLine Lines

variable {offset level : Nat} {text body : Text} {blanks after cells content : List Cell}
  {cell : Cell} {line : Line}

/-! ## Indentation -/

theorem dropBlanks_blanks (blank : ∀ cell ∈ blanks, cell.char = ' ') (solid : cell.char ≠ ' ')
    {most : Nat} (few : blanks.length ≤ most) :
    dropBlanks most (blanks ++ cell :: after) = cell :: after := by
  induction blanks generalizing most with
  | nil => cases most <;> simp [dropBlanks, solid]
  | cons first blanks ih =>
    obtain ⟨here, later⟩ := List.forall_mem_cons.mp blank
    cases most with
    | zero => cases few
    | succ most =>
      rw [List.cons_append, dropBlanks, here]
      exact ih later (Nat.le_of_succ_le_succ few)

theorem dropIndent_blanks (blank : ∀ cell ∈ blanks, cell.char = ' ') (solid : cell.char ≠ ' ')
    (few : blanks.length < tabStop) :
    dropIndent (blanks ++ cell :: after) = some (cell :: after) := by
  unfold dropIndent
  rw [dropBlanks_blanks blank solid (show blanks.length ≤ tabStop - 1 from Nat.le_pred_of_lt few)]
  simp [solid]

/-- A line that is indented by less than a tab stop is not indented as code. -/
theorem takeBlanks_short (solid : cell.char ≠ ' ') {count : Nat} (few : blanks.length < count) :
    takeBlanks count (blanks ++ cell :: after) = none := by
  induction blanks generalizing count with
  | nil =>
    cases count with
    | zero => cases few
    | succ count => simp [takeBlanks, solid]
  | cons first blanks ih =>
    cases count with
    | zero => cases few
    | succ count =>
      rw [List.cons_append, takeBlanks, ih (Nat.lt_of_succ_lt_succ few), ite_self]

/-- The columns of a stretch that begins with spaces. -/
theorem columns_replicate {c : Char} (solid : c ≠ '\t') (count offset column : Nat) (rest : Text) :
    ∃ blanks, blanks.length = count ∧ (∀ cell ∈ blanks, cell.char = ' ') ∧
      columns offset column (List.replicate count ' ' ++ c :: rest) =
        blanks ++ ⟨c, ⟨offset + count, 0⟩⟩ ::
          columns (offset + count + 1) (column + count + 1) rest := by
  induction count generalizing offset column with
  | zero => exact ⟨[], rfl, nofun, by simp [columns, columnsAt, solid]⟩
  | succ count ih =>
    obtain ⟨blanks, size, blank, split⟩ := ih (offset + 1) (column + 1)
    refine ⟨⟨' ', ⟨offset, 0⟩⟩ :: blanks, by rw [List.length_cons, size],
      List.forall_mem_cons.mpr ⟨rfl, blank⟩, ?_⟩
    have apart : offset + 1 + count = offset + (count + 1) := by omega
    have apart' : column + 1 + count = column + (count + 1) := by omega
    rw [apart, apart'] at split
    rw [List.replicate_succ, List.cons_append, List.cons_append, ← split]
    rfl

/-! ## Titles -/

/-- A line of text that is a heading of the first level: one mark, indented by less than a tab stop,
and nothing or an indentation right behind it. -/
def TitleLine (body : Text) : Prop :=
  ∃ count rest, count < tabStop ∧ body = List.replicate count ' ' ++ '#' :: rest ∧
    ∀ c ∈ rest.head?, isIndent c = true

/-- One mark, and nothing or an empty column right behind it. -/
def TitleCells (cells : List Cell) : Prop :=
  ∃ mark rest, cells = mark :: rest ∧ mark.char = '#' ∧ ∀ cell ∈ rest.head?, cell.char = ' '

private theorem titleCells_iff :
    ((cells.takeWhile (·.char == '#')).length = 1 ∧
      (cells.dropWhile (·.char == '#')).head?.all (·.char == ' ') = true) ↔ TitleCells cells := by
  constructor
  · rintro ⟨single, apart⟩
    cases cells with
    | nil => cases single
    | cons mark rest =>
      by_cases sharp : mark.char = '#'
      · rw [List.takeWhile_cons_of_pos (by simpa using sharp), List.length_cons] at single
        rw [List.dropWhile_cons_of_pos (by simpa using sharp)] at apart
        have last := List.eq_nil_of_length_eq_zero (Nat.succ.inj single)
        have whole := @List.takeWhile_append_dropWhile _ (·.char == '#') rest
        rw [last, List.nil_append] at whole
        rw [whole] at apart
        refine ⟨mark, rest, rfl, sharp, fun cell head => ?_⟩
        rw [Option.mem_def.mp head] at apart
        simpa using apart
      · simp [sharp] at single
  · rintro ⟨mark, rest, rfl, sharp, blank⟩
    cases rest with
    | nil => simp [sharp]
    | cons cell rest =>
      have here : cell.char = ' ' := blank cell rfl
      simp [sharp, here]

/-- The columns that are a heading of the first level. -/
theorem markedHeading_one : (∃ content, markedHeading cells = some (1, content)) ↔
    ∃ inner, dropIndent cells = some inner ∧ TitleCells inner := by
  unfold markedHeading
  cases dropIndent cells with
  | none => simp
  | some inner =>
    simp only [Option.some.injEq, exists_eq_left', ← titleCells_iff]
    constructor
    · rintro ⟨content, marked⟩
      split at marked
      · rename_i levels
        simp only [Bool.and_eq_true] at levels
        exact ⟨(Prod.mk.inj (Option.some.inj marked)).1, levels.2⟩
      · cases marked
    · rintro ⟨single, apart⟩
      rw [single, apart]
      exact ⟨_, rfl⟩

/-- The lines that are read as a title. -/
theorem markedHeading_title :
    (∃ content, markedHeading (columns offset 0 body) = some (1, content)) ↔ TitleLine body := by
  rw [markedHeading_one]
  constructor
  · rintro ⟨_, dropped, mark, rest, rfl, sharp, apart⟩
    obtain ⟨blanks, split, blank, few⟩ := Leaves.dropIndent_short dropped
    obtain ⟨back, rfl, left⟩ := columns_spaces split (by rw [sharp]; decide) blank
      (by rw [Nat.zero_add]; exact few)
    rw [sharp]
    exact ⟨blanks.length, back, few, rfl, columns_empty_head.mp (left ▸ apart)⟩
  · rintro ⟨count, rest, few, rfl, apart⟩
    obtain ⟨blanks, rfl, blank, split⟩ := @columns_replicate '#' (by decide) count offset 0 rest
    have solid : (Cell.mk '#' ⟨offset + blanks.length, 0⟩).char ≠ ' ' := by simp
    refine ⟨_, by rw [split]; exact dropIndent_blanks blank solid few, _, _, rfl, rfl, ?_⟩
    exact columns_empty_head.mpr apart

/-! ## Reading a heading line -/

/-- A heading line, taken apart. -/
theorem markedHeading_split (marked : markedHeading cells = some (level, content)) :
    ∃ blanks mark rest, cells = blanks ++ mark :: rest ∧ (∀ cell ∈ blanks, cell.char = ' ') ∧
      blanks.length < tabStop ∧ mark.char = '#' ∧ dropIndent cells = some (mark :: rest) := by
  unfold markedHeading at marked
  split at marked
  · cases marked
  · rename_i inner dropped
    obtain ⟨blanks, split, blank, few⟩ := Leaves.dropIndent_short dropped
    dsimp only at marked
    cases inner with
    | nil => simp at marked
    | cons mark rest =>
      refine ⟨blanks, mark, rest, split, blank, few, ?_, dropped⟩
      by_contra other
      simp [other] at marked

/-- A heading line opens no container. -/
theorem openAll_marked (marked : markedHeading cells = some (level, content)) (line : Line)
    (interrupting : Bool) : openAll line interrupting cells = ([], cells) := by
  obtain ⟨blanks, mark, rest, -, -, -, sharp, dropped⟩ := markedHeading_split marked
  have footnote : Markdown.footnoteMark cells = none := by
    unfold Markdown.footnoteMark
    rw [dropped]
    cases rest <;> simp [sharp]
  have none : Container.opened line interrupting cells = none := by
    simp [Container.opened, Markdown.quoteMark, Markdown.itemMark, footnote, dropped, sharp,
      Char.isDigit]
  rw [openAll, none]

/-- A heading line is one whatever is open, for it has neither the indentation of code nor the
marks of any other block. -/
theorem lineKind_marked (marked : markedHeading cells = some (level, content)) (line : Line)
    (leaf : Leaf) (here : Situation) : lineKind line leaf here cells = .heading level content := by
  obtain ⟨blanks, mark, rest, split, blank, few, sharp, dropped⟩ := markedHeading_split marked
  have solid : mark.char ≠ ' ' := by rw [sharp]; decide
  have filled : allBlank cells = false := by
    rw [split]
    simp [allBlank, solid]
  have heading : Markdown.headingKind cells = some (.heading level content) := by
    simp [Markdown.headingKind, marked]
  have code : Markdown.codeKind here cells = none := by
    rw [split]
    simp [Markdown.codeKind, takeBlanks_short solid few]
  have fence : Markdown.fenceKind line cells = none := by
    simp [Markdown.fenceKind, Fence.opened, dropped, sharp]
  have html : Markdown.htmlKind here cells = none := by
    have unopened (interrupting : Bool) :
        Markdown.HtmlEnd.opened interrupting ('#' :: chars rest) = none := rfl
    have sharp' : chars (mark :: rest) = '#' :: chars rest := by rw [← sharp]; rfl
    simp [Markdown.htmlKind, dropped, sharp', unopened]
  have first : (cells.head?.map (·.char)).getD ' ' = '#' ∨
      (cells.head?.map (·.char)).getD ' ' = ' ' := by
    rw [split]
    cases blanks with
    | nil => exact Or.inl sharp
    | cons cell blanks => exact Or.inr (blank cell List.mem_cons_self)
  unfold lineKind
  rcases first with first | first <;> simp [first, filled, heading, code, fence, html]

/-- Where nothing is open, a heading line adds the heading and leaves nothing open. -/
theorem feed_marked (blocks : List Node) (interrupting : Bool) (previous : Nat)
    (marked : markedHeading line.cells = some (level, content)) :
    Progress.feed ⟨blocks, [], .idle, interrupting, previous⟩ line =
      ⟨.heading ⟨line.start, line.stop⟩ level (contentSpan content) :: blocks, [], .idle, false,
        line.stop⟩ := by
  have filled : line.cells.isEmpty = false := by
    obtain ⟨blanks, mark, rest, split, -⟩ := markedHeading_split marked
    simp [split]
  rw [Markdown.feed_outside, openAll_marked marked]
  simp only [List.isEmpty_nil, ↓reduceIte, Progress.goOn, filled, Bool.false_and,
    Bool.false_eq_true, Leaf.advance, Markdown.advanceFresh, lineKind_marked marked]
  rfl

/-! ## Sources that begin with a heading line -/

private theorem blocksBehind_nil : blocksBehind [] 0 0 [] = [] := by cbv

/-- A source whose first line is a heading comes to the heading and to the blocks of what stands
below that line, further along. -/
theorem blocksBehind_marked (previous : Nat)
    (marked : markedHeading (columns offset 0 (text.takeWhile inLine)) = some (level, content)) :
    ∃ front, text = front ++ linesBelow text ∧ blocksBehind [] offset previous text =
      .heading ⟨offset, offset + (text.takeWhile inLine).length⟩ level (contentSpan content) ::
        (blocksBehind [] 0 0 (linesBelow text)).map (Node.moved (offset + front.length)) := by
  have whole := @List.takeWhile_append_dropWhile _ inLine text
  have first := splitFrom_first offset 0 text
  have start := start_columns offset 0 (text.takeWhile inLine) (text.dropWhile inLine).isEmpty
  have read := @feed_marked level content (splitFrom offset 0 text).1 [] false previous
    (by rw [first]; exact marked)
  rw [first, start] at read
  rcases splitFrom_rest offset 0 text with ⟨ended, last⟩ | ⟨ending, split, -, lines⟩
  · have empty : linesBelow text = [] := by
      unfold linesBelow
      rw [ended]
      rfl
    refine ⟨text, by rw [empty, List.append_nil], ?_⟩
    rw [empty, blocksBehind_nil, List.map_nil]
    unfold blocksBehind
    dsimp only
    rw [first, last, List.foldl_cons, List.foldl_nil, read]
    rfl
  · refine ⟨text.takeWhile inLine ++ ending, by rw [List.append_assoc, ← split, whole], ?_⟩
    have settled : Markdown.Settled [.heading ⟨offset, offset + (text.takeWhile inLine).length⟩
        level (contentSpan content)] := nofun
    have later := Markdown.blocksBehind_moved settled
      (offset + (text.takeWhile inLine).length + ending.length)
      (offset + (text.takeWhile inLine).length) (linesBelow text)
    rw [List.length_append, ← Nat.add_assoc]
    refine Eq.trans ?_ later
    unfold blocksBehind
    dsimp only
    rw [first, lines, List.foldl_cons, read]

end PluginReadme.MarkedLine
