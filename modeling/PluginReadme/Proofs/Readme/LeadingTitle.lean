import PluginReadme.Proofs.Document.Lowering
import PluginReadme.Proofs.Document.Moved
import PluginReadme.Proofs.Markdown.Headings
import PluginReadme.Proofs.Markdown.MarkedLine
import PluginReadme.Readme.Render

/-! The title of a changelog. A text that does not begin with a title line is left as it is. Of the
titles, those that are written as a mark and a space at the very start of the text are dropped with
their line, unless it ends with a carriage return alone; all lines below it are still there then,
and they come to the same blocks as before. -/
namespace PluginReadme.LeadingTitle
open Readme (build changelogHeading render stripLeadingTitle)
open Document (ofMarkdown)
open Markdown (Node Unmarked blocksBehind blocksOf markedHeading)
open Headings Lines MarkedLine Numeral SourceLine

variable {source text : Text}

/-! ## Texts that begin with a title -/

/-- A text whose first line is read as a heading of the first level, by itself. -/
def Titled (text : Text) : Prop :=
  ∃ span content more, blocksOf text = .heading span 1 content :: more ∧
    span.stop = (text.takeWhile inLine).length

/-- A text behind the byte order mark that it may start with. -/
def behindMark : Text → Text
  | '\uFEFF' :: rest => rest
  | text => text

theorem behindMark_unmarked (unmarked : Unmarked text) : behindMark text = text := by
  unfold behindMark
  split
  · exact absurd rfl unmarked
  · rfl

theorem titleLine_unmarked (title : TitleLine (text.takeWhile inLine)) : Unmarked text := by
  obtain ⟨count, rest, -, line, -⟩ := title
  intro marked
  obtain ⟨more, rfl⟩ := List.head?_eq_some_iff.mp marked
  rw [List.takeWhile_cons_of_pos (by decide)] at line
  cases count <;> cases line

/-- The first line of a text with a byte order mark. -/
private theorem takeWhile_marked (rest : Text) :
    ('\uFEFF' :: rest).takeWhile inLine = '\uFEFF' :: rest.takeWhile inLine :=
  List.takeWhile_cons_of_pos (by decide)

/-- A heading at the end of the first line is written with marks, for text with a line under it ends
below that line. -/
private theorem headed_first {span : Markdown.Span} {level : Nat} {content : Option Markdown.Span}
    (headed : Headed text (.heading span level content))
    (first : span.stop = (text.takeWhile inLine).length) : ∃ front body content,
      (front = [] ∨ front = ['\uFEFF']) ∧ text.takeWhile inLine = front ++ body ∧
      markedHeading (columns front.length 0 body) = some (level, content) := by
  cases headed with
  | marked stands marked =>
    obtain ⟨front, body, alone, line, same⟩ := stands.first_line first
    exact ⟨front, body, _, alone, line, same ▸ marked⟩
  | underlined laid starts below stands marked =>
    rename_i low high row under rows
    exfalso
    have filled : under.cells ≠ [] := by
      intro empty
      rw [empty] at marked
      cases marked
    obtain ⟨cell, member⟩ := List.exists_mem_of_ne_nil _ filled
    have within := stands.within member
    cases laid with
    | cons above solid after dense rest =>
      have ends := above.first_le
      have between := rest.le
      dsimp only at first
      omega

private theorem linesBelow_marked (rest : Text) :
    linesBelow ('\uFEFF' :: rest) = linesBelow rest := by
  unfold linesBelow
  rw [List.dropWhile_cons_of_pos (by decide)]

/-- A text that begins with a title comes to the title and to the blocks of what stands below it,
further along. -/
theorem title_blocks (title : TitleLine ((behindMark text).takeWhile inLine)) :
    ∃ front span content, text = front ++ linesBelow text ∧
      span.stop = (text.takeWhile inLine).length ∧ blocksOf text = .heading span 1 content ::
        (blocksBehind [] 0 0 (linesBelow text)).map (Node.moved front.length) := by
  by_cases marked : text.head? = some '\uFEFF'
  · obtain ⟨rest, rfl⟩ := List.head?_eq_some_iff.mp marked
    change TitleLine (rest.takeWhile inLine) at title
    obtain ⟨content, heading⟩ := (@markedHeading_title 1 _).mpr title
    obtain ⟨front, split, blocks⟩ := blocksBehind_marked 0 heading
    rw [linesBelow_marked, takeWhile_marked]
    rw [Nat.add_comm 1 (List.length front)] at blocks
    refine ⟨'\uFEFF' :: front, ⟨1, 1 + (rest.takeWhile inLine).length⟩,
      Markdown.contentSpan content, by rw [List.cons_append, ← split], ?_, blocks⟩
    exact Nat.add_comm _ _
  · rw [behindMark_unmarked marked] at title
    obtain ⟨content, heading⟩ := (@markedHeading_title 0 _).mpr title
    obtain ⟨front, split, blocks⟩ := blocksBehind_marked 0 heading
    rw [Markdown.blocksOf_unmarked marked, blocks, Nat.zero_add, Nat.zero_add]
    exact ⟨front, _, _, split, rfl, rfl⟩

/-- The texts that begin with a title: behind a byte order mark, if there is one, stands a mark with
less than a tab stop of spaces before it and nothing or an indentation right behind it. -/
theorem titled_iff : Titled text ↔ TitleLine ((behindMark text).takeWhile inLine) := by
  constructor
  · rintro ⟨span, content, more, blocks, first⟩
    have headed := @blocksOf_headed text (.heading span 1 content) (by simp [blocks]) rfl
    obtain ⟨front, body, content, alone, line, marked⟩ := headed_first headed first
    have title := markedHeading_title.mp ⟨content, marked⟩
    rcases alone with rfl | rfl
    · rw [List.nil_append] at line
      rw [behindMark_unmarked (titleLine_unmarked (line ▸ title)), line]
      exact title
    · cases text with
      | nil => cases line
      | cons c rest =>
        have same : c = '\uFEFF' := by
          cases inside : inLine c <;> simp [inside] at line
          exact line.1
        subst same
        rw [takeWhile_marked] at line
        rw [show behindMark ('\uFEFF' :: rest) = rest from rfl, (List.cons.inj line).2]
        exact title
  · intro title
    obtain ⟨front, span, content, -, first, blocks⟩ := title_blocks title
    exact ⟨span, content, _, blocks, first⟩

/-! ## Dropping a title -/

theorem length_linesBelow (text : Text) :
    (linesBelow text).length ≤ (text.dropWhile inLine).length := by
  unfold linesBelow
  generalize text.dropWhile inLine = ended
  unfold behindEnding
  split <;> simp +arith

/-- A line feed ends the first line or stands below it. -/
private theorem dropWhile_feed (text : Text) :
    text.dropWhile (· != '\n') = (text.dropWhile inLine).dropWhile (· != '\n') := by
  have whole := @List.takeWhile_append_dropWhile _ inLine text
  have front : ∀ c ∈ text.takeWhile inLine, (c != '\n') = true := by
    intro c member
    have inside := List.mem_takeWhile_imp member
    unfold inLine at inside
    exact (Bool.and_eq_true_iff.mp inside).1
  conv_lhs => rw [← whole]
  exact List.dropWhile_append_of_pos front

/-- What is left of a text that begins with a mark and a space. -/
theorem stripLeadingTitle_spaced (spaced : ['#', ' '] <+: text) :
    stripLeadingTitle text = ((text.dropWhile inLine).dropWhile (· != '\n')).tail := by
  obtain ⟨rest, rfl⟩ := spaced
  rw [← dropWhile_feed]
  rfl

/-- The first line of a text and what ends it. -/
private theorem firstLine_cases (text : Text) : text.dropWhile inLine = [] ∨
    (∃ more, text.dropWhile inLine = '\n' :: more) ∨
    ∃ more, text.dropWhile inLine = '\r' :: more := by
  obtain ⟨-, -, stops⟩ := (@run_iff inLine text _ _).mp ⟨rfl, rfl⟩
  cases ended : text.dropWhile inLine with
  | nil => exact Or.inl rfl
  | cons c more =>
    rcases inLine_eq_false.mp (stops c (by rw [ended]; rfl)) with rfl | rfl
    · exact Or.inr (Or.inl ⟨more, rfl⟩)
    · exact Or.inr (Or.inr ⟨more, rfl⟩)

/-- A title with a mark and a space is dropped with its line, unless the line ends with a carriage
return and something else stands behind it. -/
theorem stripLeadingTitle_below (spaced : ['#', ' '] <+: text) :
    stripLeadingTitle text = linesBelow text ↔
      ∀ c, ['\r', c] <+: text.dropWhile inLine → c = '\n' := by
  rw [stripLeadingTitle_spaced spaced]
  unfold linesBelow
  rcases firstLine_cases text with ended | ⟨more, ended⟩ | ⟨more, ended⟩
  · rw [ended]
    exact ⟨fun _ c wrong => (nomatch wrong), fun _ => rfl⟩
  · rw [ended]
    exact ⟨fun _ c wrong => by simp at wrong, fun _ => rfl⟩
  · rw [ended]
    cases more with
    | nil => exact ⟨fun _ c wrong => by simp at wrong, fun _ => rfl⟩
    | cons c more =>
      by_cases feed : c = '\n'
      · subst feed
        exact ⟨fun _ c same => by simpa using same, fun _ => rfl⟩
      · rw [behindEnding_return feed, List.dropWhile_cons_of_pos (by decide)]
        constructor
        · intro same
          have size := congrArg List.length same
          have fewer := (List.dropWhile_sublist (· != '\n') (l := c :: more)).length_le
          simp only [List.length_tail, List.length_cons] at size fewer
          omega
        · intro paired
          exact absurd (paired c ⟨more, rfl⟩) feed

theorem stripLeadingTitle_untitled (untitled : ¬ ['#', ' '] <+: source) :
    stripLeadingTitle source = source := by
  unfold stripLeadingTitle
  split
  · rename_i rest
    exact absurd (List.prefix_append ['#', ' '] rest) untitled
  · rfl

/-- A mark and a space at the very start make a title. -/
theorem titled_of_spaced (spaced : ['#', ' '] <+: text) : Titled text := by
  obtain ⟨rest, rfl⟩ := spaced
  exact titled_iff.mpr ⟨0, ' ' :: rest.takeWhile inLine, by decide, rfl, by simp [isIndent]⟩

theorem Titled.filled (titled : Titled text) : text.takeWhile inLine ≠ [] := by
  have title := titled_iff.mp titled
  intro empty
  by_cases marked : text.head? = some '\uFEFF'
  · obtain ⟨rest, rfl⟩ := List.head?_eq_some_iff.mp marked
    rw [takeWhile_marked] at empty
    cases empty
  · rw [behindMark_unmarked marked, empty] at title
    obtain ⟨count, rest, -, line, -⟩ := title
    simp at line

/-- With its title a text loses something. -/
theorem Titled.linesBelow_ne (titled : Titled text) : linesBelow text ≠ text := by
  intro same
  have size := congrArg List.length (@List.takeWhile_append_dropWhile _ inLine text)
  have filled := List.length_pos_iff.mpr titled.filled
  have below := length_linesBelow text
  rw [same] at below
  rw [List.length_append] at size
  omega

/-- The document of a text that begins with a title: the title and the document of what stands below
it, with blank blocks between them. -/
theorem Titled.document (titled : Titled text) (unmarked : Unmarked (linesBelow text)) :
    ∃ title gap, (∀ block ∈ gap, block = Block.blank) ∧
      (ofMarkdown text).blocks =
        .heading 1 title :: (gap ++ (ofMarkdown (linesBelow text)).blocks) := by
  obtain ⟨front, span, content, split, -, blocks⟩ := title_blocks (titled_iff.mp titled)
  have moved := Document.lowerAll_moved front (linesBelow text)
    (blocksBehind [] 0 0 (linesBelow text))
  rw [← split] at moved
  obtain ⟨gap, blank, lowered⟩ := Lowered.lowerAll_cons text (.heading span 1 content)
    ((blocksBehind [] 0 0 (linesBelow text)).map (Node.moved front.length))
  refine ⟨(content.map (·.slice text)).getD [], gap, blank, ?_⟩
  unfold ofMarkdown
  rw [blocks, lowered, moved, Markdown.blocksOf_unmarked unmarked]
  rfl

/-- A text that does not begin with a title, as its blocks are read, is left as it is, and so is a
title that is not written as a mark and a space at the very start. Otherwise all that stands below
the title is left, and only that, unless the line of the title ends with a carriage return and
something else stands behind it. What is left comes to the same blocks as before, without the title,
and is all of the changelog in a readme. -/
theorem title_is_dropped (readme text : Text) :
    (¬ Titled text ∨ ¬ ['#', ' '] <+: text → stripLeadingTitle text = text) ∧
    (Titled text →
      (stripLeadingTitle text = linesBelow text ↔
        ['#', ' '] <+: text ∧ ∀ c, ['\r', c] <+: text.dropWhile inLine → c = '\n') ∧
      (stripLeadingTitle text = linesBelow text → Unmarked (linesBelow text) → ∃ title gap,
        (∀ block ∈ gap, block = Block.blank) ∧
        (ofMarkdown text).blocks =
          .heading 1 title :: (gap ++ (ofMarkdown (linesBelow text)).blocks) ∧
        build readme text = render readme ++ changelogHeading ++ render (linesBelow text))) := by
  refine ⟨fun other => ?_, fun titled => ⟨?_, fun dropped unmarked => ?_⟩⟩
  · rcases other with untitled | unspaced
    · exact stripLeadingTitle_untitled fun spaced => untitled (titled_of_spaced spaced)
    · exact stripLeadingTitle_untitled unspaced
  · constructor
    · intro dropped
      have spaced : ['#', ' '] <+: text := by
        by_contra unspaced
        exact titled.linesBelow_ne (dropped.symm.trans (stripLeadingTitle_untitled unspaced))
      exact ⟨spaced, (stripLeadingTitle_below spaced).mp dropped⟩
    · rintro ⟨spaced, ended⟩
      exact (stripLeadingTitle_below spaced).mpr ended
  · obtain ⟨title, gap, blank, blocks⟩ := titled.document unmarked
    refine ⟨title, gap, blank, blocks, ?_⟩
    unfold build
    rw [dropped]

/-- A changelog with a title and lines that end in the way of other systems. -/
private def changelog : Text := "# Changes\r\n* x".toList

theorem title_of_changelog_is_dropped :
    Titled changelog ∧ stripLeadingTitle changelog = linesBelow changelog ∧
      build ['A'] changelog = "A\n\n== Changelog ==\n* x".toList := by
  have spaced : ['#', ' '] <+: changelog := by decide +kernel
  have titled := titled_of_spaced spaced
  have ended : ∀ c, ['\r', c] <+: changelog.dropWhile inLine → c = '\n' := by
    rintro c ⟨more, same⟩
    cases same
    rfl
  obtain ⟨whole, kept⟩ := (title_is_dropped ['A'] changelog).2 titled
  have dropped := whole.mpr ⟨spaced, ended⟩
  obtain ⟨title, gap, -, -, built⟩ := kept dropped (by decide +kernel)
  refine ⟨titled, dropped, built.trans ?_⟩
  decide +kernel

/-- A title behind a tab stays in the readme, and one that ends with a carriage return takes the
next line along. -/
theorem title_stays_or_takes_lines :
    Titled "#\tTitle\nBody".toList ∧ linesBelow "#\tTitle\nBody".toList = "Body".toList ∧
      stripLeadingTitle "#\tTitle\nBody".toList = "#\tTitle\nBody".toList ∧
      build ['A'] "#\tTitle\nBody".toList =
        "A\n\n== Changelog ==\n=== Title ===\nBody".toList ∧
      Titled "# Title\rBody".toList ∧ linesBelow "# Title\rBody".toList = "Body".toList ∧
      stripLeadingTitle "# Title\rBody".toList = [] := by
  have tabbed : Titled "#\tTitle\nBody".toList :=
    titled_iff.mpr ⟨0, '\t' :: "Title".toList, by decide, by decide +kernel, by simp [isIndent]⟩
  have spaced : Titled "# Title\rBody".toList := titled_of_spaced (by decide +kernel)
  refine ⟨tabbed, ?_, ?_, ?_, spaced, ?_, ?_⟩ <;> decide +kernel

end PluginReadme.LeadingTitle
