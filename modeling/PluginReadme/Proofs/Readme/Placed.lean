import PluginReadme.Proofs.Readme.Output
import PluginReadme.Proofs.Readme.Spacing

/-! Where the lines of a block stand in a readme. Whatever is written before a block ends with its
line, and trimming the readme takes nothing of a text that begins and ends with characters that are
not blank; so the body of such a block stands in the readme as it is, on lines of its own. -/
namespace PluginReadme.Placed
open Readme (renderBlock renderDocument pushLine pushBlank renderLinks itemMark headingLine)
open Lines Spacing Output

variable {output text body line part : Text} {block : Block} {before after : List Block}

/-- A text that is not in the middle of a line. -/
def Ended (text : Text) : Prop := text = [] ∨ text.getLast? = some '\n'

/-- Whole lines of a text. -/
def Whole (lines text : Text) : Prop :=
  ∃ front back, text = front ++ lines ++ back ∧ Ended front ∧
    (back = [] ∨ back.head? = some '\n')

/-- A line among others, each ended but the last. -/
private theorem join_around (line : Text) (before after : List Text) :
    Whole line (Text.join ['\n'] (before ++ line :: after)) := by
  induction before with
  | nil =>
    cases after with
    | nil => exact ⟨[], [], by simp [join_singleton], Or.inl rfl, Or.inl rfl⟩
    | cons next after =>
      exact ⟨[], '\n' :: Text.join ['\n'] (next :: after), by simp [join_cons_cons], Or.inl rfl,
        Or.inr rfl⟩
  | cons first before ih =>
    obtain ⟨front, back, split, ended, behind⟩ := ih
    have joined : Text.join ['\n'] (first :: before ++ line :: after) =
        first ++ ['\n'] ++ Text.join ['\n'] (before ++ line :: after) := by
      cases before <;> exact join_cons_cons _ _ _ _
    refine ⟨first ++ ['\n'] ++ front, back, by rw [joined, split]; simp, ?_, behind⟩
    rcases ended with rfl | last
    · exact Or.inr (by simp)
    · exact Or.inr (by rw [List.getLast?_append, last]; rfl)

/-- Each of some whole lines is a whole line. -/
theorem Whole.single {lines : List Text} (whole : Whole (Text.join ['\n'] lines) text)
    (member : line ∈ lines) : Whole line text := by
  obtain ⟨before, after, rfl⟩ := List.append_of_mem member
  obtain ⟨front, back, rfl, ended, behind⟩ := whole
  obtain ⟨front', back', split, ended', behind'⟩ := join_around line before after
  refine ⟨front ++ front', back' ++ back, by rw [split]; simp, ?_, ?_⟩
  · rcases ended' with rfl | last
    · rwa [List.append_nil]
    · exact Or.inr (by rw [List.getLast?_append, last]; rfl)
  · rcases behind' with rfl | feed
    · exact behind
    · exact Or.inr (by rw [List.head?_append, feed]; rfl)

/-! ## Between two blocks -/

theorem ended_pushLine (output line : Text) : Ended (pushLine output line) :=
  Or.inr List.getLast?_concat

theorem ended_foldl (ended : Ended output) (lines : List Text) :
    Ended (lines.foldl pushLine output) := by
  induction lines generalizing output with
  | nil => exact ended
  | cons line lines ih => exact ih (ended_pushLine output line)

theorem ended_pushBlank (ended : Ended output) : Ended (pushBlank output) := by
  unfold pushBlank
  split
  · exact ended
  · split
    · exact Or.inr List.getLast?_concat
    · exact Or.inr (by simp)

theorem ended_renderBlock (ended : Ended output) (block : Block) :
    Ended (renderBlock output block) := by
  have lines := ended_foldl ended (linesOf block)
  rw [renderBlock_eq]
  cases block with
  | heading level text => exact lines
  | _ => exact ended_pushBlank lines

theorem ended_blocks (ended : Ended output) (blocks : List Block) :
    Ended (blocks.foldl renderBlock output) := by
  induction blocks generalizing output with
  | nil => exact ended
  | cons block blocks ih => exact ih (ended_renderBlock ended block)

/-! ## Trimming -/

/-- What is left of ended lines begins at the start of a line. -/
theorem Ended.trimStart (ended : Ended text) : Ended (Text.trimStart text) := by
  rcases ended with rfl | last
  · exact Or.inl rfl
  · obtain ⟨dropped, split⟩ := List.dropWhile_suffix Text.isBlank (l := text)
    by_cases nothing : Text.trimStart text = []
    · exact Or.inl nothing
    · have kept := List.getLast?_append_of_ne_nil dropped nothing
      rw [Text.trimStart, split, last] at kept
      exact Or.inr kept.symm

/-- Trimming touches no lines that end with a character that is not blank, if it does not reach them
from the front. -/
theorem whole_trim {front back : Text} (ended : Ended front)
    (behind : back = [] ∨ back.head? = some '\n') (ends : Ends body)
    (kept : Text.trimStart (front ++ body ++ back) = Text.trimStart front ++ body ++ back) :
    Whole body (Text.trim (front ++ body ++ back)) := by
  obtain ⟨most, last, rfl, solid⟩ := ends
  refine ⟨Text.trimStart front, Text.trimEnd back, ?_, ended.trimStart, ?_⟩
  · have stays := @trimEnd_solid (Text.trimStart front ++ most) last solid back
    rw [Text.trim, kept]
    simpa using stays
  · obtain ⟨blanks, split, -⟩ := trimEnd_split back
    cases left : Text.trimEnd back with
    | nil => exact Or.inl rfl
    | cons c rest =>
      refine Or.inr ?_
      rcases behind with rfl | feed
      · cases left
      · rw [split, left] at feed
        exact feed

/-- Trimming touches no lines that begin and end with characters that are not blank. -/
theorem Whole.trim (whole : Whole body text) (begins : ∃ c rest, body = c :: rest ∧
    Text.isBlank c = false) (ends : Ends body) : Whole body (Text.trim text) := by
  obtain ⟨front, back, rfl, ended, behind⟩ := whole
  refine whole_trim ended behind ends ?_
  obtain ⟨c, rest, rfl, solid⟩ := begins
  have kept : Text.trimStart (c :: rest ++ back) = c :: rest ++ back := by
    simp [Text.trimStart, solid]
  rw [List.append_assoc, trimStart_append]
  split
  · rename_i nothing
    rw [nothing, kept, List.nil_append]
  · rw [List.append_assoc]

/-! ## Documents -/

/-- Blocks behind a block are written behind it. -/
theorem written_around (before : List Block) (block : Block) (after : List Block) :
    ∃ rest, (before ++ block :: after).foldl renderBlock [] =
      renderBlock (before.foldl renderBlock []) block ++ rest := by
  obtain ⟨rest, later⟩ := foldl_append renderBlock_append after
    (renderBlock (before.foldl renderBlock []) block)
  exact ⟨rest, by rw [List.foldl_append, List.foldl_cons, later]⟩

/-- The body of a block stands in the readme on lines of its own. -/
theorem whole_of_body {document : Document} (member : block ∈ document.blocks)
    (solid : Solid block) (found : body? block = some body)
    (begins : ∃ c rest, body = c :: rest ∧ Text.isBlank c = false) :
    Whole body (renderDocument document) := by
  obtain ⟨before, after, split⟩ := List.append_of_mem member
  obtain ⟨more, written⟩ := renderBlock_body solid found (before.foldl renderBlock [])
  obtain ⟨rest, later⟩ := written_around before block after
  have whole : Whole body (document.blocks.foldl renderBlock []) := by
    refine ⟨before.foldl renderBlock [], '\n' :: more ++ rest, ?_,
      ended_blocks (Or.inl rfl) before, Or.inr rfl⟩
    rw [split, later, written, List.append_assoc]
  exact whole.trim begins (body_ends solid found)

/-! ## Parts of lines -/

private theorem finished_append (block : Block) (output : Text) :
    ∃ more, finished block output = output ++ more := by
  cases block with
  | heading level text => exact ⟨[], (List.append_nil output).symm⟩
  | _ => exact pushBlank_append output

/-- A text that begins and ends with a character that is not blank. -/
structure Bounded (text : Text) : Prop where
  begins : ∃ c rest, text = c :: rest ∧ Text.isBlank c = false
  ends : Ends text

/-- Trimming leaves such a part of a text. -/
theorem Bounded.trimEnd (bounded : Bounded part) (inside : part <:+: text) :
    part <:+: Text.trimEnd text := by
  obtain ⟨front, back, rfl⟩ := inside
  obtain ⟨most, last, rfl, solid⟩ := bounded.ends
  have kept := @trimEnd_solid (front ++ most) last solid back
  rw [← List.append_assoc, kept]
  exact ⟨front, Text.trimEnd back, by simp⟩

theorem Bounded.trimStart (bounded : Bounded part) (inside : part <:+: text) :
    part <:+: Text.trimStart text := by
  obtain ⟨front, back, rfl⟩ := inside
  obtain ⟨c, rest, rfl, solid⟩ := bounded.begins
  have kept : Text.trimStart (c :: rest ++ back) = c :: rest ++ back := by
    simp [Text.trimStart, solid]
  rw [List.append_assoc, trimStart_append]
  split
  · rw [kept]
    exact ⟨[], back, rfl⟩
  · exact ⟨Text.trimStart front, back, List.append_assoc ..⟩

/-- A part of a line of a block is written with the block. -/
theorem Bounded.renderBlock (bounded : Bounded part) (listed : line ∈ linesOf block)
    (inside : part <:+: line) (output : Text) : part <:+: renderBlock output block := by
  have step (output line : Text) : ∃ more, pushLine output line = output ++ more :=
    ⟨Text.trimEnd line ++ ['\n'], List.append_assoc ..⟩
  have lines : part <:+: (linesOf block).foldl pushLine output := by
    obtain ⟨before, after, split⟩ := List.append_of_mem listed
    obtain ⟨rest, later⟩ := foldl_append step after (pushLine (before.foldl pushLine output) line)
    have here := bounded.trimEnd inside
    rw [split, List.foldl_append, List.foldl_cons, later, pushLine]
    exact here.trans ⟨before.foldl pushLine output, ['\n'] ++ rest, by simp⟩
  obtain ⟨more, added⟩ := finished_append block ((linesOf block).foldl pushLine output)
  rw [renderBlock_eq, added]
  exact lines.trans (List.prefix_append _ _).isInfix

/-- A part of a line of a block stands in the readme. -/
theorem Bounded.renderDocument {document : Document} (bounded : Bounded part)
    (member : block ∈ document.blocks) (listed : line ∈ linesOf block) (inside : part <:+: line) :
    part <:+: renderDocument document := by
  obtain ⟨before, after, split⟩ := List.append_of_mem member
  obtain ⟨rest, later⟩ := written_around before block after
  have written := bounded.renderBlock listed inside (before.foldl Readme.renderBlock [])
  unfold Readme.renderDocument
  rw [split, later]
  apply bounded.trimEnd
  apply bounded.trimStart
  exact written.trans (List.prefix_append _ _).isInfix

/-! ## Headings and lists -/

/-- The line of a heading stands in the readme. -/
theorem heading_placed {document : Document} {level : Nat}
    (member : .heading level text ∈ document.blocks) (marked : 1 ≤ level) :
    Whole (Text.trimEnd (headingLine level (renderLinks text))) (renderDocument document) := by
  obtain ⟨c, mark, closing, parts, solid, -⟩ :=
    headingLine_parts marked (renderLinks text)
  have filled : Solid (.heading level text) := by
    intro blank
    have wrong := blank c (by simp [parts])
    rw [solid] at wrong
    cases wrong
  have kept := @trimEnd_solid [] c solid (mark ++ renderLinks text ++ closing)
  refine whole_of_body member filled ?_ ⟨c, _, by rw [parts]; exact kept, solid⟩
  simp [body?, linesOf, join_singleton]

private theorem itemMark_begins (start : Option Nat) (index : Nat) (rest : Text) :
    ∃ c more, Text.trimEnd (itemMark start index ++ rest) = c :: more ∧
      Text.isBlank c = false := by
  obtain ⟨c, more, marked, solid⟩ : ∃ c more, itemMark start index = c :: more ∧
      Text.isBlank c = false := by
    cases start with
    | none => exact ⟨'*', [], rfl, rfl⟩
    | some first =>
      obtain ⟨c, more, split, solid, -⟩ :=
        numbered_cons (digits_toString (first + index)) []
      exact ⟨c, more, split, solid⟩
  have kept := @trimEnd_solid [] c solid (more ++ rest)
  exact ⟨c, _, by rw [marked]; exact kept, solid⟩

/-- The lines of a list stand in the readme one after the other. -/
theorem list_placed {document : Document} {start : Option Nat} {items : List Text}
    (member : .list start items ∈ document.blocks) (filled : items ≠ []) :
    Whole (Text.join ['\n'] ((linesOf (.list start items)).map Text.trimEnd))
      (renderDocument document) := by
  obtain ⟨first, rest, rfl⟩ := List.exists_cons_of_ne_nil filled
  refine whole_of_body member trivial rfl ?_
  obtain ⟨c, more, begins, solid⟩ := itemMark_begins start 0 (' ' :: renderLinks first)
  simp only [linesOf, List.zipIdx_cons, List.map_cons, begins]
  generalize List.map Text.trimEnd _ = others
  cases others with
  | nil => exact ⟨c, more, join_singleton _ _, solid⟩
  | cons next others => exact ⟨c, _, join_cons_cons _ _ _ _, solid⟩

end PluginReadme.Placed
