import PluginReadme.Proofs.Readme.Placed

/-! Blocks that are copied. Their text stands in the readme as it is but for blanks at its end: its
links are not rewritten, and its lines are not touched. Only the readme as a whole is trimmed, which
takes the indentation off the first line of a copied block if nothing visible stands in front. -/
namespace PluginReadme.Verbatim
open Readme (render renderBlock renderDocument pushLine pushBlank)
open Markdown (blocksOf)
open Numeral Lines Spacing Output Placed

variable {output text : Text} {block : Block} {before after : List Block} {document : Document}

/-- A block that writes more than blanks. -/
def Seen (block : Block) : Prop := ∃ line ∈ linesOf block, ¬ Run Text.isBlank line

private theorem blank_pushLine (output line : Text) :
    Run Text.isBlank (pushLine output line) ↔ Run Text.isBlank output ∧ Run Text.isBlank line := by
  obtain ⟨blanks, split, blank⟩ := trimEnd_split line
  have feed : Run Text.isBlank ['\n'] := by decide
  rw [pushLine, run_append, run_append]
  constructor
  · rintro ⟨⟨written, trimmed⟩, -⟩
    rw [split]
    exact ⟨written, run_append.mpr ⟨trimmed, blank⟩⟩
  · rintro ⟨written, whole⟩
    rw [split] at whole
    exact ⟨⟨written, (run_append.mp whole).1⟩, feed⟩

private theorem blank_pushBlank (output : Text) :
    Run Text.isBlank (pushBlank output) ↔ Run Text.isBlank output := by
  unfold pushBlank
  split
  · exact Iff.rfl
  · split
    · rw [run_append, and_iff_left (by decide)]
    · rw [run_append, and_iff_left (by decide)]

/-- The output stays blank as long as nothing but blanks is written. -/
theorem blank_renderBlock (output : Text) (block : Block) :
    Run Text.isBlank (renderBlock output block) ↔ Run Text.isBlank output ∧ ¬ Seen block := by
  have lines (lines : List Text) : Run Text.isBlank (lines.foldl pushLine output) ↔
      Run Text.isBlank output ∧ ∀ line ∈ lines, Run Text.isBlank line := by
    induction lines generalizing output with
    | nil => simp
    | cons line lines ih =>
      rw [List.foldl_cons, ih, blank_pushLine, List.forall_mem_cons, and_assoc]
  have unseen : (¬ Seen block) ↔ ∀ line ∈ linesOf block, Run Text.isBlank line := by
    simp [Seen]
  rw [renderBlock_eq, unseen, ← lines]
  cases block with
  | heading level text => exact Iff.rfl
  | _ => exact blank_pushBlank _

theorem blank_blocks (blocks : List Block) (output : Text) :
    Run Text.isBlank (blocks.foldl renderBlock output) ↔
      Run Text.isBlank output ∧ ∀ block ∈ blocks, ¬ Seen block := by
  induction blocks generalizing output with
  | nil => simp
  | cons block blocks ih =>
    rw [List.foldl_cons, ih, blank_renderBlock, List.forall_mem_cons, and_assoc]

/-- A copied block is written as it is, and its last line is ended. -/
private theorem written_copied (before : List Block) (text : Text) (after : List Block) :
    ∃ more, (before ++ .verbatim text :: after).foldl renderBlock [] =
      before.foldl renderBlock [] ++ Text.trimEnd text ++ '\n' :: more := by
  obtain ⟨rest, later⟩ := written_around before (.verbatim text) after
  obtain ⟨first, added⟩ := pushBlank_append (pushLine (before.foldl renderBlock []) text)
  refine ⟨first ++ rest, ?_⟩
  rw [later, renderBlock, added, pushLine]
  simp

/-- A copied block stands in the readme as it is, blanks at its end aside: in one piece, and on
lines of its own if it is not blank. Where nothing visible stands in front of it and it begins with
blanks, the readme begins with what is left of it when these are taken away, too. -/
theorem copied_block_is_kept (placed : document.blocks = before ++ .verbatim text :: after) :
    ((∃ block ∈ before, Seen block) ∨ (∀ c ∈ text.head?, Text.isBlank c = false) →
      Text.trimEnd text <:+: renderDocument document ∧
        (¬ Run Text.isBlank text → Whole (Text.trimEnd text) (renderDocument document))) ∧
    ((∀ block ∈ before, ¬ Seen block) → Text.trim text <+: renderDocument document) := by
  obtain ⟨more, written⟩ := written_copied before text after
  have ended : Ended (before.foldl renderBlock []) := ended_blocks (Or.inl rfl) before
  have blank := blank_blocks before []
  unfold renderDocument
  rw [placed, written]
  generalize before.foldl renderBlock [] = front at written ended blank ⊢
  constructor
  · intro reached
    have whole (solid : ¬ Run Text.isBlank text) :
        Whole (Text.trimEnd text) (Text.trim (front ++ Text.trimEnd text ++ '\n' :: more)) := by
      rcases reached with seen | begins
      · have filled : ¬ Run Text.isBlank front := fun run =>
          absurd (blank.mp run).2 (by simpa using seen)
        refine whole_trim ended (Or.inr rfl) (trimEnd_ends solid) ?_
        rw [List.append_assoc, trimStart_append, if_neg (mt trimStart_eq_nil.mp filled),
          List.append_assoc]
      · have lines : Whole (Text.trimEnd text) (front ++ Text.trimEnd text ++ '\n' :: more) :=
          ⟨front, _, rfl, ended, Or.inr rfl⟩
        refine lines.trim ?_ (trimEnd_ends solid)
        cases text with
        | nil => exact absurd Run.nil solid
        | cons c rest =>
          have kept := @trimEnd_solid [] c (begins c rfl) rest
          exact ⟨c, Text.trimEnd rest, kept, begins c rfl⟩
    refine ⟨?_, whole⟩
    by_cases solid : Run Text.isBlank text
    · rw [trimEnd_of_blank solid]
      exact List.nil_infix
    · obtain ⟨front', back, split, -⟩ := whole solid
      exact ⟨front', back, split.symm⟩
  · intro unseen
    obtain ⟨blanks, split, blank'⟩ := trimEnd_split text
    have nothing : Run Text.isBlank front := blank.mpr ⟨Run.nil, unseen⟩
    have same : Text.trim text = Text.trim (Text.trimEnd text) := by
      conv_lhs => rw [split, trim_append_blank _ blank']
    rw [List.append_assoc, trim_blank_append nothing, same]
    exact trim_front _ _

/-- Indented code behind a heading, with what would be a link in running text. -/
private def codeBelow : Document where
  blocks := [.heading 1 ['t'], .verbatim "    [a](b)\n\n      c \n".toList]

theorem code_below_is_kept :
    codeBelow.blocks = [.heading 1 ['t']] ++ .verbatim "    [a](b)\n\n      c \n".toList :: [] ∧
      (∃ block ∈ [Block.heading 1 ['t']], Seen block) ∧
      "    [a](b)\n\n      c".toList <:+: renderDocument codeBelow := by
  have placed : codeBelow.blocks =
      [.heading 1 ['t']] ++ .verbatim "    [a](b)\n\n      c \n".toList :: [] := rfl
  have seen : ∃ block ∈ [Block.heading 1 ['t']], Seen block :=
    ⟨_, List.mem_cons_self, _, List.mem_cons_self, by decide +kernel⟩
  exact ⟨placed, seen, ((copied_block_is_kept placed).1 (Or.inl seen)).1⟩

/-- Indented code alone. -/
private def codeAlone : Text := "    a\n    b".toList

/-- Its first line comes out without its indentation, the second with it. -/
theorem first_indent_is_trimmed :
    (Document.ofMarkdown codeAlone).blocks = [.verbatim codeAlone] ∧
      render codeAlone = "a\n    b".toList ∧
      ¬ Text.trimEnd codeAlone <:+: renderDocument (Document.ofMarkdown codeAlone) := by
  refine ⟨by decide +kernel, by decide +kernel, by decide +kernel⟩

end PluginReadme.Verbatim
