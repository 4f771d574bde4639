import PluginReadme.Proofs.Text.Lines
import PluginReadme.Readme.Render

/-! How the bodies of the blocks of a document are set apart. The writer looks at the end of what it
has written so far; what comes of that can be told from the blocks alone, since the output ends
after each block with an empty line or, behind a heading, with the heading. -/
namespace PluginReadme.Spacing
open Readme (renderBlock renderDocument pushLine pushBlank quoteLine itemMark headingLine
  renderLinks)
open Numeral Lines

/-! ## The reference -/

/-- The lines of a block, blanks at their ends included. -/
def linesOf : Block → List Text
  | .heading level text => [headingLine level (renderLinks text)]
  | .list start items =>
    items.zipIdx.map fun (item, index) => itemMark start index ++ ' ' :: renderLinks item
  | .paragraph text => [renderLinks text]
  | .quote text => (Text.lines (renderLinks text)).map quoteLine
  | .blank => []
  | .verbatim text => [text]

/-- What a block is in the readme, if it has a line at all. -/
def body? (block : Block) : Option Text :=
  match linesOf block with
  | [] => none
  | line :: more => some (Text.join ['\n'] ((line :: more).map Text.trimEnd))

/-- What stands between the body of a block and the next body, which does not have to be that of
the next block. -/
def gap (block : Block) (rest : List Block) : Text :=
  match block, rest.head?.bind body? with
  | .heading _ _, some _ => ['\n']
  | _, _ => ['\n', '\n']

/-- The bodies of blocks with what stands between them, if there is a body. -/
def composed : List Block → Option Text
  | [] => none
  | block :: rest =>
    match body? block, composed rest with
    | none, later => later
    | some body, none => some body
    | some body, some later => some (body ++ gap block rest ++ later)

/-- A block whose text, if it is written as it is, is more than blanks. -/
def Solid : Block → Prop
  | .heading level text => ¬ Run Text.isBlank (headingLine level (renderLinks text))
  | .paragraph text => ¬ Run Text.isBlank (renderLinks text)
  | .verbatim text => ¬ Run Text.isBlank text
  | .list _ _ => True
  | .quote _ => True
  | .blank => True

instance : DecidablePred Solid
  | .heading level text =>
    inferInstanceAs (Decidable (¬ Run _ (headingLine level (renderLinks text))))
  | .paragraph text => inferInstanceAs (Decidable (¬ Run _ (renderLinks text)))
  | .verbatim text => inferInstanceAs (Decidable (¬ Run _ text))
  | .list _ _ => .isTrue trivial
  | .quote _ => .isTrue trivial
  | .blank => .isTrue trivial

variable {block : Block} {blocks : List Block} {output text body : Text} {opened : Bool}

/-! ## Bodies -/

/-- A text with something that is not blank at its end. -/
def Ends (text : Text) : Prop := ∃ front last, text = front ++ [last] ∧ Text.isBlank last = false

theorem trimEnd_ends (solid : ¬ Run Text.isBlank text) : Ends (Text.trimEnd text) := by
  obtain ⟨split, blank, stop⟩ :=
    run_iff.mp (⟨rfl, rfl⟩ : text.reverse.takeWhile Text.isBlank = _ ∧ _)
  cases left : text.reverse.dropWhile Text.isBlank with
  | nil =>
    rw [left, List.append_nil] at split
    refine absurd ?_ solid
    intro c member
    exact blank c (split ▸ List.mem_reverse.mpr member)
  | cons last front =>
    rw [left] at stop
    exact ⟨front.reverse, last, by simp [Text.trimEnd, left], stop last rfl⟩

private theorem item_solid (start : Option Nat) (index : Nat) (text : Text) :
    ¬ Run Text.isBlank (itemMark start index ++ text) := by
  intro blank
  cases start with
  | none => exact absurd (blank '*' (by simp [itemMark])) (by decide)
  | some first => exact absurd (blank '.' (by simp [itemMark])) (by decide)

private theorem quote_solid (line : Text) : ¬ Run Text.isBlank (quoteLine line) := by
  intro blank
  refine absurd (blank '>' ?_) (by decide)
  unfold quoteLine
  split <;> simp

theorem lines_solid (solid : Solid block) :
    ∀ line ∈ linesOf block, ¬ Run Text.isBlank line := by
  cases block with
  | heading level text =>
    intro line member
    obtain rfl := List.mem_singleton.mp member
    exact solid
  | list start items =>
    intro line member
    obtain ⟨⟨item, index⟩, -, rfl⟩ := List.mem_map.mp member
    exact item_solid start index _
  | paragraph text =>
    intro line member
    obtain rfl := List.mem_singleton.mp member
    exact solid
  | quote text =>
    intro line member
    obtain ⟨line, -, rfl⟩ := List.mem_map.mp member
    exact quote_solid line
  | blank => simp [linesOf]
  | verbatim text =>
    intro line member
    obtain rfl := List.mem_singleton.mp member
    exact solid

private theorem join_ends (parts : List Text) (ends : Ends text)
    (later : ∀ part ∈ parts, Ends part) : Ends (Text.join ['\n'] (text :: parts)) := by
  induction parts generalizing text with
  | nil => rwa [join_singleton]
  | cons part parts ih =>
    obtain ⟨here, rest⟩ := List.forall_mem_cons.mp later
    obtain ⟨front, last, split, solid⟩ := ih here rest
    refine ⟨text ++ ['\n'] ++ front, last, ?_, solid⟩
    rw [join_cons_cons, split, List.append_assoc (text ++ ['\n'])]

/-- The body of a block ends with a character that is not blank. -/
theorem body_ends (solid : Solid block) (found : body? block = some body) : Ends body := by
  have lines := lines_solid solid
  unfold body? at found
  cases written : linesOf block with
  | nil =>
    rw [written] at found
    cases found
  | cons line more =>
    rw [written] at found lines
    obtain rfl := Option.some.inj found
    obtain ⟨here, later⟩ := List.forall_mem_cons.mp lines
    refine join_ends _ (trimEnd_ends here) fun part member => ?_
    obtain ⟨line, listed, rfl⟩ := List.mem_map.mp member
    exact trimEnd_ends (later line listed)

/-! ## The writer -/

/-- What the writer does when the lines of a block are written. -/
def finished (block : Block) (output : Text) : Text :=
  match block with
  | .heading _ _ => output
  | _ => pushBlank output

theorem renderBlock_eq (output : Text) (block : Block) :
    renderBlock output block = finished block ((linesOf block).foldl pushLine output) := by
  cases block with
  | heading level text => rfl
  | list start items => simp only [renderBlock, finished, linesOf, List.foldl_map]
  | paragraph text => rfl
  | quote text => simp only [renderBlock, finished, linesOf, List.foldl_map]
  | blank => rfl
  | verbatim text => rfl

private theorem foldl_pushLine (output line : Text) (more : List Text) :
    (line :: more).foldl pushLine output =
      output ++ Text.join ['\n'] ((line :: more).map Text.trimEnd) ++ ['\n'] := by
  induction more generalizing output line with
  | nil =>
    rw [List.map_cons, List.map_nil, join_singleton]
    rfl
  | cons next more ih =>
    rw [List.foldl_cons, ih, List.map_cons, List.map_cons, List.map_cons, join_cons_cons, pushLine]
    simp

/-- How the output ends between two blocks: with an empty line, if anything has been written, or
with a line that has been ended. -/
private inductive Stands : Bool → Text → Prop where
  | start : Stands false []
  | closed (front : Text) : Stands false (front ++ ['\n', '\n'])
  | opened {front : Text} (ends : Ends front) : Stands true (front ++ ['\n'])

private theorem pushBlank_ended (ends : Ends text) :
    pushBlank (text ++ ['\n']) = text ++ ['\n', '\n'] := by
  obtain ⟨front, last, rfl, solid⟩ := ends
  have single : ¬ ['\n', '\n'] <:+ front ++ [last] ++ ['\n'] := by
    rintro ⟨before, split⟩
    have halves : before ++ ['\n'] ++ ['\n'] = front ++ [last] ++ ['\n'] := by simpa using split
    obtain ⟨feed, -⟩ := List.append_inj' halves rfl
    obtain ⟨-, same⟩ := List.append_inj' feed rfl
    cases same
    cases solid
  have ended : ['\n'] <:+ front ++ [last] ++ ['\n'] := List.suffix_append _ _
  rw [pushBlank, if_neg (by simpa [List.isSuffixOf_iff_suffix] using single),
    if_pos (List.isSuffixOf_iff_suffix.mpr ended), List.append_assoc _ ['\n']]
  rfl

/-- An empty line is added behind a line that has been ended, and nowhere else. -/
private theorem pushBlank_stands (stands : Stands opened output) :
    pushBlank output = output ++ (if opened then ['\n'] else []) ∧
      Stands false (pushBlank output) := by
  cases stands with
  | start => exact ⟨rfl, .start⟩
  | closed front =>
    have kept : pushBlank (front ++ ['\n', '\n']) = front ++ ['\n', '\n'] := by
      simp [pushBlank, List.isSuffixOf_iff_suffix]
    rw [kept]
    exact ⟨(List.append_nil _).symm, .closed front⟩
  | opened ends =>
    rw [pushBlank_ended ends]
    exact ⟨(List.append_assoc _ ['\n'] ['\n']).symm, .closed _⟩

/-! ## The blocks -/

/-- Whether the next body may follow on the next line. -/
private def opens : Block → Bool
  | .heading _ _ => true
  | _ => false

/-- What the writer puts behind the body of a block. -/
private def ending (block : Block) : Text := if opens block then ['\n'] else ['\n', '\n']

/-- What the writer adds to that before the next body. -/
private def lead (opened : Bool) (rest : List Block) : Text :=
  if opened && (rest.head?.bind body?).isNone then ['\n'] else []

private theorem gap_eq (block : Block) (rest : List Block) :
    gap block rest = ending block ++ lead (opens block) rest := by
  cases block with
  | heading level text =>
    cases found : rest.head?.bind body? <;> simp [gap, ending, lead, opens, found]
  | _ => simp [gap, ending, lead, opens]

private theorem renderBlock_none (nothing : body? block = none) (output : Text) :
    renderBlock output block = pushBlank output := by
  have unwritten : linesOf block = [] := by
    unfold body? at nothing
    split at nothing
    · assumption
    · cases nothing
  rw [renderBlock_eq, unwritten, List.foldl_nil]
  cases block with
  | heading level text => cases unwritten
  | _ => rfl

/-- A block that has a body writes it and ends it, whatever stands before it. -/
private theorem renderBlock_some (solid : Solid block) (found : body? block = some body)
    (output : Text) :
    renderBlock output block = output ++ body ++ ending block ∧
      Stands (opens block) (renderBlock output block) := by
  obtain ⟨front, last, ends, nonblank⟩ := body_ends solid found
  have written : (linesOf block).foldl pushLine output = output ++ body ++ ['\n'] := by
    unfold body? at found
    split at found
    · cases found
    · rename_i line more lines
      rw [lines, foldl_pushLine, Option.some.inj found]
  have ends : Ends (output ++ body) := ⟨output ++ front, last, by simp [ends], nonblank⟩
  have rendered : renderBlock output block = output ++ body ++ ending block := by
    rw [renderBlock_eq, written]
    cases block with
    | heading level text => rfl
    | _ => exact pushBlank_ended ends
  refine ⟨rendered, ?_⟩
  rw [rendered]
  cases block with
  | heading level text => exact .opened ends
  | _ => exact .closed _

/-- The body of a block stands behind all that has been written, and its last line is ended. -/
theorem renderBlock_body (solid : Solid block) (found : body? block = some body)
    (output : Text) : ∃ more, renderBlock output block = output ++ body ++ '\n' :: more := by
  obtain ⟨written, -⟩ := renderBlock_some solid found output
  rw [written]
  unfold ending
  split
  · exact ⟨[], rfl⟩
  · exact ⟨['\n'], rfl⟩

/-- The blocks add their bodies to the output, with what stands between them, and blanks. -/
private theorem foldl_renderBlock (solid : ∀ block ∈ blocks, Solid block)
    (stands : Stands opened output) :
    ∃ tail, Run Text.isBlank tail ∧ blocks.foldl renderBlock output =
      output ++ (match composed blocks with
        | none => []
        | some text => lead opened blocks ++ text) ++ tail := by
  induction blocks generalizing output opened with
  | nil => exact ⟨[], Run.nil, by simp [composed]⟩
  | cons block rest ih =>
    obtain ⟨here, later⟩ := List.forall_mem_cons.mp solid
    rw [List.foldl_cons]
    cases found : body? block with
    | none =>
      obtain ⟨added, closed⟩ := pushBlank_stands stands
      rw [renderBlock_none found]
      obtain ⟨tail, blank, onward⟩ := ih later closed
      rw [onward, added]
      have filled : lead opened (block :: rest) = if opened then ['\n'] else [] := by
        simp [lead, found]
      have unled : lead false rest = [] := rfl
      cases next : composed rest with
      | none =>
        refine ⟨(if opened then ['\n'] else []) ++ tail, run_append.mpr ⟨?_, blank⟩, ?_⟩
        · cases opened <;> decide
        · simp [composed, found, next]
      | some text => exact ⟨tail, blank, by simp [composed, found, next, unled, filled]⟩
    | some body =>
      obtain ⟨written, ended⟩ := renderBlock_some here found output
      obtain ⟨tail, blank, onward⟩ := ih later ended
      rw [onward, written]
      have unled : lead opened (block :: rest) = [] := by simp [lead, found]
      cases next : composed rest with
      | none =>
        refine ⟨ending block ++ tail, run_append.mpr ⟨?_, blank⟩, ?_⟩
        · unfold ending
          split <;> decide
        · simp [composed, found, next, unled]
      | some text =>
        exact ⟨tail, blank, by simp [composed, found, next, unled, gap_eq]⟩

/-- What is written for a document are its bodies and blanks behind them. -/
theorem foldl_composed (solid : ∀ block ∈ blocks, Solid block) :
    ∃ tail, Run Text.isBlank tail ∧
      blocks.foldl renderBlock [] = (composed blocks).getD [] ++ tail := by
  obtain ⟨tail, blank, written⟩ := foldl_renderBlock solid .start
  refine ⟨tail, blank, written.trans ?_⟩
  cases composed blocks <;> rfl

/-- A document whose headings, paragraphs and copied blocks are not blank comes out as the bodies
of its blocks. A body stands on the line below a heading if it is that of the next block, and
behind one empty line everywhere else. -/
theorem document_is_composed (document : Document)
    (solid : ∀ block ∈ document.blocks, Solid block) :
    renderDocument document = Text.trim ((composed document.blocks).getD []) := by
  obtain ⟨tail, blank, written⟩ := foldl_composed solid
  rw [renderDocument, written, trim_append_blank _ blank]

/-- A document with a block of each kind, and with an empty list and a blank between two bodies. -/
private def mixed : Document where
  blocks := [.blank, .heading 1 ['a'], .paragraph ['b', ' '], .heading 4 ['c'], .list none [],
    .blank, .list (some 2) [['d'], []], .quote "e\n\n[f](g)".toList, .verbatim ['h', '\n', '\n'], .blank]

theorem mixed_document_is_composed :
    (∀ block ∈ mixed.blocks, Solid block) ∧ renderDocument mixed =
      "=== a ===\nb\n\n#### c\n\n2. d\n3.\n\n> e\n>\n> f (g)\n\nh".toList := by
  have solid : ∀ block ∈ mixed.blocks, Solid block := by decide +kernel
  refine ⟨solid, ?_⟩
  rw [document_is_composed mixed solid]
  decide +kernel

end PluginReadme.Spacing
