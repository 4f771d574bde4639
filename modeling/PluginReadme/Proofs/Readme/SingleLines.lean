import PluginReadme.Proofs.Document.Lowering
import PluginReadme.Proofs.Markdown.Headings
import PluginReadme.Proofs.Readme.Placed

/-! Headings and list items on single lines. A heading with marks in front of it is a part of one
line of the source; one that is underlined may take several rows, which are not joined. An item is
joined line by line, but only line feeds end lines there, so that a carriage return by itself stays
in it. -/
namespace PluginReadme.SingleLines
open Readme (render renderLinks headingLine itemMark)
open Markdown (Node Span Cell TextLine blocksOf contentSpan markedHeading underline trimCells
  joinedCells allBlank)
open Document (entries lower)
open Numeral Lines Links SourceLine Layout Leaves Headings Lowered Spacing Output Placed

variable {source text : Text} {span place : Span} {level start stop : Nat} {content : Option Span}
  {cells within : List Cell}

/-! ## Headings -/

/-- A line of a source that is not blank. -/
def IsRow (source : Text) (row : TextLine) : Prop :=
  Stands source row.start row.stop row.cells ∧ allBlank row.cells = false

/-- A text of at least two rows with a line of heading marks below them. -/
def Stacked (source : Text) (level : Nat) (text : Text) : Prop :=
  ∃ (place : Span) (first second under : TextLine), text = place.slice source ∧
    first.start ≤ place.start ∧ place.stop ≤ under.start ∧
    IsRow source first ∧ IsRow source second ∧ first.stop ≤ second.start ∧
    second.stop ≤ under.start ∧
    Stands source under.start under.stop under.cells ∧ underline under.cells = some level

/-- The text of a heading is what its content covers. -/
def headingText (source : Text) (content : Option Span) : Text :=
  (content.map (·.slice source)).getD []

/-- Content that is taken from a line is a part of the line. -/
theorem content_inLine (stands : Stands source start stop cells)
    (taken : ∀ cell ∈ within, cell ∈ cells) :
    Run inLine (headingText source (contentSpan within)) := by
  cases found : contentSpan within with
  | none => exact Run.nil
  | some place =>
    obtain ⟨first, more, last, head, ends, begins, stops⟩ := contentSpan_cases found
    have first' := stands.within (taken first (by simp [head]))
    have last' := stands.within (taken last (List.mem_of_getLast? ends))
    exact stands.inside (by omega) (by omega)

theorem mem_trimCells {cell : Cell} (member : cell ∈ trimCells cells) : cell ∈ cells := by
  have inside := (List.dropWhile_sublist _).mem (List.mem_reverse.mp member)
  exact List.mem_reverse.mp inside

/-- Only an underlined heading of several rows has a text with an end of a line in it. -/
theorem headed_text (headed : Headed source (.heading span level content)) :
    1 ≤ level ∧ (Run inLine (headingText source content) ∨
      Stacked source level (headingText source content)) := by
  cases headed with
  | marked stands marked =>
    obtain ⟨positive, taken⟩ := markedHeading_within marked
    exact ⟨positive, Or.inl (content_inLine stands taken)⟩
  | @underlined _ low high _ first under rows laid starts below stands marked =>
    refine ⟨underline_level marked, ?_⟩
    cases laid with
    | @cons low high row rows here solid after dense rest =>
      cases rest with
      | nil below' =>
        refine Or.inl (content_inLine here fun cell member => ?_)
        exact (List.dropWhile_sublist _).mem (mem_trimCells member)
      | @cons low high second rows there solid' after' dense' rest' =>
        have order := rest'.le
        have whole : Rows source first.start (first :: second :: rows) high :=
          .cons here solid (Nat.le_refl _) dense (.cons there solid' after' dense' rest')
        cases found : contentSpan
            (trimCells ((joinedCells (first :: second :: rows)).dropWhile (·.char == ' '))) with
        | none => exact Or.inl Run.nil
        | some place =>
          obtain ⟨begins, ends, -⟩ := joined_content whole found
          exact Or.inr ⟨place, first, second, under, rfl, begins, by omega, ⟨here, solid⟩,
            ⟨there, solid'⟩, after', by omega, stands, marked⟩

/-- Marks around a text on one line, and its links rewritten, make one line. -/
theorem headingLine_inLine (level : Nat) (run : Run inLine text) :
    Run inLine (headingLine level (renderLinks text)) := by
  have edited : Run inLine (renderLinks text) := by
    intro c member
    rcases (renderLinks_edit text).mem member with inside | rfl
    · exact run c inside
    · rfl
  unfold headingLine
  split
  · exact run_append.mpr ⟨run_append.mpr ⟨by decide, edited⟩, by decide⟩
  · exact run_append.mpr ⟨run_append.mpr ⟨by decide, edited⟩, by decide⟩
  · exact run_append.mpr ⟨run_append.mpr ⟨by decide, edited⟩, by decide⟩
  · refine run_append.mpr ⟨fun c member => ?_, run_cons.mpr ⟨rfl, edited⟩⟩
    rw [List.eq_of_mem_replicate member]
    rfl

/-! ## Items -/

/-- An item of a list holds no line feed, and a carriage return only if the source has one by
itself. -/
theorem entry_lines {entry : Text} (joined : Joined source entry) :
    '\n' ∉ entry ∧ ('\r' ∈ entry → LoneReturn source) := by
  constructor
  · intro member
    obtain ⟨span, inside⟩ := joined.part member (by decide)
    exact joinLines_free _ inside
  · intro member
    obtain ⟨span, inside⟩ := joined.part member (by decide)
    obtain ⟨c, other, pair⟩ := joinLines_return inside
    refine ⟨c, other, pair.trans ?_⟩
    exact (List.take_prefix _ _).isInfix.trans (List.drop_suffix _ _).isInfix

theorem itemMark_inLine (start : Option Nat) (index : Nat) : Run inLine (itemMark start index) := by
  cases start with
  | none => exact run_cons.mpr ⟨rfl, Run.nil⟩
  | some first =>
    refine run_append.mpr ⟨fun c member => ?_, by decide⟩
    have digit := digits_toString (first + index) c member
    by_contra ending
    have ending : inLine c = false := by simpa using ending
    rcases inLine_eq_false.mp ending with rfl | rfl <;> cases digit

/-- An end of a line in the line of an item stands in the item. -/
theorem mem_itemLine {start : Option Nat} {index : Nat} {item : Text} {c : Char}
    (member : c ∈ Text.trimEnd (itemMark start index ++ ' ' :: renderLinks item))
    (ends : inLine c = false) : c ∈ item := by
  rcases List.mem_append.mp ((trimEnd_front _).mem member) with mark | rest
  · rw [itemMark_inLine start index c mark] at ends
    cases ends
  · rcases List.mem_cons.mp rest with rfl | inside
    · cases ends
    · rcases (renderLinks_edit item).mem inside with here | rfl
      · exact here
      · cases ends

/-! ## Documents -/

/-- The text of a heading stands on one line, unless the heading is underlined and takes several
rows; and then the heading is one line of the readme, with its marks. An item holds no line feed,
and a carriage return only if there is one in the source that no line feed follows; it is one line
of the readme, up to such a carriage return. -/
theorem blocks_are_single_lines (source : Text) :
    (∀ level text, .heading level text ∈ (Document.ofMarkdown source).blocks →
      (Run inLine text ∨ Stacked source level text) ∧
      (Run inLine text → Run inLine (headingLine level (renderLinks text)) ∧
        Whole (Text.trimEnd (headingLine level (renderLinks text))) (render source))) ∧
    ∀ start items, .list start items ∈ (Document.ofMarkdown source).blocks →
      ∀ (index : Nat) item, items[index]? = some item →
        let line := Text.trimEnd (itemMark start index ++ ' ' :: renderLinks item)
        ('\n' ∉ item ∧ ('\r' ∈ item → LoneReturn source)) ∧
        ('\n' ∉ line ∧ ('\r' ∈ line → LoneReturn source)) ∧ Whole line (render source) := by
  constructor
  · intro level text member
    obtain ⟨span, content, inside, rfl⟩ : ∃ span content,
        .heading span level content ∈ blocksOf source ∧ text = headingText source content := by
      rcases mem_lowerAll member with wrong | ⟨node, inside, lowered⟩
      · cases wrong
      · cases node with
        | heading span level content =>
          cases lowered
          exact ⟨span, content, inside, rfl⟩
        | _ => cases lowered
    obtain ⟨marked, single⟩ := headed_text (blocksOf_headed inside rfl)
    exact ⟨single, fun run => ⟨headingLine_inLine level run, heading_placed member marked⟩⟩
  · intro start items member index item here line
    obtain ⟨nodes, rfl⟩ : ∃ nodes, items = entries source nodes := by
      rcases mem_lowerAll member with wrong | ⟨node, inside, lowered⟩
      · cases wrong
      · cases node with
        | list span mark start nodes =>
          cases lowered
          exact ⟨nodes, rfl⟩
        | _ => cases lowered
    have listed := List.mem_of_getElem? here
    obtain ⟨feed, alone⟩ := entry_lines (entries_joined source nodes item listed)
    refine ⟨⟨feed, alone⟩, ⟨fun wrong => feed (mem_itemLine wrong rfl),
      fun found => alone (mem_itemLine found rfl)⟩, ?_⟩
    have written : ((linesOf (.list start (entries source nodes))).map Text.trimEnd)[index]? =
        some line := by
      simp [linesOf, List.getElem?_map, List.getElem?_zipIdx, here, line]
    exact (list_placed member (List.ne_nil_of_mem listed)).single (List.mem_of_getElem? written)

/-- A heading with marks, one that is underlined, and a wrapped item. -/
private def plain : Text := "# a\nb\n---\n* c\n  d".toList

theorem plain_is_single_lines :
    Whole "=== a ===".toList (render plain) ∧ Whole "== b ==".toList (render plain) ∧
      Whole "* c d".toList (render plain) := by
  have read : (Document.ofMarkdown plain).blocks =
      [.heading 1 ['a'], .heading 2 ['b'], .list none ["c d".toList]] := by
    decide +kernel
  obtain ⟨headings, lists⟩ := blocks_are_single_lines plain
  have first := (headings 1 ['a'] (by simp [read])).2 (by decide)
  have second := (headings 2 ['b'] (by simp [read])).2 (by decide)
  have item := lists none ["c d".toList] (by simp [read]) 0 _ rfl
  have above : Text.trimEnd (headingLine 1 (renderLinks ['a'])) = "=== a ===".toList := by
    decide +kernel
  have below : Text.trimEnd (headingLine 2 (renderLinks ['b'])) = "== b ==".toList := by
    decide +kernel
  have mark : Text.trimEnd (itemMark none 0 ++ ' ' :: renderLinks "c d".toList) =
      "* c d".toList := by
    decide +kernel
  rw [above] at first
  rw [below] at second
  rw [mark] at item
  exact ⟨first.2, second.2, item.2.2⟩

/-- An underlined heading of two rows. -/
private def stacked : Text := "a\nb\n===".toList

/-- An item with a carriage return in it. -/
private def returned : Text := "* a\rb".toList

/-- Such headings and items come out on several lines. -/
theorem headings_and_items_break :
    (Document.ofMarkdown stacked).blocks = [.heading 1 "a\nb".toList] ∧
      render stacked = "=== a\nb ===".toList ∧
      (Document.ofMarkdown returned).blocks = [.list none ["a\rb".toList]] ∧
      render returned = "* a\rb".toList := by
  decide +kernel

end PluginReadme.SingleLines
