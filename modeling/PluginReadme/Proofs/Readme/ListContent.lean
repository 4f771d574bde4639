import PluginReadme.Proofs.Document.ItemText

/-! What the lines of a list in a readme give when they are read from top to bottom. Nothing that
the items hold is lost and nothing is said twice. An item's text comes in front of the items nested
in it, also what the source has behind them; without such text the order is that of the source. -/
namespace PluginReadme.ListContent
open Readme (render renderLinks itemMark)
open Document (entries)
open Markdown (Node Item Span blocksOf)
open PluginReadme.Numbering (own lines lines_placed line_of_entry)
open Lines Placed Stretches Flattening ItemText

variable {source markdown : Text} {low high : Nat} {item : Item} {items : List Item} {span : Span}

/-- The text of some stretches of a source, without blanks. -/
def read (source : Text) (spans : List Span) : Text :=
  spans.flatMap fun span => ink (span.slice source)

/-- Read one after the other, the entries of a list give the text of the blocks they are made of. -/
theorem entries_read (source : Text) (items : List Item) :
    (entries source items).flatMap ink = read source ((preorder items).flatMap ownSpans) := by
  rw [entries_eq_map, List.flatMap_map, read, List.flatMap_assoc]
  simp only [ink_own]

/-- The place where an item begins. -/
private def begins (item : Item) : Span := ⟨item.span.start, item.span.start⟩

private theorem begins_apart (apart : Apart low (items.map Item.span) high)
    (rows : ∀ item ∈ items, Row item.span.start item.children item.span.stop) :
    Apart low ((preorder items).map begins) high := by
  induction items using items_induct generalizing low high with
  | nil => exact apart
  | cons item rest inside ih =>
    obtain ⟨here, later⟩ := List.forall_mem_cons.mp rows
    have below : Apart item.span.start
        ((nested item).flatMap fun inner => (preorder inner).map begins) item.span.stop := by
      rw [nested, List.filterMap_eq_flatMap_toList, List.flatMap_assoc]
      refine here.flatMap fun node child fits => ?_
      cases found : itemsOf node with
      | none => exact .nil fits
      | some inner =>
        obtain ⟨apart, rows⟩ := nested_rows here child found
        rw [Option.toList_some, List.flatMap_cons, List.flatMap_nil, List.append_nil]
        exact inside inner (List.mem_filterMap.mpr ⟨node, child, found⟩) apart rows
    cases apart with
    | cons after fits behind =>
      rw [preorder_cons, List.cons_append, List.map_cons, List.map_append, List.map_flatMap]
      exact .cons after (Nat.le_refl _) (below.append (ih behind later))

/-- Items come in the order in which they begin in the source. -/
theorem preorder_begins (apart : Apart low (items.map Item.span) high)
    (rows : ∀ item ∈ items, Row item.span.start item.children item.span.stop) :
    (preorder items).Pairwise fun item later => item.span.start ≤ later.span.start := by
  have places := (begins_apart apart rows).pairwise
  rw [List.pairwise_map] at places
  exact places

/-- The lines of a list, read from top to bottom without their marks and before links are rewritten,
give the text of the blocks in its items, blanks aside, each block once. Items come in the order in
which they begin in the source, and the text of an item is that of its blocks in the order of the
source, but all of it stands in front of the items nested in it. If no item has text behind a nested
list, the order is that of the source throughout. -/
theorem list_content_is_kept {mark : Char} {start : Option Nat}
    (listed : .list span mark start items ∈ blocksOf markdown) :
    (∀ (place : Nat) entry, (entries markdown items)[place]? = some entry →
      Whole (Text.join ['\n'] (lines markdown start items)) (render markdown) ∧
      (lines markdown start items)[place]? =
        some (Text.trimEnd (itemMark start place ++ ' ' :: renderLinks entry))) ∧
    (entries markdown items = (preorder items).map (own markdown) ∧
      (preorder items).Pairwise (fun item later => item.span.start ≤ later.span.start) ∧
      ∀ item ∈ preorder items, ink (own markdown item) = read markdown (ownSpans item) ∧
        (ownSpans item).Pairwise fun span later => span.stop ≤ later.start) ∧
    ((entries markdown items).flatMap ink = read markdown ((preorder items).flatMap ownSpans) ∧
      ((preorder items).flatMap ownSpans).Perm (contents items) ∧
      (contents items).Pairwise fun span later => span.stop ≤ later.start) ∧
    ((∀ item ∈ preorder items, ListsLast item) →
      (entries markdown items).flatMap ink = read markdown (contents items)) := by
  obtain ⟨high, row⟩ := Enclosing.blocksOf_row markdown
  obtain ⟨apart, rows⟩ := list_rows (row.inner _ listed)
  refine ⟨fun place entry here => ⟨lines_placed listed here, line_of_entry start here⟩,
    ⟨entries_eq_map markdown items, preorder_begins apart rows,
      fun item member => ⟨ink_own markdown item, ?_⟩⟩,
    ⟨entries_read markdown items, ownSpans_perm items, (contents_apart apart rows).pairwise⟩,
    fun last => ?_⟩
  · have children := (preorder_rows rows item member).apart
    exact (children.sublist (List.filter_sublist.map Node.span)).pairwise
  · rw [entries_read, ownSpans_ordered last]

/-- A list in which an item goes on behind the list nested in it. -/
private def resumedList : Text := "* a\n  * b\n\n  c".toList

private def resumedItems : List Item :=
  [.mk ⟨0, 14⟩ [.paragraph ⟨2, 3⟩, .list ⟨6, 10⟩ '*' none [.mk ⟨6, 10⟩ [.paragraph ⟨8, 9⟩]],
    .paragraph ⟨13, 14⟩]]

private theorem resumedList_blocks :
    blocksOf resumedList = [.list ⟨0, 14⟩ '*' none resumedItems] := by
  with_unfolding_all rfl

theorem resumed_list_keeps_its_content :
    Node.list ⟨0, 14⟩ '*' none resumedItems ∈ blocksOf resumedList ∧
      entries resumedList resumedItems = ["a c".toList, ['b']] ∧
      ([⟨2, 3⟩, ⟨13, 14⟩, ⟨8, 9⟩] : List Span).Perm (contents resumedItems) := by
  have listed : Node.list ⟨0, 14⟩ '*' none resumedItems ∈ blocksOf resumedList := by
    simp [resumedList_blocks]
  obtain ⟨-, ⟨entered, -⟩, ⟨-, same, -⟩, -⟩ := list_content_is_kept listed
  refine ⟨listed, ?_, same⟩
  rw [entered]
  decide +kernel

/-- The text behind the nested list comes out in front of it: the source reads `a`, `b`, `c`, the
lines of the readme `a`, `c`, `b`. -/
theorem resumed_text_moves_up :
    blocksOf resumedList = [.list ⟨0, 14⟩ '*' none resumedItems] ∧
      read resumedList (contents resumedItems) = "abc".toList ∧
      (entries resumedList resumedItems).flatMap ink = "acb".toList ∧
      (entries resumedList resumedItems).flatMap ink ≠ read resumedList (contents resumedItems) ∧
      render resumedList = "* a c\n* b".toList := by
  refine ⟨resumedList_blocks, by decide +kernel, by decide +kernel, by decide +kernel,
    by decide +kernel⟩

end PluginReadme.ListContent
