import PluginReadme.Proofs.Document.Lowering
import PluginReadme.Proofs.Readme.Placed

/-! The numbers of list items. The items nested in an item follow it in the same sequence, and the
lines of a list are numbered through: an item has the number of its list's start and of all items in
front of it, however deep they are nested. -/
namespace PluginReadme.Numbering
open Readme (render renderLinks itemMark)
open Markdown (Node Item Span blocksOf)
open Document (ownText itemEntries nestedEntries nodeEntries entries lower)
open Lines Spacing Placed

variable {source markdown : Text} {item : Item} {items : List Item} {place : Nat}

/-! ## Counting items -/

mutual

/-- How many items an item comes to: itself and those nested in it. -/
def itemCount : Item → Nat
  | .mk _ children => 1 + nestedCount children

/-- How many items the lists among some blocks hold. -/
def nestedCount : List Node → Nat
  | [] => 0
  | node :: rest => nodeCount node + nestedCount rest

/-- How many items a block holds if it is a list. -/
def nodeCount : Node → Nat
  | .list _ _ _ items => count items
  | _ => 0

/-- How many items some items come to, those nested in them included. -/
def count : List Item → Nat
  | [] => 0
  | item :: rest => itemCount item + count rest

end

mutual

theorem itemEntries_length (source : Text) :
    (item : Item) → (itemEntries source item).length = itemCount item
  | .mk span children => by
    rw [itemEntries, itemCount, List.length_cons, nestedEntries_length, Nat.add_comm]

theorem nestedEntries_length (source : Text) :
    (nodes : List Node) → (nestedEntries source nodes).length = nestedCount nodes
  | [] => rfl
  | node :: rest => by
    rw [nestedEntries, nestedCount, List.length_append, nodeEntries_length, nestedEntries_length]

theorem nodeEntries_length (source : Text) :
    (node : Node) → (nodeEntries source node).length = nodeCount node
  | .list span mark start items => by rw [nodeEntries, nodeCount, entries_length]
  | .heading .. => rfl
  | .paragraph .. => rfl
  | .quote .. => rfl
  | .verbatim .. => rfl

/-- Each item has one entry. -/
theorem entries_length (source : Text) :
    (items : List Item) → (entries source items).length = count items
  | [] => rfl
  | item :: rest => by
    rw [entries, count, List.length_append, itemEntries_length, entries_length]

end

/-- Items in which nothing is nested are counted once each. -/
theorem count_eq_length_iff (items : List Item) :
    count items = items.length ↔ ∀ item ∈ items, nestedCount item.children = 0 := by
  have least (items : List Item) : items.length ≤ count items := by
    induction items with
    | nil => exact Nat.le_refl 0
    | cons item rest ih =>
      obtain ⟨span, children⟩ := item
      rw [count, itemCount, List.length_cons]
      omega
  induction items with
  | nil => simp [count]
  | cons item rest ih =>
    have others := least rest
    obtain ⟨span, children⟩ := item
    have whole : count (.mk span children :: rest) = 1 + nestedCount children + count rest := rfl
    rw [List.forall_mem_cons, List.length_cons, whole]
    constructor
    · intro same
      have alone : nestedCount children = 0 := by omega
      exact ⟨alone, ih.mp (by omega)⟩
    · rintro ⟨alone, later⟩
      have alone : nestedCount children = 0 := alone
      have same := ih.mpr later
      omega

/-! ## Where an item stands -/

/-- An item stands behind so many others, at the top of a list or in a list that is nested there. -/
inductive Stands (item : Item) : Nat → List Item → Prop where
  | first (rest : List Item) : Stands item 0 (item :: rest)
  | nested {span inner : Span} {before after : List Node} {mark : Char} {start : Option Nat}
      {items : List Item} {place : Nat} (deeper : Stands item place items) (rest : List Item) :
      Stands item (1 + nestedCount before + place)
        (.mk span (before ++ .list inner mark start items :: after) :: rest)
  | later {rest : List Item} {place : Nat} (other : Item) (below : Stands item place rest) :
      Stands item (itemCount other + place) (other :: rest)

/-- An item at the top of a list stands behind the items in front of it and all that is nested in
them. -/
theorem stands_top {index : Nat} (here : items[index]? = some item) :
    Stands item (count (items.take index)) items := by
  induction items generalizing index with
  | nil => cases here
  | cons other rest ih =>
    cases index with
    | zero =>
      cases here
      exact .first rest
    | succ index => exact .later other (ih here)

/-- The text of an item without the lists in it. -/
def own (source : Text) (item : Item) : Text :=
  Text.join [' '] (item.children.filterMap (ownText source))

theorem nestedEntries_append (source : Text) (before after : List Node) :
    nestedEntries source (before ++ after) =
      nestedEntries source before ++ nestedEntries source after := by
  induction before with
  | nil => rfl
  | cons node before ih =>
    rw [List.cons_append, nestedEntries, nestedEntries, ih, List.append_assoc]

/-- The entry of an item has the place of the item. -/
theorem entry_of_stands (source : Text) (stands : Stands item place items) :
    (entries source items)[place]? = some (own source item) := by
  induction stands with
  | first rest =>
    obtain ⟨span, children⟩ := item
    rw [entries, itemEntries]
    rfl
  | @nested span inner before after mark start items place deeper rest ih =>
    have inside := (List.getElem?_eq_some_iff.mp ih).1
    rw [entries, itemEntries, nestedEntries_append, nestedEntries, nodeEntries, List.cons_append,
      Nat.add_assoc, Nat.add_comm 1, List.getElem?_cons_succ, List.append_assoc,
      List.getElem?_append_right (by rw [nestedEntries_length]; exact Nat.le_add_right ..),
      nestedEntries_length, Nat.add_sub_cancel_left, List.append_assoc,
      List.getElem?_append_left inside, ih]
  | @later rest place other below ih =>
    rw [entries, List.getElem?_append_right
      (by rw [itemEntries_length]; exact Nat.le_add_right ..), itemEntries_length,
      Nat.add_sub_cancel_left, ih]

/-! ## The lines of a list -/

/-- The lines of a list in a readme: the entries of its items, marked one after the other. -/
def lines (source : Text) (start : Option Nat) (items : List Item) : List Text :=
  (linesOf (.list start (entries source items))).map Text.trimEnd

theorem line_of_entry {entry : Text} (start : Option Nat)
    (here : (entries source items)[place]? = some entry) :
    (lines source start items)[place]? =
      some (Text.trimEnd (itemMark start place ++ ' ' :: renderLinks entry)) := by
  simp [lines, linesOf, List.getElem?_map, List.getElem?_zipIdx, here]

/-- The lines of a list stand in the readme one after the other. -/
theorem lines_placed {span : Span} {mark : Char} {start : Option Nat} {entry : Text}
    (listed : .list span mark start items ∈ blocksOf markdown)
    (here : (entries markdown items)[place]? = some entry) :
    Whole (Text.join ['\n'] (lines markdown start items)) (render markdown) := by
  obtain ⟨before, after, split⟩ := List.append_of_mem listed
  obtain ⟨front, back, lowered, -⟩ :=
    Lowered.lowerAll_split markdown before (.list span mark start items) after
  have member : Block.list start (entries markdown items) ∈
      (Document.ofMarkdown markdown).blocks := by
    unfold Document.ofMarkdown
    rw [split, lowered]
    simp [lower]
  refine list_placed member fun empty => ?_
  rw [empty] at here
  cases here

/-- Every item of a list in the source has a line in the readme, marked by its place among all
items of that list and of the lists nested in it. An item at the top of the list stands at its own
place, and so keeps its number, if and only if nothing is nested in the items in front of it. -/
theorem items_are_numbered {span : Span} {mark : Char} {start : Option Nat}
    (listed : .list span mark start items ∈ blocksOf markdown) :
    (∀ place item, Stands item place items →
      Whole (Text.join ['\n'] (lines markdown start items)) (render markdown) ∧
      (lines markdown start items)[place]? =
        some (Text.trimEnd (itemMark start place ++ ' ' :: renderLinks (own markdown item)))) ∧
    ∀ (index : Nat) item, items[index]? = some item →
      Stands item (count (items.take index)) items ∧
      (count (items.take index) = index ↔
        ∀ other ∈ items.take index, nestedCount other.children = 0) := by
  refine ⟨fun place item stands => ?_, fun index item here => ⟨stands_top here, ?_⟩⟩
  · have entered := entry_of_stands markdown stands
    exact ⟨lines_placed listed entered, line_of_entry start entered⟩
  · have inside := (List.getElem?_eq_some_iff.mp here).1
    have size : (items.take index).length = index := List.length_take_of_le inside.le
    rw [← count_eq_length_iff, size]

/-- A numbered list with a bullet in its first item. -/
private def nestedList : Text := "1. a\n   - x\n2. b".toList

private def nestedItems : List Item :=
  [.mk ⟨0, 11⟩ [.paragraph ⟨3, 4⟩, .list ⟨8, 11⟩ '-' none [.mk ⟨8, 11⟩ [.paragraph ⟨10, 11⟩]]],
    .mk ⟨12, 16⟩ [.paragraph ⟨15, 16⟩]]

private theorem nestedList_blocks :
    blocksOf nestedList = [.list ⟨0, 16⟩ '.' (some 1) nestedItems] := by
  with_unfolding_all rfl

theorem nested_list_is_numbered :
    Node.list ⟨0, 16⟩ '.' (some 1) nestedItems ∈ blocksOf nestedList ∧
      Whole (Text.join ['\n'] (lines nestedList (some 1) nestedItems)) (render nestedList) ∧
      (lines nestedList (some 1) nestedItems)[1]? = some "2. x".toList ∧
      (lines nestedList (some 1) nestedItems)[2]? = some "3. b".toList ∧
      count (nestedItems.take 1) ≠ 1 := by
  have listed : Node.list ⟨0, 16⟩ '.' (some 1) nestedItems ∈ blocksOf nestedList := by
    simp [nestedList_blocks]
  obtain ⟨each, top⟩ := items_are_numbered listed
  have second : nestedItems[1]? = some (.mk ⟨12, 16⟩ [.paragraph ⟨15, 16⟩]) := rfl
  obtain ⟨stands, kept⟩ := top 1 _ second
  have inner : Stands (.mk ⟨8, 11⟩ [.paragraph ⟨10, 11⟩]) 1 nestedItems :=
    @Stands.nested _ ⟨0, 11⟩ ⟨8, 11⟩ [.paragraph ⟨3, 4⟩] [] '-' none _ 0 (.first []) _
  have place : count (nestedItems.take 1) = 2 := by decide
  rw [place] at stands
  refine ⟨listed, (each 2 _ stands).1, ?_, ?_, ?_⟩
  · rw [(each 1 _ inner).2]
    decide +kernel
  · rw [(each 2 _ stands).2]
    decide +kernel
  · intro same
    exact absurd (kept.mp same _ List.mem_cons_self) (by decide)

/-- The second item of a list that starts with 1 comes out with the number 3, and the bullet in
front of it with the number 2. -/
theorem nested_item_takes_a_number :
    blocksOf nestedList = [.list ⟨0, 16⟩ '.' (some 1) nestedItems] ∧
      nestedItems[1]?.map (own nestedList) = some ['b'] ∧
      render nestedList = "1. a\n2. x\n3. b".toList ∧
      "2. b".toList ∉ Text.lines (render nestedList) := by
  refine ⟨nestedList_blocks, by decide +kernel, by decide +kernel, by decide +kernel⟩

end PluginReadme.Numbering
