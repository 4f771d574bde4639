import Mathlib.Data.List.Perm.Basic
import PluginReadme.Proofs.Document.Flattening

/-! The blocks that the items of a list hold, and the entries made of them. The blocks of a source
lie clear of each other, so no two entries share any of it; read one after the other, the entries
give the text of all these blocks, each once. -/
namespace PluginReadme.ItemText
open Document (ownText entries)
open Markdown (Node Item Span blocksOf)
open PluginReadme.Numbering (own)
open Lines Stretches Flattening

variable {source : Text} {low high : Nat} {item : Item} {items inner : List Item} {node : Node}
  {nodes : List Node} {span other : Span}

/-! ## Blocks of items -/

/-- Whether a block is a list. -/
def isList (node : Node) : Bool := (itemsOf node).isSome

/-- The blocks of an item but the lists in it. -/
def ownBlocks (item : Item) : List Node := item.children.filter (! isList ·)

/-- The stretches of the source that an entry is made of. -/
def ownSpans (item : Item) : List Span := (ownBlocks item).map Node.span

theorem own_eq (source : Text) (item : Item) :
    own source item = Text.join [' '] ((ownBlocks item).map fun block =>
      Text.joinLines (block.span.slice source)) := by
  have parts (nodes : List Node) : nodes.filterMap (ownText source) =
      (nodes.filter (! isList ·)).map fun block => Text.joinLines (block.span.slice source) := by
    induction nodes with
    | nil => rfl
    | cons node rest ih => cases node <;> simp [ownText, isList, itemsOf, List.filterMap_cons, ih]
  rw [own, parts]
  rfl

/-- The text of an entry, its blanks aside, is that of its blocks. -/
theorem ink_own (source : Text) (item : Item) :
    ink (own source item) = (ownSpans item).flatMap fun span => ink (span.slice source) := by
  have blank : Numeral.Run Text.isBlank [' '] := by decide
  rw [own_eq, ink_join blank, ownSpans, List.flatMap_map, List.flatMap_map]
  simp only [ink_joinLines]

mutual

/-- The blocks of an item and of those nested in it, in the order of the source, without lists. -/
def itemContents : Item → List Span
  | .mk _ children => nestedContents children

def nestedContents : List Node → List Span
  | [] => []
  | node :: rest => nodeContents node ++ nestedContents rest

/-- A block, or the blocks in a list. -/
def nodeContents : Node → List Span
  | .list _ _ _ items => contents items
  | node => [node.span]

/-- The blocks of some items and of those nested in them, in the order of the source. -/
def contents : List Item → List Span
  | [] => []
  | item :: rest => itemContents item ++ contents rest

end

theorem contents_cons (item : Item) (rest : List Item) :
    contents (item :: rest) = item.children.flatMap nodeContents ++ contents rest := by
  have all (nodes : List Node) : nestedContents nodes = nodes.flatMap nodeContents := by
    induction nodes with
    | nil => rfl
    | cons node rest ih => rw [nestedContents, ih, List.flatMap_cons]
  obtain ⟨span, children⟩ := item
  rw [contents, itemContents, all]
  rfl

private theorem nodeContents_list (found : itemsOf node = some inner) :
    nodeContents node = contents inner := by
  cases node with
  | list span mark start items =>
    cases found
    rfl
  | _ => cases found

private theorem nodeContents_other (found : itemsOf node = none) :
    nodeContents node = [node.span] := by
  cases node with
  | list span mark start items => cases found
  | _ => rfl

/-- The blocks among some that are no lists, then those in the lists. -/
private def listsBehind (nodes : List Node) : List Span :=
  (nodes.filter (! isList ·)).map Node.span ++ (nodes.filterMap itemsOf).flatMap contents

private theorem listsBehind_other (found : itemsOf node = none) (nodes : List Node) :
    listsBehind (node :: nodes) = node.span :: listsBehind nodes := by
  rw [listsBehind, List.filter_cons_of_pos (by simp [isList, found]),
    List.filterMap_cons_none found]
  rfl

private theorem listsBehind_list (found : itemsOf node = some inner) (nodes : List Node) :
    listsBehind (node :: nodes) = (nodes.filter (! isList ·)).map Node.span ++
      (contents inner ++ (nodes.filterMap itemsOf).flatMap contents) := by
  rw [listsBehind, List.filter_cons_of_neg (by simp [isList, found]),
    List.filterMap_cons_some found, List.flatMap_cons]

private theorem preorder_ownSpans (item : Item) (rest : List Item) :
    (preorder (item :: rest)).flatMap ownSpans = ownSpans item ++
      (nested item).flatMap (fun inner => (preorder inner).flatMap ownSpans) ++
        (preorder rest).flatMap ownSpans := by
  rw [preorder_cons, List.cons_append, List.flatMap_cons, List.flatMap_append, List.flatMap_assoc,
    List.append_assoc]

/-- In pre-order the blocks are the same, each as often. -/
theorem ownSpans_perm (items : List Item) :
    ((preorder items).flatMap ownSpans).Perm (contents items) := by
  induction items using items_induct with
  | nil => exact .nil
  | cons item rest inside ih =>
    have parted (nodes : List Node) : (listsBehind nodes).Perm (nodes.flatMap nodeContents) := by
      induction nodes with
      | nil => exact .nil
      | cons node nodes ih' =>
        rw [List.flatMap_cons]
        cases found : itemsOf node with
        | none =>
          rw [nodeContents_other found, listsBehind_other found]
          exact ih'.cons _
        | some inner =>
          rw [nodeContents_list found, listsBehind_list found]
          exact List.perm_append_comm_assoc .. |>.trans (ih'.append_left _)
    have deeper : ((nested item).flatMap fun inner => (preorder inner).flatMap ownSpans).Perm
        ((nested item).flatMap contents) := List.Perm.flatMap_left _ inside
    rw [preorder_ownSpans, contents_cons]
    exact ((deeper.append_left _).trans (parted item.children)).append ih

/-- Whether the lists that stand right in an item are the last of its blocks. -/
def ListsLast (item : Item) : Prop :=
  item.children.Pairwise fun block later => isList block = true → isList later = true

/-- With the lists of each item behind its other blocks, pre-order is the order of the source. -/
theorem ownSpans_ordered (last : ∀ item ∈ preorder items, ListsLast item) :
    (preorder items).flatMap ownSpans = contents items := by
  induction items using items_induct with
  | nil => rfl
  | cons item rest inside ih =>
    rw [preorder_cons, List.cons_append] at last
    obtain ⟨here, others⟩ := List.forall_mem_cons.mp last
    obtain ⟨within, later⟩ := List.forall_mem_append.mp others
    have parted (nodes : List Node)
        (behind : nodes.Pairwise fun block later => isList block = true → isList later = true) :
        listsBehind nodes = nodes.flatMap nodeContents := by
      induction nodes with
      | nil => rfl
      | cons node nodes ih' =>
        obtain ⟨after, behind⟩ := List.pairwise_cons.mp behind
        rw [List.flatMap_cons, ← ih' behind]
        cases found : itemsOf node with
        | none =>
          rw [nodeContents_other found, listsBehind_other found]
          rfl
        | some inner =>
          have lists : nodes.filter (! isList ·) = [] := by
            apply List.filter_eq_nil_iff.mpr
            intro node member
            simp [after node member (by simp [isList, found])]
          rw [nodeContents_list found, listsBehind_list found, listsBehind, lists]
          rfl
    have deeper : (nested item).flatMap (fun inner => (preorder inner).flatMap ownSpans) =
        (nested item).flatMap contents := by
      refine List.flatMap_congr fun inner member => inside inner member fun other below => ?_
      exact within other (List.mem_flatMap.mpr ⟨inner, member, below⟩)
    rw [preorder_ownSpans, contents_cons, deeper, ih later]
    exact congrArg (· ++ contents rest) (parted item.children here)

/-! ## Where they stand -/

/-- The items of a list lie one behind the other in it, each with its blocks. -/
theorem list_rows {mark : Char} {start : Option Nat}
    (encloses : Encloses (.list span mark start items)) :
    Apart span.start (items.map Item.span) span.stop ∧
      ∀ item ∈ items, Row item.span.start item.children item.span.stop := by
  cases encloses with
  | list apart each inner => exact ⟨apart, fun item member => ⟨each item member, inner item member⟩⟩

/-- So do the items of a list in an item. -/
theorem nested_rows (row : Row low item.children high) (child : node ∈ item.children)
    (found : itemsOf node = some inner) :
    Apart node.span.start (inner.map Item.span) node.span.stop ∧
      ∀ deeper ∈ inner, Row deeper.span.start deeper.children deeper.span.stop := by
  cases node with
  | list span mark start items =>
    cases found
    exact list_rows (row.inner _ child)
  | _ => cases found

/-- The blocks of every item lie in it one behind the other, however deep the item is nested. -/
theorem preorder_rows (rows : ∀ item ∈ items, Row item.span.start item.children item.span.stop) :
    ∀ item ∈ preorder items, Row item.span.start item.children item.span.stop := by
  induction items using items_induct with
  | nil => exact nofun
  | cons first rest inside ih =>
    obtain ⟨here, later⟩ := List.forall_mem_cons.mp rows
    rw [preorder_cons, List.cons_append]
    refine List.forall_mem_cons.mpr ⟨here, List.forall_mem_append.mpr ⟨?_, ih later⟩⟩
    intro item member
    obtain ⟨inner, list, below⟩ := List.mem_flatMap.mp member
    obtain ⟨node, child, found⟩ := List.mem_filterMap.mp list
    exact inside inner list (nested_rows here child found).2 item below

/-- The blocks of items lie one behind the other where the items do. -/
theorem contents_apart (apart : Apart low (items.map Item.span) high)
    (rows : ∀ item ∈ items, Row item.span.start item.children item.span.stop) :
    Apart low (contents items) high := by
  induction items using items_induct generalizing low high with
  | nil => exact apart
  | cons item rest inside ih =>
    obtain ⟨here, later⟩ := List.forall_mem_cons.mp rows
    have own : Apart item.span.start (item.children.flatMap nodeContents) item.span.stop := by
      refine here.flatMap fun node child fits => ?_
      cases found : itemsOf node with
      | none =>
        rw [nodeContents_other found]
        exact .single (Nat.le_refl _) fits (Nat.le_refl _)
      | some inner =>
        obtain ⟨apart, rows⟩ := nested_rows here child found
        rw [nodeContents_list found]
        exact inside inner (List.mem_filterMap.mpr ⟨node, child, found⟩) apart rows
    rw [contents_cons]
    cases apart with
    | cons after fits behind =>
      exact (own.widen after (Nat.le_refl _)).append (ih behind later)

/-- Two stretches without a place in common. -/
def Clear (span other : Span) : Prop := span.stop ≤ other.start ∨ other.stop ≤ span.start

/-- The stretches that the entries of a list are made of lie clear of each other in the list. -/
theorem ownSpans_clear {mark : Char} {start : Option Nat}
    (encloses : Encloses (.list span mark start items)) :
    ((preorder items).flatMap ownSpans).Pairwise Clear ∧
      ∀ other ∈ (preorder items).flatMap ownSpans,
        span.start ≤ other.start ∧ other.stop ≤ span.stop := by
  obtain ⟨apart, rows⟩ := list_rows encloses
  have placed := contents_apart apart rows
  have same := ownSpans_perm items
  constructor
  · have clear : (contents items).Pairwise Clear := placed.pairwise.imp Or.inl
    exact (same.pairwise_iff Or.symm).mpr clear
  · intro other member
    obtain ⟨after, -, before⟩ := placed.mem (same.mem_iff.mp member)
    exact ⟨after, before⟩

/-- A block of a tree, however deep it stands in it. -/
inductive Among (node : Node) : List Node → Prop where
  | top {nodes : List Node} (member : node ∈ nodes) : Among node nodes
  | quoted {nodes children : List Node} {span : Span} (member : .quote span children ∈ nodes)
      (inside : Among node children) : Among node nodes
  | listed {nodes : List Node} {span : Span} {mark : Char} {start : Option Nat}
      {items : List Item} {item : Item} (member : .list span mark start items ∈ nodes)
      (held : item ∈ items) (inside : Among node item.children) : Among node nodes

/-- A block stands in the stretch of those around it, with all that is in it. -/
theorem among_row (among : Among node nodes) (row : Row low nodes high) :
    Encloses node ∧ low ≤ node.span.start ∧ node.span.start ≤ node.span.stop ∧
      node.span.stop ≤ high := by
  induction among generalizing low high with
  | top member => exact ⟨row.inner _ member, row.apart.mem (List.mem_map_of_mem member)⟩
  | quoted member inside ih =>
    obtain ⟨after, -, before⟩ := row.apart.mem (List.mem_map_of_mem member)
    cases row.inner _ member with
    | quote apart inner =>
      obtain ⟨encloses, begins, fits, ends⟩ := ih ⟨apart, inner⟩
      exact ⟨encloses, after.trans begins, fits, ends.trans before⟩
  | listed member held inside ih =>
    obtain ⟨after, -, before⟩ := row.apart.mem (List.mem_map_of_mem member)
    cases row.inner _ member with
    | list apart each inner =>
      obtain ⟨after', -, before'⟩ := apart.mem (List.mem_map_of_mem held)
      obtain ⟨encloses, begins, fits, ends⟩ := ih ⟨each _ held, inner _ held⟩
      dsimp only [Node.span] at after before
      exact ⟨encloses, by omega, fits, by omega⟩

theorem slice_within (after : span.start ≤ other.start) (before : other.stop ≤ span.stop)
    (source : Text) : other.slice source <:+: span.slice source := by
  rcases Nat.le_total other.stop other.start with empty | filled
  · rw [Span.slice, Nat.sub_eq_zero_of_le empty]
    exact List.nil_infix
  · obtain ⟨ahead, same⟩ := Nat.exists_eq_add_of_le after
    have part : other.slice source =
        ((source.drop span.start).take (ahead + (other.stop - other.start))).drop ahead := by
      rw [Span.slice, same, ← List.drop_drop, List.drop_take, Nat.add_sub_cancel_left]
    rw [part]
    apply (List.drop_suffix _ _).isInfix.trans
    exact (List.take_prefix_take_left (by omega)).isInfix

/-! ## Lists in quotes -/

mutual

/-- An item with nothing left in the quotes that are in it. -/
def emptiedItem : Item → Item
  | .mk span children => .mk span (emptiedAll children)

def emptiedAll : List Node → List Node
  | [] => []
  | node :: rest => emptiedNode node :: emptiedAll rest

/-- A quote that covers what it did, with no blocks in it. -/
def emptiedNode : Node → Node
  | .list span mark start items => .list span mark start (emptied items)
  | .quote span _ => .quote span []
  | node => node

/-- Items with nothing left in the quotes that are in them. -/
def emptied : List Item → List Item
  | [] => []
  | item :: rest => emptiedItem item :: emptied rest

end

/-- What stands in quotes has no part in the entries, except that the quotes are text. -/
theorem entries_emptied (source : Text) (items : List Item) :
    entries source (emptied items) = entries source items := by
  induction items using items_induct with
  | nil => rfl
  | cons item rest inside ih =>
    obtain ⟨span, children⟩ := item
    have text (nodes : List Node) :
        (emptiedAll nodes).filterMap (ownText source) = nodes.filterMap (ownText source) := by
      induction nodes with
      | nil => rfl
      | cons node nodes ih' =>
        cases node <;> simp [emptiedAll, emptiedNode, ownText, List.filterMap_cons, Node.span, ih']
    have lists (nodes : List Node) :
        (emptiedAll nodes).filterMap itemsOf = (nodes.filterMap itemsOf).map emptied := by
      induction nodes with
      | nil => rfl
      | cons node nodes ih' =>
        cases node <;> simp [emptiedAll, emptiedNode, itemsOf, List.filterMap_cons, ih']
    have here : own source (.mk span (emptiedAll children)) = own source (.mk span children) :=
      congrArg (Text.join [' ']) (text children)
    have deeper : nested (.mk span (emptiedAll children)) =
        (nested (.mk span children)).map emptied := lists children
    rw [emptied, emptiedItem, entries_cons, entries_cons, ih, here, deeper, List.flatMap_map,
      List.flatMap_congr inside]

/-- A list of the source, wherever it stands, is entered in pre-order: one entry for each address
that leads through lists right in items, in the order of the addresses. An entry is the text of the
blocks in its item that are no lists, each block on one line, and on one line itself; what it is
made of lies clear of all that other entries are made of. A list in another block of an item has no
entry, and its text stays in that of the item. -/
theorem items_are_entered_in_preorder {mark : Char} {start : Option Nat}
    (listed : Among (.list span mark start items) (blocksOf source)) :
    (entries source items = (preorder items).map (own source) ∧
      Enumerates (itemAt items) (preorder items)) ∧
    (∀ item ∈ preorder items, '\n' ∉ own source item ∧
      own source item = Text.join [' '] ((ownBlocks item).map fun block =>
        Text.joinLines (block.span.slice source))) ∧
    (((preorder items).flatMap ownSpans).Pairwise Clear ∧
      ∀ stretch ∈ (preorder items).flatMap ownSpans,
        span.start ≤ stretch.start ∧ stretch.stop ≤ span.stop) ∧
    entries source (emptied items) = entries source items ∧
    ∀ item ∈ preorder items, ∀ block ∈ ownBlocks item, ∀ inner mark start deeper,
      Among (.list inner mark start deeper) [block] →
      block.span.start ≤ inner.start ∧ inner.stop ≤ block.span.stop ∧
        ink (inner.slice source) <:+: ink (own source item) := by
  obtain ⟨high, row⟩ := Enclosing.blocksOf_row source
  obtain ⟨encloses, -, fits, -⟩ := among_row listed row
  have same := entries_eq_map source items
  refine ⟨⟨same, preorder_enumerates items⟩, fun item member => ⟨?_, own_eq source item⟩,
    ownSpans_clear encloses, entries_emptied source items, ?_⟩
  · apply Lowered.entries_free source items
    rw [same]
    exact List.mem_map_of_mem member
  · intro item member block own' inner mark start deeper among
    have row := preorder_rows (list_rows encloses).2 item member
    have child := List.mem_of_mem_filter own'
    have covers := (row.apart.mem (List.mem_map_of_mem child)).2.1
    obtain ⟨-, after, -, before⟩ := among_row among
      (.single (row.inner block child) (Nat.le_refl _) covers (Nat.le_refl _))
    refine ⟨after, before, ((slice_within after before source).filter _).trans ?_⟩
    rw [ink_own]
    have own' : block.span ∈ ownSpans item := List.mem_map_of_mem own'
    obtain ⟨front, back, split⟩ := List.append_of_mem own'
    rw [split, List.flatMap_append, List.flatMap_cons]
    exact ⟨_, _, List.append_assoc ..⟩

/-- A list in an item, and one in a quote in that item. -/
private def quotedList : Text := "* a\n  * b\n\n  > * c\n* d".toList

private def quotedItems : List Item :=
  [.mk ⟨0, 18⟩ [.paragraph ⟨2, 3⟩,
      .list ⟨6, 10⟩ '*' none [.mk ⟨6, 10⟩ [.paragraph ⟨8, 9⟩]],
      .quote ⟨13, 18⟩ [.list ⟨15, 18⟩ '*' none [.mk ⟨15, 18⟩ [.paragraph ⟨17, 18⟩]]]],
    .mk ⟨19, 22⟩ [.paragraph ⟨21, 22⟩]]

theorem quoted_list_is_text :
    Among (.list ⟨0, 22⟩ '*' none quotedItems) (blocksOf quotedList) ∧
      entries quotedList quotedItems = ["a > * c".toList, ['b'], ['d']] ∧
      (itemAt quotedItems [0, 0, 0]).map (own quotedList) = some ['b'] ∧
      ['*', 'c'] <:+: ink (own quotedList (quotedItems.head (by decide))) := by
  have listed : Among (.list ⟨0, 22⟩ '*' none quotedItems) (blocksOf quotedList) := by
    have parsed : blocksOf quotedList = [.list ⟨0, 22⟩ '*' none quotedItems] := by
      with_unfolding_all rfl
    exact .top (parsed ▸ List.mem_cons_self)
  obtain ⟨⟨entered, -⟩, -, -, -, quoted⟩ := items_are_entered_in_preorder listed
  refine ⟨listed, ?_, by decide +kernel, ?_⟩
  · rw [entered]
    decide +kernel
  · have first : quotedItems.head (by decide) ∈ preorder quotedItems := List.mem_cons_self
    have block : .quote ⟨13, 18⟩ [.list ⟨15, 18⟩ '*' none [.mk ⟨15, 18⟩ [.paragraph ⟨17, 18⟩]]] ∈
        ownBlocks (quotedItems.head (by decide)) := by
      simp [quotedItems, ownBlocks, isList, itemsOf, Item.children]
    exact (quoted _ first _ block ⟨15, 18⟩ '*' none _
      (.quoted List.mem_cons_self (.top List.mem_cons_self))).2.2

end PluginReadme.ItemText
