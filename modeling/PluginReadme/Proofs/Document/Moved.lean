import PluginReadme.Proofs.Markdown.Moved

/-! Documents behind a text that has been read before. A span that is moved along covers the same
text, so that blocks that are moved along come to the same document; a byte order mark in front of a
source does no more than that. -/
namespace PluginReadme.Document
open Markdown (Node Item Span Unmarked)

variable {front source : Text}

theorem slice_moved (front source : Text) (span : Span) :
    (span.moved front.length).slice (front ++ source) = span.slice source := by
  have offset : front.length ≤ span.start + front.length := Nat.le_add_left ..
  unfold Span.slice
  simp only [Span.moved_start, Span.moved_stop, Nat.add_sub_add_right]
  rw [List.drop_append, List.drop_eq_nil_of_le offset, List.nil_append, Nat.add_sub_cancel]

theorem ownText_moved (front source : Text) (node : Node) :
    ownText (front ++ source) (node.moved front.length) = ownText source node := by
  cases node <;> simp [ownText, Node.moved, Node.span, slice_moved]

theorem ownTexts_moved (front source : Text) (nodes : List Node) :
    (nodes.map (Node.moved front.length)).filterMap (ownText (front ++ source)) =
      nodes.filterMap (ownText source) := by
  rw [List.filterMap_map]
  exact congrArg (nodes.filterMap ·) (funext (ownText_moved front source))

mutual

theorem itemEntries_moved (front source : Text) : (item : Item) →
    itemEntries (front ++ source) (item.moved front.length) = itemEntries source item
  | .mk span children => by
    rw [Item.moved, Markdown.nodesMoved_eq, itemEntries, itemEntries, ownTexts_moved,
      nestedEntries_moved]

theorem nestedEntries_moved (front source : Text) : (nodes : List Node) →
    nestedEntries (front ++ source) (nodes.map (Node.moved front.length)) =
      nestedEntries source nodes
  | [] => rfl
  | node :: rest => by
    rw [List.map_cons, nestedEntries, nestedEntries, nodeEntries_moved, nestedEntries_moved]

theorem nodeEntries_moved (front source : Text) : (node : Node) →
    nodeEntries (front ++ source) (node.moved front.length) = nodeEntries source node
  | .list span mark start items => by
    rw [Node.moved, Markdown.itemsMoved_eq, nodeEntries, nodeEntries, entries_moved]
  | .heading .. => rfl
  | .paragraph .. => rfl
  | .quote .. => rfl
  | .verbatim .. => rfl

/-- The entries of items that are moved along are the same. -/
theorem entries_moved (front source : Text) : (items : List Item) →
    entries (front ++ source) (items.map (Item.moved front.length)) = entries source items
  | [] => rfl
  | item :: rest => by
    rw [List.map_cons, entries, entries, itemEntries_moved, entries_moved]

end

theorem lower_moved (front source : Text) (node : Node) :
    lower (front ++ source) (node.moved front.length) = lower source node := by
  cases node with
  | heading span level content => cases content <;> simp [Node.moved, lower, slice_moved]
  | list span mark start items => simp [Node.moved, lower, entries_moved]
  | _ => simp [Node.moved, lower, slice_moved]

theorem span_moved (ahead : Nat) (node : Node) :
    (node.moved ahead).span = node.span.moved ahead := by
  cases node <;> rfl

theorem separated_moved (front source : Text) (node next : Node) :
    separated (front ++ source) (node.moved front.length) (next.moved front.length) =
      separated source node next := by
  have between := slice_moved front source ⟨node.span.stop, next.span.start⟩
  unfold separated
  rw [span_moved, span_moved, ← between]
  rfl

/-- Blocks that are moved along come to the same document. -/
theorem lowerAll_moved (front source : Text) (nodes : List Node) :
    lowerAll (front ++ source) (nodes.map (Node.moved front.length)) = lowerAll source nodes := by
  induction nodes with
  | nil => rfl
  | cons node rest ih =>
    cases rest with
    | nil => rw [List.map_cons, List.map_nil, lowerAll, lowerAll, lower_moved]
    | cons next rest =>
      rw [List.map_cons] at ih
      rw [List.map_cons, List.map_cons, lowerAll, lowerAll, lower_moved, separated_moved, ih]

/-- A byte order mark in front of a source changes nothing in the document. -/
theorem ofMarkdown_marked (unmarked : Unmarked source) :
    ofMarkdown ('\uFEFF' :: source) = ofMarkdown source := by
  unfold ofMarkdown
  rw [Markdown.blocksOf_marked unmarked]
  exact congrArg Document.mk (lowerAll_moved ['\uFEFF'] source _)

end PluginReadme.Document
