import PluginReadme.Document.Lowering
import PluginReadme.Proofs.Text.Lines

/-! The blocks of a document, one for each node of the source, and the entries of its lists, each
of which stands on one line. -/
namespace PluginReadme.Lowered
open Document (ownText itemEntries nestedEntries nodeEntries entries lower lowerAll)
open Markdown (Node Item)
open Lines

variable {source : Text} {node : Node} {before after : List Node}

/-- An entry made of the blocks of an item, each on one line. -/
def Joined (source entry : Text) : Prop :=
  ∃ children : List Node, entry = Text.join [' '] (children.filterMap (ownText source))

mutual

theorem itemEntries_joined (source : Text) :
    (item : Item) → ∀ entry ∈ itemEntries source item, Joined source entry
  | .mk span children => by
    unfold itemEntries
    exact List.forall_mem_cons.mpr ⟨⟨children, rfl⟩, nestedEntries_joined source children⟩

theorem nestedEntries_joined (source : Text) :
    (nodes : List Node) → ∀ entry ∈ nestedEntries source nodes, Joined source entry
  | [] => by simp [nestedEntries]
  | node :: rest => by
    unfold nestedEntries
    exact List.forall_mem_append.mpr
      ⟨nodeEntries_joined source node, nestedEntries_joined source rest⟩

theorem nodeEntries_joined (source : Text) :
    (node : Node) → ∀ entry ∈ nodeEntries source node, Joined source entry
  | .list span mark start items => by
    unfold nodeEntries
    exact entries_joined source items
  | .heading .. => by simp [nodeEntries]
  | .paragraph .. => by simp [nodeEntries]
  | .quote .. => by simp [nodeEntries]
  | .verbatim .. => by simp [nodeEntries]

/-- Every entry of a list is made of the blocks of an item. -/
theorem entries_joined (source : Text) :
    (items : List Item) → ∀ entry ∈ entries source items, Joined source entry
  | [] => by simp [entries]
  | item :: rest => by
    unfold entries
    exact List.forall_mem_append.mpr
      ⟨itemEntries_joined source item, entries_joined source rest⟩

end

/-- A character of an entry that does not set its blocks apart stands in one of them, joined onto
one line. -/
theorem Joined.part {entry : Text} (joined : Joined source entry) {c : Char} (member : c ∈ entry)
    (solid : c ≠ ' ') : ∃ span : Markdown.Span, c ∈ Text.joinLines (span.slice source) := by
  obtain ⟨children, rfl⟩ := joined
  by_contra none
  refine join_free (fun part listed wrong => none ?_) (by simpa using solid) member
  obtain ⟨node, -, own⟩ := List.mem_filterMap.mp listed
  unfold ownText at own
  split at own
  · cases own
  · cases own
    exact ⟨node.span, wrong⟩

/-- Every entry of a list stands on one line. -/
theorem entries_free (source : Text) (items : List Item) :
    ∀ entry ∈ entries source items, '\n' ∉ entry := by
  intro entry listed member
  obtain ⟨span, inside⟩ := (entries_joined source items entry listed).part member (by decide)
  exact joinLines_free _ inside

theorem lowerAll_cons (source : Text) (node : Node) (rest : List Node) :
    ∃ gap, (∀ block ∈ gap, block = Block.blank) ∧
      lowerAll source (node :: rest) = lower source node :: (gap ++ lowerAll source rest) := by
  cases rest with
  | nil => exact ⟨[], by simp, rfl⟩
  | cons next rest =>
    refine ⟨if Document.separated source node next then [Block.blank] else [], ?_, rfl⟩
    split <;> simp

/-- Every block is blank or the block of a node. -/
theorem mem_lowerAll {nodes : List Node} {block : Block} (member : block ∈ lowerAll source nodes) :
    block = .blank ∨ ∃ node ∈ nodes, block = lower source node := by
  induction nodes with
  | nil => cases member
  | cons first rest ih =>
    obtain ⟨gap, blank, whole⟩ := lowerAll_cons source first rest
    rw [whole] at member
    rcases List.mem_cons.mp member with rfl | later
    · exact Or.inr ⟨first, List.mem_cons_self, rfl⟩
    · rcases List.mem_append.mp later with here | later
      · exact Or.inl (blank block here)
      · refine (ih later).imp_right ?_
        rintro ⟨node, inside, same⟩
        exact ⟨node, List.mem_cons_of_mem first inside, same⟩

/-- The block of a node stands behind blank blocks and the blocks of the nodes in front of it. -/
theorem lowerAll_split (source : Text) (before : List Node) (node : Node) (after : List Node) :
    ∃ front back, lowerAll source (before ++ node :: after) = front ++ lower source node :: back ∧
      ∀ block ∈ front, block = Block.blank ∨ ∃ other ∈ before, block = lower source other := by
  induction before with
  | nil =>
    obtain ⟨gap, -, split⟩ := lowerAll_cons source node after
    exact ⟨[], gap ++ lowerAll source after, split, by simp⟩
  | cons first before ih =>
    obtain ⟨front, back, split, known⟩ := ih
    obtain ⟨gap, blank, whole⟩ := lowerAll_cons source first (before ++ node :: after)
    refine ⟨lower source first :: (gap ++ front), back, ?_, ?_⟩
    · rw [List.cons_append, whole, split]
      simp
    · intro block member
      rcases List.mem_cons.mp member with rfl | later
      · exact Or.inr ⟨first, List.mem_cons_self, rfl⟩
      · rcases List.mem_append.mp later with here | later
        · exact Or.inl (blank block here)
        · refine (known block later).imp_right ?_
          rintro ⟨other, inside, same⟩
          exact ⟨other, List.mem_cons_of_mem first inside, same⟩

end PluginReadme.Lowered
