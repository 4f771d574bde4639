import Mathlib.Data.List.Chain
import PluginReadme.Proofs.Document.Lowering
import PluginReadme.Proofs.Markdown.Enclosing

/-! How the blocks of a document are set apart. The nodes of a source are lowered from the first one
on; each becomes one block, and a blank block goes in front of it if an empty line stands between it
and the node before. -/
namespace PluginReadme.Separation
open Document (lower lowerAll separated)
open Markdown (Node Span blocksOf)
open Stretches Lowered

variable {source : Text} {node next : Node} {nodes : List Node}

/-- The blocks that are not blank. -/
def filled (blocks : List Block) : List Block := blocks.filter (· ≠ .blank)

/-- What stands for the source between two nodes. -/
def parting (between : Text) : List Block := if 2 ≤ between.count '\n' then [.blank] else []

theorem lower_filled (source : Text) (node : Node) : lower source node ≠ .blank := by
  cases node <;> exact nofun

/-! ## One more node -/

private theorem lowerAll_pair (source : Text) (node next : Node) (rest : List Node) :
    lowerAll source (node :: next :: rest) = lower source node ::
      (parting ((Span.mk node.span.stop next.span.start).slice source) ++
        lowerAll source (next :: rest)) := by
  have parted : parting ((Span.mk node.span.stop next.span.start).slice source) =
      if separated source node next then [.blank] else [] :=
    if_congr decide_eq_true_iff.symm rfl rfl
  rw [lowerAll, parted]

/-- A node behind others is set apart from the one before it and lowered with those behind it. -/
theorem lowerAll_onward (source : Text) (before : List Node) (node next : Node)
    (after : List Node) : lowerAll source (before ++ node :: next :: after) =
      lowerAll source (before ++ [node]) ++
        (parting ((Span.mk node.span.stop next.span.start).slice source) ++
          lowerAll source (next :: after)) := by
  induction before with
  | nil => exact lowerAll_pair source node next after
  | cons first before ih =>
    cases before with
    | nil =>
      rw [List.nil_append, List.nil_append] at ih
      simp only [List.cons_append, List.nil_append]
      rw [lowerAll_pair source first node (next :: after), lowerAll_pair source first node [], ih,
        List.cons_append, List.append_assoc]
    | cons second before =>
      rw [List.cons_append, List.cons_append] at ih
      simp only [List.cons_append]
      rw [lowerAll_pair source first second (before ++ node :: next :: after),
        lowerAll_pair source first second (before ++ [node]), ih, List.cons_append,
        List.append_assoc]

theorem lowerAll_first (source : Text) (node : Node) (after : List Node) :
    ∃ back, lowerAll source (node :: after) = lower source node :: back := by
  obtain ⟨gap, -, split⟩ := lowerAll_cons source node after
  exact ⟨_, split⟩

theorem lowerAll_last (source : Text) (before : List Node) (node : Node) :
    ∃ front, lowerAll source (before ++ [node]) = front ++ [lower source node] := by
  induction before with
  | nil => exact ⟨[], rfl⟩
  | cons first before ih =>
    obtain ⟨front, last⟩ := ih
    obtain ⟨gap, -, split⟩ := lowerAll_cons source first (before ++ [node])
    refine ⟨lower source first :: (gap ++ front), ?_⟩
    rw [List.cons_append, split, last]
    simp

/-! ## All nodes -/

/-- Blank blocks aside, there is one block for each node, in their order. -/
theorem filled_lowerAll (source : Text) (nodes : List Node) :
    filled (lowerAll source nodes) = nodes.map (lower source) := by
  induction nodes with
  | nil => rfl
  | cons node nodes ih =>
    obtain ⟨gap, blank, split⟩ := lowerAll_cons source node nodes
    have gone : filled gap = [] := List.filter_eq_nil_iff.mpr fun block member => by
      simp [blank block member]
    have kept : filled [lower source node] = [lower source node] := by
      simp [filled, lower_filled]
    calc filled (lowerAll source (node :: nodes))
        = filled [lower source node] ++ (filled gap ++ filled (lowerAll source nodes)) := by
          rw [split, filled, filled, filled, filled, ← List.filter_append, ← List.filter_append]
          rfl
      _ = (node :: nodes).map (lower source) := by rw [kept, gone, ih]; rfl

/-- Of two blocks next to each other one is the block of a node. -/
theorem chain_lowerAll (source : Text) (nodes : List Node) :
    (lowerAll source nodes).IsChain fun block next => block ≠ .blank ∨ next ≠ .blank := by
  induction nodes with
  | nil => exact .nil
  | cons node nodes ih =>
    cases nodes with
    | nil => exact .singleton _
    | cons next rest =>
      obtain ⟨back, first⟩ := lowerAll_first source next rest
      have onward := lowerAll_onward source [] node next rest
      rw [List.nil_append, List.nil_append] at onward
      rw [first] at ih onward
      rw [onward, parting]
      have here := lower_filled source node
      have there := lower_filled source next
      split
      · exact .cons_cons (Or.inl here) (.cons_cons (Or.inr there) ih)
      · exact .cons_cons (Or.inl here) ih

/-- No blank block stands at an end, and no two stand next to each other. -/
theorem blank_inside (source : Text) (nodes : List Node) :
    (lowerAll source nodes).head? ≠ some .blank ∧ (lowerAll source nodes).getLast? ≠ some .blank ∧
      ¬ [.blank, .blank] <:+: lowerAll source nodes := by
  refine ⟨fun wrong => ?_, fun wrong => ?_, fun twice => ?_⟩
  · cases nodes with
    | nil => cases wrong
    | cons node rest =>
      obtain ⟨back, split⟩ := lowerAll_first source node rest
      rw [split] at wrong
      exact lower_filled source node (Option.some.inj wrong)
  · rcases List.eq_nil_or_concat nodes with rfl | ⟨before, node, rfl⟩
    · cases wrong
    · obtain ⟨front, split⟩ := lowerAll_last source before node
      rw [List.concat_eq_append, split, List.getLast?_concat] at wrong
      exact lower_filled source node (Option.some.inj wrong)
  · obtain ⟨front, back, split⟩ := twice
    have chain := chain_lowerAll source nodes
    rw [← split] at chain
    have apart := List.isChain_pair.mp chain.left_of_append.right_of_append
    exact apart.elim (absurd rfl) (absurd rfl)

/-- What stands in the source between two nodes next to each other, and the blocks around it. -/
theorem lowerAll_between (apart : Apart 0 (nodes.map Node.span) source.length)
    {before after : List Node} (split : nodes = before ++ node :: next :: after) :
    ∃ head between tail, source = head ++ (between ++ tail) ∧ head.length = node.span.stop ∧
      (head ++ between).length = next.span.start ∧
      ∃ front back, lowerAll source nodes =
          front ++ lower source node :: (parting between ++ lower source next :: back) ∧
        filled front = before.map (lower source) ∧ filled back = after.map (lower source) := by
  rw [split, List.map_append, List.map_cons, List.map_cons] at apart
  obtain ⟨mid, -, rest⟩ := apart.split
  obtain ⟨fits, within⟩ : node.span.stop ≤ next.span.start ∧ next.span.start ≤ source.length := by
    cases rest with
    | cons begins ends rest =>
      cases rest with
      | cons begins ends rest => exact ⟨begins, ends.trans rest.le⟩
  obtain ⟨whole, size⟩ := SourceLine.slice_parts fits within
  have sized : (source.take node.span.stop).length = node.span.stop :=
    List.length_take_of_le (fits.trans within)
  refine ⟨_, _, _, whole, sized, by rw [List.length_append, sized, size]; omega, ?_⟩
  obtain ⟨front, last⟩ := lowerAll_last source before node
  obtain ⟨back, first⟩ := lowerAll_first source next after
  have solid (node : Node) : filled [lower source node] = [lower source node] :=
    filled_lowerAll source [node]
  refine ⟨front, back, ?_, ?_, ?_⟩
  · rw [split, lowerAll_onward, last, first]
    simp
  · have known := filled_lowerAll source (before ++ [node])
    rw [last, filled, List.filter_append, List.map_append] at known
    exact (List.append_inj' known (by rw [← filled, solid]; rfl)).1
  · have known := filled_lowerAll source (next :: after)
    rw [first, ← List.singleton_append, filled, List.filter_append, ← filled, solid] at known
    exact (List.cons.inj known).2

/-- The nodes of a source lie one behind the other. Whatever nodes do so, each becomes one block
that is not blank, in their order; between the blocks of two nodes next to each other stands one
blank block if two line feeds or more stand between these nodes, and nothing else, and no blank
block stands in any other place. -/
theorem nodes_are_set_apart (source : Text) :
    Apart 0 ((blocksOf source).map Node.span) source.length ∧
    ∀ nodes, Apart 0 (nodes.map Node.span) source.length →
      filled (lowerAll source nodes) = nodes.map (lower source) ∧
      (∀ before node next after, nodes = before ++ node :: next :: after →
        ∃ head between tail, source = head ++ (between ++ tail) ∧
          head.length = node.span.stop ∧ (head ++ between).length = next.span.start ∧
          ∃ front back, lowerAll source nodes = front ++ lower source node ::
              ((if 2 ≤ between.count '\n' then [.blank] else []) ++ lower source next :: back) ∧
            filled front = before.map (lower source) ∧ filled back = after.map (lower source)) ∧
      (lowerAll source nodes).head? ≠ some .blank ∧
      (lowerAll source nodes).getLast? ≠ some .blank ∧
      ¬ [.blank, .blank] <:+: lowerAll source nodes := by
  refine ⟨(Enclosing.blocksOf_within source).apart, fun nodes apart => ?_⟩
  refine ⟨filled_lowerAll source nodes, ?_, blank_inside source nodes⟩
  intro before node next after split
  exact lowerAll_between apart split

/-- Blocks of several kinds, with no line feed, one, and more of them between two. -/
private def spaced : Text := "# a\nb\n\n\n* c\n\n> d\n---\n".toList

theorem spaced_nodes_are_set_apart :
    Apart 0 ((blocksOf spaced).map Node.span) spaced.length ∧
      filled (lowerAll spaced (blocksOf spaced)) = (blocksOf spaced).map (lower spaced) ∧
      (Document.ofMarkdown spaced).blocks = [.heading 1 ['a'], .paragraph ['b'], .blank,
        .list none [['c']], .quote ['d'], .verbatim "---".toList] := by
  obtain ⟨apart, each⟩ := nodes_are_set_apart spaced
  exact ⟨apart, (each _ apart).1, by decide +kernel⟩

end PluginReadme.Separation
