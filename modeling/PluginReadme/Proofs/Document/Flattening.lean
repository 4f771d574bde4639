import PluginReadme.Proofs.Markdown.Enclosing
import PluginReadme.Proofs.Readme.Numbering

/-! The items of a list and of the lists nested in them, and the blocks that they hold. Items are
entered in pre-order, which is the order of their addresses; each entry is made of stretches of the
source that no other entry takes anything from. -/
namespace PluginReadme.Flattening
open Document (ownText nodeEntries nestedEntries itemEntries entries)
open Markdown (Node Item Span blocksOf)
open PluginReadme.Numbering (own)
open Lines Stretches

variable {source : Text} {low high : Nat} {item : Item} {items inner : List Item} {node : Node}
  {nodes : List Node}

/-! ## Nested lists -/

/-- The items of a list. -/
def itemsOf : Node → Option (List Item)
  | .list _ _ _ items => some items
  | _ => none

/-- The lists that stand right in an item, as their items. -/
def nested (item : Item) : List (List Item) := item.children.filterMap itemsOf

private theorem sizeOf_nested (member : inner ∈ nested item) : sizeOf inner < sizeOf item := by
  obtain ⟨span, children⟩ := item
  obtain ⟨node, child, found⟩ := List.mem_filterMap.mp member
  have smaller := List.sizeOf_lt_of_mem child
  cases node with
  | list span' mark start items =>
    cases found
    simp only [Item.children, Node.list.sizeOf_spec, Item.mk.sizeOf_spec] at smaller ⊢
    omega
  | _ => cases found

/-- What holds of some items if it holds of all but the first, and of the lists that stand right in
the first: these are no part of the list that holds the item, but they are smaller. -/
@[elab_as_elim]
theorem items_induct {motive : List Item → Prop} (nil : motive [])
    (cons : ∀ item rest, (∀ inner ∈ nested item, motive inner) → motive rest →
      motive (item :: rest)) (items : List Item) : motive items := by
  induction size : sizeOf items using Nat.strongRecOn generalizing items with
  | ind size ih =>
    subst size
    cases items with
    | nil => exact nil
    | cons item rest =>
      have bound : sizeOf (item :: rest) = 1 + sizeOf item + sizeOf rest := List.cons.sizeOf_spec ..
      refine cons item rest (fun inner member => ih _ ?_ inner rfl) (ih _ ?_ rest rfl)
      · have := sizeOf_nested member
        omega
      · omega

theorem nestedEntries_eq (source : Text) (nodes : List Node) :
    nestedEntries source nodes = (nodes.filterMap itemsOf).flatMap (entries source) := by
  induction nodes with
  | nil => rfl
  | cons node rest ih =>
    cases node <;> simp [nestedEntries, nodeEntries, itemsOf, List.filterMap_cons, ih]

/-- The entry of an item stands before those of the items nested in it, and these before those of
the next item. -/
theorem entries_cons (source : Text) (item : Item) (rest : List Item) :
    entries source (item :: rest) =
      own source item :: (nested item).flatMap (entries source) ++ entries source rest := by
  obtain ⟨span, children⟩ := item
  rw [entries, itemEntries, nestedEntries_eq]
  rfl

mutual

/-- An item, then the items of the lists nested in it. -/
def itemPreorder : Item → List Item
  | .mk span children => .mk span children :: nestedPreorder children

/-- The items of the lists among some blocks, each before those nested in it. -/
def nestedPreorder : List Node → List Item
  | [] => []
  | node :: rest => nodePreorder node ++ nestedPreorder rest

/-- The items of a list, each before those nested in it. -/
def nodePreorder : Node → List Item
  | .list _ _ _ items => preorder items
  | _ => []

/-- Some items, each before those of the lists nested in it. -/
def preorder : List Item → List Item
  | [] => []
  | item :: rest => itemPreorder item ++ preorder rest

end

theorem nestedPreorder_eq (nodes : List Node) :
    nestedPreorder nodes = (nodes.filterMap itemsOf).flatMap preorder := by
  induction nodes with
  | nil => rfl
  | cons node rest ih =>
    cases node <;> simp [nestedPreorder, nodePreorder, itemsOf, List.filterMap_cons, ih]

theorem preorder_cons (item : Item) (rest : List Item) :
    preorder (item :: rest) = item :: (nested item).flatMap preorder ++ preorder rest := by
  obtain ⟨span, children⟩ := item
  rw [preorder, itemPreorder, nestedPreorder_eq]
  rfl

theorem entries_eq_map (source : Text) (items : List Item) :
    entries source items = (preorder items).map (own source) := by
  induction items using items_induct with
  | nil => rfl
  | cons item rest inside ih =>
    rw [entries_cons, preorder_cons, ih, List.flatMap_congr inside]
    simp [List.map_flatMap]

/-! ## Addresses -/

/-- The item that an address leads to: its place in a list, and if it is nested deeper, the place of
the list that leads to it among those in the item at that place, and its address there. -/
def itemAt (items : List Item) : List Nat → Option Item
  | [] => none
  | [place] => items[place]?
  | place :: list :: address => do
    let item ← items[place]?
    let inner ← (nested item)[list]?
    itemAt inner address

/-- The items that addresses lead to, in the order of the addresses: an address comes before all
that go on from it, and those before the ones that have a larger number where they part. -/
def Enumerates (lookup : List Nat → Option Item) (found : List Item) : Prop :=
  ∃ addresses : List (List Nat), addresses.Pairwise (· < ·) ∧
    (∀ address, address ∈ addresses ↔ (lookup address).isSome) ∧
    addresses.map lookup = found.map some

/-- Looks up in the first place or in those behind it. -/
private def branch (first rest : List Nat → Option Item) : List Nat → Option Item
  | [] => none
  | 0 :: address => first address
  | (place + 1) :: address => rest (place :: address)

/-- Finds an item right here, or looks further up. -/
private def rooted (item : Item) (deeper : List Nat → Option Item) : List Nat → Option Item
  | [] => some item
  | address => deeper address

/-- Looks up in one of some lists. -/
private def amidst (lists : List (List Item)) : List Nat → Option Item
  | [] => none
  | list :: address => do itemAt (← lists[list]?) address

private theorem itemAt_cons (item : Item) (rest : List Item) :
    itemAt (item :: rest) = branch (rooted item (amidst (nested item))) (itemAt rest) := by
  funext address
  rcases address with _ | ⟨_ | place, _ | ⟨list, address⟩⟩ <;> rfl

private theorem amidst_cons (first : List Item) (rest : List (List Item)) :
    amidst (first :: rest) = branch (itemAt first) (amidst rest) := by
  funext address
  rcases address with _ | ⟨_ | list, address⟩ <;> rfl

/-- The address of what stands one place further on. -/
private def bump : List Nat → List Nat
  | [] => []
  | place :: address => (place + 1) :: address

variable {first rest lookup : List Nat → Option Item} {found others : List Item}

private theorem Enumerates.branch (here : Enumerates first found) (later : Enumerates rest others)
    (none' : rest [] = none) : Enumerates (branch first rest) (found ++ others) := by
  obtain ⟨addresses, sorted, all, same⟩ := here
  obtain ⟨addresses', sorted', all', same'⟩ := later
  have filled : ∀ address ∈ addresses', ∃ place deeper, address = place :: deeper := by
    intro address member
    cases address with
    | nil =>
      have wrong := (all' []).mp member
      rw [none'] at wrong
      cases wrong
    | cons place deeper => exact ⟨place, deeper, rfl⟩
  refine ⟨addresses.map (0 :: ·) ++ addresses'.map bump, ?_, ?_, ?_⟩
  · refine List.pairwise_append.mpr ⟨?_, ?_, ?_⟩
    · refine List.pairwise_map.mpr (sorted.imp fun less => ?_)
      exact List.cons_lt_cons_iff.mpr (Or.inr ⟨rfl, less⟩)
    · refine List.pairwise_map.mpr (sorted'.imp_of_mem fun one two less => ?_)
      obtain ⟨place, deeper, rfl⟩ := filled _ one
      obtain ⟨place', deeper', rfl⟩ := filled _ two
      refine List.cons_lt_cons_iff.mpr ?_
      exact (List.cons_lt_cons_iff.mp less).imp (Nat.add_lt_add_right · 1)
        (And.imp_left (congrArg (· + 1)))
    · intro one member two member'
      obtain ⟨address, -, rfl⟩ := List.mem_map.mp member
      obtain ⟨address', inside, rfl⟩ := List.mem_map.mp member'
      obtain ⟨place, deeper, rfl⟩ := filled _ inside
      exact List.cons_lt_cons_iff.mpr (Or.inl (Nat.succ_pos place))
  · intro address
    rw [List.mem_append, List.mem_map, List.mem_map]
    rcases address with _ | ⟨_ | place, address⟩
    · refine ⟨?_, nofun⟩
      rintro (⟨_, -, wrong⟩ | ⟨address, member, wrong⟩)
      · cases wrong
      · obtain ⟨place, deeper, rfl⟩ := filled _ member
        cases wrong
    · refine Iff.trans ⟨?_, fun member => Or.inl ⟨address, member, rfl⟩⟩ (all address)
      rintro (⟨_, member, same⟩ | ⟨address', member, wrong⟩)
      · cases same
        exact member
      · obtain ⟨place, deeper, rfl⟩ := filled _ member
        cases wrong
    · refine Iff.trans ⟨?_, fun member => Or.inr ⟨place :: address, member, rfl⟩⟩
        (all' (place :: address))
      rintro (⟨_, -, wrong⟩ | ⟨address', member, same⟩)
      · cases wrong
      · obtain ⟨place', deeper, rfl⟩ := filled _ member
        cases same
        exact member
  · rw [List.map_append, List.map_append, List.map_map, List.map_map, ← same, ← same']
    congr 1
    refine List.map_congr_left fun address member => ?_
    obtain ⟨place, deeper, rfl⟩ := filled _ member
    rfl

private theorem Enumerates.root (deeper : Enumerates lookup found) (none' : lookup [] = none)
    (item : Item) : Enumerates (rooted item lookup) (item :: found) := by
  obtain ⟨addresses, sorted, all, same⟩ := deeper
  have filled : [] ∉ addresses := by
    intro member
    have wrong := (all []).mp member
    rw [none'] at wrong
    cases wrong
  have same' : ∀ address ∈ addresses, rooted item lookup address = lookup address := by
    intro address member
    cases address with
    | nil => exact absurd member filled
    | cons place address => rfl
  refine ⟨[] :: addresses, List.pairwise_cons.mpr ⟨fun address member => ?_, sorted⟩, ?_, ?_⟩
  · cases address with
    | nil => exact absurd member filled
    | cons place address => exact List.nil_lt_cons place address
  · intro address
    cases address with
    | nil => exact ⟨fun _ => rfl, fun _ => List.mem_cons_self⟩
    | cons place address =>
      refine Iff.trans ⟨fun member => ?_, List.mem_cons_of_mem []⟩ (all (place :: address))
      exact (List.mem_cons.mp member).resolve_left nofun
  · rw [List.map_cons, List.map_cons, List.map_congr_left same', same]
    rfl

private theorem Enumerates.nothing (none' : ∀ address, lookup address = none) :
    Enumerates lookup [] := by
  refine ⟨[], .nil, fun address => ?_, rfl⟩
  rw [none']
  exact ⟨nofun, nofun⟩

/-- Pre-order is the order of addresses. -/
theorem preorder_enumerates (items : List Item) : Enumerates (itemAt items) (preorder items) := by
  induction items using items_induct with
  | nil => exact .nothing fun address => by rcases address with _ | ⟨_, _ | _⟩ <;> rfl
  | cons item rest inside ih =>
    have lists : ∀ lists : List (List Item),
        (∀ inner ∈ lists, Enumerates (itemAt inner) (preorder inner)) →
        Enumerates (amidst lists) (lists.flatMap preorder) := by
      intro lists each
      induction lists with
      | nil => exact .nothing fun address => by cases address <;> rfl
      | cons inner lists ih' =>
        obtain ⟨here, later⟩ := List.forall_mem_cons.mp each
        rw [amidst_cons, List.flatMap_cons]
        exact here.branch (ih' later) rfl
    rw [itemAt_cons, preorder_cons]
    exact ((lists (nested item) inside).root rfl item).branch ih rfl

end PluginReadme.Flattening
