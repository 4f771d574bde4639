import PluginReadme.Proofs.Version.Number
import PluginReadme.Readme.Link

/-! Where a text holds links, and what one pass does there. A link is rewritten just where one starts
that is not part of a link further in front; all other text is passed character by character. -/
namespace PluginReadme.LinkForm
open Readme (Link renderLinks isLinkText isLinkUrl)
open Numeral

variable {text out front back rest : Text} {link : Link} {c : Char}

/-- A square bracket. -/
def isBracket (c : Char) : Bool := c == '[' || c == ']'

theorem isLinkText_iff : isLinkText c = true ↔ isBracket c = false := by
  simp [isLinkText, isBracket]

/-- The parts of a link as they can be read: neither is empty, the text holds no bracket and the
address no closing parenthesis. -/
structure Proper (link : Link) : Prop where
  text : Run isLinkText link.text
  textFilled : link.text ≠ []
  url : Run isLinkUrl link.url
  urlFilled : link.url ≠ []

instance (link : Link) : Decidable (Proper link) :=
  decidable_of_iff (Run isLinkText link.text ∧ link.text ≠ [] ∧ Run isLinkUrl link.url ∧
    link.url ≠ []) ⟨fun parts => ⟨parts.1, parts.2.1, parts.2.2.1, parts.2.2.2⟩,
      fun proper => ⟨proper.text, proper.textFilled, proper.url, proper.urlFilled⟩⟩

/-- A link as it is written in markdown. -/
def source (link : Link) : Text := '[' :: link.text ++ "](".toList ++ link.url ++ [')']

/-- A text starts with a link. -/
def StartsLink (text : Text) : Prop := ∃ link rest, Proper link ∧ text = source link ++ rest

/-- A text holds a link somewhere. -/
def HoldsLink (text : Text) : Prop :=
  ∃ front link back, Proper link ∧ text = front ++ source link ++ back

theorem source_append (link : Link) (rest : Text) :
    source link ++ rest = '[' :: (link.text ++ ']' :: '(' :: (link.url ++ ')' :: rest)) := by
  simp [source]

theorem render_append (link : Link) (rest : Text) :
    link.render ++ rest = link.text ++ ' ' :: '(' :: (link.url ++ ')' :: rest) := by
  simp [Link.render]

/-! ## Reading a link -/

/-- What is read behind a bracket is exactly a link whose parts can be told apart. -/
theorem afterBracket_iff : Link.afterBracket text = some (link, rest) ↔
    Proper link ∧ text = link.text ++ ']' :: '(' :: (link.url ++ ')' :: rest) := by
  constructor
  · intro read
    unfold Link.afterBracket at read
    split at read
    · rename_i more behind
      split at read
      · rename_i after behind'
        simp only [Option.ite_none_left_eq_some, Bool.or_eq_true, List.isEmpty_iff, not_or] at read
        obtain ⟨⟨textFilled, urlFilled⟩, read⟩ := read
        cases read
        refine ⟨⟨fun c member => List.mem_takeWhile_imp member, textFilled,
          fun c member => List.mem_takeWhile_imp member, urlFilled⟩, ?_⟩
        rw [← behind', List.takeWhile_append_dropWhile, ← behind,
          List.takeWhile_append_dropWhile]
      · cases read
    · cases read
  · rintro ⟨proper, rfl⟩
    have closed : Stops isLinkText (']' :: '(' :: (link.url ++ ')' :: rest)) := stops_cons rfl _
    have ended : Stops isLinkUrl (')' :: rest) := stops_cons rfl _
    simp only [Link.afterBracket, takeWhile_run proper.text closed,
      dropWhile_run proper.text closed, takeWhile_run proper.url ended,
      dropWhile_run proper.url ended]
    simp [proper.textFilled, proper.urlFilled]

/-- A text starts with one link at most. -/
theorem source_unique {other : Link} {after : Text} (proper : Proper link) (proper' : Proper other)
    (same : source link ++ rest = source other ++ after) : link = other ∧ rest = after := by
  rw [source_append, source_append] at same
  have read : Link.afterBracket (link.text ++ ']' :: '(' :: (link.url ++ ')' :: rest)) =
      some (link, rest) := afterBracket_iff.mpr ⟨proper, rfl⟩
  have read' := afterBracket_iff.mpr ⟨proper', (List.cons.inj same).2⟩
  simpa using read.symm.trans read'

theorem startsLink_iff : StartsLink (c :: rest) ↔
    c = '[' ∧ ∃ link after, Link.afterBracket rest = some (link, after) := by
  constructor
  · rintro ⟨link, after, proper, split⟩
    rw [source_append] at split
    obtain ⟨rfl, behind⟩ := List.cons.inj split
    exact ⟨rfl, link, after, afterBracket_iff.mpr ⟨proper, behind⟩⟩
  · rintro ⟨rfl, link, after, read⟩
    obtain ⟨proper, rfl⟩ := afterBracket_iff.mp read
    exact ⟨link, after, proper, (source_append link after).symm⟩

instance (text : Text) : Decidable (StartsLink text) :=
  match text with
  | [] => isFalse fun ⟨link, rest, _, split⟩ => by simp [source] at split
  | c :: rest => decidable_of_iff (c = '[' ∧ (Link.afterBracket rest).isSome) <| by
    simp only [startsLink_iff, Option.isSome_iff_exists, Prod.exists]

theorem holdsLink_nil : ¬ HoldsLink [] := by
  rintro ⟨front, link, back, -, split⟩
  simp [source] at split

/-- A link starts at the first character of a text or stands behind it. -/
theorem holdsLink_cons : HoldsLink (c :: rest) ↔ StartsLink (c :: rest) ∨ HoldsLink rest := by
  constructor
  · rintro ⟨front, link, back, proper, split⟩
    cases front with
    | nil => exact Or.inl ⟨link, back, proper, split⟩
    | cons d front =>
      obtain ⟨rfl, behind⟩ := List.cons.inj split
      exact Or.inr ⟨front, link, back, proper, behind⟩
  · rintro (⟨link, back, proper, split⟩ | ⟨front, link, back, proper, rfl⟩)
    · exact ⟨[], link, back, proper, split⟩
    · exact ⟨c :: front, link, back, proper, rfl⟩

/-- Text without an opening bracket adds no link to what follows it. -/
theorem holdsLink_behind (free : '[' ∉ front) :
    HoldsLink (front ++ back) ↔ HoldsLink back := by
  induction front with
  | nil => rfl
  | cons c front ih =>
    obtain ⟨other, free⟩ := not_or.mp (mt List.mem_cons.mpr free)
    rw [List.cons_append, holdsLink_cons, ih free, startsLink_iff]
    simp [Ne.symm other]

theorem holdsLink_free (free : '[' ∉ text) : ¬ HoldsLink text := by
  rw [← List.append_nil text, holdsLink_behind free]
  exact holdsLink_nil

/-! ## One pass -/

theorem renderLinks_link (proper : Proper link) (rest : Text) :
    renderLinks (source link ++ rest) = link.render ++ renderLinks rest := by
  have read : Link.afterBracket (link.text ++ ']' :: '(' :: (link.url ++ ')' :: rest)) =
      some (link, rest) := afterBracket_iff.mpr ⟨proper, rfl⟩
  rw [source_append, renderLinks, if_pos rfl]
  split
  · rename_i taken
    rw [read] at taken
    cases taken
    rfl
  · rename_i taken
    rw [read] at taken
    cases taken

theorem renderLinks_keep (bare : ¬ StartsLink (c :: rest)) :
    renderLinks (c :: rest) = c :: renderLinks rest := by
  rw [renderLinks]
  split
  · rename_i bracket
    split
    · rename_i link after read
      exact absurd (startsLink_iff.mpr ⟨bracket, link, after, read⟩) bare
    · rfl
  · rfl

theorem renderLinks_behind (free : '[' ∉ front) :
    renderLinks (front ++ back) = front ++ renderLinks back := by
  induction front with
  | nil => rfl
  | cons c front ih =>
    obtain ⟨other, free⟩ := not_or.mp (mt List.mem_cons.mpr free)
    have bare : ¬ StartsLink (c :: (front ++ back)) := by
      rw [startsLink_iff]
      exact fun starts => other starts.1.symm
    rw [List.cons_append, renderLinks_keep bare, ih free, List.cons_append]

/-- A pass from left to right, with the links that it rewrites. -/
inductive Pass : List Link → Text → Text → Prop where
  | done : Pass [] [] []
  | keep {links : List Link} {rest out : Text} (c : Char) (bare : ¬ StartsLink (c :: rest))
      (onward : Pass links rest out) : Pass links (c :: rest) (c :: out)
  | link {links : List Link} {link : Link} {rest out : Text} (proper : Proper link)
      (onward : Pass links rest out) :
      Pass (link :: links) (source link ++ rest) (link.render ++ out)

theorem Pass.out_eq {links : List Link} (pass : Pass links text out) : out = renderLinks text := by
  induction pass with
  | done => rw [renderLinks]
  | keep c bare onward ih => rw [renderLinks_keep bare, ih]
  | link proper onward ih => rw [renderLinks_link proper, ih]

theorem exists_pass (text : Text) : ∃ links, Pass links text (renderLinks text) := by
  induction size : text.length using Nat.strongRecOn generalizing text with
  | ind size' ih =>
    cases text with
    | nil =>
      rw [renderLinks]
      exact ⟨[], .done⟩
    | cons c rest =>
      by_cases starts : StartsLink (c :: rest)
      · obtain ⟨link, after, proper, split⟩ := starts
        have shorter : after.length < size' := by
          rw [← size, split, source_append]
          simp only [List.length_cons, List.length_append]
          omega
        obtain ⟨links, onward⟩ := ih after.length shorter after rfl
        rw [split, renderLinks_link proper]
        exact ⟨link :: links, .link proper onward⟩
      · obtain ⟨links, onward⟩ := ih rest.length (by simp [← size]) rest rfl
        rw [renderLinks_keep starts]
        exact ⟨links, .keep c starts onward⟩

end PluginReadme.LinkForm
