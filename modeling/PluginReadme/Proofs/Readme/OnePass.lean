import Mathlib.Data.List.Infix
import PluginReadme.Proofs.Readme.Passes

/-! Texts for which one pass is enough. Where brackets come in pairs that neither meet nor stand in
addresses, no bracket that is left over comes to stand in front of a parenthesis, so that no link
comes up. -/
namespace PluginReadme.OnePass
open Readme (Link renderLinks isLinkText isLinkUrl)
open Numeral LinkForm Passes

variable {text front back rest inner : Text} {link : Link} {c : Char}

/-- The brackets of a text, read alone: opening and closing ones by turns, an opening one first. -/
def Alternate (text : Text) : Prop :=
  ∃ pairs, text.filter isBracket <+: (List.replicate pairs "[]".toList).flatten

/-- A text with brackets by turns, in which no closing bracket is directly followed by an opening
one, and no bracket stands in an address, between `](` and the next closing parenthesis. -/
structure Orderly (text : Text) : Prop where
  alternate : Alternate text
  apart : ¬ "][".toList <:+: text
  addresses : ∀ front back, text = front ++ "](".toList ++ back → ')' ∈ back →
    ∀ c ∈ back.takeWhile (· != ')'), isBracket c = false

/-! ## Parts of an orderly text -/

theorem opening_free (free : Run isLinkText text) : '[' ∉ text := by
  intro member
  cases free '[' member

theorem Orderly.behind (orderly : Orderly (front ++ back)) (alternate : Alternate back) :
    Orderly back where
  alternate := alternate
  apart met := orderly.apart (met.trans (List.suffix_append front back).isInfix)
  addresses := by
    rintro before after rfl closed
    exact orderly.addresses (front ++ before) after (by simp) closed

/-- Whether brackets stand in addresses is seen at the ends of a text, one after the other. -/
theorem addresses_of_tails
    (plain : ∀ ending ∈ text.tails, "](".toList <+: ending → ')' ∈ ending.drop 2 →
      ((ending.drop 2).takeWhile (· != ')')).any isBracket = false) :
    ∀ front back, text = front ++ "](".toList ++ back → ')' ∈ back →
      ∀ c ∈ back.takeWhile (· != ')'), isBracket c = false := by
  rintro front back rfl closed
  have suffix : "](".toList ++ back <:+ front ++ "](".toList ++ back := ⟨front, by simp⟩
  have here := plain _ ((List.mem_tails _ _).mpr suffix) (List.prefix_append _ back) closed
  simpa using List.any_eq_false.mp here

/-- Of alternate brackets the first one opens, and the next one closes. -/
private theorem alternate_cons {more : Text} {pairs : Nat}
    (alternate : c :: more <+: (List.replicate pairs "[]".toList).flatten) :
    c = '[' ∧ (more = [] ∨ ∃ others fewer, more = ']' :: others ∧
      others <+: (List.replicate fewer "[]".toList).flatten) := by
  cases pairs with
  | zero => simp at alternate
  | succ fewer =>
    have unfolded : (List.replicate (fewer + 1) "[]".toList).flatten =
        '[' :: ']' :: (List.replicate fewer "[]".toList).flatten := rfl
    rw [unfolded] at alternate
    obtain ⟨rfl, behind⟩ := List.cons_prefix_cons.mp alternate
    cases more with
    | nil => exact ⟨rfl, Or.inl rfl⟩
    | cons d others =>
      obtain ⟨rfl, further⟩ := List.cons_prefix_cons.mp behind
      exact ⟨rfl, Or.inr ⟨others, fewer, rfl, further⟩⟩

theorem Orderly.plain (orderly : Orderly (c :: rest)) (plain : isBracket c = false) :
    Orderly rest := by
  obtain ⟨pairs, alternate⟩ := orderly.alternate
  rw [List.filter_cons_of_neg (by simp [plain])] at alternate
  exact @Orderly.behind [c] rest orderly ⟨pairs, alternate⟩

/-- An orderly text that starts with a bracket starts with a pair, or holds no other bracket. -/
theorem Orderly.pair (orderly : Orderly (c :: rest)) (bracket : isBracket c = true) :
    c = '[' ∧ (Run isLinkText rest ∨ ∃ inner back, rest = inner ++ ']' :: back ∧
      Run isLinkText inner ∧ Orderly back) := by
  obtain ⟨pairs, alternate⟩ := orderly.alternate
  rw [List.filter_cons_of_pos bracket] at alternate
  obtain ⟨rfl, none | ⟨others, fewer, next, alternate⟩⟩ := alternate_cons alternate
  · refine ⟨rfl, Or.inl fun d member => isLinkText_iff.mpr ?_⟩
    simpa using List.filter_eq_nil_iff.mp none d member
  · obtain ⟨inner, back, rfl, plain, -, rfl⟩ := List.filter_eq_cons_iff.mp next
    have orderly' : Orderly (('[' :: inner ++ [']']) ++ back) := by simpa using orderly
    refine ⟨rfl, Or.inr ⟨inner, back, rfl, fun d member => isLinkText_iff.mpr ?_,
      orderly'.behind ⟨fewer, alternate⟩⟩⟩
    simpa using plain d member

/-- In an orderly text no bracket stands in a link but those around its text. -/
theorem Orderly.behind_link (orderly : Orderly (source link ++ rest)) (proper : Proper link) :
    '[' ∉ link.render ∧ Orderly rest := by
  have split : source link ++ rest =
      ('[' :: link.text) ++ "](".toList ++ (link.url ++ ')' :: rest) := by simp [source]
  have address : link.url = (link.url ++ ')' :: rest).takeWhile (· != ')') :=
    (takeWhile_run proper.url (stops_cons rfl rest)).symm
  have plain := orderly.addresses _ _ split (by simp)
  rw [← address] at plain
  have free : '[' ∉ link.url := fun member => by cases plain '[' member
  constructor
  · simp [Link.render, opening_free proper.text, free]
  · have behind : Orderly ('[' :: (link.text ++ ']' :: '(' :: (link.url ++ ')' :: rest))) :=
      source_append link rest ▸ orderly
    obtain ⟨-, none | ⟨inner, back, parts, run, orderly'⟩⟩ := behind.pair rfl
    · cases none ']' (by simp)
    · obtain ⟨-, same⟩ := run_unique proper.text (stops_cons rfl _) run (stops_cons rfl _) parts
      obtain ⟨-, rfl⟩ := List.cons.inj same
      have unbracketed : ('(' :: (link.url ++ [')'])).filter isBracket = [] := by
        have none : link.url.filter isBracket = [] :=
          List.filter_eq_nil_iff.mpr fun c member => by simp [plain c member]
        simp [none, isBracket]
      have orderly'' : Orderly ('(' :: (link.url ++ [')']) ++ rest) := by simpa using orderly'
      obtain ⟨pairs, alternate⟩ := orderly''.alternate
      rw [List.filter_append, unbracketed, List.nil_append] at alternate
      exact orderly''.behind ⟨pairs, alternate⟩

/-! ## What one pass leaves -/

/-- No pass adds a closing parenthesis. -/
theorem closing_of_renderLinks (closed : ')' ∈ renderLinks text) : ')' ∈ text := by
  obtain ⟨links, pass⟩ := exists_pass text
  have kept : ')' ∈ (renderLinks text).filter isKept := List.mem_filter.mpr ⟨closed, rfl⟩
  rw [pass_kept pass] at kept
  exact List.mem_of_mem_filter kept

/-- A text with a closing parenthesis parts at the first one. -/
theorem parted_at_closing (closed : ')' ∈ text) :
    ∃ url more, text = url ++ ')' :: more ∧ Run isLinkUrl url := by
  obtain ⟨parts, run, stop⟩ := (@run_iff isLinkUrl text _ _).mp ⟨rfl, rfl⟩
  cases left : text.dropWhile isLinkUrl with
  | nil =>
    rw [left, List.append_nil] at parts
    cases run ')' (parts ▸ closed)
  | cons c more =>
    have last : c = ')' := by simpa [isLinkUrl] using stop c (by rw [left]; rfl)
    exact ⟨_, more, by rw [← last, ← left]; exact parts, run⟩

/-- A pair of brackets that is no link does not become one when the text behind it is rewritten. -/
theorem pair_stays (apart : ¬ "][".toList <:+: '[' :: (inner ++ ']' :: back))
    (run : Run isLinkText inner) (bare : ¬ StartsLink ('[' :: (inner ++ ']' :: back))) :
    ¬ StartsLink ('[' :: (inner ++ ']' :: renderLinks back)) := by
  rintro ⟨link, after, proper, split⟩
  rw [source_append] at split
  have closing (rest : Text) : Stops isLinkText (']' :: rest) := stops_cons rfl rest
  obtain ⟨rfl, behind⟩ :=
    run_unique run (closing _) proper.text (closing _) (List.cons.inj split).2
  have opened := (List.cons.inj behind).2
  cases back with
  | nil => simp [renderLinks] at opened
  | cons d address =>
    have unopened : d ≠ '[' := by
      rintro rfl
      exact apart ⟨'[' :: link.text, address, by simp⟩
    rw [renderLinks_keep fun starts => unopened (startsLink_iff.mp starts).1] at opened
    obtain ⟨rfl, further⟩ := List.cons.inj opened
    have closed : ')' ∈ address := closing_of_renderLinks (by rw [further]; simp)
    obtain ⟨url, more, rfl, run'⟩ := parted_at_closing closed
    cases url with
    | nil =>
      have ended : ¬ StartsLink (')' :: more) := by simp [startsLink_iff]
      rw [List.nil_append, renderLinks_keep ended] at further
      obtain ⟨e, url, filled⟩ := List.exists_cons_of_ne_nil proper.urlFilled
      have first := proper.url e (by simp [filled])
      rw [filled] at further
      obtain ⟨rfl, -⟩ := List.cons.inj further
      cases first
    | cons e url =>
      refine bare ⟨⟨link.text, e :: url⟩, more, ⟨run, proper.textFilled, run', by simp⟩, ?_⟩
      simp [source]

/-- A pair of brackets that is no link adds none to what a pass leaves of the text behind it. -/
theorem pair_adds_none (apart : ¬ "][".toList <:+: '[' :: (inner ++ ']' :: back))
    (run : Run isLinkText inner) (bare : ¬ StartsLink ('[' :: (inner ++ ']' :: back)))
    (behind : ¬ HoldsLink (renderLinks back)) :
    ¬ HoldsLink (renderLinks ('[' :: (inner ++ ']' :: back))) := by
  have free : '[' ∉ inner ++ [']'] := by simp [opening_free run]
  have passed : renderLinks (inner ++ ']' :: back) = inner ++ ']' :: renderLinks back := by
    simpa using @renderLinks_behind _ back free
  have later : ¬ HoldsLink (inner ++ ']' :: renderLinks back) := by
    simpa using (holdsLink_behind free).not.mpr behind
  rw [renderLinks_keep bare, passed, holdsLink_cons]
  exact not_or.mpr ⟨pair_stays apart run bare, later⟩

/-- One pass over an orderly text leaves no link. -/
theorem renderLinks_orderly (orderly : Orderly text) : ¬ HoldsLink (renderLinks text) := by
  induction size : text.length using Nat.strongRecOn generalizing text with
  | ind size' ih =>
    cases text with
    | nil =>
      rw [renderLinks]
      exact holdsLink_nil
    | cons c rest =>
      by_cases starts : StartsLink (c :: rest)
      · obtain ⟨link, after, proper, split⟩ := starts
        rw [split] at orderly size ⊢
        obtain ⟨free, orderly'⟩ := orderly.behind_link proper
        rw [renderLinks_link proper, holdsLink_behind free]
        refine ih after.length ?_ orderly' rfl
        rw [← size, source_append]
        simp only [List.length_cons, List.length_append]
        omega
      · cases bracket : isBracket c with
        | false =>
          have bare : ¬ StartsLink (c :: renderLinks rest) := by
            rw [startsLink_iff]
            rintro ⟨rfl, -⟩
            cases bracket
          rw [renderLinks_keep starts, holdsLink_cons]
          exact not_or.mpr ⟨bare, ih rest.length (by simp [← size]) (orderly.plain bracket) rfl⟩
        | true =>
          obtain ⟨rfl, free | ⟨inner, back, rfl, run, orderly'⟩⟩ := orderly.pair bracket
          · have absent : ¬ HoldsLink ('[' :: rest) := by
              rw [holdsLink_cons]
              exact not_or.mpr ⟨starts, holdsLink_free (opening_free free)⟩
            rwa [fixed_iff.mpr absent]
          · exact pair_adds_none orderly.apart run starts
              (ih back.length (by simp [← size]; omega) orderly' rfl)

/-- Of an orderly text one pass leaves no link, and so a second pass changes nothing. -/
theorem one_pass_is_enough (orderly : Orderly text) :
    ¬ HoldsLink (renderLinks text) ∧ renderLinks (renderLinks text) = renderLinks text :=
  ⟨renderLinks_orderly orderly, fixed_iff.mpr (renderLinks_orderly orderly)⟩

/-- A text with links, pairs of brackets that are none, and a bracket that is not closed. -/
theorem mixed_pairs_need_one_pass : Orderly "a [b](c) [d] (e) [](f) [g]() [h](i j)(k) [l(m)".toList ∧
    ¬ HoldsLink (renderLinks "a [b](c) [d] (e) [](f) [g]() [h](i j)(k) [l(m)".toList) ∧
    renderLinks (renderLinks "a [b](c) [d] (e) [](f) [g]() [h](i j)(k) [l(m)".toList) =
      renderLinks "a [b](c) [d] (e) [](f) [g]() [h](i j)(k) [l(m)".toList := by
  have orderly : Orderly "a [b](c) [d] (e) [](f) [g]() [h](i j)(k) [l(m)".toList :=
    ⟨⟨6, by decide +kernel⟩, by decide +kernel, addresses_of_tails (by decide +kernel)⟩
  exact ⟨orderly, one_pass_is_enough orderly⟩

end PluginReadme.OnePass
