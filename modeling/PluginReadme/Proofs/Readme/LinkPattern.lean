import Mathlib
import PluginReadme.Pattern.Parser
import PluginReadme.Proofs.Pattern.Search
import PluginReadme.Proofs.Pattern.Plain
import PluginReadme.Proofs.Readme.LinkForm

/-! Links by way of a pattern. What the pattern of a link matches is a link as it is written, and
there is just one such match at a place; so to rewrite every match from left to right, each with
the texts of its groups, is what a pass does. -/
namespace PluginReadme.LinkPattern
open Pattern Plain Numeral LinkForm
open Readme (Link renderLinks isLinkText isLinkUrl)
open Unicode (CodeSet)

variable {start stop middle : Cursor} {chars : CodeSet} {text url out : Text} {c : Char}

/-! ## The pattern of a link -/

/-- How the pattern of a link is written. -/
def linkExpression : Text := "\\[([^\\[\\]]+)\\]\\(([^)]+)\\)".toList

/-- All characters but the square brackets. -/
def unbracketed : CodeSet := ⟨[(0, 0x5A), (0x5C, 0x5C), (0x5E, CodeSet.top)]⟩

/-- All characters but the closing parenthesis. -/
def unclosed : CodeSet := ⟨[(0, 0x28), (0x2A, CodeSet.top)]⟩

/-- A group of one or more characters, as many as there are. -/
def manyOf (chars : CodeSet) : Pattern := .group (.repeated 1 none true (.set chars))

/-- The pattern of a link. -/
def linkPattern : Pattern :=
  .concat (literal ['[']) <| .concat (manyOf unbracketed) <| .concat (literal [']']) <|
    .concat (literal ['(']) <| .concat (manyOf unclosed) (literal [')'])

/-- The pattern of a link is what its expression is read as. -/
theorem linkPattern_read : ((tokens linkExpression).bind (parseTokens .initial)).map
    Parsed.pattern = some linkPattern := by cbv

/-- A match of the pattern of a link, with the texts that its two groups keep. -/
def Keeps (start stop : Cursor) (text url : Text) : Prop :=
  ∃ opened named closed entered addressed, (literal ['[']).Matches start opened ∧
    (manyOf unbracketed).Matches opened named ∧ (literal [']']).Matches named closed ∧
    (literal ['(']).Matches closed entered ∧ (manyOf unclosed).Matches entered addressed ∧
    (literal [')']).Matches addressed stop ∧
    text = opened.textTo named ∧ url = entered.textTo addressed

/-- What a search from a place on makes of the text there: of the matches at a place the preferred
one is taken and written anew with the texts of its groups, and the search goes on behind it. -/
inductive Replaced : Cursor → Text → Prop where
  | ended {start : Cursor} (missed : linkPattern.ends start = []) (finished : start.rest = []) :
      Replaced start []
  | missed {start : Cursor} {c : Char} {rest out : Text} (missed : linkPattern.ends start = [])
      (ahead : start.rest = c :: rest)
      (onward : Replaced ⟨start.position + 1, some c, rest⟩ out) : Replaced start (c :: out)
  | matched {start stop : Cursor} {others : List Cursor} {text url out : Text}
      (preferred : linkPattern.ends start = stop :: others) (keeps : Keeps start stop text url)
      (onward : Replaced stop out) :
      Replaced start (text ++ " (".toList ++ url ++ ")".toList ++ out)

/-! ## What the parts match -/

theorem literal_matches_iff : (literal text).Matches start stop ↔ past start text = some stop := by
  rw [← mem_ends, literal_ends, Option.mem_toList]

theorem past_onto (start : Cursor) (c : Char) (rest : Text) (ahead : start.rest = c :: rest) :
    past start (c :: text) = past ⟨start.position + 1, some c, rest⟩ text := by
  simp [past, ahead]

theorem times_set {count : Nat} : Times (Pattern.set chars).Matches count start stop ↔
    ∃ text, text.length = count ∧ Run chars.contains text ∧ past start text = some stop := by
  induction count generalizing start with
  | zero =>
    constructor
    · rintro rfl
      exact ⟨[], rfl, Run.nil, rfl⟩
    · rintro ⟨text, size, -, passed⟩
      obtain rfl := List.eq_nil_of_length_eq_zero size
      exact (Option.some.inj passed).symm
  | succ count ih =>
    constructor
    · rintro ⟨next, ⟨c, rest, ahead, inside, rfl⟩, rounds⟩
      obtain ⟨text, rfl, run, passed⟩ := ih.mp rounds
      refine ⟨c :: text, rfl, run_cons.mpr ⟨inside, run⟩, ?_⟩
      rw [past_onto start c rest ahead, passed]
    · rintro ⟨text, size, run, passed⟩
      obtain ⟨c, text, rfl⟩ := List.exists_cons_of_length_eq_add_one size
      obtain ⟨inside, run⟩ := run_cons.mp run
      have ahead : start.rest = c :: (text ++ stop.rest) := (past_ok passed).1
      refine ⟨_, ⟨c, _, ahead, inside, rfl⟩, ih.mpr ⟨text, by simpa using size, run, ?_⟩⟩
      rw [← past_onto start c _ ahead, passed]

theorem manyOf_matches : (manyOf chars).Matches start stop ↔
    ∃ text, text ≠ [] ∧ Run chars.contains text ∧ past start text = some stop := by
  constructor
  · rintro ⟨count, least, -, rounds⟩
    obtain ⟨text, rfl, run, passed⟩ := times_set.mp rounds
    exact ⟨text, List.length_pos_iff.mp least, run, passed⟩
  · rintro ⟨text, filled, run, passed⟩
    exact ⟨text.length, List.length_pos_iff.mpr filled, (fun bound none => nomatch none),
      times_set.mpr ⟨text, rfl, run, passed⟩⟩

theorem textTo_past (passed : past start text = some stop) : start.textTo stop = text := by
  obtain ⟨split, position⟩ := past_ok passed
  simp [Cursor.textTo, split, position]

private theorem toNat_lt (c : Char) : c.toNat < 0x110000 := by
  rcases c.valid with low | ⟨-, high⟩
  · exact Nat.lt_trans low (by decide)
  · exact high

theorem unbracketed_contains (c : Char) : unbracketed.contains c = isLinkText c := by
  have bound := toNat_lt c
  have opening : c = '[' ↔ c.toNat = 0x5B := Char.toNat_inj.symm
  have closing : c = ']' ↔ c.toNat = 0x5D := Char.toNat_inj.symm
  rw [Bool.eq_iff_iff]
  simp only [unbracketed, CodeSet.contains, CodeSet.containsCode, CodeSet.top, isLinkText,
    List.any_cons, List.any_nil, Bool.or_false, Bool.or_eq_true, Bool.and_eq_true,
    decide_eq_true_eq, bne_iff_ne, ne_eq, opening, closing]
  omega

theorem unclosed_contains (c : Char) : unclosed.contains c = isLinkUrl c := by
  have bound := toNat_lt c
  have closing : c = ')' ↔ c.toNat = 0x29 := Char.toNat_inj.symm
  rw [Bool.eq_iff_iff]
  simp only [unclosed, CodeSet.contains, CodeSet.containsCode, CodeSet.top, isLinkUrl,
    List.any_cons, List.any_nil, Bool.or_false, Bool.or_eq_true, Bool.and_eq_true,
    decide_eq_true_eq, bne_iff_ne, ne_eq, closing]
  omega

/-! ## What the pattern matches -/

/-- A match with its groups is a link as it is written. -/
theorem keeps_iff : Keeps start stop text url ↔
    Proper ⟨text, url⟩ ∧ past start (source ⟨text, url⟩) = some stop := by
  have inText : unbracketed.contains = isLinkText := funext unbracketed_contains
  have inUrl : unclosed.contains = isLinkUrl := funext unclosed_contains
  have parts : source ⟨text, url⟩ =
      ['['] ++ (text ++ ([']'] ++ (['('] ++ (url ++ [')'])))) := by simp [source]
  simp only [parts, past_join, Option.bind_eq_some_iff, Keeps, literal_matches_iff,
    manyOf_matches, inText, inUrl]
  constructor
  · rintro ⟨opened, named, closed, entered, addressed, first, ⟨text, textFilled, textRun, second⟩,
      third, fourth, ⟨url, urlFilled, urlRun, fifth⟩, sixth, rfl, rfl⟩
    rw [textTo_past second, textTo_past fifth]
    exact ⟨⟨textRun, textFilled, urlRun, urlFilled⟩, opened, first, named, second, closed, third,
      entered, fourth, addressed, fifth, sixth⟩
  · rintro ⟨proper, opened, first, named, second, closed, third, entered, fourth, addressed,
      fifth, sixth⟩
    exact ⟨opened, named, closed, entered, addressed, first,
      ⟨text, proper.textFilled, proper.text, second⟩, third, fourth,
      ⟨url, proper.urlFilled, proper.url, fifth⟩, sixth, (textTo_past second).symm,
      (textTo_past fifth).symm⟩

theorem linkPattern_matches :
    linkPattern.Matches start stop ↔ ∃ text url, Keeps start stop text url := by
  constructor
  · rintro ⟨opened, first, named, second, closed, third, entered, fourth, addressed, fifth, sixth⟩
    exact ⟨_, _, opened, named, closed, entered, addressed, first, second, third, fourth, fifth,
      sixth, rfl, rfl⟩
  · rintro ⟨text, url, opened, named, closed, entered, addressed, first, second, third, fourth,
      fifth, sixth, -⟩
    exact ⟨opened, first, named, second, closed, third, entered, fourth, addressed, fifth, sixth⟩

theorem keeps_split (keeps : Keeps start stop text url) :
    Proper ⟨text, url⟩ ∧ start.rest = source ⟨text, url⟩ ++ stop.rest := by
  obtain ⟨proper, passed⟩ := keeps_iff.mp keeps
  exact ⟨proper, (past_ok passed).1⟩

/-- The pattern is missed just where no link starts. -/
theorem missed_iff : linkPattern.ends start = [] ↔ ¬ StartsLink start.rest := by
  rw [List.eq_nil_iff_forall_not_mem]
  constructor
  · rintro missed ⟨⟨text, url⟩, rest, proper, split⟩
    obtain ⟨stop, passed, -⟩ := past_append split
    exact missed stop ((mem_ends _ _ _).mpr
      (linkPattern_matches.mpr ⟨text, url, keeps_iff.mpr ⟨proper, passed⟩⟩))
  · intro absent stop member
    obtain ⟨text, url, keeps⟩ := linkPattern_matches.mp ((mem_ends _ _ _).mp member)
    obtain ⟨proper, split⟩ := keeps_split keeps
    exact absent ⟨⟨text, url⟩, stop.rest, proper, split⟩

/-! ## Replacing all matches -/

theorem Replaced.out_eq (replaced : Replaced start out) : out = renderLinks start.rest := by
  induction replaced with
  | ended missed finished => rw [finished, renderLinks]
  | missed missed ahead onward ih =>
    rw [missed_iff, ahead] at missed
    rw [ahead, renderLinks_keep missed, ih]
  | matched preferred keeps onward ih =>
    obtain ⟨proper, split⟩ := keeps_split keeps
    rw [split, renderLinks_link proper, ih]
    simp [Link.render]

theorem replaced_of_pass {links : List Link} (pass : Pass links text out) (start : Cursor)
    (here : start.rest = text) : Replaced start out := by
  induction pass generalizing start with
  | done =>
    refine .ended (missed_iff.mpr ?_) here
    rw [here]
    decide
  | keep c bare onward ih =>
    exact .missed (missed_iff.mpr (here ▸ bare)) here (ih _ rfl)
  | @link links link rest out proper onward ih =>
    have starts : linkPattern.ends start ≠ [] := by
      rw [Ne, missed_iff, not_not, here]
      exact ⟨link, rest, proper, rfl⟩
    obtain ⟨stop, others, preferred⟩ := List.exists_cons_of_ne_nil starts
    obtain ⟨text, url, keeps⟩ := linkPattern_matches.mp
      ((mem_ends _ _ stop).mp (by rw [preferred]; exact List.mem_cons_self))
    obtain ⟨proper', split⟩ := keeps_split keeps
    obtain ⟨rfl, behind⟩ := source_unique proper proper' (here.symm.trans split)
    have written : Link.render ⟨text, url⟩ ++ out =
        text ++ " (".toList ++ url ++ ")".toList ++ out := by simp [Link.render]
    rw [written]
    exact .matched preferred keeps (ih stop behind.symm)

/-- To replace all matches of the pattern of a link is to rewrite the links of a text. -/
theorem replaced_iff : Replaced start out ↔ out = renderLinks start.rest := by
  constructor
  · exact Replaced.out_eq
  · rintro rfl
    obtain ⟨links, pass⟩ := exists_pass start.rest
    exact replaced_of_pass pass start rfl

end PluginReadme.LinkPattern
