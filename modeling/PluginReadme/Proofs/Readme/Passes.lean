import Mathlib.Logic.Function.Iterate
import PluginReadme.Proofs.Readme.LinkForm

/-! Rewriting the links of a text again and again. A pass may bring up links that were not there
before, as those around a badge; but each link that is rewritten takes an opening bracket, so the
passes come to an end, and what is left then holds no link. -/
namespace PluginReadme.Passes
open Readme (Link renderLinks)
open LinkForm

variable {text out : Text} {links : List Link}

/-! ## What one pass takes away -/

/-- A character that passes neither take nor add: no bracket, and no space. -/
def isKept (c : Char) : Bool := c != '[' && c != ']' && c != ' '

/-- What each link has less once it is rewritten, the text has less for every link of the pass. -/
theorem pass_less {size : Text → Nat}
    (joined : ∀ front back, size (front ++ back) = size front + size back)
    (each : ∀ link, size link.render + 1 = size (source link)) (pass : Pass links text out) :
    size out + links.length = size text := by
  have empty : size [] = 0 := by simpa using joined [] []
  induction pass with
  | done => simp [empty]
  | @keep links rest out c bare onward ih =>
    have before := joined [c] rest
    have after := joined [c] out
    simp only [List.singleton_append] at before after
    omega
  | @link links link rest out proper onward ih =>
    have before := joined (source link) rest
    have after := joined link.render out
    have less := each link
    rw [List.length_cons]
    omega

theorem pass_kept (pass : Pass links text out) : out.filter isKept = text.filter isKept := by
  induction pass with
  | done => rfl
  | keep c bare onward ih => rw [List.filter_cons, List.filter_cons, ih]
  | @link links link rest out proper onward ih =>
    have same : link.render.filter isKept = (source link).filter isKept := by
      simp [Link.render, source, isKept]
    rw [List.filter_append, List.filter_append, ih, same]

theorem pass_length (pass : Pass links text out) : out.length + links.length = text.length := by
  refine pass_less (fun front back => List.length_append) (fun link => ?_) pass
  simp [Link.render, source]

theorem pass_opening (pass : Pass links text out) :
    out.count '[' + links.length = text.count '[' := by
  refine pass_less (fun front back => List.count_append) (fun link => ?_) pass
  simp [Link.render, source]

theorem pass_closing (pass : Pass links text out) :
    out.count ']' + links.length = text.count ']' := by
  refine pass_less (fun front back => List.count_append) (fun link => ?_) pass
  have text : link.render.count ']' = link.text.count ']' + link.url.count ']' := by
    simp [Link.render]
  have around : (source link).count ']' = link.text.count ']' + (link.url.count ']' + 1) := by
    simp [source]
  rw [text, around, Nat.add_assoc]

/-! ## Texts at rest -/

theorem pass_none (pass : Pass [] text out) : ¬ HoldsLink text := by
  generalize nothing : ([] : List Link) = links at pass
  induction pass with
  | done => exact holdsLink_nil
  | keep c bare onward ih =>
    rw [holdsLink_cons]
    exact not_or.mpr ⟨bare, ih nothing⟩
  | link => cases nothing

/-- A text stays as it is just if it holds no link. -/
theorem fixed_iff : renderLinks text = text ↔ ¬ HoldsLink text := by
  constructor
  · intro fixed
    obtain ⟨links, pass⟩ := exists_pass text
    have size := pass_length pass
    rw [fixed] at size
    obtain rfl := List.eq_nil_of_length_eq_zero (by omega : links.length = 0)
    exact pass_none pass
  · intro absent
    induction text with
    | nil => rw [renderLinks]
    | cons c rest ih =>
      obtain ⟨bare, absent⟩ := not_or.mp (mt holdsLink_cons.mpr absent)
      rw [renderLinks_keep bare, ih absent]

/-- A pass over a text that holds a link takes an opening bracket. -/
theorem fewer_openings (holds : HoldsLink text) :
    (renderLinks text).count '[' < text.count '[' := by
  obtain ⟨links, pass⟩ := exists_pass text
  have fewer := pass_opening pass
  cases links with
  | nil => exact absurd holds (pass_none pass)
  | cons link links =>
    rw [List.length_cons] at fewer
    omega

theorem at_rest {passes : Nat} (enough : text.count '[' ≤ passes) :
    ¬ HoldsLink (renderLinks^[passes] text) := by
  induction passes generalizing text with
  | zero =>
    intro holds
    have fewer := fewer_openings holds
    rw [Function.iterate_zero_apply] at fewer
    omega
  | succ passes ih =>
    rw [Function.iterate_succ_apply]
    by_cases holds : HoldsLink text
    · have fewer := fewer_openings holds
      exact ih (by omega)
    · have fixed := fixed_iff.mpr holds
      rw [fixed, Function.iterate_fixed fixed]
      exact holds

/-- Pass after pass, no more often than there are opening brackets, a text comes to a rest in which
it holds no link. A pass takes a character for each link that it rewrites, one bracket of each
kind being gone and a space added, and leaves all other characters in their order. -/
theorem passes_come_to_rest (text : Text) :
    (∀ passes, text.count '[' ≤ passes →
      renderLinks (renderLinks^[passes] text) = renderLinks^[passes] text ∧
        ¬ HoldsLink (renderLinks^[passes] text)) ∧
    (∃ links, Pass links text (renderLinks text)) ∧
    ∀ links out, Pass links text out → out = renderLinks text ∧
      out.length + links.length = text.length ∧
      out.count '[' + links.length = text.count '[' ∧
      out.count ']' + links.length = text.count ']' ∧
      out.filter isKept = text.filter isKept := by
  refine ⟨?_, exists_pass text, ?_⟩
  · intro passes enough
    have rest := at_rest enough
    exact ⟨fixed_iff.mpr rest, rest⟩
  · intro links out pass
    exact ⟨pass.out_eq, pass_length pass, pass_opening pass, pass_closing pass, pass_kept pass⟩

/-- A badge, whose link comes up only when that of its picture has been rewritten. -/
theorem badge_comes_to_rest :
    "a [![b](c)](d)".toList.count '[' ≤ 2 ∧
    ¬ HoldsLink (renderLinks^[2] "a [![b](c)](d)".toList) ∧
    Pass [⟨"b".toList, "c".toList⟩] "a [![b](c)](d)".toList "a [!b (c)](d)".toList ∧
    renderLinks "a [![b](c)](d)".toList = "a [!b (c)](d)".toList ∧
    HoldsLink (renderLinks "a [![b](c)](d)".toList) := by
  have pass : Pass [⟨"b".toList, "c".toList⟩] "a [![b](c)](d)".toList "a [!b (c)](d)".toList :=
    .keep 'a' (by decide) <| .keep ' ' (by decide) <| .keep '[' (by decide) <|
      .keep '!' (by decide) <| @Pass.link _ ⟨"b".toList, "c".toList⟩ "](d)".toList _ (by decide) <|
        .keep ']' (by decide) <| .keep '(' (by decide) <| .keep 'd' (by decide) <|
          .keep ')' (by decide) .done
  have spec := passes_come_to_rest "a [![b](c)](d)".toList
  have enough : "a [![b](c)](d)".toList.count '[' ≤ 2 := by decide
  have first := (spec.2.2 _ _ pass).1
  refine ⟨enough, (spec.1 2 enough).2, pass, first.symm, ?_⟩
  rw [← first]
  exact ⟨"a ".toList, ⟨"!b (c)".toList, "d".toList⟩, [], by decide, by decide⟩

end PluginReadme.Passes
