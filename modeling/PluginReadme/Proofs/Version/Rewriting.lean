import PluginReadme.Proofs.Pattern.Plain
import PluginReadme.Proofs.Version.Number
import PluginReadme.Version.Declaration

/-! Rewriting the first declaration of a text, for any way to declare that looks only at what
follows a place. If a declaration that was rewritten is read back, and none comes up in front of
it, then rewriting once more changes nothing but the version, and the first declaration carries it.
If no declaration of one kind starts inside of one of another kind, the order in which the two are
rewritten makes no difference. -/
namespace PluginReadme.Rewriting
open Version (Declaration Rule)
open Numeral

variable {reads other : Text → Option Declaration} {rule : Rule}
  {text front back more rest version earlier : Text} {found : Declaration}

/-- The text of a declaration that has been given a version, with what follows it. -/
def written (found : Declaration) (version : Text) : Text :=
  found.head ++ version ++ found.tail ++ found.rest

/-- Gives the first declaration of a text a version. -/
def rewriteText (reads : Text → Option Declaration) (version : Text) (text : Text) : Text :=
  match reads text with
  | some found => written found version
  | none =>
    match text with
    | [] => []
    | c :: rest => c :: rewriteText reads version rest

/-- A rule looks only at what follows a place. -/
def Reads (rule : Rule) (reads : Text → Option Declaration) : Prop :=
  ∀ cursor, rule.declaration? cursor = reads cursor.rest

theorem rewrite_eq (same : Reads rule reads) (version content : Text) :
    rule.rewrite version content = rewriteText reads version content := by
  have onward (position : Nat) (previous : Option Char) :
      rule.rewriteFrom version position previous content = rewriteText reads version content := by
    induction content generalizing position previous with
    | nil =>
      unfold Rule.rewriteFrom rewriteText
      rw [same]
      cases reads [] <;> rfl
    | cons c rest ih =>
      unfold Rule.rewriteFrom rewriteText
      rw [same]
      cases reads (c :: rest) with
      | none => simp [ih]
      | some found => rfl
  exact onward 0 none

/-! ## The first declaration -/

/-- No declaration starts in the front part of a text. -/
def Clear (reads : Text → Option Declaration) (front back : Text) : Prop :=
  ∀ before after, front = before ++ after → after ≠ [] → reads (after ++ back) = none

/-- No declaration starts anywhere in a text. -/
def Bare (reads : Text → Option Declaration) (text : Text) : Prop :=
  ∀ before after, text = before ++ after → reads after = none

theorem Clear.nil : Clear reads [] back := by
  rintro before after split filled
  exact absurd (List.append_eq_nil_iff.mp split.symm).2 filled

theorem clear_cons : Clear reads (c :: front) back ↔
    reads (c :: front ++ back) = none ∧ Clear reads front back := by
  constructor
  · intro clear
    refine ⟨clear [] (c :: front) rfl (List.cons_ne_nil c front), ?_⟩
    rintro before after rfl filled
    exact clear (c :: before) after rfl filled
  · rintro ⟨here, clear⟩ before after split filled
    cases before with
    | nil =>
      cases split
      exact here
    | cons d before =>
      cases split
      exact clear before after rfl filled

theorem clear_append (clear : Clear reads front (more ++ back)) (clear' : Clear reads more back) :
    Clear reads (front ++ more) back := by
  induction front with
  | nil => exact clear'
  | cons c front ih =>
    obtain ⟨here, clear⟩ := clear_cons.mp clear
    rw [List.cons_append, clear_cons]
    exact ⟨by rw [← List.cons_append, List.append_assoc, here], ih clear⟩

/-- A text has a first declaration or none at all. -/
theorem first_or_bare (reads : Text → Option Declaration) (text : Text) :
    (∃ front back found, text = front ++ back ∧ Clear reads front back ∧
      reads back = some found) ∨ Bare reads text := by
  rcases first_place_or_none (fun _ back => reads back ≠ none) text with
    ⟨front, back, split, here, first⟩ | none
  · obtain ⟨found, here⟩ := Option.ne_none_iff_exists'.mp here
    refine Or.inl ⟨front, back, found, split, ?_, here⟩
    exact fun before after parts filled => not_not.mp (first before after parts filled)
  · exact Or.inr fun before after split => not_not.mp (none before after split)

theorem rewriteText_bare (bare : Bare reads text) (version : Text) :
    rewriteText reads version text = text := by
  induction text with
  | nil => simp [rewriteText, bare [] [] rfl]
  | cons c rest ih =>
    have after : Bare reads rest := fun before after split =>
      bare (c :: before) after (by rw [split, List.cons_append])
    simp [rewriteText, bare [] (c :: rest) rfl, ih after]

theorem rewriteText_clear (clear : Clear reads front back) (version : Text) :
    rewriteText reads version (front ++ back) = front ++ rewriteText reads version back := by
  induction front with
  | nil => rfl
  | cons c front ih =>
    obtain ⟨here, clear⟩ := clear_cons.mp clear
    rw [List.cons_append] at here ⊢
    rw [rewriteText, here]
    simp [ih clear]

theorem rewriteText_here (here : reads back = some found) (version : Text) :
    rewriteText reads version back = written found version := by
  unfold rewriteText
  rw [here]

/-- There is only one first declaration. -/
theorem first_unique {first second : Declaration} (clear : Clear reads front back)
    (here : reads back = some first) (clear' : Clear reads before after)
    (here' : reads after = some second) (split : front ++ back = before ++ after) :
    front = before ∧ back = after := by
  rcases List.append_eq_append_iff.mp split with ⟨more, rfl, rfl⟩ | ⟨more, rfl, rfl⟩
  · cases more with
    | nil => simp
    | cons c more =>
      rw [clear' front (c :: more) rfl (List.cons_ne_nil c more)] at here
      cases here
  · cases more with
    | nil => simp
    | cons c more =>
      rw [clear before (c :: more) rfl (List.cons_ne_nil c more)] at here'
      cases here'

/-! ## Rewriting twice -/

/-- A rewritten declaration is read back with its version, and no declaration in front of it comes
up that was not there before. -/
structure Steady (reads : Text → Option Declaration) : Prop where
  readsBack : ∀ text found version, reads text = some found → IsNumber version →
    reads (written found version) = some { found with version }
  noneComesUp : ∀ front text found version, reads text = some found → IsNumber version →
    front ≠ [] → reads (front ++ text) = none → reads (front ++ written found version) = none

private theorem written_again (found : Declaration) (earlier later : Text) :
    written { found with version := earlier } later = written found later := rfl

/-- Of two versions that the first declaration is given, the later one stays. -/
theorem rewriteText_last (steady : Steady reads) (number : IsNumber earlier)
    (later text : Text) :
    rewriteText reads later (rewriteText reads earlier text) = rewriteText reads later text := by
  rcases first_or_bare reads text with ⟨front, back, found, rfl, clear, here⟩ | bare
  · have still : Clear reads front (written found earlier) := by
      rintro before after rfl filled
      exact steady.noneComesUp after back found earlier here number filled
        (clear before after rfl filled)
    have again := steady.readsBack back found earlier here number
    rw [rewriteText_clear clear, rewriteText_here here, rewriteText_clear still,
      rewriteText_here again, written_again, rewriteText_clear clear, rewriteText_here here]
  · rw [rewriteText_bare bare]

/-- In a text that stays as it is, the first declaration carries the version. -/
theorem version_of_fixed (steady : Steady reads) (number : IsNumber version)
    (clear : Clear reads front back) (here : reads back = some found)
    (fixed : rewriteText reads version (front ++ back) = front ++ back) :
    found.version = version := by
  rw [rewriteText_clear clear, rewriteText_here here] at fixed
  have same : written found version = back := List.append_cancel_left fixed
  have again := steady.readsBack back found version here number
  rw [same, here] at again
  exact congrArg Declaration.version (Option.some.inj again)

/-! ## Two ways to declare -/

/-- What is read at a place is the text of the declaration, whatever follows, but for the character
right behind it; a new version leaves the character that the declaration starts with. -/
structure Framed (reads : Text → Option Declaration) : Prop where
  body : ∀ text found, reads text = some found → ∃ body, text = body ++ found.rest ∧
    ∀ rest, rest.head? = found.rest.head? → reads (body ++ rest) = some { found with rest }
  head : ∀ text found version, reads text = some found →
    (written found version).head? = text.head?

/-- No declaration of another kind starts inside of one that is read. -/
def Aside (reads other : Text → Option Declaration) : Prop :=
  ∀ body found rest, reads (body ++ found.rest) = some found → Clear other body rest

theorem rewriteText_head (framed : Framed reads) (version text : Text) :
    (rewriteText reads version text).head? = text.head? := by
  unfold rewriteText
  split
  · rename_i found here
    exact framed.head text found version here
  · cases text <;> rfl

private theorem bare_behind (bare : Bare reads (front ++ back)) : Bare reads back :=
  fun before after split => bare (front ++ before) after (by rw [split, List.append_assoc])

private theorem clear_behind (clear : Clear reads (front ++ more) back) : Clear reads more back :=
  fun before after split => clear (front ++ before) after (by rw [split, List.append_assoc])

/-- A declaration in a text comes behind a front part in which none starts. -/
private theorem read_behind (clear : Clear reads front rest) (here : reads back = some found)
    (split : front ++ rest = before ++ back) :
    ∃ more, before = front ++ more ∧ rest = more ++ back := by
  rcases List.append_eq_append_iff.mp split with behind | ⟨more, rfl, rfl⟩
  · exact behind
  · cases more with
    | nil => exact ⟨[], by simp, rfl⟩
    | cons c more =>
      rw [clear before (c :: more) rfl (List.cons_ne_nil c more)] at here
      cases here

/-- In a text that has been rewritten for another kind, a declaration is read just where it was
read before, and what follows it has been rewritten. -/
theorem reads_rewritten (framed : Framed reads) (framed' : Framed other) (steady : Steady other)
    (aside : Aside reads other) (number : IsNumber version) (text : Text) :
    reads (rewriteText other version text) = (reads text).map fun found =>
      { found with rest := rewriteText other version found.rest } := by
  apply Option.ext
  intro found
  rw [Option.map_eq_some_iff]
  constructor
  · intro read
    rcases first_or_bare other text with ⟨front, back, old, rfl, clear, here⟩ | bare
    · rw [rewriteText_clear clear, rewriteText_here here] at read
      obtain ⟨body, split, local'⟩ := framed.body _ found read
      have again := steady.readsBack back old version here number
      rw [split] at read
      obtain ⟨more, rfl, rest⟩ := read_behind (aside body found found.rest read) again split.symm
      have kept : (more ++ back).head? = found.rest.head? := by
        rw [rest]
        cases more with
        | nil => exact (framed'.head back old version here).symm
        | cons c more => rfl
      refine ⟨_, by rw [List.append_assoc, local' _ kept], ?_⟩
      simp only [rewriteText_clear (clear_behind clear), rewriteText_here here, ← rest]
    · rw [rewriteText_bare bare] at read
      obtain ⟨body, rfl, -⟩ := framed.body text found read
      refine ⟨found, read, ?_⟩
      rw [rewriteText_bare (bare_behind bare)]
  · rintro ⟨old, read, rfl⟩
    obtain ⟨body, rfl, local'⟩ := framed.body text old read
    rw [rewriteText_clear (aside body old old.rest read)]
    exact local' _ (rewriteText_head framed' version old.rest)

/-- Two kinds of declarations of which none starts inside of one of the other kind. -/
structure Independent (reads other : Text → Option Declaration) : Prop where
  framed : Framed reads
  framed' : Framed other
  steady : Steady reads
  steady' : Steady other
  aside : Aside reads other
  aside' : Aside other reads

theorem Independent.symm (apart : Independent reads other) : Independent other reads :=
  ⟨apart.framed', apart.framed, apart.steady', apart.steady, apart.aside', apart.aside⟩

/-- Where a declaration is read, both orders rewrite it and what follows it. -/
private theorem Independent.comm_here (apart : Independent reads other)
    (number : IsNumber version) (number' : IsNumber version') (here : reads text = some found) :
    rewriteText reads version (rewriteText other version' text) =
      rewriteText other version' (rewriteText reads version text) := by
  have there : reads (rewriteText other version' text) =
      some { found with rest := rewriteText other version' found.rest } := by
    rw [reads_rewritten apart.framed apart.framed' apart.steady' apart.aside number', here]
    rfl
  have again := apart.steady.readsBack text found version here number
  have clear := apart.aside (found.head ++ version ++ found.tail) { found with version }
    found.rest again
  rw [rewriteText_here there, rewriteText_here here, written, written, rewriteText_clear clear]

/-- The order in which two kinds of declarations are rewritten makes no difference. -/
theorem Independent.comm (apart : Independent reads other) (number : IsNumber version)
    (number' : IsNumber version') (text : Text) :
    rewriteText reads version (rewriteText other version' text) =
      rewriteText other version' (rewriteText reads version text) := by
  induction text with
  | nil =>
    cases here : reads [] with
    | some found => exact apart.comm_here number number' here
    | none =>
      cases there : other [] with
      | some found => exact (apart.symm.comm_here number' number there).symm
      | none => simp [rewriteText, here, there]
  | cons c rest ih =>
    cases here : reads (c :: rest) with
    | some found => exact apart.comm_here number number' here
    | none =>
      cases there : other (c :: rest) with
      | some found => exact (apart.symm.comm_here number' number there).symm
      | none =>
        have still := reads_rewritten apart.framed apart.framed' apart.steady' apart.aside
          number' (c :: rest)
        have still' := reads_rewritten apart.framed' apart.framed apart.steady apart.aside'
          number (c :: rest)
        have onward : rewriteText other version' (c :: rest) =
            c :: rewriteText other version' rest := by rw [rewriteText, there]
        have onward' : rewriteText reads version (c :: rest) =
            c :: rewriteText reads version rest := by rw [rewriteText, here]
        rw [onward, here] at still
        rw [onward', there] at still'
        rw [onward, onward', rewriteText, still, rewriteText, still']
        exact congrArg (c :: ·) ih

/-- Where the first declaration of either kind is rewritten, what follows it is rewritten for the
other kind. -/
theorem Independent.rewrite_both (apart : Independent reads other) (number : IsNumber version)
    (clear : Clear reads front back) (here : reads back = some found)
    (clear' : Clear other front back) (version' : Text) :
    rewriteText other version' (rewriteText reads version (front ++ back)) =
      front ++ (found.head ++ version ++ found.tail) ++ rewriteText other version' found.rest := by
  have again := apart.steady.readsBack back found version here number
  have inside : Clear other (found.head ++ version ++ found.tail) found.rest :=
    apart.aside _ { found with version } found.rest again
  have ahead : Clear other front (written found version) := by
    rintro before after rfl filled
    have same := reads_rewritten apart.framed' apart.framed apart.steady apart.aside' number
      (after ++ back)
    have onward : Clear reads after back := clear_behind clear
    rw [rewriteText_clear onward, rewriteText_here here, clear' before after rfl filled] at same
    exact same
  rw [rewriteText_clear clear, rewriteText_here here, rewriteText_clear ahead, written,
    rewriteText_clear inside]
  simp only [List.append_assoc]

end PluginReadme.Rewriting
