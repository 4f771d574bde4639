import PluginReadme.Proofs.Readme.LinkForm
import PluginReadme.Proofs.Version.Finding

/-! What rewriting the links of a text leaves of it. A link loses its first bracket and the one in
front of its address becomes a space; every other character stays, so that a stretch without
brackets and parentheses comes out as it was. -/
namespace PluginReadme.Links
open LinkForm (exists_pass source_append render_append)
open Readme (renderLinks)
open Version (isDigit)
open Numeral Finding Lines

variable {text out front back kept rest line label version : Text}

/-- One text comes from another by dropping opening brackets and by parting texts of links from
their addresses. -/
inductive Edit : Text → Text → Prop where
  | nil : Edit [] []
  | keep {text out : Text} (c : Char) (rest : Edit text out) : Edit (c :: text) (c :: out)
  | drop {text out : Text} (rest : Edit text out) : Edit ('[' :: text) out
  | part {text out : Text} (rest : Edit text out) :
      Edit (']' :: '(' :: text) (' ' :: '(' :: out)

theorem Edit.keeps (kept : Text) (edit : Edit text out) : Edit (kept ++ text) (kept ++ out) := by
  induction kept with
  | nil => exact edit
  | cons c kept ih => exact .keep c ih

theorem Edit.same (text : Text) : Edit text text := by
  have edit := Edit.keeps text .nil
  rwa [List.append_nil] at edit

theorem renderLinks_edit (text : Text) : Edit text (renderLinks text) := by
  obtain ⟨links, pass⟩ := exists_pass text
  generalize renderLinks text = out at pass ⊢
  induction pass with
  | done => exact .nil
  | keep c bare onward ih => exact .keep c ih
  | link proper onward ih =>
    rw [source_append, render_append]
    exact .drop (.keeps _ (.part (.keeps _ (.keep ')' ih))))

/-! ## Parts of an edited text -/

theorem Edit.mem {c : Char} (edit : Edit text out) (member : c ∈ out) : c ∈ text ∨ c = ' ' := by
  induction edit with
  | nil => cases member
  | keep d rest ih =>
    rcases List.mem_cons.mp member with rfl | inside
    · exact Or.inl List.mem_cons_self
    · exact (ih inside).imp_left (List.mem_cons_of_mem d)
  | drop rest ih => exact (ih member).imp_left (List.mem_cons_of_mem '[')
  | part rest ih =>
    rcases List.mem_cons.mp member with rfl | inside
    · exact Or.inr rfl
    · rcases List.mem_cons.mp inside with rfl | inside
      · exact Or.inl (by simp)
      · exact (ih inside).imp_left fun found => by simp [found]

theorem Edit.free (edit : Edit text out) (free : '\n' ∉ text) : '\n' ∉ out := fun member =>
  (edit.mem member).elim free (by decide)

/-- The lines of a text are edited one by one. -/
theorem Edit.split (edit : Edit (front ++ '\n' :: back) out) :
    ∃ front' back', out = front' ++ '\n' :: back' ∧ Edit front front' ∧ Edit back back' := by
  generalize whole : front ++ '\n' :: back = text at edit
  induction edit generalizing front with
  | nil => simp at whole
  | keep c rest ih =>
    cases front with
    | nil =>
      cases whole
      exact ⟨[], _, rfl, .nil, rest⟩
    | cons d front =>
      obtain ⟨rfl, inner⟩ := List.cons.inj whole
      obtain ⟨front', back', rfl, first, second⟩ := ih inner
      exact ⟨d :: front', back', rfl, .keep d first, second⟩
  | drop rest ih =>
    cases front with
    | nil => cases whole
    | cons d front =>
      obtain ⟨rfl, inner⟩ := List.cons.inj whole
      obtain ⟨front', back', rfl, first, second⟩ := ih inner
      exact ⟨front', back', rfl, .drop first, second⟩
  | part rest ih =>
    cases front with
    | nil => cases whole
    | cons d front =>
      obtain ⟨rfl, inner⟩ := List.cons.inj whole
      cases front with
      | nil => cases inner
      | cons e front =>
        obtain ⟨rfl, last⟩ := List.cons.inj inner
        obtain ⟨front', back', rfl, first, second⟩ := ih last
        exact ⟨' ' :: '(' :: front', back', rfl, .part first, second⟩

/-- Characters that a link cannot touch. -/
def isSafe (c : Char) : Bool := c != '[' && c != '('

/-- What holds no part of a link comes out as it was. -/
theorem Edit.safe (edit : Edit (kept ++ rest) out) (safe : Run isSafe kept)
    (ends : kept.getLast? ≠ some ']') : ∃ rest', out = kept ++ rest' ∧ Edit rest rest' := by
  induction kept generalizing out with
  | nil => exact ⟨out, rfl, edit⟩
  | cons c kept ih =>
    obtain ⟨here, later⟩ := run_cons.mp safe
    have ends' : kept.getLast? ≠ some ']' := by
      cases kept with
      | nil => simp
      | cons d kept => simpa [List.getLast?_cons] using ends
    generalize whole : c :: kept ++ rest = text at edit
    cases edit with
    | nil => cases whole
    | keep d more =>
      obtain ⟨rfl, same⟩ := List.cons.inj whole
      obtain ⟨rest', rfl, edit⟩ := ih (same ▸ more) later ends'
      exact ⟨rest', rfl, edit⟩
    | drop more =>
      cases whole
      cases here
    | part more =>
      obtain ⟨rfl, same⟩ := List.cons.inj whole
      cases kept with
      | nil => exact absurd rfl ends
      | cons d kept =>
        obtain ⟨rfl, -⟩ := List.cons.inj same
        obtain ⟨wrong, -⟩ := run_cons.mp later
        cases wrong

/-! ## What a line announces once its links are rewritten -/

/-- A text without its opening brackets. -/
def squeezed (text : Text) : Text := text.filter (· != '[')

/-- What a source may announce at a place where a line of it begins, when brackets that belong to
links go. -/
def heralds (label source : Text) : Bool :=
  announces label (Text.trimStart (squeezed (source.takeWhile inLine)))

/-- Nothing is announced where a line begins, nor behind a carriage return in it. -/
def Hushed (label line : Text) : Prop :=
  ∀ before after, line = before ++ after → (before = [] ∨ before.getLast? = some '\r') →
    after ≠ [] → heralds label after = false

/-- A stretch at the start of what comes out was there before, except for the brackets. -/
private theorem squeezed_window {window : Text} (edit : Edit text (window ++ rest))
    (safe : Run isSafe window) (ends : rest = [] ∨ window.getLast? ≠ some ' ') :
    ∃ more, squeezed text = window ++ more ∧ (rest = [] → more = []) := by
  generalize whole : window ++ rest = out at edit
  induction edit generalizing window with
  | nil =>
    obtain ⟨rfl, rfl⟩ := List.append_eq_nil_iff.mp whole
    exact ⟨[], rfl, fun _ => rfl⟩
  | @keep text out c edit ih =>
    cases window with
    | nil =>
      refine ⟨squeezed (c :: text), rfl, ?_⟩
      intro empty
      subst empty
      cases whole
    | cons d window =>
      obtain ⟨rfl, inner⟩ := List.cons.inj whole
      obtain ⟨here, safe⟩ := run_cons.mp safe
      have ends' : rest = [] ∨ window.getLast? ≠ some ' ' := by
        apply ends.imp_right
        intro last
        cases window with
        | nil => simp
        | cons e window => simpa [List.getLast?_cons] using last
      obtain ⟨more, split, empty⟩ := ih safe ends' inner
      have stays : (d != '[') = true := by
        simp only [isSafe, Bool.and_eq_true] at here
        exact here.1
      have first : squeezed (d :: text) = d :: squeezed text := List.filter_cons_of_pos stays
      exact ⟨more, by rw [first, split, List.cons_append], empty⟩
  | drop edit ih => exact ih safe ends whole
  | @part text out edit ih =>
    cases window with
    | nil =>
      refine ⟨squeezed (']' :: '(' :: text), rfl, ?_⟩
      intro empty
      subst empty
      cases whole
    | cons d window =>
      obtain ⟨rfl, inner⟩ := List.cons.inj whole
      cases window with
      | nil =>
        rcases ends with rfl | last
        · cases inner
        · exact absurd rfl last
      | cons e window =>
        obtain ⟨rfl, -⟩ := List.cons.inj inner
        obtain ⟨-, later⟩ := run_cons.mp safe
        obtain ⟨wrong, -⟩ := run_cons.mp later
        cases wrong

private theorem isSafe_or (c : Char) : isSafe c = true ∨ c = '[' ∨ c = '(' := by
  by_cases safe : isSafe c = true
  · exact Or.inl safe
  · exact Or.inr (by simpa [isSafe, imp_iff_not_or, or_comm] using safe)

private theorem safe_of_plain (plain : Plain.IsPlain label) : Run isSafe label := by
  intro c member
  have operator := plain c member
  rcases isSafe_or c with safe | rfl | rfl
  · exact safe
  · cases operator
  · cases operator

private theorem safe_of_blank (blank : Run Text.isBlank text) : Run isSafe text := by
  intro c member
  have here := blank c member
  rcases isSafe_or c with safe | rfl | rfl
  · exact safe
  · cases here
  · cases here

private theorem safe_of_digit {c : Char} (digit : isDigit c = true) : isSafe c = true := by
  rcases isSafe_or c with safe | rfl | rfl
  · exact safe
  · cases digit
  · cases digit

/-- A declaration holds no part of a link. -/
theorem safe_of_tag {tag : Text} (plain : Plain.IsPlain label)
    (tagged : IsTag label version tag) : Run isSafe tag := by
  have colon : isSafe ':' = true := rfl
  have dot : isSafe '.' = true := rfl
  have digits {part : Text} (run : Run isDigit part) : Run isSafe part :=
    fun c member => safe_of_digit (run c member)
  obtain ⟨gap, pad, rfl, run, pad', major, minor, fix, rfl, ⟨-, major'⟩, ⟨-, minor'⟩, -, fix'⟩ :=
    tagged
  simp [run_append, run_cons, safe_of_plain plain, safe_of_blank run, safe_of_blank pad', colon,
    dot, digits major', digits minor', digits fix']

/-- What decides an announcement holds no part of a link. -/
private theorem announces_window (plain : Plain.IsPlain label)
    (announced : announces label text = true) :
    ∃ window rest, text = window ++ rest ∧ Run isSafe window ∧
      (rest = [] ∨ window.getLast? ≠ some ' ') ∧
      ∀ more, (rest = [] → more = []) → announces label (window ++ more) = true := by
  have stem := safe_of_plain plain
  have colon : isSafe ':' = true := rfl
  obtain ⟨gap, after, rfl, run, tail⟩ := announces_iff.mp announced
  have gap' := safe_of_blank run
  rcases tail with rfl | ⟨pad, number, rfl, pad', ready⟩
  · refine ⟨label ++ gap, [], rfl, run_append.mpr ⟨stem, gap'⟩, Or.inl rfl, ?_⟩
    intro more nothing
    rw [nothing rfl]
    exact announced
  · have inner := run_append.mpr ⟨stem, gap'⟩
    rcases ready with rfl | ⟨version, rest, rfl, isNumber⟩
    · refine ⟨label ++ gap ++ (':' :: pad), [], by simp,
        run_append.mpr ⟨inner, run_cons.mpr ⟨colon, safe_of_blank pad'⟩⟩, Or.inl rfl, ?_⟩
      intro more nothing
      rw [nothing rfl]
      simpa using announced
    · have tagged : IsTag label version (label ++ gap ++ ':' :: pad ++ version) :=
        ⟨gap, pad, rfl, run, pad', isNumber⟩
      refine ⟨_, rest, by simp, safe_of_tag plain tagged, Or.inr ?_, fun more _ => ?_⟩
      · obtain ⟨front, last, split, digit⟩ := tagged.last
        rw [split, List.getLast?_concat]
        intro same
        cases same
        cases digit
      · exact announces_iff.mpr ⟨gap, ':' :: pad ++ (version ++ more), by simp, run,
          Or.inr ⟨pad, version ++ more, rfl, pad', Or.inr ⟨version, more, rfl, isNumber⟩⟩⟩

private theorem squeezed_takeWhile (text : Text) :
    squeezed (text.takeWhile inLine) = (squeezed text).takeWhile inLine := by
  induction text with
  | nil => rfl
  | cons c text ih =>
    by_cases bracket : c = '['
    · subst bracket
      have here : inLine '[' = true := rfl
      rw [List.takeWhile_cons_of_pos here]
      exact ih
    · have stays : (c != '[') = true := by simpa using bracket
      have kept (rest : Text) : squeezed (c :: rest) = c :: squeezed rest :=
        List.filter_cons_of_pos stays
      by_cases here : inLine c = true
      · rw [List.takeWhile_cons_of_pos here, kept, kept, List.takeWhile_cons_of_pos here, ih]
      · rw [List.takeWhile_cons_of_neg here, kept, List.takeWhile_cons_of_neg here]
        rfl

/-- A text with a carriage return has a last one. -/
private theorem last_return (text : Text) :
    '\r' ∉ text ∨ ∃ front back, text = front ++ '\r' :: back ∧ '\r' ∉ back := by
  induction text with
  | nil => exact Or.inl (List.not_mem_nil)
  | cons c text ih =>
    rcases ih with free | ⟨front, back, rfl, free⟩
    · by_cases here : c = '\r'
      · exact Or.inr ⟨[], text, by rw [here]; rfl, free⟩
      · exact Or.inl fun member => (List.mem_cons.mp member).elim (here ·.symm) free
    · exact Or.inr ⟨c :: front, back, rfl, free⟩

/-- The part of a line behind the last of the carriage returns in a stretch. -/
private theorem behind_return {blanks : Text} (split : squeezed text = blanks ++ rest) :
    ∃ before after gap, text = before ++ after ∧ (before = [] ∨ before.getLast? = some '\r') ∧
      squeezed after = gap ++ rest ∧ '\r' ∉ gap ∧ ∀ c ∈ gap, c ∈ blanks := by
  rcases last_return blanks with free | ⟨front, back, rfl, free⟩
  · exact ⟨[], text, blanks, rfl, Or.inl rfl, split, free, fun c member => member⟩
  · rw [List.append_assoc, List.cons_append] at split
    obtain ⟨first, second, rfl, -, left⟩ := List.filter_eq_append_iff.mp split
    obtain ⟨brackets, after, rfl, -, -, last⟩ := List.filter_eq_cons_iff.mp left
    exact ⟨first ++ (brackets ++ ['\r']), after, back, by simp, Or.inr (by simp), last, free,
      fun c member => by simp [member]⟩

private theorem heralds_of_window (label' : LineLabel label) {gap : Text}
    (split : squeezed text = gap ++ front) (blank : Run Text.isBlank gap)
    (whole : Run inLine gap) (announced : announces label front = true) :
    heralds label text = true := by
  obtain ⟨c, after, split', -⟩ := announces_iff.mp announced
  have stem : Run inLine label := fun c member => by
    simp only [inLine, Bool.and_eq_true, bne_iff_ne]
    exact ⟨fun same => label'.whole.1 (same ▸ member), fun same => label'.whole.2 (same ▸ member)⟩
  have short : announces label (front.takeWhile inLine) = true := by
    rw [← @List.takeWhile_append_dropWhile _ inLine front] at announced
    refine announces_front announced ?_ ?_
    · rw [split', List.append_assoc, List.takeWhile_append_of_pos stem]
      simp
    · intro c member
      have ended := List.head?_dropWhile_not inLine front
      rw [Option.mem_def.mp member] at ended
      rcases inLine_eq_false.mp ended with rfl | rfl <;> decide
  have trimmed : Text.trimStart (gap ++ front.takeWhile inLine) = front.takeWhile inLine := by
    rw [Text.trimStart, List.dropWhile_append_of_pos blank]
    exact trimStart_of_announces label' short
  rw [heralds, squeezed_takeWhile, split, List.takeWhile_append_of_pos whole, trimmed, short]

/-- A line in which nothing is announced is quiet once its links are rewritten. -/
theorem Hushed.quiet (label' : LineLabel label) (hushed : Hushed label line)
    (free : '\n' ∉ line) (edit : Edit line out) : Quiet label out := by
  apply Bool.eq_false_iff.mpr
  intro announced
  obtain ⟨parted, blank, -⟩ := (@run_iff Text.isBlank out _ _).mp ⟨rfl, rfl⟩
  obtain ⟨window, rest, split, safe, ends, decides⟩ := announces_window label'.plain announced
  have filled (more : Text) (nothing : rest = [] → more = []) : window ++ more ≠ [] := by
    intro empty
    have wrong := decides more nothing
    rw [empty] at wrong
    obtain ⟨c, stem, rfl, -⟩ := label'.cons
    cases wrong
  generalize out.takeWhile Text.isBlank = blanks at parted blank
  have laid : out = blanks ++ window ++ rest := by
    rw [List.append_assoc, ← split]
    exact parted
  have ends' : rest = [] ∨ (blanks ++ window).getLast? ≠ some ' ' := by
    rcases ends with empty | last
    · exact Or.inl empty
    · by_cases empty : rest = []
      · exact Or.inl empty
      · have some := filled [] fun empty' => absurd empty' empty
        rw [List.append_nil] at some
        exact Or.inr (by rwa [List.getLast?_append_of_ne_nil _ some])
  obtain ⟨more, squeezed', nothing⟩ := squeezed_window (laid ▸ edit)
    (run_append.mpr ⟨safe_of_blank blank, safe⟩) ends'
  rw [List.append_assoc] at squeezed'
  obtain ⟨before, after, gap, rfl, starts, left, noReturn, from_⟩ := behind_return squeezed'
  have whole : Run inLine gap := fun c member => by
    have inside : c ∈ squeezed (before ++ after) := by simp [squeezed', from_ c member]
    have source := List.mem_of_mem_filter inside
    simp only [inLine, Bool.and_eq_true, bne_iff_ne]
    exact ⟨fun same => free (same ▸ source), fun same => noReturn (same ▸ member)⟩
  have some : after ≠ [] := by
    rintro rfl
    exact filled more nothing (List.append_eq_nil_iff.mp left.symm).2
  have heard := heralds_of_window label' left (fun c member => blank c (from_ c member)) whole
    (decides more nothing)
  rw [hushed before after rfl starts some] at heard
  cases heard

/-- A text in which nothing is announced is quiet, line by line, once its links are rewritten. -/
theorem each_quiet (label' : LineLabel label) (each : EachLine (Hushed label) text)
    (edit : Edit text out) : EachLine (Quiet label) out := by
  induction each generalizing out with
  | last free hushed => exact .last (edit.free free) (hushed.quiet label' free edit)
  | line free hushed rest ih =>
    obtain ⟨line', more, rfl, first, second⟩ := edit.split
    exact .line (first.free free) (hushed.quiet label' free first) (ih second)

end PluginReadme.Links
