import PluginReadme.Json.Value
import PluginReadme.Proofs.Json.Numbers
import PluginReadme.Proofs.Json.Strings

/-! Values that are skipped. A value of any kind and depth is skipped just up to its end, where
nothing stands behind it that could go on with a number. -/
namespace PluginReadme.JsonText
open Json Numeral

variable {text rest blanks input after before between key : Text} {c : Char} {part : Part}
  {stage : Stage} {frame : Frame} {frames : List Frame}

/-! ## Blanks -/

theorem skipSpace_blanks (blank : Blanks blanks) (text : Text) :
    skipSpace (blanks ++ text) = skipSpace text := by
  refine List.dropWhile_append_of_pos fun c member => ?_
  have listed := blank c member
  simp only [List.mem_cons, List.not_mem_nil, or_false] at listed
  rcases listed with rfl | rfl | rfl | rfl <;> rfl

theorem skipSpace_solid (solid : isSpace c = false) (rest : Text) :
    skipSpace (c :: rest) = c :: rest := by
  rw [skipSpace, List.dropWhile_cons, solid]
  rfl

theorem skipSpace_twice (text : Text) : skipSpace (skipSpace text) = skipSpace text := by
  induction text with
  | nil => rfl
  | cons c text ih =>
    cases blank : isSpace c with
    | false => rw [skipSpace_solid blank, skipSpace_solid blank]
    | true =>
      have dropped : skipSpace (c :: text) = skipSpace text := by
        rw [skipSpace, List.dropWhile_cons, blank]
        rfl
      rw [dropped, ih]

/-! ## Single steps -/

theorem skipWord_append (word rest : Text) : skipWord word (word ++ rest) = .ok rest := by
  induction word with
  | nil => rfl
  | cons c word ih => rw [List.cons_append, skipWord, if_pos (beq_self_eq_true c), ih]

theorem skipFrom_value {next : Option Frame} (start : skipSpace input = c :: rest)
    (taken : skipStart c rest = .ok (stage, next, after)) (frames : List Frame) :
    skipFrom .value frames input = skipFrom stage (next.toList ++ frames) after := by
  rw [skipFrom, start]
  simp only
  rw [taken]

theorem skipFrom_key (taken : skipKey input = .ok rest) (frames : List Frame) :
    skipFrom .entry (.object :: frames) input = skipFrom .value (.object :: frames) rest := by
  conv_lhs => rw [skipFrom, taken]

theorem skipFrom_element (frames : List Frame) (input : Text) :
    skipFrom .entry (.list :: frames) input = skipFrom .value (.list :: frames) input := by
  conv_lhs => rw [skipFrom.eq_def]

theorem skipFrom_end (text : Text) : skipFrom .after [] text = .ok text := by
  rw [skipFrom.eq_def]

/-- What the innermost frame is followed by when it is closed, opened, or goes on. -/
theorem skipFrom_frame (inside : stage = .opened ∨ stage = .after)
    (start : skipSpace input = c :: rest) (frame : Frame) (frames : List Frame) :
    skipFrom stage (frame :: frames) input =
      if c == frame.closing then skipFrom .after frames rest
      else if stage == .opened then skipFrom .entry (frame :: frames) (c :: rest)
      else if c == ',' then skipFrom .entry (frame :: frames) rest
      else failNext frame.noComma (c :: rest) := by
  rcases inside with rfl | rfl
  all_goals
    conv_lhs => rw [skipFrom.eq_def]
    simp only
    rw [start]

theorem skipFrom_value_space (frames : List Frame) (input : Text) :
    skipFrom .value frames (skipSpace input) = skipFrom .value frames input := by
  rw [skipFrom, skipFrom, skipSpace_twice]

/-- Blanks ahead make no difference within a frame. -/
theorem skipFrom_frame_space (stage : Stage) (frame : Frame) (frames : List Frame)
    (input : Text) :
    skipFrom stage (frame :: frames) (skipSpace input) =
      skipFrom stage (frame :: frames) input := by
  cases stage with
  | value => exact skipFrom_value_space _ input
  | entry =>
    cases frame with
    | list => rw [skipFrom_element, skipFrom_element, skipFrom_value_space]
    | object => rw [skipFrom, skipFrom, skipKey, skipKey, skipSpace_twice]
  | opened | after =>
    rw [skipFrom.eq_def, skipFrom.eq_def]
    simp only
    rw [skipSpace_twice]

theorem skipFrom_value_blanks (blank : Blanks blanks) (frames : List Frame) (input : Text) :
    skipFrom .value frames (blanks ++ input) = skipFrom .value frames input := by
  rw [← skipFrom_value_space, skipSpace_blanks blank, skipFrom_value_space]

theorem skipFrom_frame_blanks (blank : Blanks blanks) (stage : Stage) (frame : Frame)
    (frames : List Frame) (input : Text) :
    skipFrom stage (frame :: frames) (blanks ++ input) =
      skipFrom stage (frame :: frames) input := by
  rw [← skipFrom_frame_space, skipSpace_blanks blank, skipFrom_frame_space]

/-- A frame is left at its closing. -/
theorem skipFrom_closing (inside : stage = .opened ∨ stage = .after) (frame : Frame)
    (frames : List Frame) (rest : Text) :
    skipFrom stage (frame :: frames) (frame.closing :: rest) = skipFrom .after frames rest := by
  have solid : isSpace frame.closing = false := by cases frame <;> rfl
  rw [skipFrom_frame inside (skipSpace_solid solid rest), if_pos (beq_self_eq_true _)]

/-- A comma goes on to the next entry of a frame. -/
theorem skipFrom_comma (frame : Frame) (frames : List Frame) (rest : Text) :
    skipFrom .after (frame :: frames) (',' :: rest) = skipFrom .entry (frame :: frames) rest := by
  rw [skipFrom_frame (.inr rfl) (skipSpace_solid rfl rest)]
  cases frame <;> rfl

/-! ## Values -/

/-- Whether something other than the end of a list or an object begins a text. -/
def Begins (text : Text) : Prop :=
  ∃ c more, c ≠ ']' ∧ c ≠ '\x7d' ∧ ∀ rest, skipSpace (text ++ rest) = c :: (more ++ rest)

theorem Begins.ahead (begins : Begins text) (blank : Blanks blanks) : Begins (blanks ++ text) := by
  obtain ⟨c, more, bracket, brace, start⟩ := begins
  refine ⟨c, more, bracket, brace, fun rest => ?_⟩
  rw [List.append_assoc, skipSpace_blanks blank, start]

theorem Begins.append (begins : Begins text) (behind : Text) : Begins (text ++ behind) := by
  obtain ⟨c, more, bracket, brace, start⟩ := begins
  refine ⟨c, more ++ behind, bracket, brace, fun rest => ?_⟩
  rw [List.append_assoc, start, List.append_assoc]

theorem begins_solid (solid : isSpace c = false) (bracket : c ≠ ']') (brace : c ≠ '\x7d')
    (more : Text) : Begins (c :: more) :=
  ⟨c, more, bracket, brace, fun rest => skipSpace_solid solid (more ++ rest)⟩

theorem isDigit_solid (digit : isDigit c = true) : isSpace c = false ∧ c ≠ ']' ∧ c ≠ '\x7d' := by
  refine ⟨?_, ?_, ?_⟩
  · by_contra blank
    have blank : isSpace c = true := by simpa using blank
    simp only [isSpace, Bool.or_eq_true, beq_iff_eq] at blank
    rcases blank with ((rfl | rfl) | rfl) | rfl <;> cases digit
  · rintro rfl
    cases digit
  · rintro rfl
    cases digit

theorem Written.begins (written : Written part text) : Begins text := by
  induction written with
  | number number =>
    obtain ⟨c, more, rfl, digit⟩ := number.cons
    obtain ⟨solid, bracket, brace⟩ := isDigit_solid digit
    exact begins_solid solid bracket brace more
  | element ahead _ _ value => exact (value.append _).ahead ahead
  | lastElement _ element => exact element
  | elements _ _ element => exact element.append _
  | entry ahead => exact (begins_solid rfl (by decide) (by decide) _).ahead ahead
  | lastEntry _ entry => exact entry
  | entries _ _ entry => exact entry.append _
  | _ => exact begins_solid rfl (by decide) (by decide) _

/-- What begins in a frame that was opened is an entry of it. -/
theorem Begins.entry (begins : Begins text) (frame : Frame) (frames : List Frame) (rest : Text) :
    skipFrom .opened (frame :: frames) (text ++ rest) =
      skipFrom .entry (frame :: frames) (text ++ rest) := by
  obtain ⟨c, more, bracket, brace, start⟩ := begins
  have other : ¬ (c == frame.closing) = true := by
    rw [beq_iff_eq]
    cases frame with
    | list => exact bracket
    | object => exact brace
  rw [skipFrom_frame (.inl rfl) (start rest), if_neg other, if_pos (beq_self_eq_true _),
    ← start rest, skipFrom_frame_space]

theorem skipKey_read (blank : Blanks before) (name : StringBody key) (behind : Blanks between)
    (rest : Text) :
    skipKey (before ++ ('"' :: key ++ '"' :: (between ++ ':' :: rest))) = .ok rest := by
  rw [skipKey, skipSpace_blanks blank, List.cons_append, skipSpace_solid rfl]
  simp only [beq_self_eq_true, if_true, name.skipped, bind, Except.bind, skipSpace_blanks behind,
    skipSpace_solid (show isSpace ':' = false from rfl)]
  rfl

/-- What the skipping does at a part that is written: a value is left behind, an element or an entry
with the blanks behind it, and the last ones close their frame. -/
def Skipped (part : Part) (text : Text) : Prop :=
  match part with
  | .value => ∀ frames rest, Stops inNumber rest →
      skipFrom .value frames (text ++ rest) = skipFrom .after frames rest
  | .element => ∀ frame frames rest, Stops inNumber rest →
      skipFrom .value (frame :: frames) (text ++ rest) = skipFrom .after (frame :: frames) rest
  | .elements => ∀ frames rest,
      skipFrom .value (.list :: frames) (text ++ ']' :: rest) = skipFrom .after frames rest
  | .entry => ∀ frames rest, Stops inNumber rest →
      skipFrom .entry (.object :: frames) (text ++ rest) =
        skipFrom .after (.object :: frames) rest
  | .entries => ∀ frames rest,
      skipFrom .entry (.object :: frames) (text ++ '\x7d' :: rest) = skipFrom .after frames rest

/-- A value that one step takes whole. -/
theorem skipped_single (solid : isSpace c = false)
    (taken : ∀ rest, Stops inNumber rest → skipStart c (text ++ rest) = .ok (.after, none, rest)) :
    Skipped .value (c :: text) := fun frames rest stop =>
  skipFrom_value (skipSpace_solid solid (text ++ rest)) (taken rest stop) frames

theorem skipped_word {word : Text} (solid : isSpace c = false)
    (taken : ∀ rest, skipStart c rest = (do return (.after, none, ← skipWord word rest))) :
    Skipped .value (c :: word) :=
  skipped_single solid fun rest _ => by
    rw [taken, skipWord_append]
    rfl

theorem skipped_number (number : Unsigned text) : Skipped .value text := by
  obtain ⟨c, more, rfl, digit⟩ := number.cons
  refine skipped_single (isDigit_solid digit).1 fun rest stop => ?_
  have skipped := number.skipped stop
  rw [List.cons_append] at skipped
  unfold skipStart
  split
  case h_8 => rw [if_pos digit, skipped]; rfl
  all_goals cases digit

theorem skipped_negative (number : Unsigned text) : Skipped .value ('-' :: text) :=
  skipped_single rfl fun rest stop => by
    simp only [skipStart, number.skipped stop]
    rfl

theorem skipped_string {body : Text} (content : StringBody body) :
    Skipped .value ('"' :: body ++ ['"']) := by
  have taken (rest : Text) : skipStart '"' (body ++ ['"'] ++ rest) = .ok (.after, none, rest) := by
    rw [List.append_assoc, List.singleton_append]
    simp only [skipStart, content.skipped]
    rfl
  exact skipped_single rfl fun rest _ => taken rest

/-- The opening of a frame. -/
theorem skipFrom_opening (opens : skipStart c rest = .ok (.opened, some frame, rest))
    (solid : isSpace c = false) (frames : List Frame) :
    skipFrom .value frames (c :: rest) = skipFrom .opened (frame :: frames) rest :=
  skipFrom_value (skipSpace_solid solid rest) opens frames

theorem skipped_empty (frame : Frame)
    (opens : ∀ rest, skipStart c rest = .ok (.opened, some frame, rest)) (solid : isSpace c = false)
    (blank : Blanks blanks) : Skipped .value (c :: blanks ++ [frame.closing]) :=
  fun frames rest _ => by
    rw [List.cons_append, List.cons_append, List.append_assoc, List.singleton_append,
      skipFrom_opening (opens _) solid, skipFrom_frame_blanks blank, skipFrom_closing (.inl rfl)]

theorem skipped_list (written : Written .elements text) (skipped : Skipped .elements text) :
    Skipped .value ('[' :: text ++ [']']) := fun frames rest _ => by
  rw [List.cons_append, List.cons_append, List.append_assoc, List.singleton_append,
    skipFrom_opening rfl rfl, written.begins.entry, skipFrom_element, skipped]

theorem skipped_object (written : Written .entries text) (skipped : Skipped .entries text) :
    Skipped .value ('\x7b' :: text ++ ['\x7d']) := fun frames rest _ => by
  rw [List.cons_append, List.cons_append, List.append_assoc, List.singleton_append,
    skipFrom_opening rfl rfl, written.begins.entry, skipped]

theorem skipped_element (ahead : Blanks before) (behind : Blanks after)
    (skipped : Skipped .value text) : Skipped .element (before ++ (text ++ after)) :=
  fun frame frames rest stop => by
    rw [List.append_assoc, List.append_assoc, skipFrom_value_blanks ahead,
      skipped _ _ (stops_blanks behind stop), skipFrom_frame_blanks behind]

theorem skipped_lastElement (skipped : Skipped .element text) : Skipped .elements text :=
  fun frames rest => by
    rw [skipped _ _ _ (stops_cons rfl _)]
    exact skipFrom_closing (.inr rfl) .list frames rest

theorem skipped_elements {more : Text} (skipped : Skipped .element text)
    (later : Skipped .elements more) : Skipped .elements (text ++ ',' :: more) :=
  fun frames rest => by
    rw [List.append_assoc, List.cons_append, skipped _ _ _ (stops_cons rfl _), skipFrom_comma,
      skipFrom_element, later]

theorem skipped_entry (ahead : Blanks before) (name : StringBody key) (behind : Blanks between)
    (skipped : Skipped .element text) :
    Skipped .entry (before ++ ('"' :: key ++ '"' :: (between ++ ':' :: text))) :=
  fun frames rest stop => by
    have taken := skipKey_read ahead name behind (text ++ rest)
    have split : before ++ ('"' :: key ++ '"' :: (between ++ ':' :: text)) ++ rest =
        before ++ ('"' :: key ++ '"' :: (between ++ ':' :: (text ++ rest))) := by simp
    rw [split, skipFrom_key taken, skipped _ _ _ stop]

theorem skipped_lastEntry (skipped : Skipped .entry text) : Skipped .entries text :=
  fun frames rest => by
    rw [skipped _ _ (stops_cons rfl _)]
    exact skipFrom_closing (.inr rfl) .object frames rest

theorem skipped_entries {more : Text} (skipped : Skipped .entry text)
    (later : Skipped .entries more) : Skipped .entries (text ++ ',' :: more) :=
  fun frames rest => by
    rw [List.append_assoc, List.cons_append, skipped _ _ (stops_cons rfl _), skipFrom_comma, later]

/-- Every part that is written is skipped, whatever stands in it. -/
theorem Written.skipped (written : Written part text) : Skipped part text := by
  induction written with
  | null => exact skipped_word rfl fun _ => rfl
  | true => exact skipped_word rfl fun _ => rfl
  | false => exact skipped_word rfl fun _ => rfl
  | number number => exact skipped_number number
  | negative number => exact skipped_negative number
  | string content => exact skipped_string content
  | emptyList blank => exact skipped_empty .list (fun _ => rfl) rfl blank
  | list written ih => exact skipped_list written ih
  | emptyObject blank => exact skipped_empty .object (fun _ => rfl) rfl blank
  | object written ih => exact skipped_object written ih
  | element ahead _ behind ih => exact skipped_element ahead behind ih
  | lastElement _ ih => exact skipped_lastElement ih
  | elements _ _ ih later => exact skipped_elements ih later
  | entry ahead name behind _ ih => exact skipped_entry ahead name behind ih
  | lastEntry _ ih => exact skipped_lastEntry ih
  | entries _ _ ih later => exact skipped_entries ih later

/-- A value with blanks around it is skipped, up to the blanks behind it. -/
theorem skipValue_spaced (spaced : Spaced (Written .value) text) (stop : Stops inNumber rest) :
    ∃ after, Blanks after ∧ skipValue (text ++ rest) = .ok (after ++ rest) := by
  obtain ⟨before, inner, after, ahead, written, behind, rfl⟩ := spaced
  refine ⟨after, behind, ?_⟩
  rw [List.append_assoc, List.append_assoc, skipValue, skipFrom_value_blanks ahead,
    written.skipped _ _ (stops_blanks behind stop), skipFrom_end]

end PluginReadme.JsonText
