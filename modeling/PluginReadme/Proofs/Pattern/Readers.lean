import PluginReadme.Proofs.Pattern.Plain

/-! What is read of a pattern, piece by piece: an escape, a repetition, the start of a group. Each
of them ends where it ends, even if the pattern goes on with another alternative or with the end of
the group around it. Blanks are not ignored here. -/
namespace PluginReadme.Splitting
open Pattern

variable {α β : Type} {reads other : Text → Option (α × Text)} {text input rest more : Text}
  {fuel : Nat} {mark : Char}

/-- What comes behind a part of a pattern that is complete: nothing, another alternative, or the end
of the group around it. -/
def Breaks (more : Text) : Prop := ∀ c, more.head? = some c → c = '|' ∨ c = ')'

theorem Breaks.nil : Breaks [] := fun _ ahead => nomatch ahead

theorem Breaks.bar (rest : Text) : Breaks ('|' :: rest) :=
  fun _ ahead => Or.inl (Option.some.inj ahead).symm

theorem Breaks.close (rest : Text) : Breaks (')' :: rest) :=
  fun _ ahead => Or.inr (Option.some.inj ahead).symm

theorem Breaks.ahead (breaks : Breaks more) (inside : mark ≠ '|' ∧ mark ≠ ')')
    (missing : input.head? ≠ some mark) : (input ++ more).head? ≠ some mark := by
  cases input with
  | nil => exact fun ahead => (breaks mark ahead).elim inside.1 inside.2
  | cons c input => exact missing

/-- What is read of a text is a front part of it, and it makes no difference that the text goes on
with another alternative or the end of a group. -/
def LocalAt (reads : Text → Option (α × Text)) (input : Text) : Prop :=
  ∀ value rest, reads input = some (value, rest) →
    rest <:+ input ∧ ∀ more, Breaks more → reads (input ++ more) = some (value, rest ++ more)

/-- The same of every text. -/
def Local (reads : Text → Option (α × Text)) : Prop := ∀ input, LocalAt reads input

theorem LocalAt.none (fails : reads input = Option.none) : LocalAt reads input :=
  fun _ _ read => nomatch fails.symm.trans read

theorem LocalAt.congr (local' : LocalAt other input)
    (same : ∀ more, Breaks more → reads (input ++ more) = other (input ++ more)) :
    LocalAt reads input := by
  intro value rest read
  have here := same [] .nil
  rw [List.append_nil] at here
  obtain ⟨suffix, onward⟩ := local' value rest (here.symm.trans read)
  exact ⟨suffix, fun more breaks => (same more breaks).trans (onward more breaks)⟩

/-- What is read behind a character. -/
theorem LocalAt.behind (local' : LocalAt (fun rest => reads (mark :: rest)) input) :
    LocalAt reads (mark :: input) := by
  intro value rest read
  obtain ⟨suffix, same⟩ := local' value rest read
  exact ⟨suffix.trans (List.suffix_cons mark input), same⟩

theorem Local.here (value : α) : Local fun input => some (value, input) := by
  intro input value rest read
  cases read
  exact ⟨List.suffix_rfl, fun more _ => rfl⟩

theorem Local.none : Local fun _ => (none : Option (α × Text)) := fun _ => .none rfl

theorem Local.bind {next : α → Text → Option (β × Text)} (first : Local reads)
    (second : ∀ value, Local (next value)) :
    Local fun input => (reads input).bind fun (value, rest) => next value rest := by
  intro input value rest read
  obtain ⟨⟨before, middle⟩, here, onward⟩ := Option.bind_eq_some_iff.mp read
  obtain ⟨suffix, same⟩ := first _ _ _ here
  obtain ⟨suffix', same'⟩ := second before _ _ _ onward
  exact ⟨suffix'.trans suffix, fun more breaks => by simp [same more breaks, same' more breaks]⟩

theorem LocalAt.map (change : α → β) (local' : LocalAt reads input) :
    LocalAt (fun input => (reads input).map fun (value, rest) => (change value, rest)) input := by
  intro value rest read
  obtain ⟨⟨before, middle⟩, here, same⟩ := Option.map_eq_some_iff.mp read
  cases same
  obtain ⟨suffix, same⟩ := local' _ _ here
  exact ⟨suffix, fun more breaks => by simp [same more breaks]⟩

theorem Local.map (change : α → β) (local' : Local reads) :
    Local fun input => (reads input).map fun (value, rest) => (change value, rest) :=
  fun input => (local' input).map change

theorem Local.given {next : α → Text → Option (β × Text)} (value : Option α)
    (local' : ∀ value, Local (next value)) :
    Local fun input => value.bind fun value => next value input := by
  cases value with
  | none => exact .none
  | some value => exact local' value

theorem LocalAt.ite (condition : Bool) (first : LocalAt reads input)
    (second : LocalAt other input) :
    LocalAt (fun input => if condition then reads input else other input) input := by
  cases condition
  · exact second
  · exact first

theorem Local.ite (condition : Bool) (first : Local reads) (second : Local other) :
    Local fun input => if condition then reads input else other input :=
  fun input => (first input).ite condition (second input)

/-- A reader that needs a character. -/
theorem Local.cons (empty : reads [] = Option.none)
    (filled : ∀ c, Local fun rest => reads (c :: rest)) : Local reads
  | [] => .none empty
  | c :: input => .behind (filled c input)

/-- A reader that looks for one character, and reads in another way if that one is not there. -/
theorem Local.unless (mark : Char) (inside : mark ≠ '|' ∧ mark ≠ ')')
    (found : ∀ input, LocalAt reads (mark :: input)) (missed : Local other)
    (same : ∀ input, input.head? ≠ some mark → reads input = other input) : Local reads := by
  intro input value rest read
  by_cases ahead : input.head? = some mark
  · obtain ⟨input, rfl⟩ := List.head?_eq_some_iff.mp ahead
    exact found input value rest read
  · rw [same input ahead] at read
    obtain ⟨suffix, onward⟩ := missed _ _ _ read
    refine ⟨suffix, fun more breaks => ?_⟩
    rw [same _ (breaks.ahead inside ahead), onward more breaks]

/-- A reader of as many characters of a kind as there are. -/
theorem Local.run (kind : Char → Bool) (outside : kind '|' = false ∧ kind ')' = false) :
    Local fun input => some (input.takeWhile kind, input.dropWhile kind) := by
  intro input value rest read
  cases read
  refine ⟨List.dropWhile_suffix kind, ?_⟩
  intro more breaks
  induction input with
  | nil =>
    cases more with
    | nil => rfl
    | cons c more =>
      have stop : kind c = false := by
        rcases breaks c rfl with rfl | rfl
        · exact outside.1
        · exact outside.2
      simp [stop]
  | cons d input ih =>
    cases here : kind d with
    | false => simp [here]
    | true => simpa [here] using ih

/-! ## Escapes -/

private theorem untilBrace_cons (fuel : Nat) (c : Char) (rest : Text) :
    untilBrace false (fuel + 1) (c :: rest) = if c == '\x7d' then some ([], rest)
      else (untilBrace false fuel rest).map fun (text, rest) => (c :: text, rest) := rfl

/-- What is collected is the text in front of the first closing brace. -/
theorem untilBrace_iff : untilBrace false fuel input = some (text, rest) ↔
    input = text ++ '\x7d' :: rest ∧ '\x7d' ∉ text ∧ text.length < fuel := by
  induction fuel generalizing input text rest with
  | zero =>
    cases input <;> simp [untilBrace, skip]
  | succ fuel ih =>
    cases input with
    | nil => simp [untilBrace, skip]
    | cons c input =>
      rw [untilBrace_cons]
      by_cases brace : c = '\x7d'
      · subst brace
        constructor
        · intro read
          cases read
          simp
        · rintro ⟨split, absent, -⟩
          cases text with
          | nil => simp_all
          | cons d text =>
            obtain ⟨rfl, -⟩ := List.cons.inj split
            simp at absent
      · simp only [beq_iff_eq, brace, ↓reduceIte, Option.map_eq_some_iff, Prod.exists, ih]
        constructor
        · rintro ⟨inner, rest', ⟨rfl, absent, enough⟩, same⟩
          cases same
          refine ⟨rfl, ?_, by simpa using enough⟩
          simpa [Ne.symm brace] using absent
        · rintro ⟨split, absent, enough⟩
          cases text with
          | nil => exact absurd (List.cons.inj split).1 brace
          | cons d text =>
            obtain ⟨rfl, rfl⟩ := List.cons.inj split
            refine ⟨text, rest, ⟨rfl, ?_, by simpa using enough⟩, rfl⟩
            exact fun member => absent (List.mem_cons_of_mem c member)

theorem braces_local : Local fun input => untilBrace false input.length input := by
  intro input text rest read
  obtain ⟨rfl, absent, enough⟩ := untilBrace_iff.mp read
  refine ⟨List.suffix_append_of_suffix (List.suffix_cons _ rest), fun more _ => ?_⟩
  exact untilBrace_iff.mpr ⟨by simp, absent, by simp⟩

theorem hexDigits_local (count : Nat) : Local (hexDigits false count) := by
  induction count with
  | zero => exact .here []
  | succ count ih =>
    refine .cons rfl fun c => ?_
    exact .ite (isHex c) (ih.map (c :: ·)) .none

/-- How many digits follow the letter of a hexadecimal escape without braces. -/
private def hexCount (letter : Char) : Nat :=
  if letter == 'x' then 2 else if letter == 'u' then 4 else 8

private theorem hexEscape_digits (plain : input.head? ≠ some '\x7b') :
    hexEscape false letter input = (hexDigits false (hexCount letter) input).bind
      fun (digits, rest) => (charOf? (hexValue digits)).bind
        fun char => some (⟨char, letter == 'x'⟩, rest) := by
  unfold hexEscape
  split
  · rename_i ahead
    simp [skip] at ahead
    simp [ahead] at plain
  · rfl

theorem hexEscape_local (letter : Char) : Local (hexEscape false letter) := by
  refine .unless '\x7b' (by decide) (fun inner => .behind ?_) ?_
    fun input plain => hexEscape_digits plain
  · exact braces_local.bind (fun digits =>
      .ite (digits.isEmpty || !digits.all isHex) .none
        (.given (charOf? (hexValue digits)) fun char => .here (⟨char, false⟩ : Literal))) inner
  · exact (hexDigits_local (hexCount letter)).bind fun digits =>
      .given (charOf? (hexValue digits)) fun char => .here (⟨char, letter == 'x'⟩ : Literal)

theorem propertyEscape_local : Local (propertyEscape false) := by
  refine .cons rfl fun c => ?_
  by_cases brace : c = '\x7b'
  · subst brace
    exact braces_local.map propertyQuery
  · have same (rest : Text) : propertyEscape false (c :: rest) =
        if c == '\\' then none else some (.named [c], rest) := by
      simp [propertyEscape, skip]
    simp only [same]
    exact .ite _ .none (.here _)

theorem boundaryName_eq (enough : input.length ≤ fuel) : boundaryName false fuel input =
    (input.takeWhile isBoundaryChar, input.dropWhile isBoundaryChar) := by
  induction fuel generalizing input with
  | zero =>
    obtain rfl := List.length_eq_zero_iff.mp (Nat.le_zero.mp enough)
    rfl
  | succ fuel ih =>
    cases input with
    | nil => rfl
    | cons c input =>
      cases here : isBoundaryChar c with
      | false => simp [boundaryName, here]
      | true => simp [boundaryName, here, skip, ih (Nat.le_of_succ_le_succ enough)]

/-- The sides of a word boundary by their names. -/
private def boundarySide (name : Text) : Option Anchor :=
  if name == "start".toList then some .wordStart
  else if name == "end".toList then some .wordEnd
  else if name == "start-half".toList then some .wordStartHalf
  else if name == "end-half".toList then some .wordEndHalf
  else none

/-- A character that has to be there. -/
private def expect (mark : Char) (value : Option α) : Text → Option (α × Text)
  | [] => none
  | c :: rest => if c == mark then value.map (·, rest) else none

private theorem expect_local (mark : Char) (value : Option α) : Local (expect mark value) := by
  refine .cons rfl fun c => .ite (c == mark) ?_ .none
  cases value with
  | none => exact .none
  | some value => exact .here value

private theorem boundaryEscape_named (named : isBoundaryChar c = true) :
    boundaryEscape false ('\x7b' :: c :: rest) =
      (some ((c :: rest).takeWhile isBoundaryChar, (c :: rest).dropWhile isBoundaryChar)).bind
        fun (name, rest) => expect '\x7d' (boundarySide name) rest := by
  simp only [boundaryEscape, skip, Bool.false_eq_true, ↓reduceIte, named, Bool.not_true]
  rw [boundaryName_eq (by simp), Option.bind_some]
  cases (c :: rest).dropWhile isBoundaryChar with
  | nil => rfl
  | cons d behind =>
    by_cases brace : d = '\x7d'
    · subst brace
      simp only [expect, beq_self_eq_true, ↓reduceIte, boundarySide]
      simp only [apply_ite (Option.map _), Option.map_some, Option.map_none]
    · simp [expect, brace]

theorem boundaryEscape_local : Local (boundaryEscape false) := by
  refine .unless '\x7b' (by decide) ?_ (.here Anchor.wordBoundary) ?_
  · intro inner
    cases inner with
    | nil => exact .none rfl
    | cons c inner =>
      cases named : isBoundaryChar c with
      | true =>
        have sided : Local fun input =>
            (some (input.takeWhile isBoundaryChar, input.dropWhile isBoundaryChar)).bind
              fun (name, rest) => expect '\x7d' (boundarySide name) rest :=
          (Local.run isBoundaryChar (by decide)).bind fun name => expect_local _ _
        exact .behind ((sided (c :: inner)).congr fun _ _ => boundaryEscape_named named)
      | false =>
        have same (more : Text) : boundaryEscape false ('\x7b' :: c :: more) =
            some (.wordBoundary, '\x7b' :: c :: more) := by simp [boundaryEscape, skip, named]
        intro value rest read
        rw [same] at read
        cases read
        exact ⟨List.suffix_rfl, fun more _ => same (inner ++ more)⟩
  · intro input plain
    unfold boundaryEscape
    split
    · simp at plain
    · rfl

theorem escape_local : Local (escape false) := by
  refine .cons rfl fun c input value rest read => ?_
  have kept := read
  unfold escape at read
  simp only at read
  split at read
  · exact (hexEscape_local _).map Token.literal _ _ _ kept
  · exact (hexEscape_local _).map Token.literal _ _ _ kept
  · exact (hexEscape_local _).map Token.literal _ _ _ kept
  · exact propertyEscape_local.map (fun query => Token.charClass (.property query false)) _ _ _ kept
  · exact propertyEscape_local.map (fun query => Token.charClass (.property query true)) _ _ _ kept
  iterate 11 exact Local.here _ _ _ _ kept
  · exact boundaryEscape_local.map Token.anchor _ _ _ kept
  · have plain := Local.ite (isEscapable c) (.here (Token.literal ⟨c, false⟩))
      (.given (controlEscape c) fun char => .here (Token.literal ⟨char, false⟩))
    have here : LocalAt (fun rest => escape false (c :: rest)) input := by
      refine (plain input).congr fun more _ => ?_
      cases control : controlEscape c <;> simp_all [escape]
    exact here value rest kept

/-! ## Repetitions -/

private theorem dropBlanks_eq (input : Text) :
    number.dropBlanks false input = input.dropWhile Text.isBlank := by
  induction input with
  | nil => rw [number.dropBlanks.eq_def, List.dropWhile_nil]
  | cons c input ih =>
    rw [number.dropBlanks.eq_def]
    dsimp only
    cases blank : Text.isBlank c with
    | false => simp [blank]
    | true => simpa [blank, skip] using ih

private theorem number_eq {digits : Text} (enough : input.length ≤ fuel) :
    number false fuel digits input = number.finish false
      (digits ++ input.takeWhile Char.isDigit) (input.dropWhile Char.isDigit) := by
  induction fuel generalizing input digits with
  | zero =>
    obtain rfl := List.length_eq_zero_iff.mp (Nat.le_zero.mp enough)
    simp [number]
  | succ fuel ih =>
    cases input with
    | nil => simp [number]
    | cons c input =>
      cases here : c.isDigit with
      | false => simp [number, here]
      | true => simp [number, here, skip, ih (Nat.le_of_succ_le_succ enough)]

private theorem finish_local (digits : Text) : Local (number.finish false digits) := by
  have blanks (value : Nat) := (Local.run Text.isBlank (by decide)).map fun _ => value
  unfold number.finish
  simp only [dropBlanks_eq]
  exact .ite _ .none (blanks _)

/-- A number with blanks in front of it. -/
theorem number_local : Local fun input => number false input.length [] (Text.trimStart input) := by
  have read : Local fun input => (some (input.takeWhile Text.isBlank,
      input.dropWhile Text.isBlank)).bind fun (_, rest) => (some (rest.takeWhile Char.isDigit,
        rest.dropWhile Char.isDigit)).bind fun (digits, rest) => number.finish false digits rest :=
    (Local.run Text.isBlank (by decide)).bind fun _ =>
      (Local.run Char.isDigit (by decide)).bind fun digits => finish_local digits
  refine fun input => (read input).congr fun more _ => ?_
  exact number_eq (List.dropWhile_suffix _).length_le

theorem lazyMark_local : Local fun input => some (lazyMark input) :=
  .unless '?' (by decide) (fun input => .behind (Local.here false input)) (.here true)
    fun input plain => by
      unfold lazyMark
      split
      · simp at plain
      · rfl

/-- The upper bound of a counted repetition, behind its lower one. -/
private def upperBound (least : Nat) : Text → Option (Option Nat × Text)
  | ',' :: '\x7d' :: rest => some (none, '\x7d' :: rest)
  | ',' :: rest => (number false rest.length [] (Text.trimStart rest)).map
      fun (most, rest) => (some most, rest)
  | rest => some (some least, rest)

private theorem upperBound_local (least : Nat) : Local (upperBound least) := by
  refine .unless ',' (by decide) (fun input => .behind ?_) (.here (some least)) ?_
  · refine Local.unless '\x7d' (by decide) (fun input => ?_) (number_local.map some) ?_ input
    · intro value rest read
      cases read
      exact ⟨List.suffix_rfl, fun more _ => rfl⟩
    · intro input plain
      cases input with
      | nil => rfl
      | cons c input =>
        have other : c ≠ '\x7d' := by simpa using plain
        simp [upperBound, other]
  · intro input plain
    cases input with
    | nil => rfl
    | cons c input =>
      have other : c ≠ ',' := by simpa using plain
      simp [upperBound, other]

/-- The end of a counted repetition. -/
private def countEnd (least : Nat) (most : Option Nat) : Text → Option (Token × Text)
  | '\x7d' :: rest =>
    let (greedy, rest) := lazyMark rest
    if most.any (· < least) then none else some (.repetition least most greedy, rest)
  | _ => none

private theorem countEnd_local (least : Nat) (most : Option Nat) : Local (countEnd least most) := by
  refine .unless '\x7d' (by decide) (fun input => .behind ?_) .none ?_
  · exact (lazyMark_local.bind fun greedy =>
      .ite (most.any (· < least)) .none (.here (Token.repetition least most greedy))) input
  · intro input plain
    unfold countEnd
    split
    · simp at plain
    · rfl

private theorem counted_eq (input : Text) : counted false input =
    (number false input.length [] (Text.trimStart input)).bind fun (least, rest) =>
      (upperBound least rest).bind fun (most, rest) => countEnd least most rest := by
  unfold counted
  refine congrArg (Option.bind _) (funext fun (least, rest) => ?_)
  dsimp only
  split
  · rename_i rest
    split
    · rename_i ahead
      cases ahead
      rfl
    · rename_i other
      have upper : upperBound least (',' :: rest) =
          (number false rest.length [] (Text.trimStart rest)).map
            fun (most, rest) => (some most, rest) :=
        upperBound.eq_2 _ _ other
      rw [upper]
      simp only [skip, Bool.false_eq_true, ↓reduceIte]
      cases number false rest.length [] (Text.trimStart rest) with
      | none => rfl
      | some found => rfl
  · rename_i other
    have upper : upperBound least rest = some (some least, rest) :=
      upperBound.eq_3 _ _ (fun _ => other _) other
    rw [upper]
    rfl

theorem counted_local : Local (counted false) := by
  have read := number_local.bind fun least => (upperBound_local least).bind fun most =>
    countEnd_local least most
  exact fun input => (read input).congr fun _ _ => counted_eq _

/-! ## Groups -/

theorem groupName_local (first : Bool) : Local (groupName first) := by
  intro input
  induction input generalizing first with
  | nil => exact .none rfl
  | cons c input ih =>
    exact .behind (.ite (c == '>') (Local.here [] input)
      (.ite _ ((ih false).map (c :: ·)) (.none rfl)))

theorem named_local : Local named :=
  (groupName_local true).bind fun name =>
    .ite name.isEmpty .none (.here (Token.openGroup true (some name) []))

theorem flagChange_local (negated : Bool) (change : FlagChange) :
    Local (FlagChange.read negated change) := by
  intro input
  induction input generalizing negated change with
  | nil => exact .none rfl
  | cons c input ih =>
    by_cases hyphen : c = '-'
    · subst hyphen
      cases input with
      | nil => exact .none rfl
      | cons d input =>
        have behind := LocalAt.ite (negated || d == ':' || d == ')')
          (Local.none (d :: input)) (ih true change)
        exact .behind (behind.congr fun _ _ => rfl)
    · have same (rest : Text) : FlagChange.read negated change (c :: rest) =
          if c == ':' || c == ')' then some (change, c :: rest)
          else (Flag.ofChar? c).bind fun flag => if change.any (·.1 == flag) then none
            else FlagChange.read negated (change ++ [(flag, !negated)]) rest := by
        rw [FlagChange.read.eq_4 _ _ _ _ hyphen]
        cases Flag.ofChar? c <;> rfl
      by_cases ends : (c == ':' || c == ')') = true
      · have here := Local.here change (c :: input)
        exact here.congr fun more _ => by rw [List.cons_append, same, if_pos ends]
      · cases known : Flag.ofChar? c with
        | none => exact .none (by rw [same, if_neg ends, known]; rfl)
        | some flag =>
          refine .behind (LocalAt.congr (.ite (change.any (·.1 == flag)) (Local.none input)
            (ih negated (change ++ [(flag, !negated)]))) fun more _ => ?_)
          rw [same, if_neg ends, known]
          rfl

/-- What comes behind the flags of a group, or of a change of flags. -/
private def flagEnd (change : FlagChange) : Text → Option (Token × Text)
  | [] => none
  | c :: rest =>
    if c == ')' then if change.isEmpty then none else some (.setFlags change, rest)
    else some (.openGroup false none change, rest)

private theorem flagEnd_local (change : FlagChange) : Local (flagEnd change) :=
  .cons rfl fun c => .ite (c == ')')
    (.ite change.isEmpty .none (.here (Token.setFlags change)))
    (.here (Token.openGroup false Option.none change))

private theorem opened_flags (unnamed : ∀ behind, rest ≠ '<' :: behind)
    (unnamed' : ∀ behind, rest ≠ 'P' :: '<' :: behind) : opened ('?' :: rest) =
      (FlagChange.read false [] rest).bind fun (change, rest) => flagEnd change rest := by
  by_cases ahead : ∃ behind, rest = '=' :: behind
  · obtain ⟨behind, rfl⟩ := ahead
    rfl
  · by_cases ahead' : ∃ behind, rest = '!' :: behind
    · obtain ⟨behind, rfl⟩ := ahead'
      rfl
    · rw [opened.eq_7 rest unnamed' unnamed (fun behind same => ahead ⟨behind, same⟩)
        (fun behind same => ahead' ⟨behind, same⟩)]
      rcases FlagChange.read false [] rest with - | ⟨change, - | ⟨c, behind⟩⟩
      · rfl
      · rfl
      · by_cases ends : c = ')'
        · subst ends
          rfl
        · simp [flagEnd, ends]

/-- A group without a question mark is captured. -/
theorem opened_captured (plain : input.head? ≠ some '?') :
    opened input = some (.openGroup true none [], input) := by
  unfold opened
  split <;> first | rfl | simp at plain

theorem opened_local : Local opened := by
  refine .unless '?' (by decide) (fun input => ?_) (.here (Token.openGroup true none []))
    fun _ => opened_captured
  rcases input with - | ⟨c, input⟩
  · exact .none rfl
  · by_cases bracket : c = '<'
    · subst bracket
      rcases input with - | ⟨d, input⟩
      · exact .none rfl
      · by_cases around : d = '=' ∨ d = '!'
        · rcases around with rfl | rfl
          · exact fun _ _ read => nomatch read
          · exact fun _ _ read => nomatch read
        · rw [not_or] at around
          refine .behind (.behind ((named_local (d :: input)).congr fun more _ => ?_))
          exact opened.eq_4 _ (fun _ same => around.1 (List.cons.inj same).1)
            fun _ same => around.2 (List.cons.inj same).1
    · by_cases letter : c = 'P' ∧ input.head? = some '<'
      · obtain ⟨rfl, ahead⟩ := letter
        obtain ⟨input, rfl⟩ := List.head?_eq_some_iff.mp ahead
        exact .behind (.behind (.behind (named_local input)))
      · have flags := (flagChange_local false []).bind fun change => flagEnd_local change
        refine .behind ((flags (c :: input)).congr fun more breaks => opened_flags ?_ ?_)
        · exact fun _ same => bracket (List.cons.inj same).1
        · intro behind same
          obtain ⟨rfl, ahead⟩ := List.cons.inj same
          rcases input with - | ⟨d, input⟩
          · obtain rfl : more = '<' :: behind := ahead
            exact absurd (breaks '<' rfl) (by decide)
          · exact letter ⟨rfl, by rw [(List.cons.inj ahead).1]; rfl⟩

end PluginReadme.Splitting
