import Mathlib.Data.List.Basic
import PluginReadme.Proofs.Pattern.Readers

/-! What is read of a class in brackets, and of any token of a pattern: it ends where it ends, even
if the pattern goes on with another alternative or with the end of the group around it. -/
namespace PluginReadme.Splitting
open Pattern

variable {input rest more : Text} {fuel : Nat} {mark : Char}

/-! ## Classes -/

/-- The name of a class of ASCII characters, behind the colon and the negation. -/
private def asciiName (negated : Bool) (input : Text) : Option (ClassItem × Text) :=
  match input.dropWhile (· != ':') with
  | ':' :: ']' :: after =>
    (asciiClass? (input.takeWhile (· != ':'))).map fun set => (.ascii set negated, after)
  | _ => none

private theorem asciiName_parted {front back : Text} (negated : Bool) (absent : ':' ∉ front) :
    asciiName negated (front ++ ':' :: back) = match back with
      | ']' :: after => (asciiClass? front).map fun set => (.ascii set negated, after)
      | _ => none := by
  have kept : ∀ c ∈ front, (c != ':') = true :=
    fun c member => bne_iff_ne.mpr fun same => absent (same ▸ member)
  unfold asciiName
  rw [List.takeWhile_append_of_pos kept, List.dropWhile_append_of_pos kept]
  simp only [bne_self_eq_false, Bool.false_eq_true, not_false_eq_true, List.dropWhile_cons_of_neg,
    List.takeWhile_cons_of_neg, List.append_nil]
  rcases back with - | ⟨c, back⟩
  · rfl
  · by_cases bracket : c = ']'
    · subst bracket
      rfl
    · simp [bracket]

/-- No name of a class has a mark in it that stands behind a part of a pattern. -/
private theorem asciiClass_none {name : Text} (marked : '|' ∈ name ∨ ')' ∈ name) :
    asciiClass? name = none := by
  have clean : ∀ row ∈ asciiClasses, '|' ∉ row.1.toList ∧ ')' ∉ row.1.toList := by decide
  have missing : asciiClasses.find? (·.1.toList == name) = none := by
    rw [List.find?_eq_none]
    intro row member same
    obtain rfl := eq_of_beq same
    rcases marked with bar | close
    · exact (clean row member).1 bar
    · exact (clean row member).2 close
  simp [asciiClass?, missing]

private theorem asciiName_append (negated : Bool) (input : Text) (breaks : Breaks more) :
    asciiName negated (input ++ more) =
      (asciiName negated input).map fun (item, rest) => (item, rest ++ more) := by
  by_cases colon : ':' ∈ input
  · obtain ⟨front, back, rfl, absent⟩ := List.eq_append_cons_of_mem colon
    rw [List.append_assoc, List.cons_append, asciiName_parted negated absent,
      asciiName_parted negated absent]
    rcases back with - | ⟨c, back⟩
    · rcases more with - | ⟨c, more⟩
      · rfl
      · rcases breaks c rfl with rfl | rfl <;> rfl
    · by_cases bracket : c = ']'
      · subst bracket
        cases asciiClass? front <;> rfl
      · simp [bracket]
  · have kept : ∀ c ∈ input, (c != ':') = true :=
      fun c member => bne_iff_ne.mpr fun same => colon (same ▸ member)
    have missing : asciiName negated input = none := by
      have ended : input.dropWhile (· != ':') = [] := by
        rw [← List.append_nil input, List.dropWhile_append_of_pos kept, List.dropWhile_nil]
      simp [asciiName, ended]
    rw [missing, Option.map_none]
    rcases more with - | ⟨c, more⟩
    · rw [List.append_nil, missing]
    · have marked : asciiClass? ((input ++ c :: more).takeWhile (· != ':')) = none := by
        rw [List.takeWhile_append_of_pos kept]
        rcases breaks c rfl with rfl | rfl
        · exact asciiClass_none (Or.inl (by simp))
        · exact asciiClass_none (Or.inr (by simp))
      unfold asciiName
      split
      · rw [marked, Option.map_none]
      · rfl

private theorem asciiClass_name (positive : input.head? ≠ some '^') :
    asciiClass (':' :: input) = asciiName false input :=
  asciiClass.eq_2 input fun _ same => positive (by rw [same]; rfl)

theorem asciiClass_append (input : Text) (breaks : Breaks more) :
    asciiClass (input ++ more) =
      (asciiClass input).map fun (item, rest) => (item, rest ++ more) := by
  by_cases colon : input.head? = some ':'
  · obtain ⟨input, rfl⟩ := List.head?_eq_some_iff.mp colon
    by_cases negated : input.head? = some '^'
    · obtain ⟨input, rfl⟩ := List.head?_eq_some_iff.mp negated
      exact asciiName_append true input breaks
    · rw [List.cons_append, asciiClass_name (breaks.ahead (by decide) negated),
        asciiClass_name negated]
      exact asciiName_append false input breaks
  · have other := breaks.ahead (by decide) colon
    rw [asciiClass.eq_3 _ fun _ same => other (by rw [same]; rfl),
      asciiClass.eq_3 _ fun _ same => colon (by rw [same]; rfl)]
    rfl

private theorem asciiName_suffix (negated : Bool) {item : ClassItem}
    (named : asciiName negated input = some (item, rest)) : rest <:+ input := by
  unfold asciiName at named
  split at named
  · rename_i after ahead
    obtain ⟨set, -, same⟩ := Option.map_eq_some_iff.mp named
    cases same
    have behind := List.dropWhile_suffix (l := input) (· != ':')
    rw [ahead] at behind
    exact ((List.suffix_cons _ _).trans (List.suffix_cons _ _)).trans behind
  · cases named

theorem asciiClass_local : Local asciiClass := by
  intro input item rest read
  refine ⟨?_, fun more breaks => by rw [asciiClass_append input breaks, read]; rfl⟩
  by_cases colon : input.head? = some ':'
  · obtain ⟨input, rfl⟩ := List.head?_eq_some_iff.mp colon
    refine List.IsSuffix.trans ?_ (List.suffix_cons ':' input)
    by_cases negated : input.head? = some '^'
    · obtain ⟨input, rfl⟩ := List.head?_eq_some_iff.mp negated
      exact (asciiName_suffix true read).trans (List.suffix_cons '^' input)
    · rw [asciiClass_name negated] at read
      exact asciiName_suffix false read
  · rw [asciiClass.eq_3 _ fun _ same => colon (by rw [same]; rfl)] at read
    cases read

/-- What an escape may stand for in a class. -/
private def classItem? : Token → Option ClassItem
  | .literal char => some (.literal char)
  | .charClass item => some item
  | _ => none

private theorem classPrimitive_escape (input : Text) : classPrimitive false ('\\' :: input) =
    (escape false input).bind fun (token, rest) => (classItem? token).bind
      fun item => some (item, rest) := by
  rw [classPrimitive.eq_2]
  rcases escape false input with - | ⟨- | - | - | - | - | - | - | - | -, rest⟩ <;> rfl

theorem classPrimitive_local : Local (classPrimitive false) := by
  refine .cons rfl fun c => ?_
  by_cases slash : c = '\\'
  · subst slash
    have read := escape_local.bind fun token => .given (classItem? token) fun item => .here item
    exact fun input => (read input).congr fun more _ => classPrimitive_escape _
  · simp only [classPrimitive.eq_3 _ _ _ slash]
    exact .here _

/-- The range between two items, if they are characters in order. -/
private def range? : ClassItem → ClassItem → Option ClassItem
  | .literal first, .literal last =>
    if first.char ≤ last.char then some (.range first last) else none
  | _, _ => none

/-- What comes behind an item of a class: something else, or the end of a range that it starts. -/
private def rangeEnd (first : ClassItem) : Text → Option (ClassItem × Text)
  | [] => none
  | c :: rest =>
    if c != '-' || rest.head? == some ']' || rest.head? == some '-' then some (first, c :: rest)
    else (classPrimitive false rest).bind fun (last, rest) =>
      (range? first last).bind fun item => some (item, rest)

private theorem rangeEnd_local (first : ClassItem) : Local (rangeEnd first) := by
  intro input
  rcases input with - | ⟨c, - | ⟨d, input⟩⟩
  · exact .none rfl
  · by_cases hyphen : c = '-'
    · subst hyphen
      exact .none rfl
    · exact ((Local.here first) [c]).congr fun more _ => if_pos (by simp [hyphen])
  · by_cases single : (c != '-' || d == ']' || d == '-') = true
    · exact ((Local.here first) (c :: d :: input)).congr fun more _ =>
        if_pos (by simpa using single)
    · have last := classPrimitive_local.bind fun last => .given (range? first last) fun item =>
        .here item
      exact .behind ((last (d :: input)).congr fun more _ => if_neg (by simpa using single))

private theorem classRange_eq (input : Text) : classRange false input =
    (classPrimitive false input).bind fun (first, rest) => rangeEnd first rest := by
  unfold classRange
  refine congrArg (Option.bind _) (funext fun (first, rest) => ?_)
  dsimp only
  split
  · rename_i empty
    obtain rfl : rest = [] := empty
    rfl
  · rename_i behind ahead
    obtain rfl : rest = '-' :: behind := ahead
    refine if_congr Iff.rfl rfl (congrArg (Option.bind _) (funext fun (last, rest) => ?_))
    dsimp only
    split
    · rename_i first last
      by_cases ordered : first.char ≤ last.char <;> simp [range?, ordered]
    · rename_i other
      rw [range?.eq_2 first last other]
      rfl
  · rename_i filled other
    rcases rest with - | ⟨c, rest⟩
    · exact absurd rfl filled
    · have plain : c ≠ '-' := fun same => other rest (by rw [same]; rfl)
      simp [rangeEnd, plain, skip]

theorem classRange_local : Local (classRange false) := by
  have read := classPrimitive_local.bind fun first => rangeEnd_local first
  exact fun input => (read input).congr fun more _ => classRange_eq _

/-- The hyphens that a class holds because they come first. -/
private def hyphen (state : List ClassItem × Text) : List ClassItem × Text :=
  match state.2 with
  | '-' :: rest => (.literal ⟨'-', false⟩ :: state.1, rest)
  | _ => state

private theorem fold_hyphen (fuel : Nat) (state : List ClassItem × Text) :
    (fuel + 1).fold (fun _ _ => hyphen) state = fuel.fold (fun _ _ => hyphen) (hyphen state) := by
  induction fuel with
  | zero => rfl
  | succ fuel ih => rw [Nat.fold_succ, ih, Nat.fold_succ]

private theorem fold_hyphen_fixed {state : List ClassItem × Text} (fixed : hyphen state = state)
    (fuel : Nat) : fuel.fold (fun _ _ => hyphen) state = state := by
  induction fuel with
  | zero => rfl
  | succ fuel ih => rw [fold_hyphen, fixed, ih]

private theorem hyphens_eq (items : List ClassItem) (enough : input.length ≤ fuel) :
    fuel.fold (fun _ _ => hyphen) (items, input) =
      (List.replicate (input.takeWhile (· == '-')).length (.literal ⟨'-', false⟩) ++ items,
        input.dropWhile (· == '-')) := by
  induction input generalizing items fuel with
  | nil => exact fold_hyphen_fixed rfl fuel
  | cons c input ih =>
    obtain ⟨fuel, rfl⟩ := Nat.exists_eq_add_one_of_ne_zero (Nat.ne_zero_of_lt enough)
    by_cases first : c = '-'
    · subst first
      have step : hyphen (items, '-' :: input) = (.literal ⟨'-', false⟩ :: items, input) := rfl
      rw [fold_hyphen, step, ih _ (Nat.le_of_succ_le_succ enough)]
      simp [List.replicate_succ']
    · have fixed : hyphen (items, c :: input) = (items, c :: input) := by
        unfold hyphen
        split
        · rename_i ahead
          exact absurd (List.cons.inj ahead).1 first
        · rfl
      rw [fold_hyphen_fixed fixed]
      simp [first]

/-- What comes behind the hyphens that come first: a bracket that comes first, or something else. -/
private def openEnd (items : List ClassItem) : Text → Option (List ClassItem × Text)
  | [] => none
  | c :: rest =>
    if items.isEmpty && c == ']' then
      if rest.isEmpty then none else some ([.literal ⟨']', false⟩], rest)
    else some (items, c :: rest)

private theorem openEnd_local (items : List ClassItem) : Local (openEnd items) := by
  intro input
  rcases input with - | ⟨c, input⟩
  · exact .none rfl
  · by_cases bracket : (items.isEmpty && c == ']') = true
    · rcases input with - | ⟨d, input⟩
      · exact .none (if_pos bracket)
      · exact .behind (((Local.here [ClassItem.literal ⟨']', false⟩]) (d :: input)).congr
          fun more _ => if_pos bracket)
    · exact ((Local.here items) (c :: input)).congr fun more _ => if_neg bracket

/-- The opening of a class behind its negation. -/
private def openItems (input : Text) : Option (List ClassItem × Text) :=
  (some (input.takeWhile (· == '-'), input.dropWhile (· == '-'))).bind fun (hyphens, rest) =>
    openEnd (List.replicate hyphens.length (.literal ⟨'-', false⟩)) rest

private theorem openItems_local : Local openItems :=
  (Local.run (· == '-') (by decide)).bind fun hyphens =>
    openEnd_local (List.replicate hyphens.length (.literal ⟨'-', false⟩))

/-- Whether a class is negated, and what follows. -/
private def negation : Text → Bool × Text
  | '^' :: rest => (true, rest)
  | input => (false, input)

private theorem classOpening_eq (input : Text) : classOpening false input =
    (openItems (negation input).2).map fun (items, rest) => ((negation input).1, items, rest) := by
  rw [classOpening.eq_1]
  split
  rename_i negated input' signed
  have signed' : negation input = (negated, input') := by
    rw [← signed]
    simp only [skip, Bool.false_eq_true, ↓reduceIte]
    split
    · rfl
    · rename_i positive
      exact negation.eq_2 input positive
  rw [signed']
  dsimp only
  generalize folded : input'.length.fold _ ([], input') = found
  have parts : found = _ := folded.symm.trans (hyphens_eq [] (Nat.le_refl input'.length))
  rw [List.append_nil] at parts
  subst parts
  simp only [openItems, Option.bind_some]
  generalize List.replicate _ _ = items
  generalize input'.dropWhile _ = rest
  split
  · rfl
  · rename_i bracket
    rcases bracket with - | ⟨c, bracket⟩ <;> rfl
  · rename_i filled other
    rcases rest with - | ⟨c, rest⟩
    · exact absurd rfl filled
    · have plain : (items.isEmpty && c == ']') = false := by
        rw [Bool.and_eq_false_iff, List.isEmpty_eq_false_iff, beq_eq_false_iff_ne]
        refine not_and_or.mp ?_
        rintro ⟨rfl, rfl⟩
        exact other rest rfl rfl
      simp [openEnd, plain]

theorem classOpening_local : Local fun input =>
    (classOpening false input).map fun (negated, items, rest) => ((negated, items), rest) := by
  have marked (negated : Bool) := openItems_local.map fun items => (negated, items)
  refine .unless '^' (by decide) (fun input => .behind ?_) (marked false) ?_
  · refine (marked true input).congr fun more _ => ?_
    rw [classOpening_eq, Option.map_map]
    rfl
  · intro input positive
    rw [classOpening_eq, negation.eq_2 input fun rest same => positive (by rw [same]; rfl),
      Option.map_map]
    rfl

/-- The operation that two marks in a row stand for. -/
private def operator? : Char → Option ClassOp
  | '&' => some .inter
  | '-' => some .diff
  | '~' => some .symmDiff
  | _ => none

variable {pending : Option (ClassOp × ClassItem)} {items : List ClassItem}

private theorem classBody_operator {op : ClassOp} (known : operator? mark = some op)
    (rest : Text) : classBody false (fuel + 1) pending items (mark :: mark :: rest) =
      classBody false fuel (some (op, joinOp pending (joinItems items))) [] rest := by
  unfold operator? at known
  split at known
  · cases known
    rfl
  · cases known
    rfl
  · cases known
    rfl
  · cases known

private theorem classBody_item (noBracket : input.head? ≠ some '[')
    (noEnd : input.head? ≠ some ']')
    (noOperator : ∀ mark rest, input = mark :: mark :: rest → operator? mark = none) :
    classBody false (fuel + 1) pending items input = (classRange false input).bind
      fun (item, rest) => classBody false fuel pending (item :: items) rest := by
  rw [classBody.eq_2]
  split
  · rename_i empty
    obtain rfl : input = [] := empty
    rfl
  · rename_i ahead
    obtain rfl : input = _ := ahead
    exact absurd rfl noBracket
  · rename_i ahead
    obtain rfl : input = _ := ahead
    exact absurd rfl noEnd
  · rename_i ahead
    exact nomatch noOperator _ _ ahead
  · rename_i ahead
    exact nomatch noOperator _ _ ahead
  · rename_i ahead
    exact nomatch noOperator _ _ ahead
  · rfl

private theorem classBody_bracket (rest : Text) (noName : asciiClass rest = none) :
    classBody false (fuel + 1) pending items ('[' :: rest) =
      ((classOpening false rest).map fun (negated, first, rest) => ((negated, first), rest)).bind
        fun (opening, rest) => (classBody false fuel none opening.2 rest).bind fun (inner, rest) =>
          classBody false fuel pending (.bracket opening.1 inner :: items) rest := by
  rw [classBody.eq_2]
  simp only [skip, Bool.false_eq_true, ↓reduceIte, noName, Option.bind_map]
  rfl

private theorem classBody_named {found : ClassItem × Text} (named : asciiClass rest = some found) :
    classBody false (fuel + 1) pending items ('[' :: rest) =
      (asciiClass rest).bind fun (item, rest) =>
        classBody false fuel pending (item :: items) rest := by
  rw [classBody.eq_2]
  simp only [skip, Bool.false_eq_true, ↓reduceIte, named]
  rfl

private theorem operator?_outside (breaks : Breaks (mark :: rest)) : operator? mark = none := by
  rcases breaks mark rfl with rfl | rfl <;> rfl

theorem classBody_local (fuel : Nat) (pending : Option (ClassOp × ClassItem))
    (items : List ClassItem) : Local (classBody false fuel pending items) := by
  induction fuel generalizing pending items with
  | zero => exact .none
  | succ fuel ih =>
    intro input
    by_cases bracket : input.head? = some '['
    · obtain ⟨input, rfl⟩ := List.head?_eq_some_iff.mp bracket
      refine .behind ?_
      cases named : asciiClass input with
      | some found =>
        have body := asciiClass_local.bind fun item => ih pending (item :: items)
        exact (body input).congr fun more breaks => classBody_named
          ((asciiClass_append input breaks).trans (congrArg (Option.map _) named))
      | none =>
        have body := classOpening_local.bind fun opening => (ih none opening.2).bind
          fun inner => ih pending (.bracket opening.1 inner :: items)
        refine (body input).congr fun more breaks => classBody_bracket _ ?_
        rw [asciiClass_append input breaks, named, Option.map_none]
    · by_cases ends : input.head? = some ']'
      · obtain ⟨input, rfl⟩ := List.head?_eq_some_iff.mp ends
        exact .behind ((Local.here (joinOp pending (joinItems items))) input)
      · by_cases twice : ∃ mark rest op, input = mark :: mark :: rest ∧ operator? mark = some op
        · obtain ⟨mark, rest, op, rfl, known⟩ := twice
          have body := ih (some (op, joinOp pending (joinItems items))) []
          exact .behind (.behind ((body rest).congr fun more _ => classBody_operator known _))
        · have body := classRange_local.bind fun item => ih pending (item :: items)
          refine (body input).congr fun more breaks => classBody_item
            (breaks.ahead (by decide) bracket) (breaks.ahead (by decide) ends) ?_
          intro mark rest same
          rcases input with - | ⟨c, - | ⟨d, input⟩⟩
          · obtain rfl : more = mark :: mark :: rest := same
            exact operator?_outside breaks
          · obtain ⟨rfl, rfl⟩ := List.cons.inj same
            exact operator?_outside breaks
          · obtain ⟨rfl, same⟩ := List.cons.inj same
            obtain ⟨rfl, -⟩ := List.cons.inj same
            refine Option.eq_none_iff_forall_ne_some.mpr fun op known => ?_
            exact twice ⟨_, input, op, rfl, known⟩

private theorem classBody_more {item : ClassItem}
    (read : classBody false fuel pending items input = some (item, rest)) :
    classBody false (fuel + 1) pending items input = some (item, rest) := by
  induction fuel generalizing pending items input item rest with
  | zero => cases read
  | succ fuel ih =>
    rw [classBody.eq_2] at read ⊢
    split at read
    · cases read
    · split at read
      · exact ih read
      · obtain ⟨opening, opened, read⟩ := Option.bind_eq_some_iff.mp read
        obtain ⟨⟨inner, behind⟩, body, read⟩ := Option.bind_eq_some_iff.mp read
        refine Option.bind_eq_some_iff.mpr ⟨opening, opened, ?_⟩
        exact Option.bind_eq_some_iff.mpr ⟨(inner, behind), ih body, ih read⟩
    · exact read
    · exact ih read
    · exact ih read
    · exact ih read
    · obtain ⟨⟨first, behind⟩, range, read⟩ := Option.bind_eq_some_iff.mp read
      exact Option.bind_eq_some_iff.mpr ⟨(first, behind), range, ih read⟩

private theorem classBody_mono {item : ClassItem} {fuel' : Nat} (enough : fuel ≤ fuel')
    (read : classBody false fuel pending items input = some (item, rest)) :
    classBody false fuel' pending items input = some (item, rest) := by
  induction enough with
  | refl => exact read
  | step _ ih => exact classBody_more ih

theorem bracketed_local : Local (bracketed false) := by
  have body (items : List ClassItem) :
      Local fun input => classBody false (input.length + 1) none items input := by
    intro input item rest read
    obtain ⟨suffix, same⟩ := classBody_local _ _ _ _ _ _ read
    refine ⟨suffix, fun more breaks => ?_⟩
    exact classBody_mono (by simp) (same more breaks)
  have read := classOpening_local.bind fun opening => (body opening.2).bind fun inner =>
    .here (Token.charClass (.bracket opening.1 inner))
  refine fun input => (read input).congr fun more _ => ?_
  rw [Option.bind_map]
  rfl

/-- A mark that makes the part in front of it repeat, and may be lazy. -/
private theorem repetition_local (least : Nat) (most : Option Nat) :
    Local fun input => let (greedy, rest) := lazyMark input
      some (Token.repetition least most greedy, rest) :=
  lazyMark_local.map fun greedy => Token.repetition least most greedy

/-- It makes no difference to a token that the text behind it goes on. -/
theorem token_local (c : Char) : Local (token false c) := by
  cases operator : Plain.isOperator c with
  | false =>
    have same (rest : Text) := Plain.token_plain operator rest
    exact fun input => ((Local.here (Token.literal ⟨c, false⟩)) input).congr fun more _ => same _
  | true =>
    have listed : c ∈ ['\\', '.', '+', '*', '?', '(', ')', '|', '[', '\x7b', '^', '$'] :=
      List.contains_iff_mem.mp operator
    simp only [List.mem_cons, List.not_mem_nil, or_false] at listed
    rcases listed with rfl | rfl | rfl | rfl | rfl | rfl | rfl | rfl | rfl | rfl | rfl | rfl
    · exact escape_local
    · exact .here Token.dot
    · exact repetition_local 1 none
    · exact repetition_local 0 none
    · exact repetition_local 0 (some 1)
    · exact opened_local
    · exact .here Token.close
    · exact .here Token.bar
    · exact bracketed_local
    · exact counted_local
    · exact .here (Token.anchor .lineStart)
    · exact .here (Token.anchor .lineEnd)

end PluginReadme.Splitting
