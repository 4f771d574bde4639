import Mathlib.Data.List.Basic
import PluginReadme.Proofs.Version.Rewriting

/-! What each dialect reads, as a layout of the text, and that the first declaration which was
rewritten stays the first one. -/
namespace PluginReadme.Dialects
open Version (Declaration Rule isDigit)
open Numeral Rewriting Plain

variable {text stem gap pad version rest label key front back body : Text} {first mark : Char}
  {found : Declaration} {kind : Char → Bool} {loose : Bool} {reads : Text → Option Declaration}

/-- What comes in front of a mark, if it does not hold the mark itself. -/
theorem front_of_mark (split : body ++ rest = front ++ mark :: back)
    (absent : mark ∉ body) : ∃ more, front = body ++ more ∧ rest = more ++ mark :: back := by
  rcases split_cons split with found | ⟨more, inside, -⟩
  · exact found
  · exact absurd (by simp [inside]) absent

theorem not_mem_of_run (run : Run kind text) (other : kind mark = false) : mark ∉ text :=
  fun member => by simp [run mark member] at other

private theorem stops_same (stop : Stops kind text) (same : other.head? = text.head?) :
    Stops kind other :=
  fun c member => stop c (same ▸ member)

/-! ## A label in front of a version -/

/-- A stem, blanks if they are allowed, a colon, at least one blank and a version number, which is
not a part of a longer one. -/
structure Labelled (loose : Bool) (stem text gap : Text) (first : Char) (pad version rest : Text) :
    Prop where
  split : text = stem ++ gap ++ ':' :: first :: pad ++ version ++ rest
  gapBlank : Run Text.isBlank gap
  tight : loose = false → gap = []
  firstBlank : Text.isBlank first = true
  padBlank : Run Text.isBlank pad
  number : IsNumber version
  stop : Stops isDigit rest

/-- What is read at a label: the blanks in front of the colon go, and a space comes after it. -/
def labelled (stem pad version rest : Text) : Declaration :=
  ⟨stem ++ ':' :: ' ' :: pad, version, [], rest⟩

/-- What is read is exactly what is laid out as a label. -/
def ReadsLabel (loose : Bool) (stem : Text) (reads : Text → Option Declaration) : Prop :=
  ∀ text found, reads text = some found ↔
    ∃ gap first pad version rest, Labelled loose stem text gap first pad version rest ∧
      found = labelled stem pad version rest

theorem padded_iff : Declaration.padded label text = some found ↔
    ∃ first pad version rest, text = first :: pad ++ version ++ rest ∧
      Text.isBlank first = true ∧ Run Text.isBlank pad ∧ IsNumber version ∧
      Stops isDigit rest ∧ found = ⟨label ++ ' ' :: pad, version, [], rest⟩ := by
  constructor
  · intro read
    unfold Declaration.padded at read
    split at read
    · cases read
    · rename_i first after
      split at read
      · rename_i blank
        rw [Option.map_eq_some_iff] at read
        obtain ⟨⟨version, rest⟩, numbered, rfl⟩ := read
        obtain ⟨behind, number, stop⟩ := number_iff.mp numbered
        obtain ⟨split, run, -⟩ := run_iff.mp ⟨rfl, behind⟩
        refine ⟨first, _, version, rest, ?_, blank, run, number, stop, rfl⟩
        rw [List.append_assoc, List.cons_append, ← split]
      · cases read
  · rintro ⟨first, pad, version, rest, rfl, blank, run, number, stop, rfl⟩
    have ahead := number_stops number rest
    have numbered := number_iff.mpr ⟨rfl, number, stop⟩
    rw [List.append_assoc, List.cons_append]
    simp only [Declaration.padded, blank, ↓reduceIte, takeWhile_run run ahead,
      dropWhile_run run ahead, numbered, Option.map_some]

theorem after_iff {start : Text} :
    Declaration.after? start text = some rest ↔ text = start ++ rest := by
  unfold Declaration.after?
  constructor
  · intro read
    split at read
    · rename_i standing
      cases read
      obtain ⟨more, rfl⟩ := List.isPrefixOf_iff_prefix.mp standing
      simp
    · cases read
  · rintro rfl
    rw [if_pos (List.isPrefixOf_iff_prefix.mpr (List.prefix_append start rest)),
      List.drop_left]

theorem docblock_reads : ReadsLabel false "Version".toList Declaration.docblock? := by
  intro text found
  unfold Declaration.docblock?
  rw [Option.bind_eq_bind, Option.bind_eq_some_iff]
  constructor
  · rintro ⟨after, standing, read⟩
    obtain rfl := after_iff.mp standing
    obtain ⟨first, pad, version, rest, rfl, blank, run, number, stop, rfl⟩ := padded_iff.mp read
    exact ⟨[], first, pad, version, rest,
      ⟨rfl, Run.nil, fun _ => rfl, blank, run, number, stop⟩, rfl⟩
  · rintro ⟨gap, first, pad, version, rest, laid, rfl⟩
    obtain rfl := laid.tight rfl
    refine ⟨first :: pad ++ version ++ rest, after_iff.mpr laid.split, ?_⟩
    exact padded_iff.mpr ⟨first, pad, version, rest, rfl, laid.firstBlank, laid.padBlank,
      laid.number, laid.stop, rfl⟩

theorem docblock_local : Reads .docblock Declaration.docblock? := fun _ => rfl

/-- What is read behind a key: blanks, a colon and a version after it. -/
theorem trailing_iff (label : Text) : (match Text.trimStart text with
      | ':' :: rest => Declaration.padded (label ++ [':']) rest
      | _ => none) = some found ↔
    ∃ gap first pad version rest, Labelled true [] text gap first pad version rest ∧
      found = labelled label pad version rest := by
  constructor
  · intro read
    split at read
    · rename_i after trimmed
      obtain ⟨ahead, gapBlank, -⟩ := run_iff.mp ⟨rfl, trimmed⟩
      generalize text.takeWhile Text.isBlank = gap at ahead gapBlank
      obtain ⟨first, pad, version, rest, rfl, blank, run, number, stops, rfl⟩ := padded_iff.mp read
      refine ⟨gap, first, pad, version, rest,
        ⟨?_, gapBlank, (fun wrong => nomatch wrong), blank, run, number, stops⟩, ?_⟩
      · simp [ahead]
      · simp [labelled]
    · cases read
  · rintro ⟨gap, first, pad, version, rest, laid, rfl⟩
    have trimmed : Text.trimStart text = ':' :: (first :: pad ++ version ++ rest) := by
      have parted := dropWhile_run laid.gapBlank
        (stops_cons colon_not_blank (first :: pad ++ version ++ rest))
      simpa [Text.trimStart, laid.split] using parted
    have read : Declaration.padded (label ++ [':']) (first :: pad ++ version ++ rest) =
        some ⟨label ++ [':'] ++ ' ' :: pad, version, [], rest⟩ :=
      padded_iff.mpr ⟨first, pad, version, rest, rfl, laid.firstBlank, laid.padBlank,
        laid.number, laid.stop, rfl⟩
    simp only [trimmed, read]
    simp [labelled]

theorem labelled_stem : Labelled loose stem (stem ++ text) gap first pad version rest ↔
    Labelled loose [] text gap first pad version rest := by
  constructor
  · intro laid
    exact { laid with split := by simpa using laid.split }
  · intro laid
    exact { laid with split := by simp [laid.split] }

theorem header_iff {cursor : Cursor} :
    Declaration.header? (Pattern.literal key) cursor = some found ↔
      ∃ gap first pad version rest, Labelled true key cursor.rest gap first pad version rest ∧
        found = labelled key pad version rest := by
  unfold Declaration.header?
  rw [literal_ends]
  cases reached : past cursor key with
  | none =>
    constructor
    · intro read
      cases read
    · rintro ⟨gap, first, pad, version, rest, laid, -⟩
      have standing : cursor.rest = key ++ (gap ++ ':' :: first :: pad ++ version ++ rest) := by
        simp [laid.split]
      obtain ⟨stop, found, -⟩ := past_append standing
      rw [reached] at found
      cases found
  | some stop =>
    obtain ⟨split, position⟩ := past_ok reached
    have taken : cursor.textTo stop = key := by simp [Cursor.textTo, position, split]
    rw [Option.toList_some, List.findSome?_singleton, taken, split]
    simp only [labelled_stem]
    exact trailing_iff key

/-- The header of a style sheet at the start of a text. -/
def header (key text : Text) : Option Declaration :=
  Declaration.header? (Pattern.literal key) (Cursor.atStart text)

theorem header_reads (key : Text) : ReadsLabel true key (header key) :=
  fun _ _ => header_iff

theorem header_local (key : Text) : Reads (.header (Pattern.literal key)) (header key) := by
  intro cursor
  apply Option.ext
  intro found
  exact header_iff.trans (@header_iff key found (Cursor.atStart cursor.rest)).symm

/-- What is written for a declaration is read as the same one. -/
private theorem ReadsLabel.again (layout : ReadsLabel loose stem reads)
    (laid : Labelled loose stem text gap first pad old rest) (number : IsNumber version) :
    reads (stem ++ ':' :: ' ' :: (pad ++ version ++ rest)) =
      some (labelled stem pad version rest) :=
  (layout _ _).mpr ⟨[], ' ', pad, version, rest, ⟨by simp, Run.nil, fun _ => rfl, rfl,
    laid.padBlank, number, laid.stop⟩, rfl⟩

/-- A label that has the colon of a declaration as its own was there before. -/
private theorem Labelled.shared (laid : Labelled loose stem text gap first pad old rest)
    (blank : Run Text.isBlank gap') (tight : loose = false → gap' = [])
    (same : front ++ stem = stem ++ gap') :
    Labelled loose stem (front ++ text) (gap' ++ gap) first pad old rest where
  split := by
    rw [laid.split]
    have joined := congrArg (· ++ (gap ++ ':' :: first :: (pad ++ old ++ rest))) same
    simpa using joined
  gapBlank := run_append.mpr ⟨blank, laid.gapBlank⟩
  tight sticks := by rw [tight sticks, laid.tight sticks, List.append_nil]
  firstBlank := laid.firstBlank
  padBlank := laid.padBlank
  number := laid.number
  stop := laid.stop

/-- A label whose colon stands in the stem of a rewritten declaration was there before. -/
private theorem Labelled.early (laid : Labelled loose stem text gap first pad old rest)
    (up : Labelled loose stem rewritten gap' first' pad' version' rest')
    (ahead : front ++ stem = stem ++ gap' ++ ':' :: more)
    (after : first' :: (pad' ++ version' ++ rest') = more ++ ':' :: back) :
    ∃ behind, Labelled loose stem (front ++ text) gap' first' pad' version' behind := by
  have numeralColon : isNumeral ':' = false := rfl
  have body : ':' ∉ first' :: (pad' ++ version') := by
    have other : ':' ≠ first' := fun same => by
      have blank := up.firstBlank
      simp [← same, colon_not_blank] at blank
    simp [other, not_mem_of_run up.padBlank colon_not_blank,
      not_mem_of_run up.number.run numeralColon]
  obtain ⟨between, rfl, rfl⟩ := front_of_mark
    (by simpa using after : (first' :: (pad' ++ version')) ++ rest' = more ++ ':' :: back) body
  refine ⟨between ++ gap ++ ':' :: first :: (pad ++ old ++ rest),
    ?_, up.gapBlank, up.tight, up.firstBlank, up.padBlank, up.number, ?_⟩
  · rw [laid.split]
    have joined := congrArg (· ++ (gap ++ ':' :: first :: (pad ++ old ++ rest))) ahead
    simpa using joined
  · have stop := up.stop
    cases between with
    | nil =>
      cases gap with
      | nil => exact stops_cons rfl _
      | cons d gap =>
        exact stops_cons (not_digit_of_blank (run_cons.mp laid.gapBlank).1) _
    | cons d between => exact stop

/-- No label ends in front of its colon with another colon. -/
private theorem no_colon_late (blank : Run Text.isBlank gap) (filled : front ≠ []) :
    stem ++ gap ≠ front ++ stem ++ ':' :: more := by
  intro ahead
  have later : (':' :: more) <:+ stem ++ gap := ⟨front ++ stem, ahead.symm⟩
  have short : (':' :: more).length ≤ gap.length := by
    have lengths := congrArg List.length ahead
    have positive := List.length_pos_iff.mpr filled
    simp only [List.length_append, List.length_cons] at lengths ⊢
    omega
  have inside := List.suffix_of_suffix_length_le later (List.suffix_append stem gap) short
  exact not_mem_of_run blank colon_not_blank (inside.subset List.mem_cons_self)

/-- Of two labels in one text of which the later one has nothing behind its stem, the colon of the
earlier one is the same or comes in front of it. -/
theorem colon_same_or_early (blank : Run Text.isBlank gap) (filled : front ≠ [])
    (split : (front ++ stem) ++ ':' :: back = (stem ++ gap) ++ ':' :: rest) :
    front ++ stem = stem ++ gap ∨
      ∃ more, front ++ stem = stem ++ gap ++ ':' :: more ∧ rest = more ++ ':' :: back := by
  rcases split_cons split with ⟨more, ahead, behind⟩ | ⟨more, ahead, behind⟩
  · cases more with
    | nil => exact Or.inl (by simpa using ahead.symm)
    | cons c more =>
      obtain ⟨rfl, -⟩ := List.cons.inj (behind.trans (List.cons_append ..))
      exact absurd ahead (no_colon_late blank filled)
  · exact Or.inr ⟨more, ahead, behind⟩

/-- The label of a declaration that comes up in front of a rewritten one would have been there
before: it ends in front of the rewritten stem or at the very same colon. -/
theorem ReadsLabel.steady (layout : ReadsLabel loose stem reads) : Steady reads := by
  constructor
  · intro text found version read number
    obtain ⟨gap, first, pad, old, rest, laid, rfl⟩ := (layout text found).mp read
    simpa [written, labelled] using layout.again laid number
  · intro front text found version read number filled unread
    obtain ⟨gap, first, pad, old, rest, laid, rfl⟩ := (layout text found).mp read
    by_contra comesUp
    obtain ⟨other, read⟩ := Option.ne_none_iff_exists'.mp comesUp
    obtain ⟨gap', first', pad', version', rest', up, -⟩ := (layout _ other).mp read
    have absent {gap first pad version rest}
        (before : Labelled loose stem (front ++ text) gap first pad version rest) : False := by
      rw [(layout _ _).mpr ⟨gap, first, pad, version, rest, before, rfl⟩] at unread
      cases unread
    have split : (front ++ stem) ++ ':' :: ' ' :: (pad ++ version ++ rest) =
        (stem ++ gap') ++ ':' :: first' :: (pad' ++ version' ++ rest') := by
      simpa [written, labelled] using up.split
    rcases colon_same_or_early up.gapBlank filled split with same | ⟨more, ahead, after⟩
    · exact absent (laid.shared up.gapBlank up.tight same)
    · obtain ⟨behind, before⟩ := laid.early up ahead after
      exact absent before

/-- A label and its version are read by themselves, unless a digit follows. -/
theorem ReadsLabel.framed (layout : ReadsLabel loose stem reads) (filled : stem ≠ []) :
    Framed reads := by
  constructor
  · intro text found read
    obtain ⟨gap, first, pad, version, rest, laid, rfl⟩ := (layout text found).mp read
    refine ⟨_, laid.split, ?_⟩
    intro other same
    exact (layout _ _).mpr ⟨gap, first, pad, version, other, ⟨rfl, laid.gapBlank, laid.tight,
      laid.firstBlank, laid.padBlank, laid.number, stops_same laid.stop same⟩, rfl⟩
  · intro text found version read
    obtain ⟨gap, first, pad, old, rest, laid, rfl⟩ := (layout text found).mp read
    obtain ⟨c, more, rfl⟩ := List.exists_cons_of_ne_nil filled
    rw [laid.split]
    rfl

/-! ## The definition of a constant -/

/-- The start of a definition up to its version: `define(`, a name that ends in `_VERSION`, a comma
and a quote. -/
def Opening (head : Text) : Prop :=
  ∃ before name between, head = "define(".toList ++ before ++ '\'' :: name ++
      "_VERSION',".toList ++ between ++ ['\''] ∧
    Run Text.isBlank before ∧ (name ≠ [] ∧ Run Declaration.isNameChar name) ∧
    Run Text.isBlank between

/-- The end of a definition behind its version: a quote, the closing parenthesis and a
semicolon. -/
def Closing (tail : Text) : Prop :=
  ∃ gap, tail = '\'' :: gap ++ ");".toList ∧ Run Text.isBlank gap

private theorem name_iff {name : Text} :
    ("_VERSION".toList.isSuffixOf name = true ∧ "_VERSION".toList.length < name.length) ↔
      ∃ stem, stem ≠ [] ∧ name = stem ++ "_VERSION".toList := by
  rw [List.isSuffixOf_iff_suffix]
  constructor
  · rintro ⟨⟨stem, rfl⟩, longer⟩
    refine ⟨stem, ?_, rfl⟩
    rintro rfl
    exact absurd longer (by simp)
  · rintro ⟨stem, filled, rfl⟩
    refine ⟨List.suffix_append .., ?_⟩
    have positive := List.length_pos_iff.mpr filled
    rw [List.length_append]
    omega

theorem definition_iff {head : Text} : Declaration.definition? text = some (head, rest) ↔
    Opening head ∧ text = head ++ rest := by
  have quoteBlank : Text.isBlank '\'' = false := rfl
  have quoteName : Declaration.isNameChar '\'' = false := rfl
  have ending : Run Declaration.isNameChar "_VERSION".toList := by decide
  constructor
  · intro read
    simp only [Declaration.definition?, Option.bind_eq_bind, Option.bind_eq_some_iff] at read
    obtain ⟨after, standing, read⟩ := read
    obtain rfl := after_iff.mp standing
    split at read
    · rename_i quoted opened
      obtain ⟨split, blank, -⟩ := run_iff.mp ⟨rfl, opened⟩
      split at read
      · cases read
      · rename_i proper
        rw [Option.bind_eq_some_iff] at read
        obtain ⟨behind, comma, read⟩ := read
        have named := after_iff.mp comma
        obtain ⟨parts, run, -⟩ := run_iff.mp ⟨rfl, named⟩
        split at read
        · rename_i last opened
          obtain ⟨gap, blanks, -⟩ := run_iff.mp ⟨rfl, opened⟩
          cases read
          generalize after.takeWhile Text.isBlank = before at *
          generalize behind.takeWhile Text.isBlank = between at *
          generalize quoted.takeWhile Declaration.isNameChar = name at *
          simp only [Bool.or_eq_true, Bool.not_eq_true', decide_eq_true_eq, not_or,
            Bool.not_eq_false, Nat.not_le] at proper
          obtain ⟨stem, filled, rfl⟩ := name_iff.mp proper
          refine ⟨⟨before, stem, between, by simp, blank, ⟨filled, (run_append.mp run).1⟩,
            blanks⟩, ?_⟩
          rw [split, parts, gap]
          simp
        · cases read
    · cases read
  · rintro ⟨⟨before, stem, between, rfl, blank, ⟨filled, run⟩, blanks⟩, rfl⟩
    have named := name_iff.mpr ⟨stem, filled, rfl⟩
    generalize whole : stem ++ "_VERSION".toList = name at named
    have runs : Run Declaration.isNameChar name := whole ▸ run_append.mpr ⟨run, ending⟩
    have standing : Declaration.after? "define(".toList
        ("define(".toList ++ (before ++ '\'' :: (name ++ ("',".toList ++
          (between ++ '\'' :: rest))))) = some _ := after_iff.mpr rfl
    have comma : Declaration.after? "',".toList ("',".toList ++ (between ++ '\'' :: rest)) =
      some _ := after_iff.mpr rfl
    have split : "define(".toList ++ before ++ '\'' :: stem ++ "_VERSION',".toList ++ between ++
        ['\''] ++ rest = "define(".toList ++ (before ++ '\'' :: (name ++ ("',".toList ++
          (between ++ '\'' :: rest)))) := by
      rw [← whole]
      simp
    have quote := stops_cons quoteBlank
    have stopped : Stops Declaration.isNameChar ("',".toList ++ (between ++ '\'' :: rest)) :=
      stops_cons quoteName _
    rw [split]
    simp only [Declaration.definition?, standing, Option.bind_eq_bind, Option.bind_some,
      takeWhile_run blank (quote _), dropWhile_run blank (quote _), takeWhile_run runs stopped,
      dropWhile_run runs stopped, comma, takeWhile_run blanks (quote _),
      dropWhile_run blanks (quote _)]
    rw [if_neg]
    · simp [← whole]
    · simpa using named

/-- A definition is read as it is written. -/
theorem constant_iff : Declaration.constant? text = some found ↔
    text = found.head ++ found.version ++ found.tail ++ found.rest ∧ Opening found.head ∧
      IsNumber found.version ∧ Closing found.tail := by
  have quoteDigit : isDigit '\'' = false := rfl
  have closeBlank : Text.isBlank ')' = false := rfl
  constructor
  · intro read
    simp only [Declaration.constant?, Option.bind_eq_bind, Option.bind_eq_some_iff] at read
    obtain ⟨⟨head, behind⟩, opened, read⟩ := read
    obtain ⟨opening, rfl⟩ := definition_iff.mp opened
    obtain ⟨⟨version, quoted⟩, numbered, read⟩ := read
    obtain ⟨rfl, number, -⟩ := number_iff.mp numbered
    split at read
    · rename_i after quote
      obtain rfl : quoted = '\'' :: after := quote
      rw [Option.bind_eq_some_iff] at read
      obtain ⟨rest, closed, read⟩ := read
      obtain ⟨split, blank, -⟩ := run_iff.mp ⟨rfl, after_iff.mp closed⟩
      cases read
      generalize after.takeWhile Text.isBlank = gap at *
      refine ⟨?_, opening, number, gap, rfl, blank⟩
      rw [split]
      simp
    · cases read
  · rintro ⟨split, opening, number, gap, tail, blank⟩
    obtain ⟨head, version, _, rest⟩ := found
    obtain rfl : _ = _ := tail
    have opened : Declaration.definition? (head ++ (version ++ '\'' :: (gap ++
        (");".toList ++ rest)))) = some (head, _) := definition_iff.mpr ⟨opening, rfl⟩
    have numbered : Version.number (version ++ '\'' :: (gap ++ (");".toList ++ rest))) =
        some (version, _) := number_iff.mpr ⟨rfl, number, stops_cons quoteDigit _⟩
    have stopped : Stops Text.isBlank (");".toList ++ rest) := stops_cons closeBlank _
    have closed : Declaration.after? ");".toList (");".toList ++ rest) = some rest :=
      after_iff.mpr rfl
    have split : text = head ++ (version ++ '\'' :: (gap ++ (");".toList ++ rest))) := by
      simpa using split
    rw [split]
    simp only [Declaration.constant?, opened, numbered, Option.bind_eq_bind, Option.bind_some,
      takeWhile_run blank stopped, dropWhile_run blank stopped, closed]

theorem constant_local : Reads .constant Declaration.constant? := fun _ => rfl

/-- Behind the parenthesis that opens a definition there is no other one. -/
private theorem opening_parenthesis {head : Text} (opening : Opening head) :
    ∃ more, head = "define".toList ++ '(' :: more ∧ '(' ∉ more := by
  obtain ⟨before, name, between, rfl, blank, ⟨-, run⟩, blanks⟩ := opening
  have parenBlank : Text.isBlank '(' = false := rfl
  have parenName : Declaration.isNameChar '(' = false := rfl
  refine ⟨before ++ '\'' :: name ++ "_VERSION',".toList ++ between ++ ['\''], by simp, ?_⟩
  simp [not_mem_of_run blank parenBlank, not_mem_of_run run parenName,
    not_mem_of_run blanks parenBlank]

/-- A definition that comes up in front of a rewritten one ends in front of it, since there is just
one parenthesis that opens a definition. -/
theorem constant_steady : Steady Declaration.constant? := by
  constructor
  · intro text found version read number
    obtain ⟨-, opening, -, closing⟩ := constant_iff.mp read
    exact constant_iff.mpr ⟨rfl, opening, number, closing⟩
  · intro front text found version read number filled unread
    obtain ⟨laid, opening, -, -⟩ := constant_iff.mp read
    by_contra comesUp
    obtain ⟨other, read⟩ := Option.ne_none_iff_exists'.mp comesUp
    obtain ⟨split, opening', number', closing'⟩ := constant_iff.mp read
    have parted : (front ++ found.head) ++ (version ++ found.tail ++ found.rest) =
        (other.head ++ other.version ++ other.tail) ++ other.rest := by
      simpa [written] using split
    rcases List.append_eq_append_iff.mp parted with ⟨more, ahead, -⟩ | ⟨more, ahead, -⟩
    · obtain ⟨behind, same, absent⟩ := opening_parenthesis opening
      obtain ⟨behind', same', absent'⟩ := opening_parenthesis opening'
      obtain ⟨gap, tail, blank⟩ := closing'
      have parenBlank : Text.isBlank '(' = false := rfl
      have parenNumeral : isNumeral '(' = false := rfl
      have none : '(' ∉ behind' ++ other.version ++ other.tail := by
        simp [absent', not_mem_of_run number'.run parenNumeral, tail,
          not_mem_of_run blank parenBlank]
      have one : "define".toList ++ '(' :: (behind' ++ other.version ++ other.tail) =
          (front ++ "define".toList) ++ '(' :: (behind ++ more) := by
        rw [same, same'] at ahead
        simpa using ahead
      have aligned := (List.append_cons_inj_of_notMem (by decide) none).mp one
      exact filled (by simpa using congrArg List.length aligned.1)
    · apply Option.some_ne_none { other with rest := more ++ (found.version ++ found.tail ++
        found.rest) }
      rw [← unread]
      symm
      refine constant_iff.mpr ⟨?_, opening', number', closing'⟩
      have joined := congrArg (· ++ (found.version ++ found.tail ++ found.rest)) ahead
      rw [laid]
      simpa using joined

/-- A definition is read by itself, whatever follows. -/
theorem constant_framed : Framed Declaration.constant? := by
  constructor
  · intro text found read
    obtain ⟨split, opening, number, closing⟩ := constant_iff.mp read
    refine ⟨_, split, ?_⟩
    intro other same
    exact constant_iff.mpr ⟨rfl, opening, number, closing⟩
  · intro text found version read
    obtain ⟨split, ⟨before, name, between, head, -⟩, -⟩ := constant_iff.mp read
    rw [split, written, head]
    rfl

end PluginReadme.Dialects
