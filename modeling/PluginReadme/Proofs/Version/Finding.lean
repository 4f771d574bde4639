import Mathlib.Data.List.DropRight
import PluginReadme.Proofs.Pattern.Plain
import PluginReadme.Proofs.Text.Lines
import PluginReadme.Version.Found

/-! The first version that a text declares. The lines in front of a declaration do not hide it as
long as none of them may begin one itself, and what follows its number does not matter unless it
is one more digit. -/
namespace PluginReadme.Finding
open Version (find foundAt afterLabel isDigit number)
open Numeral Plain Lines

variable {label text line front back version rest before : Text} {cursor : Cursor}

/-- A label that may stand at the start of a line: its own text, in one line, which neither looks
like the mark of a heading or of a quote nor ends in one. -/
structure LineLabel (label : Text) : Prop where
  plain : IsPlain label
  begins : ∀ c ∈ label.head?, Text.isBlank c = false ∧ c ∉ ['=', '#', '>']
  filled : label ≠ []
  whole : '\n' ∉ label ∧ '\r' ∉ label
  ends : label.getLast? ≠ some '='

/-- Whether a line begins with a label and a version after it, or ends before the version. -/
def announces (label line : Text) : Bool :=
  label.isPrefixOf line &&
    match (line.drop label.length).dropWhile Text.isBlank with
    | [] => true
    | ':' :: after =>
      let after := after.dropWhile Text.isBlank
      after.isEmpty || (number after).isSome
    | _ => false

theorem LineLabel.cons (label' : LineLabel label) :
    ∃ c more, label = c :: more ∧ Text.isBlank c = false ∧ c ∉ ['=', '#', '>'] := by
  obtain ⟨c, more, rfl⟩ := List.exists_cons_of_ne_nil label'.filled
  exact ⟨c, more, rfl, label'.begins c rfl⟩

theorem LineLabel.unmarked (label' : LineLabel label) (mark : Char)
    (listed : mark ∈ ['=', '#', '>']) :
    label.head? ≠ some mark :=
  fun head => (label'.begins mark head).2 listed

private theorem run_take (run : Run kind text) (split : text = front ++ back) : Run kind front :=
  (run_append.mp (split ▸ run)).1

/-- A text in front of which nothing is missing of a declaration: it is over or starts with a
version number. -/
private def Ready (text : Text) : Prop :=
  text = [] ∨ ∃ version rest, text = version ++ rest ∧ IsNumber version

private theorem ready_iff :
    (text.isEmpty || (number text).isSome) = true ↔ Ready text := by
  rw [Bool.or_eq_true, List.isEmpty_iff, number_isSome]
  rfl

private theorem Ready.stops (ready : Ready text) : Stops Text.isBlank text := by
  rcases ready with rfl | ⟨version, rest, rfl, isNumber⟩
  · exact stops_nil
  · exact number_stops isNumber rest

theorem announces_iff : announces label line = true ↔
    ∃ gap after, line = label ++ gap ++ after ∧ Run Text.isBlank gap ∧
      (after = [] ∨ ∃ pad more, after = ':' :: pad ++ more ∧ Run Text.isBlank pad ∧
        (more = [] ∨ ∃ version rest, more = version ++ rest ∧ IsNumber version)) := by
  unfold announces
  rw [Bool.and_eq_true, List.isPrefixOf_iff_prefix]
  constructor
  · rintro ⟨⟨rest, rfl⟩, ahead⟩
    rw [List.drop_left] at ahead
    obtain ⟨split, run, -⟩ := (@run_iff Text.isBlank rest _ _).mp ⟨rfl, rfl⟩
    refine ⟨_, _, by rw [List.append_assoc, ← split], run, ?_⟩
    split at ahead
    · rename_i nothing
      exact Or.inl nothing
    · rename_i after behind
      obtain ⟨split, pad, -⟩ := (@run_iff Text.isBlank after _ _).mp ⟨rfl, rfl⟩
      exact Or.inr ⟨_, _, by rw [behind, List.cons_append, ← split], pad, ready_iff.mp ahead⟩
    · cases ahead
  · rintro ⟨gap, after, rfl, run, tail⟩
    refine ⟨⟨gap ++ after, by rw [List.append_assoc]⟩, ?_⟩
    rw [List.append_assoc, List.drop_left]
    rcases tail with rfl | ⟨pad, more, rfl, pad', ready⟩
    · rw [dropWhile_run run stops_nil]
    · rw [List.cons_append, dropWhile_run run (stops_cons colon_not_blank _)]
      simp only [dropWhile_run pad' (Ready.stops ready)]
      exact ready_iff.mpr ready

/-- A version number that is cut by nothing stands in front of the cut or behind it. -/
private theorem ready_front (ready : Ready (front ++ back)) (apart : Stops isNumeral back) :
    Ready front := by
  rcases ready with nothing | ⟨version, rest, split, isNumber⟩
  · exact Or.inl (List.append_eq_nil_iff.mp nothing).1
  · rcases List.append_eq_append_iff.mp split with ⟨more, rfl, behind⟩ | ⟨more, rfl, -⟩
    · cases more with
      | nil => exact Or.inr ⟨front, [], by simp, by simpa using isNumber⟩
      | cons c more =>
        have wrong := isNumber.run c (by simp)
        rw [apart c (by rw [behind]; rfl)] at wrong
        cases wrong
    · exact Or.inr ⟨version, more, rfl, isNumber⟩

/-- A line that is cut outside of a number still announces what it did, if the label is left. -/
theorem announces_front (announced : announces label (front ++ back) = true)
    (fits : label.length ≤ front.length) (apart : Stops isNumeral back) :
    announces label front = true := by
  obtain ⟨gap, after, split, run, tail⟩ := announces_iff.mp announced
  rw [List.append_assoc] at split
  obtain ⟨middle, rfl, behind⟩ : ∃ middle, front = label ++ middle ∧
      gap ++ after = middle ++ back := by
    rcases List.append_eq_append_iff.mp split with ⟨more, ahead, behind⟩ | ⟨more, ahead, behind⟩
    · have short : more = [] := by
        have size := congrArg List.length ahead
        rw [List.length_append] at size
        exact List.eq_nil_of_length_eq_zero (by omega)
      subst short
      exact ⟨[], by simpa using ahead.symm, by simpa using behind.symm⟩
    · exact ⟨more, ahead, behind⟩
  refine announces_iff.mpr ?_
  rcases List.append_eq_append_iff.mp behind with ⟨more, rfl, ahead⟩ | ⟨more, ahead, -⟩
  · refine ⟨gap, more, by rw [List.append_assoc], run, ?_⟩
    rcases tail with rfl | ⟨pad, number, rfl, pad', ready⟩
    · exact Or.inl (List.append_eq_nil_iff.mp ahead.symm).1
    · cases more with
      | nil => exact Or.inl rfl
      | cons d more =>
        obtain ⟨rfl, inner⟩ := List.cons.inj ahead
        rcases List.append_eq_append_iff.mp inner with ⟨last, rfl, rfl⟩ | ⟨last, split, -⟩
        · exact Or.inr ⟨pad, last, rfl, pad', ready_front ready apart⟩
        · exact Or.inr ⟨more, [], by simp, run_take pad' split, Or.inl rfl⟩
  · exact ⟨middle, [], by simp, run_take run ahead, Or.inl rfl⟩

theorem announces_blanks (announced : announces label front = true)
    (blank : Run Text.isBlank back) : announces label (front ++ back) = true := by
  obtain ⟨gap, after, rfl, run, tail⟩ := announces_iff.mp announced
  refine announces_iff.mpr ?_
  rcases tail with rfl | ⟨pad, more, rfl, pad', rfl | ⟨version, rest, rfl, isNumber⟩⟩
  · exact ⟨gap ++ back, [], by simp, run_append.mpr ⟨run, blank⟩, Or.inl rfl⟩
  · exact ⟨gap, ':' :: pad ++ back, by simp, run,
      Or.inr ⟨pad ++ back, [], by simp, run_append.mpr ⟨pad', blank⟩, Or.inl rfl⟩⟩
  · exact ⟨gap, ':' :: pad ++ (version ++ (rest ++ back)), by simp, run,
      Or.inr ⟨pad, _, rfl, pad', Or.inr ⟨version, rest ++ back, rfl, isNumber⟩⟩⟩

private theorem not_announces_nil (filled : label ≠ []) : announces label [] = false := by
  cases label with
  | nil => exact absurd rfl filled
  | cons c more => rfl

/-! ## Lines that announce nothing -/

/-- A line announces nothing, even if the blanks it starts with are taken away. -/
def Quiet (label line : Text) : Prop := announces label (Text.trimStart line) = false

/-- Lines that announce nothing, each with its end. -/
inductive Silent (label : Text) : Text → Prop where
  | nil : Silent label []
  | line {line text : Text} (free : '\n' ∉ line) (quiet : Quiet label line)
      (rest : Silent label text) :
      Silent label (line ++ '\n' :: text)

theorem quiet_trimStart (quiet : Quiet label line) : Quiet label (Text.trimStart line) := by
  unfold Quiet Text.trimStart at quiet ⊢
  rw [List.dropWhile_idempotent]
  exact quiet

theorem quiet_front (label' : LineLabel label) (quiet : Quiet label (front ++ back))
    (blank : Run Text.isBlank back) : Quiet label front := by
  apply Bool.eq_false_iff.mpr
  intro announced
  unfold Quiet at quiet
  rw [trimStart_append] at quiet
  split at quiet
  · rename_i nothing
    rw [nothing, not_announces_nil label'.filled] at announced
    cases announced
  · rw [announces_blanks announced blank] at quiet
    cases quiet

/-- A line that starts with another character than the label. -/
theorem quiet_of_mark {mark : Char} (other : label.head? ≠ some mark)
    (solid : Text.isBlank mark = false) (filled : label ≠ []) (rest : Text) :
    Quiet label (mark :: rest) := by
  cases label with
  | nil => exact absurd rfl filled
  | cons c more =>
    have differ : c ≠ mark := fun same => other (congrArg some same)
    simp [Quiet, Text.trimStart, solid, announces, differ]

private theorem closing_apart (label' : LineLabel label) {marks : Nat}
    (announced : announces label (front ++ ' ' :: List.replicate (marks + 1) '=') = true) :
    label.length ≤ front.length := by
  obtain ⟨gap, after, split, run, tail⟩ := announces_iff.mp announced
  rw [List.append_assoc] at split
  rcases split_cons split.symm with ⟨more, rfl, -⟩ | ⟨more, ahead, marked⟩
  · simp
  · have only (c : Char) (member : c ∈ gap ++ after) : c = '=' :=
      List.eq_of_mem_replicate (marked ▸ List.mem_append_right more member)
    exfalso
    cases gap with
    | cons c gap =>
      have same : c = '=' := only c (by simp)
      have blank := run c List.mem_cons_self
      rw [same] at blank
      cases blank
    | nil =>
      rcases tail with rfl | ⟨pad, digits, rfl, -⟩
      · have marked : more = List.replicate (marks + 1) '=' := by simpa using marked.symm
        exact label'.ends (by simp [ahead, marked, List.getLast?_cons, List.getLast?_replicate])
      · have wrong := only ':' (by simp)
        cases wrong

/-- The marks that close a heading do not hide what a line announces, nor do they add to it. -/
theorem quiet_closing (label' : LineLabel label) (quiet : Quiet label line) (marks : Nat) :
    Quiet label (line ++ ' ' :: List.replicate (marks + 1) '=') := by
  apply Bool.eq_false_iff.mpr
  intro announced
  rw [trimStart_append] at announced
  split at announced
  · have marked := quiet_of_mark (label'.unmarked '=' (by simp)) rfl label'.filled
      (List.replicate marks '=')
    exact Bool.eq_false_iff.mp marked announced
  · have kept := announces_front announced (closing_apart label' announced)
      (stops_cons rfl _)
    exact Bool.eq_false_iff.mp quiet kept

theorem quiet_nil (filled : label ≠ []) : Quiet label [] := not_announces_nil filled

theorem Silent.append (first : Silent label front) (second : Silent label back) :
    Silent label (front ++ back) := by
  induction first with
  | nil => exact second
  | line free quiet rest ih =>
    rw [List.append_assoc, List.cons_append]
    exact .line free quiet ih

theorem Silent.trimStart (silent : Silent label text) : Silent label (Text.trimStart text) := by
  induction silent with
  | nil => exact .nil
  | @line line text free quiet rest ih =>
    rw [trimStart_append]
    split
    · exact ih
    · exact .line (fun member => free (List.dropWhile_sublist _ |>.mem member))
        (quiet_trimStart quiet) rest

theorem quiet_trimEnd (label' : LineLabel label) (quiet : Quiet label line) :
    Quiet label (Text.trimEnd line) := by
  obtain ⟨blanks, split, blank⟩ := trimEnd_split line
  exact quiet_front label' (split ▸ quiet) blank

theorem silent_of_each (each : EachLine (Quiet label) text) : Silent label (text ++ ['\n']) := by
  induction each with
  | last free quiet => exact .line free quiet .nil
  | line free quiet rest ih =>
    rw [List.append_assoc, List.cons_append]
    exact .line free quiet ih

/-! ## The first declaration -/

/-- A text begins with a declaration: the label, a colon with blanks around it, and a version
number that does not go on. -/
def Declares (label version text : Text) : Prop :=
  ∃ gap pad rest, text = label ++ gap ++ ':' :: pad ++ version ++ rest ∧ Run Text.isBlank gap ∧
    Run Text.isBlank pad ∧ IsNumber version ∧ Stops isDigit rest

/-- A declaration as it is written. -/
def IsTag (label version tag : Text) : Prop :=
  ∃ gap pad, tag = label ++ gap ++ ':' :: pad ++ version ∧ Run Text.isBlank gap ∧
    Run Text.isBlank pad ∧ IsNumber version

theorem IsTag.declares {tag : Text} (tagged : IsTag label version tag)
    (stop : Stops isDigit rest) : Declares label version (tag ++ rest) := by
  obtain ⟨gap, pad, rfl, run, pad', isNumber⟩ := tagged
  exact ⟨gap, pad, rest, by simp, run, pad', isNumber, stop⟩

/-- A declaration ends with a digit. -/
theorem IsTag.last {tag : Text} (tagged : IsTag label version tag) :
    ∃ front last, tag = front ++ [last] ∧ isDigit last = true := by
  obtain ⟨gap, pad, rfl, -, -, major, minor, fix, rfl, -, -, filled, run⟩ := tagged
  obtain ⟨digits, last, rfl⟩ := (List.eq_nil_or_concat fix).resolve_left filled
  refine ⟨label ++ gap ++ ':' :: pad ++ (major ++ '.' :: minor ++ '.' :: digits), last, by simp, ?_⟩
  exact run last (by simp)

theorem afterLabel_iff : afterLabel text = some version ↔
    ∃ gap pad rest, text = gap ++ ':' :: pad ++ version ++ rest ∧ Run Text.isBlank gap ∧
      Run Text.isBlank pad ∧ IsNumber version ∧ Stops isDigit rest := by
  unfold afterLabel Text.trimStart
  constructor
  · intro found
    obtain ⟨split, run, -⟩ := (@run_iff Text.isBlank text _ _).mp ⟨rfl, rfl⟩
    split at found
    · rename_i after behind
      obtain ⟨inner, pad, -⟩ := (@run_iff Text.isBlank after _ _).mp ⟨rfl, rfl⟩
      rw [Option.map_eq_some_iff] at found
      obtain ⟨⟨number, rest⟩, read, rfl⟩ := found
      obtain ⟨last, isNumber, stop⟩ := number_iff.mp read
      refine ⟨_, _, rest, ?_, run, pad, isNumber, stop⟩
      rw [List.append_assoc, List.append_assoc, List.cons_append, ← last, ← inner, ← behind,
        ← split]
    · cases found
  · rintro ⟨gap, pad, rest, rfl, run, pad', isNumber, stop⟩
    have read := number_iff.mpr ⟨rfl, isNumber, stop⟩
    rw [List.append_assoc, List.append_assoc, List.cons_append,
      dropWhile_run run (stops_cons colon_not_blank _)]
    simp only [dropWhile_run pad' (number_stops isNumber rest), read, Option.map_some]

/-- What is found at a place is what the text after it declares. -/
theorem foundAt_iff :
    foundAt (Pattern.literal label) cursor = some version ↔ Declares label version cursor.rest := by
  unfold foundAt
  rw [literal_ends]
  constructor
  · intro found
    cases passed : past cursor label with
    | none =>
      rw [passed] at found
      cases found
    | some stop =>
      rw [passed] at found
      simp only [Option.toList_some, List.findSome?_cons, List.findSome?_nil] at found
      obtain ⟨split, -⟩ := past_ok passed
      have after : afterLabel stop.rest = some version := by
        cases read : afterLabel stop.rest with
        | none => rw [read] at found; cases found
        | some other => rw [read] at found; exact found
      obtain ⟨gap, pad, rest, behind, parts⟩ := afterLabel_iff.mp after
      exact ⟨gap, pad, rest, by rw [split, behind]; simp, parts⟩
  · rintro ⟨gap, pad, rest, split, parts⟩
    have standing : cursor.rest = label ++ (gap ++ ':' :: pad ++ version ++ rest) := by
      rw [split]
      simp
    obtain ⟨stop, passed, behind, -⟩ := past_append standing
    have after := afterLabel_iff.mpr ⟨gap, pad, rest, behind, parts⟩
    simp [passed, after]

/-- A declaration announces itself on its line. -/
theorem announces_of_declares (declared : Declares label version (line ++ '\n' :: text))
    (whole : '\n' ∉ label) : announces label line = true := by
  obtain ⟨gap, pad, rest, split, run, pad', isNumber, -⟩ := declared
  have announced : announces label (line ++ '\n' :: text) = true := by
    exact announces_iff.mpr ⟨gap, ':' :: pad ++ (version ++ rest), by simp [split], run,
      Or.inr ⟨pad, version ++ rest, rfl, pad', Or.inr ⟨version, rest, rfl, isNumber⟩⟩⟩
  refine announces_front announced ?_ (stops_cons rfl _)
  rw [List.append_assoc, List.append_assoc, List.append_assoc] at split
  rcases split_cons split.symm with ⟨more, rfl, -⟩ | ⟨more, broken, -⟩
  · simp
  · exact absurd (by simp [broken]) whole

/-! ## The search -/

/-- A line starts behind a text: nothing stands in front of it, or a line feed. -/
def StartsLine (front : Text) : Prop := ∀ c ∈ front.getLast?, c = '\n'

/-- A text begins with a declaration, whatever follows its number. -/
def Tagged (label text : Text) : Prop :=
  ∃ version tag rest, text = tag ++ rest ∧ IsTag label version tag

theorem tagged_iff : Tagged label text ↔ ∃ version, Declares label version text := by
  constructor
  · rintro ⟨_, _, rest, rfl, gap, pad, rfl, run, pad', isNumber⟩
    obtain ⟨version, rest, split, isNumber, stop⟩ := isNumber.whole rest
    exact ⟨version, gap, pad, rest, by simp [split], run, pad', isNumber, stop⟩
  · rintro ⟨version, gap, pad, rest, rfl, run, pad', isNumber, -⟩
    exact ⟨version, _, rest, rfl, gap, pad, rfl, run, pad', isNumber⟩

/-- The search of a text from a place on. -/
def search (label : Text) (position : Nat) (previous : Option Char) (text : Text) :
    Option Text :=
  ((Cursor.onwards position previous text).filter fun cursor =>
    cursor.previous.all (· == '\n')).findSome? (foundAt (Pattern.literal label))

theorem find_eq (same : (Version.lineLabel label).pattern = Pattern.literal label) (text : Text) :
    find text label = search label 0 none text := by
  unfold find Version.lineStarts search
  rw [same]

private theorem starts_iff {previous : Option Char} :
    previous.all (· == '\n') = true ↔ ∀ c ∈ previous, c = '\n' := by
  cases previous <;> simp

theorem search_here (position : Nat) {previous : Option Char}
    (starts : ∀ c ∈ previous, c = '\n') (declared : Declares label version text) :
    search label position previous text = some version := by
  have found : foundAt (Pattern.literal label) ⟨position, previous, text⟩ = some version :=
    foundAt_iff.mpr declared
  unfold search Cursor.onwards
  cases text <;> simp [starts_iff.mpr starts, found]

theorem search_end (position : Nat) (previous : Option Char) :
    search label position previous [] = none := by
  have untagged : foundAt (Pattern.literal label) ⟨position, previous, []⟩ = none := by
    refine Option.eq_none_iff_forall_ne_some.mpr fun version found => ?_
    obtain ⟨gap, pad, rest, split, -⟩ := foundAt_iff.mp found
    simp at split
  unfold search Cursor.onwards
  cases previous.all (· == '\n') <;> simp [untagged]

private theorem search_skip {c : Char} (position : Nat) {previous : Option Char}
    (nothing : (∀ c ∈ previous, c = '\n') → ¬ Tagged label (c :: text)) :
    search label position previous (c :: text) = search label (position + 1) (some c) text := by
  unfold search
  rw [Cursor.onwards, List.filter_cons]
  split
  · rename_i starts
    have none : foundAt (Pattern.literal label) ⟨position, previous, c :: text⟩ = none :=
      Option.eq_none_iff_forall_ne_some.mpr fun version found =>
        nothing (starts_iff.mp starts) (tagged_iff.mpr ⟨version, foundAt_iff.mp found⟩)
    simp [none]
  · rfl

/-- A text in which no line starts with a declaration is passed over. -/
theorem search_past (before : Text) (position : Nat)
    (nothing : ∀ early late, front = early ++ late → late ≠ [] → StartsLine (before ++ early) →
      ¬ Tagged label (late ++ text)) :
    search label position before.getLast? (front ++ text) =
      search label (position + front.length) (before ++ front).getLast? text := by
  induction front generalizing position before with
  | nil => simp
  | cons c front ih =>
    have here : StartsLine before → ¬ Tagged label (c :: (front ++ text)) := fun starts =>
      nothing [] (c :: front) rfl (List.cons_ne_nil c front) (by simpa using starts)
    have onward := ih (before ++ [c]) (position + 1) fun early late split filled starts =>
      nothing (c :: early) late (by rw [split, List.cons_append]) filled (by simpa using starts)
    rw [List.cons_append, search_skip position here, List.length_cons]
    simpa [Nat.add_assoc, Nat.add_comm 1] using onward

/-- A line in which nothing is declared is passed over. -/
private theorem search_line (free : '\n' ∉ line) (position : Nat)
    (nothing : ∀ version, ¬ Declares label version (line ++ '\n' :: text)) :
    search label position before.getLast? (line ++ '\n' :: text) =
      search label (position + line.length + 1) (some '\n') text := by
  have past : search label position before.getLast? ((line ++ ['\n']) ++ text) =
      search label (position + (line ++ ['\n']).length) (before ++ (line ++ ['\n'])).getLast?
        text := by
    apply search_past
    rintro early late split filled starts tagged
    rcases List.eq_nil_or_concat early with rfl | ⟨more, last, rfl⟩
    · obtain ⟨version, declared⟩ := tagged_iff.mp tagged
      refine nothing version ?_
      rw [List.nil_append] at split
      simpa [← split] using declared
    · have feed : last = '\n' := starts last (by simp [List.getLast?_append])
      rw [List.concat_eq_append, feed, List.append_assoc, List.singleton_append] at split
      rcases split_cons split with ⟨after, -, behind⟩ | ⟨after, inside, -⟩
      · have short : late.length = 0 := by
          have lengths := congrArg List.length behind
          simp only [List.length_append, List.length_cons, List.length_nil] at lengths
          omega
        exact filled (List.eq_nil_of_length_eq_zero short)
      · exact free (by simp [inside])
  simpa [Nat.add_assoc] using past

/-- A line that announces something starts with the label, not with a blank. -/
theorem trimStart_of_announces (label' : LineLabel label)
    (announced : announces label line = true) : Text.trimStart line = line := by
  obtain ⟨gap, after, rfl, -⟩ := announces_iff.mp announced
  obtain ⟨c, more, rfl, solid, -⟩ := label'.cons
  simp [Text.trimStart, solid]

private theorem declares_quiet (label' : LineLabel label) (quiet : Quiet label line) :
    ¬ Declares label version (line ++ '\n' :: text) := by
  intro declared
  have announced := announces_of_declares declared label'.whole.1
  unfold Quiet at quiet
  rw [trimStart_of_announces label' announced, announced] at quiet
  cases quiet

private theorem search_silent (label' : LineLabel label) (silent : Silent label front)
    (declared : Declares label version text) (position : Nat) (starts : StartsLine before) :
    search label position before.getLast? (front ++ text) = some version := by
  induction silent generalizing position before with
  | nil => exact search_here position starts declared
  | line free quiet rest ih =>
    rw [List.append_assoc, List.cons_append,
      search_line free position fun _ => declares_quiet label' quiet]
    have behind : StartsLine ['\n'] := by simp [StartsLine]
    exact ih _ behind

/-- The first declaration of a text is found when the lines in front of it announce nothing. -/
theorem find_first (label' : LineLabel label) (silent : Silent label front)
    (declared : Declares label version text) : find (front ++ text) label = some version := by
  rw [find_eq (read_plain rfl rfl _ label'.plain)]
  have outset : StartsLine [] := by simp [StartsLine]
  exact search_silent label' silent declared 0 outset

end PluginReadme.Finding
