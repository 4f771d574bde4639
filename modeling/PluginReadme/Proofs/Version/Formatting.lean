import PluginReadme.Proofs.Version.Shown

/-! What a source file keeps when it is brought up to a version. The number of the first line of a
comment block and that of the first definition of a constant are replaced, and the character right
behind the colon of the line becomes a space. All the rest stays where it is. -/
namespace PluginReadme.Formatting
open Version (Declaration Dialect FileRole isDigit rewriteAll)
open Numeral Plain Rewriting Dialects UpToDate SourceRules Shown

variable {dialect other : Dialect} {dialects : List Dialect} {tidy : Bool} {count : Nat}
  {version key content result text text' front back matched rewritten rest old : Text}
  {found : Declaration}

/-- The text of a declaration, up to what follows it, and what it is replaced by. -/
inductive Exchanged (version rest : Text) : Dialect → Text → Text → Prop
  | docblock {first pad old} (blank : Text.isBlank first = true) (run : Run Text.isBlank pad)
      (number : IsNumber old) (stop : Stops isDigit rest) :
      Exchanged version rest .docblock
        ("Version:".toList ++ first :: pad ++ old) ("Version:".toList ++ ' ' :: pad ++ version)
  | constant {head old tail} (opening : Opening head) (number : IsNumber old)
      (closing : Closing tail) :
      Exchanged version rest .constant (head ++ old ++ tail) (head ++ version ++ tail)

/-- A text in which the first declaration of each of some dialects is replaced, and nothing else. -/
inductive Renewed (version : Text) : List Dialect → Text → Text → Prop
  | kept {dialects : List Dialect} {content : Text}
      (absent : ∀ dialect ∈ dialects, NoneIn dialect content []) :
      Renewed version dialects content content
  | declared {dialect : Dialect} {dialects : List Dialect}
      {front matched rewritten rest result : Text} (listed : dialect ∈ dialects)
      (first : NoneIn dialect front (matched ++ rest))
      (exchanged : Exchanged version rest dialect matched rewritten)
      (others : ∀ other ∈ dialects.erase dialect, NoneIn other (front ++ matched) rest)
      (onward : Renewed version (dialects.erase dialect) rest result) :
      Renewed version dialects (front ++ matched ++ rest) (front ++ rewritten ++ result)

/-- A text in which some version numbers are replaced, and nothing else. -/
inductive Renumbered (version : Text) : Nat → Text → Text → Prop
  | kept {text : Text} : Renumbered version 0 text text
  | number {count : Nat} {front old rest result : Text} (number : IsNumber old)
      (onward : Renumbered version count rest result) :
      Renumbered version (count + 1) (front ++ old ++ rest) (front ++ version ++ result)

/-! ## Numbers only -/

theorem Exchanged.declares (exchanged : Exchanged version rest dialect matched rewritten) :
    ∃ old tidy, Declares dialect (matched ++ rest) old tidy ∧ (tidy = true →
      ∃ head tail, IsNumber old ∧ matched = head ++ old ++ tail ∧
        rewritten = head ++ version ++ tail) := by
  cases exchanged with
  | @docblock first pad old blank run number stop =>
    have laid : Labelled false "Version".toList ("Version:".toList ++ first :: pad ++ old ++ rest)
        [] first pad old rest :=
      ⟨by simp, Run.nil, fun _ => rfl, blank, run, number, stop⟩
    refine ⟨old, first == ' ', .docblock laid, fun space => ?_⟩
    obtain rfl := eq_of_beq space
    exact ⟨"Version:".toList ++ ' ' :: pad, [], number, by simp, by simp⟩
  | @constant head old tail opening number closing =>
    exact ⟨old, true, .constant rfl opening number closing, fun _ => ⟨head, tail, number, rfl, rfl⟩⟩

theorem Renumbered.behind (front : Text) (renumbered : Renumbered version count text text') :
    Renumbered version count (front ++ text) (front ++ text') := by
  cases renumbered with
  | kept => exact .kept
  | @number count before old rest result number onward =>
    rw [← List.append_assoc, ← List.append_assoc, ← List.append_assoc, ← List.append_assoc]
    exact .number number onward

/-- If each first declaration that is replaced is tidy, then only its number is replaced. -/
theorem Renewed.renumbered (renewed : Renewed version dialects content result)
    (tidied : ∀ dialect ∈ dialects, ∀ old, ¬ FirstDeclares dialect content old false) :
    ∃ count ≤ dialects.length, Renumbered version count content result := by
  induction renewed with
  | kept absent => exact ⟨0, Nat.zero_le _, .kept⟩
  | @declared dialect dialects front matched rewritten rest result listed first exchanged others
      onward ih =>
    obtain ⟨old, tidy, declares, replaced⟩ := exchanged.declares
    have held : tidy = true := by
      cases tidy with
      | true => rfl
      | false =>
        exact absurd ⟨front, matched ++ rest, by simp, first, declares⟩ (tidied dialect listed old)
    obtain ⟨head, tail, number, rfl, rfl⟩ := replaced held
    obtain ⟨count, most, renumbered⟩ := ih fun other listed' old' first' =>
      tidied other (List.mem_of_mem_erase listed') old' (first'.behind (others other listed'))
    refine ⟨count + 1, ?_, ?_⟩
    · rw [List.length_erase_of_mem listed] at most
      have filled := List.length_pos_of_mem listed
      omega
    · have moved : Renumbered version (count + 1) (front ++ head ++ old ++ (tail ++ rest))
          (front ++ head ++ version ++ (tail ++ result)) := .number number (renumbered.behind tail)
      simpa only [List.append_assoc] using moved

/-! ## What the rules replace -/

theorem exchanged_of_read (listed : dialect ∈ FileRole.source.dialects key)
    (version : Text) (read : reader dialect back = some found) :
    ∃ matched, back = matched ++ found.rest ∧
      Exchanged version found.rest dialect matched (found.head ++ version ++ found.tail) := by
  rcases List.mem_cons.mp listed with rfl | listed
  · obtain ⟨gap, first, pad, old, rest, laid, rfl⟩ := (docblock_reads _ _).mp read
    obtain rfl := laid.tight rfl
    refine ⟨"Version:".toList ++ first :: pad ++ old, ?_, ?_⟩
    · rw [laid.split]
      simp [labelled]
    · have exchanged : Exchanged version rest .docblock
          ("Version:".toList ++ first :: pad ++ old) ("Version:".toList ++ ' ' :: pad ++ version) :=
        .docblock laid.firstBlank laid.padBlank laid.number laid.stop
      simpa [labelled] using exchanged
  · obtain rfl := List.mem_singleton.mp listed
    obtain ⟨split, opening, number, closing⟩ := constant_iff.mp read
    exact ⟨_, split, .constant opening number closing⟩

private theorem none_of_bare (bare : Bare (reader dialect) content) :
    NoneIn dialect content [] := by
  rw [noneIn_iff]
  rintro before after rfl filled
  rw [List.append_nil]
  exact bare before after rfl

private theorem renewed_single (listed : dialect ∈ FileRole.source.dialects key)
    (version content : Text) :
    Renewed version [dialect] content (rewriteText (reader dialect) version content) := by
  rcases first_or_bare (reader dialect) content with ⟨front, back, found, rfl, clear, read⟩ | bare
  · obtain ⟨matched, rfl, exchanged⟩ := exchanged_of_read listed version read
    rw [rewriteText_clear clear, rewriteText_here read, written, ← List.append_assoc,
      ← List.append_assoc front]
    refine .declared List.mem_cons_self (noneIn_iff.mpr clear) exchanged ?_ ?_
    · simp
    · rw [List.erase_cons_head]
      exact .kept (by simp)
  · rw [rewriteText_bare bare]
    exact .kept (by simpa using none_of_bare bare)

/-- Where the first declaration of two dialects stands, it is replaced. -/
private theorem renewed_here (apart : Independent (reader dialect) (reader other))
    (number : IsNumber version) (listed : dialect ∈ FileRole.source.dialects key)
    (listed' : other ∈ FileRole.source.dialects key) (among : dialect ∈ dialects)
    (others : dialects.erase dialect = [other]) (clear : Clear (reader dialect) front back)
    (clear' : Clear (reader other) front back) (read : reader dialect back = some found) :
    Renewed version dialects (front ++ back) (rewriteText (reader other) version
      (rewriteText (reader dialect) version (front ++ back))) := by
  rw [apart.rewrite_both number clear read clear']
  obtain ⟨matched, rfl, exchanged⟩ := exchanged_of_read listed version read
  rw [← List.append_assoc]
  refine .declared among (noneIn_iff.mpr clear) exchanged ?_ ?_
  · rw [others]
    intro same member
    obtain rfl := List.mem_singleton.mp member
    rw [noneIn_iff]
    exact clear_append clear' (apart.aside matched found found.rest read)
  · rw [others]
    exact renewed_single listed' version found.rest

private theorem renewed_both (number : IsNumber version) (content : Text) :
    Renewed version [.docblock, .constant] content (rewriteText (reader .constant) version
      (rewriteText (reader .docblock) version content)) := by
  have line : Dialect.docblock ∈ FileRole.source.dialects [] := List.mem_cons_self
  have definition : Dialect.constant ∈ FileRole.source.dialects [] :=
    List.mem_cons_of_mem _ List.mem_cons_self
  have apart : Independent (reader .docblock) (reader .constant) := docblock_constant
  rcases first_or_bare (fun text => (reader .docblock text).or (reader .constant text)) content
    with ⟨front, back, found, rfl, clear, read⟩ | bare
  · simp only [Clear, Option.or_eq_none_iff] at clear
    have noLine : Clear (reader .docblock) front back :=
      fun before after split filled => (clear before after split filled).1
    have noDefinition : Clear (reader .constant) front back :=
      fun before after split filled => (clear before after split filled).2
    rcases Option.or_eq_some_iff.mp read with here | ⟨-, here⟩
    · exact renewed_here apart number line definition List.mem_cons_self rfl noLine noDefinition
        here
    · rw [← apart.comm number number]
      exact renewed_here apart.symm number definition line
        (List.mem_cons_of_mem _ List.mem_cons_self) rfl noDefinition noLine here
  · simp only [Bare, Option.or_eq_none_iff] at bare
    have noLine : Bare (reader .docblock) content := fun before after split =>
      (bare before after split).1
    have noDefinition : Bare (reader .constant) content := fun before after split =>
      (bare before after split).2
    rw [rewriteText_bare noLine, rewriteText_bare noDefinition]
    refine .kept ?_
    simp only [List.forall_mem_cons, List.not_mem_nil, false_implies, implies_true, and_true]
    exact ⟨none_of_bare noLine, none_of_bare noDefinition⟩

/-- A source file that is brought up to a version keeps all its text but the number of its first
line of a comment block, the character behind the colon of that line, and the number of its first
constant. If that character is a space already, at most two numbers are replaced, and nothing
else. -/
theorem source_keeps_formatting (number : IsNumber version) (key content : Text) :
    Renewed version [.docblock, .constant] content
        (rewriteAll (FileRole.source.rules key) version content) ∧
      ((∀ old, ¬ FirstDeclares .docblock content old false) →
        ∃ count ≤ 2, Renumbered version count content
          (rewriteAll (FileRole.source.rules key) version content)) := by
  rw [rewriteAll_source]
  have renewed := renewed_both number content
  refine ⟨renewed, fun spaced => renewed.renumbered ?_⟩
  simp only [List.forall_mem_cons, List.not_mem_nil, false_implies, implies_true, and_true]
  refine ⟨spaced, ?_⟩
  rintro old ⟨front, back, -, -, declares⟩
  cases declares

/-- A constant in front of the line, which has a tab and a line break behind its colon. -/
theorem spread_source_keeps_formatting :
    IsNumber "2.0.0".toList ∧
      Renewed "2.0.0".toList [.docblock, .constant]
        "define('A_VERSION', '1.0.0');\n * Version:\t\n1.0.0.1".toList
        (rewriteAll (FileRole.source.rules []) "2.0.0".toList
          "define('A_VERSION', '1.0.0');\n * Version:\t\n1.0.0.1".toList) := by
  have number : IsNumber "2.0.0".toList := by decide
  exact ⟨number, (source_keeps_formatting number [] _).1⟩

/-! ## The character behind the colon -/

theorem Renumbered.around (renumbered : Renumbered version count text text')
    (number : IsNumber version) :
    text'.filter (fun c => !isNumeral c) = text.filter fun c => !isNumeral c := by
  have gone {version : Text} (number : IsNumber version) :
      version.filter (fun c => !isNumeral c) = [] := by
    rw [List.filter_eq_nil_iff]
    intro c member
    simp [number.run c member]
  induction renumbered with
  | kept => rfl
  | number old onward ih => simp only [List.filter_append, gone number, gone old, ih]

/-- A tab behind the colon does not stay where it is. -/
theorem tab_behind_colon_is_replaced :
    IsNumber "2.0.0".toList ∧ ¬ ∃ count, Renumbered "2.0.0".toList count "Version:\t1.0.0".toList
      (rewriteAll (FileRole.source.rules []) "2.0.0".toList "Version:\t1.0.0".toList) := by
  have number : IsNumber "2.0.0".toList := by decide
  refine ⟨number, ?_⟩
  rintro ⟨count, renumbered⟩
  have around := renumbered.around number
  rw [rewriteAll_source] at around
  revert around
  decide

end PluginReadme.Formatting
