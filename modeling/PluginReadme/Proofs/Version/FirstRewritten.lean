import PluginReadme.Proofs.Pattern.Search
import PluginReadme.Proofs.Version.Dialects

/-! What becomes of a text that is given a version, for every way to declare one. Only the first
place counts where the pattern of the dialect matches: there the number is replaced by the version,
whatever that is, and what stands in front of the number is kept but for the blanks around the
colon. All other text stays, and so does a text in which the pattern matches nowhere. -/
namespace PluginReadme.FirstRewritten
open Version (Declaration Dialect Rule isDigit keyLabel)
open Numeral Rewriting Dialects

variable {dialect : Dialect} {pattern : Pattern} {start stop : Cursor}
  {text front back matched version : Text} {found : Declaration}

/-! ## Places where a pattern matches -/

/-- A place of a text, between what stands in front of it and what follows. -/
def placed (front back : Text) : Cursor := ⟨front.length, front.getLast?, back⟩

/-- At least one blank and a version number, whatever follows. -/
def Versioned (text : Text) : Prop :=
  ∃ first pad version rest, text = first :: pad ++ version ++ rest ∧
    Text.isBlank first = true ∧ Run Text.isBlank pad ∧ IsNumber version

/-- What has to stand behind the key of a header: blanks, a colon and a version after blanks. -/
def Trailed (text : Text) : Prop :=
  ∃ gap after, text = gap ++ ':' :: after ∧ Run Text.isBlank gap ∧ Versioned after

/-- The pattern of a dialect matches at a place. -/
def Occurs : Dialect → Cursor → Prop
  | .styleHeader key, start =>
    ∃ stop, (keyLabel key).pattern.Matches start stop ∧ Trailed stop.rest
  | .docblock, start => ∃ after, start.rest = "Version:".toList ++ after ∧ Versioned after
  | .constant, start =>
    ∃ head version tail rest, start.rest = head ++ version ++ tail ++ rest ∧
      Opening head ∧ IsNumber version ∧ Closing tail

/-- Of the places where a match of a key can end, the first one from which the match goes on. -/
def Preferred (key : Pattern) (start stop : Cursor) : Prop :=
  ∃ ahead behind, key.ends start = ahead ++ stop :: behind ∧ Trailed stop.rest ∧
    ∀ other ∈ ahead, ¬ Trailed other.rest

/-- The text of the match that is preferred at a place, and how it is written anew. A number has
all the digits that there are. -/
inductive Reads : Dialect → Cursor → Text → Declaration → Prop
  | styleHeader {key name gap first pad old rest} {start stop : Cursor}
      (preferred : Preferred (keyLabel key).pattern start stop)
      (named : start.rest = name ++ stop.rest)
      (laid : Labelled true [] stop.rest gap first pad old rest) :
      Reads (.styleHeader key) start (name ++ gap ++ ':' :: first :: pad ++ old)
        ⟨name ++ ": ".toList ++ pad, old, [], rest⟩
  | docblock {first pad old rest} {start : Cursor}
      (laid : Labelled false "Version".toList start.rest [] first pad old rest) :
      Reads .docblock start ("Version:".toList ++ first :: pad ++ old)
        ⟨"Version: ".toList ++ pad, old, [], rest⟩
  | constant {head old tail rest} {start : Cursor}
      (split : start.rest = head ++ old ++ tail ++ rest) (opening : Opening head) (number : IsNumber old) (closing : Closing tail) :
      Reads .constant start (head ++ old ++ tail) ⟨head, old, tail, rest⟩

/-- The first place of a text where the pattern of a dialect matches, with the preferred match. -/
structure FirstMatch (dialect : Dialect) (content front matched : Text) (found : Declaration) :
    Prop where
  split : content = front ++ matched ++ found.rest
  reads : Reads dialect (placed front (matched ++ found.rest)) matched found
  first : ∀ before after, front = before ++ after → after ≠ [] →
    ¬ Occurs dialect (placed before (after ++ matched ++ found.rest))

/-! ## What is read at a place -/

/-- Whatever follows the number, all digits at its end can be taken. -/
theorem versioned_iff : Versioned text ↔ ∃ first pad version rest,
    text = first :: pad ++ version ++ rest ∧ Text.isBlank first = true ∧ Run Text.isBlank pad ∧
      IsNumber version ∧ Stops isDigit rest := by
  constructor
  · rintro ⟨first, pad, version, rest, rfl, blank, run, isNumber⟩
    obtain ⟨version', rest', split, isNumber', stop⟩ := isNumber.whole rest
    refine ⟨first, pad, version', rest', ?_, blank, run, isNumber', stop⟩
    rw [List.append_assoc, split, List.append_assoc]
  · rintro ⟨first, pad, version, rest, split, blank, run, isNumber, -⟩
    exact ⟨first, pad, version, rest, split, blank, run, isNumber⟩

theorem trailed_iff : Trailed text ↔
    ∃ gap first pad version rest, Labelled true [] text gap first pad version rest := by
  constructor
  · rintro ⟨gap, after, rfl, gapBlank, versioned⟩
    obtain ⟨first, pad, version, rest, rfl, blank, run, isNumber, stop⟩ :=
      versioned_iff.mp versioned
    exact ⟨gap, first, pad, version, rest, by simp, gapBlank, (fun wrong => nomatch wrong), blank,
      run, isNumber, stop⟩
  · rintro ⟨gap, first, pad, version, rest, laid⟩
    refine ⟨gap, first :: pad ++ version ++ rest, ?_, laid.gapBlank, first, pad, version, rest,
      rfl, laid.firstBlank, laid.padBlank, laid.number⟩
    simp [laid.split]

/-- A header is read behind the preferred match of its key. -/
theorem preferred_iff : Declaration.header? pattern start = some found ↔
    ∃ stop, Preferred pattern start stop ∧ ∃ gap first pad version rest,
      Labelled true [] stop.rest gap first pad version rest ∧
        found = labelled (start.textTo stop) pad version rest := by
  unfold Declaration.header?
  rw [List.findSome?_eq_some_iff]
  constructor
  · rintro ⟨ahead, stop, behind, ends, read, unread⟩
    obtain ⟨gap, first, pad, version, rest, laid, rfl⟩ := (trailing_iff _).mp read
    refine ⟨stop, ⟨ahead, behind, ends, trailed_iff.mpr ⟨gap, first, pad, version, rest, laid⟩, ?_⟩,
      gap, first, pad, version, rest, laid, rfl⟩
    intro other member trailed
    obtain ⟨gap, first, pad, version, rest, laid⟩ := trailed_iff.mp trailed
    have here := (trailing_iff (start.textTo other)).mpr
      ⟨gap, first, pad, version, rest, laid, rfl⟩
    exact Option.some_ne_none _ (here.symm.trans (unread other member))
  · rintro ⟨stop, ⟨ahead, behind, ends, -, untrailed⟩, read⟩
    refine ⟨ahead, stop, behind, ends, (trailing_iff _).mpr read, ?_⟩
    intro other member
    by_contra here
    obtain ⟨declared, here⟩ := Option.ne_none_iff_exists'.mp here
    obtain ⟨gap, first, pad, version, rest, laid, -⟩ := (trailing_iff _).mp here
    exact untrailed other member (trailed_iff.mpr ⟨gap, first, pad, version, rest, laid⟩)

/-- Where some match of a key goes on, one is preferred. -/
theorem preferred_of_matches (named : pattern.Matches start stop) (trailed : Trailed stop.rest) :
    ∃ other, Preferred pattern start other := by
  classical
  have listed := (Pattern.mem_ends pattern start stop).mpr named
  have held : ((pattern.ends start).find? fun stop => decide (Trailed stop.rest)).isSome = true :=
    List.find?_isSome.mpr ⟨stop, listed, by simpa using trailed⟩
  obtain ⟨other, picked⟩ := Option.isSome_iff_exists.mp held
  obtain ⟨here, ahead, behind, ends, earlier⟩ := List.find?_eq_some_iff_append.mp picked
  exact ⟨other, ahead, behind, ends, by simpa using here,
    fun early member => by simpa using earlier early member⟩

theorem Preferred.matches (preferred : Preferred pattern start stop) :
    pattern.Matches start stop := by
  obtain ⟨ahead, behind, ends, -⟩ := preferred
  exact (Pattern.mem_ends pattern start stop).mp (by simp [ends])

theorem Preferred.trailed (preferred : Preferred pattern start stop) : Trailed stop.rest := by
  obtain ⟨ahead, behind, -, trailed, -⟩ := preferred
  exact trailed

private theorem labelled_stem_pad (stem pad version rest : Text) :
    labelled stem pad version rest = ⟨stem ++ ": ".toList ++ pad, version, [], rest⟩ := by
  rw [labelled, List.append_assoc]
  rfl

/-- What a rule reads at a place is the preferred match of its pattern. -/
theorem reads_iff : dialect.rule.declaration? start = some found ↔
    ∃ matched, Reads dialect start matched found := by
  cases dialect with
  | styleHeader key =>
    refine Iff.trans preferred_iff ?_
    constructor
    · rintro ⟨stop, preferred, gap, first, pad, old, rest, laid, rfl⟩
      rw [labelled_stem_pad]
      exact ⟨_, Reads.styleHeader preferred preferred.matches.onward.textTo laid⟩
    · rintro ⟨matched, reads⟩
      cases reads with
      | @styleHeader _ name gap first pad old rest _ stop preferred named laid =>
        have taken : start.textTo stop = name :=
          List.append_cancel_right (preferred.matches.onward.textTo.symm.trans named)
        exact ⟨stop, preferred, gap, first, pad, old, rest, laid,
          by rw [taken, labelled_stem_pad]⟩
  | docblock =>
    refine Iff.trans (docblock_reads start.rest found) ?_
    constructor
    · rintro ⟨gap, first, pad, old, rest, laid, rfl⟩
      obtain rfl := laid.tight rfl
      exact ⟨_, Reads.docblock laid⟩
    · rintro ⟨matched, reads⟩
      cases reads with
      | docblock laid => exact ⟨_, _, _, _, _, laid, rfl⟩
  | constant =>
    refine Iff.trans constant_iff ?_
    constructor
    · rintro ⟨split, opening, number, closing⟩
      exact ⟨_, Reads.constant split opening number closing⟩
    · rintro ⟨matched, reads⟩
      cases reads with
      | constant split opening number closing => exact ⟨split, opening, number, closing⟩

theorem Reads.split (reads : Reads dialect start matched found) :
    start.rest = matched ++ found.rest := by
  cases reads with
  | styleHeader preferred named laid =>
    rw [named, laid.split]
    simp
  | docblock laid =>
    rw [laid.split]
    simp
  | constant split opening number closing => exact split

/-- A declaration is read just where the pattern matches. -/
theorem occurs_iff : Occurs dialect start ↔ ∃ matched found, Reads dialect start matched found := by
  constructor
  · intro occurs
    cases dialect with
    | styleHeader key =>
      obtain ⟨stop, named, trailed⟩ := occurs
      obtain ⟨other, preferred⟩ := preferred_of_matches named trailed
      obtain ⟨gap, first, pad, old, rest, laid⟩ := trailed_iff.mp preferred.trailed
      exact ⟨_, _, Reads.styleHeader preferred preferred.matches.onward.textTo laid⟩
    | docblock =>
      obtain ⟨after, split, versioned⟩ := occurs
      obtain ⟨first, pad, old, rest, rfl, blank, run, number, stop⟩ := versioned_iff.mp versioned
      exact ⟨_, _, Reads.docblock ⟨split, Run.nil, fun _ => rfl, blank, run, number, stop⟩⟩
    | constant =>
      obtain ⟨head, old, tail, rest, split, opening, number, closing⟩ := occurs
      exact ⟨_, _, Reads.constant split opening number closing⟩
  · rintro ⟨matched, found, reads⟩
    cases reads with
    | @styleHeader _ name gap first pad old rest _ stop preferred named laid =>
      exact ⟨stop, preferred.matches, preferred.trailed⟩
    | docblock laid =>
      exact ⟨_, laid.split, _, _, _, _, rfl, laid.firstBlank, laid.padBlank, laid.number⟩
    | constant split opening number closing =>
      exact ⟨_, _, _, _, split, opening, number, closing⟩

/-! ## The first place -/

theorem silent_iff : dialect.rule.declaration? start = none ↔ ¬ Occurs dialect start := by
  rw [occurs_iff, Option.eq_none_iff_forall_not_mem]
  constructor
  · rintro silent ⟨matched, found, reads⟩
    exact silent found (reads_iff.mpr ⟨matched, reads⟩)
  · rintro absent found read
    obtain ⟨matched, reads⟩ := reads_iff.mp read
    exact absent ⟨matched, found, reads⟩

end PluginReadme.FirstRewritten
