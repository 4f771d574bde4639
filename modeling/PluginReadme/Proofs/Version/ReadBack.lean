import PluginReadme.Proofs.Version.FirstDeclared
import PluginReadme.Proofs.Version.Isolation
import PluginReadme.Proofs.Version.Origin

/-! A version that was written is found again. The search looks for a declaration at the start of a
line and does without blanks behind the colon; the rewriting looks anywhere and wants a blank there.
Where both come to the same declaration, the search of the rewritten text comes to it once more. -/
namespace PluginReadme.ReadBack
open Version (Dialect find lineLabel lineStarts foundAt)
open Numeral Plain Rewriting Dialects Finding UpToDate FirstDeclared FirstRewritten Origin Isolation

variable {key label source text front back gap pad old rest version matched content : Text}
  {first : Char} {found : Version.Declaration} {cursor : Cursor} {place : Nat}

/-! ## The place of the declaration that is found -/

private theorem placed_mem_onwards (before front back : Text) :
    placed (before ++ front) back ∈
      Cursor.onwards before.length before.getLast? (front ++ back) := by
  induction front generalizing before with
  | nil => cases back <;> simp [placed, Cursor.onwards]
  | cons c front ih =>
    have further := ih (before ++ [c])
    rw [List.append_assoc] at further
    rw [List.cons_append, Cursor.onwards]
    exact List.mem_cons_of_mem _ (by simpa using further)

/-- Every place of a text where a line starts is gone through. -/
theorem placed_mem_lineStarts (starts : StartsLine front) (back : Text) :
    placed front back ∈ lineStarts (front ++ back) := by
  refine List.mem_filter.mpr ⟨placed_mem_onwards [] front back, ?_⟩
  rw [Option.all_eq_true]
  intro c last
  simpa using starts c last

/-- A hit comes from the start of a line, and no line in front of that one gives a version. -/
theorem hit_first (here : hit label source = some (place, version)) :
    ∃ front back, source = front ++ back ∧ front.length = place ∧ StartsLine front ∧
      foundAt (lineLabel label).pattern (placed front back) = some version ∧
      ∀ before after, front = before ++ after → after ≠ [] → StartsLine before →
        foundAt (lineLabel label).pattern (placed before (after ++ back)) = none := by
  obtain ⟨ahead, cursor, behind, listed, read, unread⟩ := List.findSome?_eq_some_iff.mp here
  obtain ⟨_, read, same⟩ := Option.map_eq_some_iff.mp read
  cases same
  have inside : cursor ∈ lineStarts source := by simp [listed]
  obtain ⟨front, back, rfl, rfl, starts⟩ := mem_lineStarts inside
  refine ⟨front, back, rfl, rfl, starts, read, ?_⟩
  rintro before after rfl filled starts'
  have member := placed_mem_lineStarts starts' (after ++ back)
  have ascending := lineStarts_ascending (before ++ after ++ back)
  rw [← List.append_assoc, listed] at member
  rw [listed] at ascending
  rcases List.mem_append.mp member with early | late
  · exact Option.map_eq_none_iff.mp (unread _ early)
  · have later : (before ++ after).length ≤ before.length := by
      rcases List.mem_cons.mp late with same | late
      · exact Nat.le_of_eq (congrArg Cursor.position same).symm
      · exact Nat.le_of_lt
          (List.rel_of_pairwise_cons (List.pairwise_append.mp ascending).2.1 late)
    have positive := List.length_pos_iff.mpr filled
    rw [List.length_append] at later
    omega

theorem firstTag_of_hit (literal : LiteralLabel key)
    (here : hit key (front ++ back) = some (front.length, version)) : FirstTag key front back := by
  obtain ⟨front', back', split, place, starts, read, unread⟩ := hit_first here
  obtain ⟨rfl, rfl⟩ := List.append_inj split place.symm
  rw [lineLabel_literal literal] at read unread
  refine ⟨starts, tagged_iff.mpr ⟨version, foundAt_iff.mp read⟩, ?_⟩
  intro before after parts filled starts' tagged
  obtain ⟨other, declared⟩ := tagged_iff.mp tagged
  have found : foundAt (Pattern.literal key) (placed before (after ++ back)) = some other :=
    foundAt_iff.mpr declared
  exact Option.some_ne_none other (found.symm.trans (unread before after parts filled starts'))

/-! ## Declarations in front of a rewritten one -/

/-- A declaration that is found in front of a rewritten one was there before: its colon is the
rewritten one, or its number ends in front of that colon. -/
theorem tagged_before (laid : Labelled true key text gap first pad old rest) (filled : front ≠ [])
    (tagged : Tagged key (front ++ written (labelled key pad old rest) version)) :
    Tagged key (front ++ text) := by
  obtain ⟨number, _, behind, split, gap', pad', rfl, run, padRun, isNumber⟩ := tagged
  have colons : (front ++ key) ++ ':' :: (' ' :: (pad ++ version ++ rest)) =
      (key ++ gap') ++ ':' :: (pad' ++ number ++ behind) := by
    simpa [written, labelled] using split
  rcases colon_same_or_early run filled colons with same | ⟨more, ahead, after⟩
  · refine ⟨old, key ++ (gap' ++ gap) ++ ':' :: (first :: pad) ++ old, rest, ?_, gap' ++ gap,
      first :: pad, rfl, run_append.mpr ⟨run, laid.gapBlank⟩,
      run_cons.mpr ⟨laid.firstBlank, laid.padBlank⟩, laid.number⟩
    have joined := congrArg (· ++ (gap ++ ':' :: first :: (pad ++ old ++ rest))) same
    rw [laid.split]
    simpa using joined
  · have numeralColon : isNumeral ':' = false := rfl
    have absent : ':' ∉ pad' ++ number := by
      simp [not_mem_of_run padRun colon_not_blank, not_mem_of_run isNumber.run numeralColon]
    obtain ⟨between, rfl, -⟩ := front_of_mark after absent
    refine ⟨number, key ++ gap' ++ ':' :: pad' ++ number,
      between ++ (gap ++ ':' :: first :: (pad ++ old ++ rest)), ?_, gap', pad', rfl, run, padRun,
      isNumber⟩
    have joined := congrArg (· ++ (gap ++ ':' :: first :: (pad ++ old ++ rest))) ahead
    rw [laid.split]
    simpa using joined

/-- The first declaration that is found stays the first one when it is rewritten. -/
theorem firstTag_rewritten (laid : Labelled true key text gap first pad old rest)
    (tag : FirstTag key front text) (number : IsNumber version) :
    FirstTag key front (written (labelled key pad old rest) version) where
  starts := tag.starts
  tagged := ⟨version, key ++ [] ++ ':' :: (' ' :: pad) ++ version, rest,
    by simp [written, labelled],
    [], ' ' :: pad, rfl, Run.nil, run_cons.mpr ⟨rfl, laid.padBlank⟩, number⟩
  first := by
    intro before after parts filled starts tagged
    exact tag.first before after parts filled starts (tagged_before laid filled tagged)

theorem declares_written (laid : Labelled true key text gap first pad old rest)
    (number : IsNumber version) :
    Declares key version (written (labelled key pad old rest) version) :=
  ⟨[], ' ' :: pad, rest, by simp [written, labelled], Run.nil, run_cons.mpr ⟨rfl, laid.padBlank⟩,
    number, laid.stop⟩

/-! ## Writing and finding -/

/-- The first place where the header of a key of its own matches, as a declaration that is read
there and nowhere in front. -/
theorem header_of_firstMatch (literal : LiteralKey key)
    (firstMatch : FirstMatch (.styleHeader key) content front matched found) :
    Clear (header key) front (matched ++ found.rest) ∧
      header key (matched ++ found.rest) = some found := by
  have reads (cursor : Cursor) :
      (Dialect.styleHeader key).rule.declaration? cursor = header key cursor.rest := by
    change Version.Rule.declaration? (.header (Version.keyLabel key).pattern) cursor = _
    rw [keyLabel_literal literal]
    exact header_local key cursor
  constructor
  · intro before after parts filled
    have silent := silent_iff.mpr (firstMatch.first before after parts filled)
    rw [reads] at silent
    simpa [placed] using silent
  · have here := reads_iff.mpr ⟨matched, firstMatch.reads⟩
    rw [reads] at here
    exact here

/-- What is read at a place is the first match, if nothing is read at the places in front. -/
theorem firstMatch_of_read {dialect : Dialect}
    (read : dialect.rule.declaration? (placed front back) = some found)
    (unread : ∀ size < front.length,
      dialect.rule.declaration? (placed (front.take size) (front.drop size ++ back)) = none) :
    ∃ matched, FirstMatch dialect (front ++ back) front matched found := by
  obtain ⟨matched, reads⟩ := reads_iff.mp read
  obtain rfl : back = matched ++ found.rest := reads.split
  refine ⟨matched, by simp, reads, ?_⟩
  rintro before after rfl filled
  have positive := List.length_pos_iff.mpr filled
  have silent := silent_iff.mp (unread before.length (by rw [List.length_append]; omega))
  simpa using silent

/-- Where the declaration that a document is searched for is the one that is rewritten, the search
of the rewritten document gives the version that was written. -/
theorem written_version_is_found (ownKey : LiteralKey key) (ownLabel : LiteralLabel key)
    (number : IsNumber version)
    (rewritten : FirstMatch (.styleHeader key) content front matched found)
    (searched : hit key content = some (front.length, old)) :
    find ((Dialect.styleHeader key).rule.rewrite version content) key = some version := by
  obtain ⟨clear, here⟩ := header_of_firstMatch ownKey rewritten
  have split := rewritten.split
  rw [List.append_assoc] at split
  have tag := firstTag_of_hit ownLabel (split ▸ searched)
  have written_eq : (Dialect.styleHeader key).rule.rewrite version content =
      front ++ written found version := by
    change Version.Rule.rewrite (.header (Version.keyLabel key).pattern) version content = _
    rw [keyLabel_literal ownKey, rewrite_eq (header_local key), split, rewriteText_clear clear,
      rewriteText_here here]
  obtain ⟨gap, first, pad, old', rest, laid, rfl⟩ := (header_reads key _ found).mp here
  rw [written_eq]
  exact find_firstTag ownLabel (firstTag_rewritten laid tag number) (declares_written laid number)

/-- A key that is no pattern, in a text with a line that holds it without a blank behind the colon,
and with other blanks in the declaration than those that are written. -/
theorem unbalanced_key_is_found_again : LiteralKey "a)(b".toList ∧ LiteralLabel "a)(b".toList ∧
    IsNumber "2.0.10".toList ∧
    hit "a)(b".toList "x a)(b:9.9.9\na)(b\t :\n 1.2.3.4".toList = some (13, "1.2.3".toList) ∧
    (∃ front matched found, front.length = 13 ∧ FirstMatch (.styleHeader "a)(b".toList)
      "x a)(b:9.9.9\na)(b\t :\n 1.2.3.4".toList front matched found) ∧
    find ((Dialect.styleHeader "a)(b".toList).rule.rewrite "2.0.10".toList
      "x a)(b:9.9.9\na)(b\t :\n 1.2.3.4".toList) "a)(b".toList = some "2.0.10".toList := by
  have ownKey : LiteralKey "a)(b".toList := Or.inr (by decide +kernel)
  have ownLabel : LiteralLabel "a)(b".toList := Or.inr (by decide +kernel)
  have number : IsNumber "2.0.10".toList := by decide
  have searched : hit "a)(b".toList "x a)(b:9.9.9\na)(b\t :\n 1.2.3.4".toList =
      some ("x a)(b:9.9.9\n".toList.length, "1.2.3".toList) := by decide +kernel
  have read : (Dialect.styleHeader "a)(b".toList).rule.declaration?
      (placed "x a)(b:9.9.9\n".toList "a)(b\t :\n 1.2.3.4".toList) =
        some ⟨"a)(b:  ".toList, "1.2.3".toList, [], ".4".toList⟩ := by decide +kernel
  obtain ⟨matched, rewritten⟩ := firstMatch_of_read read (by decide +kernel)
  exact ⟨ownKey, ownLabel, number, searched, ⟨_, matched, _, rfl, rewritten⟩,
    written_version_is_found ownKey ownLabel number rewritten searched⟩

end PluginReadme.ReadBack
