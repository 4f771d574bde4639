import Mathlib.Data.List.DropRight
import PluginReadme.Proofs.Version.Number
import PluginReadme.Text.Lines

/-! The lines of a text as they stand between its line feeds, and what trimming a text does to
them. -/
namespace PluginReadme.Lines
open Numeral

variable {text front back line mark : Text} {holds : Text → Prop}

/-! ## Trimming -/

theorem trimStart_eq_nil : Text.trimStart text = [] ↔ Run Text.isBlank text := by
  rw [Text.trimStart, List.dropWhile_eq_nil_iff]
  exact Iff.rfl

theorem trimStart_append (front back : Text) :
    Text.trimStart (front ++ back) =
      if Text.trimStart front = [] then Text.trimStart back else Text.trimStart front ++ back := by
  simp [Text.trimStart, List.dropWhile_append]

theorem trimEnd_append (front back : Text) :
    Text.trimEnd (front ++ back) =
      if Text.trimEnd back = [] then Text.trimEnd front else front ++ Text.trimEnd back := by
  unfold Text.trimEnd
  rw [List.reverse_append, List.dropWhile_append]
  cases left : back.reverse.dropWhile Text.isBlank <;> simp

/-- What is dropped from the end of a list. -/
theorem dropEnd_split {α : Type} (drops : α → Bool) (items : List α) :
    ∃ dropped, items = (items.reverse.dropWhile drops).reverse ++ dropped ∧
      ∀ item ∈ dropped, drops item = true := by
  refine ⟨(items.reverse.takeWhile drops).reverse, ?_, fun item member => ?_⟩
  · rw [← List.reverse_append, List.takeWhile_append_dropWhile, List.reverse_reverse]
  · exact List.mem_takeWhile_imp (List.mem_reverse.mp member)

/-- Trimming takes blanks away from the end and nothing else. -/
theorem trimEnd_split (text : Text) :
    ∃ blanks, text = Text.trimEnd text ++ blanks ∧ Run Text.isBlank blanks :=
  dropEnd_split Text.isBlank text

theorem trimEnd_of_blank (blank : Run Text.isBlank text) : Text.trimEnd text = [] := by
  have run : Run Text.isBlank text.reverse := fun c member => blank c (List.mem_reverse.mp member)
  have stripped := dropWhile_run run stops_nil
  rw [List.append_nil] at stripped
  rw [Text.trimEnd, stripped, List.reverse_nil]

theorem trim_append_blank (text : Text) {tail : Text} (blank : Run Text.isBlank tail) :
    Text.trim (text ++ tail) = Text.trim text := by
  have dropped := trimStart_eq_nil.mpr blank
  rw [Text.trim, Text.trim, trimStart_append]
  split
  · rename_i nothing
    rw [dropped, nothing]
  · rw [trimEnd_append, if_pos (trimEnd_of_blank blank)]

theorem trim_blank_append {front : Text} (blank : Run Text.isBlank front) (text : Text) :
    Text.trim (front ++ text) = Text.trim text := by
  rw [Text.trim, trimStart_append, if_pos (trimStart_eq_nil.mpr blank), Text.trim]

/-- What is left of a text after trimming comes first in what is left of a longer one. -/
theorem trim_front (text rest : Text) : Text.trim text <+: Text.trim (text ++ rest) := by
  unfold Text.trim
  rw [trimStart_append]
  split
  · rename_i nothing
    rw [nothing]
    exact List.nil_prefix
  · rw [trimEnd_append]
    split
    · exact List.prefix_refl _
    · obtain ⟨blanks, split, -⟩ := trimEnd_split (Text.trimStart text)
      exact ⟨blanks ++ Text.trimEnd rest, by rw [← List.append_assoc, ← split]⟩

/-- What stands in front of a character that is not blank stays. -/
theorem trimEnd_solid {last : Char} (solid : Text.isBlank last = false) (rest : Text) :
    Text.trimEnd (front ++ [last] ++ rest) = front ++ [last] ++ Text.trimEnd rest := by
  have alone : Text.trimEnd [last] = [last] := by simp [Text.trimEnd, solid]
  rw [trimEnd_append]
  split
  · rename_i nothing
    rw [trimEnd_append, if_neg (by simp [alone]), alone, nothing, List.append_nil]
  · rfl

theorem trimEnd_front (text : Text) : Text.trimEnd text <+: text := by
  obtain ⟨blanks, split, -⟩ := trimEnd_split text
  exact ⟨blanks, split.symm⟩

theorem trim_part (text : Text) : Text.trim text <:+: text :=
  (trimEnd_front _).isInfix.trans (List.dropWhile_suffix _).isInfix

theorem mem_of_mem_trim {c : Char} (member : c ∈ Text.trim text) : c ∈ text := by
  have inside := (List.dropWhile_sublist _).mem (List.mem_reverse.mp member)
  exact (List.dropWhile_sublist _).mem (List.mem_reverse.mp inside)

/-! ## Line by line -/

/-- Whether a character may stand inside a line of a source, whatever ends lines there. -/
def inLine (c : Char) : Bool := c != '\n' && c != '\r'

theorem inLine_eq_false {c : Char} : inLine c = false ↔ c = '\n' ∨ c = '\r' := by
  simp only [inLine, Bool.and_eq_false_iff, bne_eq_false_iff_eq]

/-- Something holds of each stretch of a text between two line feeds, and of the last one. -/
inductive EachLine (holds : Text → Prop) : Text → Prop where
  | last {line : Text} (free : '\n' ∉ line) (here : holds line) : EachLine holds line
  | line {line text : Text} (free : '\n' ∉ line) (here : holds line)
      (rest : EachLine holds text) : EachLine holds (line ++ '\n' :: text)

/-- A text is one line, or a line with more after it. -/
theorem line_or_more (text : Text) :
    '\n' ∉ text ∨ ∃ line more, text = line ++ '\n' :: more ∧ '\n' ∉ line := by
  by_cases broken : '\n' ∈ text
  · exact Or.inr (List.eq_append_cons_of_mem broken)
  · exact Or.inl broken

theorem eachLine_intro (lines : ∀ before line after, text = before ++ line ++ after →
    '\n' ∉ line → (before = [] ∨ before.getLast? = some '\n') →
    (after = [] ∨ after.head? = some '\n') → holds line) : EachLine holds text := by
  induction size : text.length using Nat.strongRecOn generalizing text with
  | ind size' ih =>
    rcases line_or_more text with free | ⟨line, more, rfl, free⟩
    · exact .last free (lines [] text [] (by simp) free (Or.inl rfl) (Or.inl rfl))
    · refine .line free (lines [] line ('\n' :: more) rfl free (Or.inl rfl) (Or.inr rfl)) ?_
      refine ih more.length (by simp [← size]; omega) (fun before other after split free starts =>
        lines (line ++ '\n' :: before) other after (by simp [split]) free (Or.inr ?_)) rfl
      rcases starts with rfl | starts
      · simp
      · simp [List.getLast?_append, starts, List.getLast?_cons]

/-- Something holds of each line of a text, except that nothing is said of the first one. -/
def LaterLines (holds : Text → Prop) (text : Text) : Prop :=
  '\n' ∉ text ∨ ∃ line more, text = line ++ '\n' :: more ∧ '\n' ∉ line ∧ EachLine holds more

/-- A mark in front of a text is a mark in front of its first line. -/
theorem LaterLines.marked (later : LaterLines holds text) (free : '\n' ∉ mark)
    (first : ∀ line, holds (mark ++ line)) : EachLine holds (mark ++ text) := by
  have joined {line : Text} (free' : '\n' ∉ line) : '\n' ∉ mark ++ line := fun member =>
    (List.mem_append.mp member).elim free free'
  rcases later with free' | ⟨line, more, rfl, free', rest⟩
  · exact .last (joined free') (first text)
  · rw [← List.append_assoc]
    exact .line (joined free') (first line) rest

theorem EachLine.closed (each : EachLine holds text) (free : '\n' ∉ mark)
    (last : ∀ line, holds line → holds (line ++ mark)) : EachLine holds (text ++ mark) := by
  induction each with
  | last free' here =>
    exact .last (fun member => (List.mem_append.mp member).elim free' free) (last _ here)
  | line free' here rest ih =>
    rw [List.append_assoc, List.cons_append]
    exact .line free' here ih

/-- Trimming a text drops its last lines if they are blank, and trims the last of the others. -/
theorem EachLine.trimEnd (each : EachLine holds text)
    (trims : ∀ line, holds line → holds (Text.trimEnd line)) :
    EachLine holds (Text.trimEnd text) := by
  have free_trim {line : Text} (free : '\n' ∉ line) : '\n' ∉ Text.trimEnd line := by
    obtain ⟨blanks, split, -⟩ := trimEnd_split line
    exact fun member => free (split ▸ List.mem_append_left blanks member)
  induction each with
  | last free here => exact .last (free_trim free) (trims _ here)
  | @line line text free here rest ih =>
    have feed : Text.isBlank '\n' = true := rfl
    by_cases nothing : Text.trimEnd text = []
    · have dropped : Text.trimEnd ('\n' :: text) = [] := by
        rw [← List.singleton_append, trimEnd_append, if_pos nothing]
        exact trimEnd_of_blank (run_cons.mpr ⟨feed, Run.nil⟩)
      rw [trimEnd_append, if_pos dropped]
      exact .last (free_trim free) (trims _ here)
    · have kept : Text.trimEnd (line ++ '\n' :: text) = line ++ '\n' :: Text.trimEnd text := by
        have split : line ++ '\n' :: text = (line ++ ['\n']) ++ text := by simp
        rw [split, trimEnd_append, if_neg nothing, List.append_assoc, List.singleton_append]
      rw [kept]
      exact .line free here ih

/-! ## The lines that are read -/

theorem lines_single {c : Char} {rest : Text} (feed : c = '\n' → False)
    (pair : ∀ more, c = '\r' → rest = '\n' :: more → False) (nothing : Text.lines rest = []) :
    Text.lines (c :: rest) = [[c]] := by
  rw [Text.lines, nothing]
  · exact feed
  · exact pair

theorem lines_longer {c : Char} {rest : Text} {more : List Text} (feed : c = '\n' → False)
    (pair : ∀ more, c = '\r' → rest = '\n' :: more → False)
    (split : Text.lines rest = line :: more) : Text.lines (c :: rest) = (c :: line) :: more := by
  rw [Text.lines, split]
  · exact feed
  · exact pair

theorem lines_ne_nil (filled : text ≠ []) : Text.lines text ≠ [] := by
  cases text using Text.lines.fun_cases with
  | case1 => exact absurd rfl filled
  | case2 | case3 => exact List.cons_ne_nil _ _
  | case4 c rest feed pair nothing => simp [lines_single feed pair nothing]
  | case5 c rest feed pair line more split => simp [lines_longer feed pair split]

theorem lines_free (text : Text) : ∀ line ∈ Text.lines text, '\n' ∉ line := by
  induction text using Text.lines.induct with
  | case1 => simp [Text.lines]
  | case2 rest ih => simpa [Text.lines] using ih
  | case3 rest ih => simpa [Text.lines] using ih
  | case4 c rest feed pair nothing ih =>
    have read := lines_single feed pair nothing
    have other : '\n' ≠ c := fun same => feed same.symm
    simpa [read] using other
  | case5 c rest feed pair line more split ih =>
    have read := lines_longer feed pair split
    have other : '\n' ≠ c := fun same => feed same.symm
    rw [split] at ih
    obtain ⟨here, later⟩ := List.forall_mem_cons.mp ih
    rw [read]
    exact List.forall_mem_cons.mpr ⟨by simpa [other] using here, later⟩

/-- A line that is read is a stretch of the text, and the first one stands at its start. -/
theorem lines_part (text : Text) : (∀ line ∈ Text.lines text, line <:+: text) ∧
    ∀ line ∈ (Text.lines text).head?, line <+: text := by
  have after {front rest : Text} (read : ∀ line ∈ Text.lines rest, line <:+: rest) :
      ∀ line ∈ Text.lines rest, line <:+: front ++ rest := fun line member =>
    (read line member).trans (List.suffix_append front rest).isInfix
  have bare {rest front : Text} : ∀ line ∈ ([] :: Text.lines rest).head?, line <+: front := by
    intro line member
    cases member
    exact List.nil_prefix
  induction text using Text.lines.induct with
  | case1 => simp [Text.lines]
  | case2 rest ih =>
    rw [Text.lines]
    exact ⟨List.forall_mem_cons.mpr ⟨List.nil_infix, @after ['\n'] rest ih.1⟩, bare⟩
  | case3 rest ih =>
    rw [Text.lines]
    exact ⟨List.forall_mem_cons.mpr ⟨List.nil_infix, @after ['\r', '\n'] rest ih.1⟩, bare⟩
  | case4 c rest feed pair nothing ih =>
    have read := lines_single feed pair nothing
    have alone : [c] <+: c :: rest := ⟨rest, rfl⟩
    rw [read]
    exact ⟨List.forall_mem_cons.mpr ⟨alone.isInfix, nofun⟩, fun line member => by
      cases member
      exact alone⟩
  | case5 c rest feed pair line more split ih =>
    have read := lines_longer feed pair split
    obtain ⟨parts, first⟩ := ih
    rw [split] at parts first
    have first : c :: line <+: c :: rest := (List.prefix_cons_inj c).mpr (first line rfl)
    rw [read]
    refine ⟨List.forall_mem_cons.mpr ⟨first.isInfix, fun other member => ?_⟩, fun other member => by
      cases member
      exact first⟩
    exact (parts other (List.mem_cons_of_mem line member)).trans (List.suffix_cons c rest).isInfix

theorem trimEnd_last {text : Text} {c : Char} (last : (Text.trimEnd text).getLast? = some c) :
    Text.isBlank c = false := by
  unfold Text.trimEnd at last
  rw [List.getLast?_reverse] at last
  have stopped := List.head?_dropWhile_not Text.isBlank text.reverse
  rw [last] at stopped
  simpa using stopped

theorem join_singleton (separator part : Text) : Text.join separator [part] = part :=
  List.intercalate_singleton ..

theorem join_cons_cons (separator part next : Text) (parts : List Text) :
    Text.join separator (part :: next :: parts) =
      part ++ separator ++ Text.join separator (next :: parts) :=
  List.intercalate_cons_cons ..

theorem join_free {separator : Text} {parts : List Text} {c : Char}
    (free : ∀ part ∈ parts, c ∉ part) (apart : c ∉ separator) :
    c ∉ Text.join separator parts := by
  induction parts with
  | nil => simp [Text.join]
  | cons part parts ih =>
    obtain ⟨here, rest⟩ := List.forall_mem_cons.mp free
    cases parts with
    | nil => rwa [join_singleton]
    | cons next parts =>
      rw [join_cons_cons]
      simpa [here, apart] using ih rest

/-- A line in front of a line feed is read first. -/
theorem lines_line (inside : Run inLine line) (rest : Text) :
    Text.lines (line ++ '\n' :: rest) = line :: Text.lines rest := by
  induction line with
  | nil => rfl
  | cons c line ih =>
    obtain ⟨here, inside⟩ := run_cons.mp inside
    refine lines_longer ?_ ?_ (ih inside)
    · rintro rfl
      cases here
    · rintro more rfl
      cases here

theorem lines_alone (inside : Run inLine line) (filled : line ≠ []) :
    Text.lines line = [line] := by
  induction line with
  | nil => exact absurd rfl filled
  | cons c line ih =>
    obtain ⟨here, inside⟩ := run_cons.mp inside
    have feed : c ≠ '\n' := by
      rintro rfl
      cases here
    have pair (more : Text) (same : c = '\r') : line ≠ '\n' :: more := by
      subst same
      cases here
    by_cases last : line = []
    · exact last ▸ lines_single feed (fun _ _ => nofun) rfl
    · exact lines_longer feed pair (ih inside last)

/-- Lines that are joined are read again. -/
theorem lines_join {parts : List Text} (inside : ∀ part ∈ parts, Run inLine part)
    (filled : ∀ part ∈ parts, part ≠ []) : Text.lines (Text.join ['\n'] parts) = parts := by
  induction parts with
  | nil => rfl
  | cons part parts ih =>
    obtain ⟨here, inside⟩ := List.forall_mem_cons.mp inside
    obtain ⟨some, filled⟩ := List.forall_mem_cons.mp filled
    cases parts with
    | nil => rw [join_singleton, lines_alone here some]
    | cons next parts =>
      rw [join_cons_cons, List.append_assoc, List.singleton_append, lines_line here,
        ih inside filled]

/-- The lines of a text that does not end with a line feed are all of it. -/
theorem join_lines (unreturned : '\r' ∉ text) (unended : text.getLast? ≠ some '\n') :
    Text.join ['\n'] (Text.lines text) = text := by
  have inside {line : Text} (free : '\n' ∉ line) (part : line ⊆ text) : Run inLine line := by
    intro c member
    by_contra broken
    rcases inLine_eq_false.mp (Bool.eq_false_iff.mpr broken) with rfl | rfl
    · exact free member
    · exact unreturned (part member)
  induction size : text.length using Nat.strongRecOn generalizing text with
  | ind size' ih =>
    rcases line_or_more text with free | ⟨line, more, rfl, free⟩
    · by_cases empty : text = []
      · rw [empty]
        rfl
      · rw [lines_alone (inside free (List.Subset.refl _)) empty, join_singleton]
    · have ended : more.getLast? ≠ some '\n' := fun last => unended (by
        simp [List.getLast?_append, List.getLast?_cons, last])
      have more' : more ⊆ line ++ '\n' :: more := fun c member => by simp [member]
      have rest := ih more.length (by simp [← size]; omega)
        (fun member => unreturned (more' member)) ended
        (fun free part => inside free (List.Subset.trans part more')) rfl
      have filled : more ≠ [] := by
        rintro rfl
        exact unended (by simp)
      rw [lines_line (inside free (by simp))]
      cases read : Text.lines more with
      | nil =>
        rw [read] at rest
        exact absurd rest.symm filled
      | cons next parts => rw [join_cons_cons, ← read, rest, List.append_assoc]; rfl

theorem joinLines_free (text : Text) : '\n' ∉ Text.joinLines text := by
  refine join_free (fun part member => ?_) (by decide)
  obtain ⟨trimmed, -⟩ := List.mem_filter.mp member
  obtain ⟨line, inside, rfl⟩ := List.mem_map.mp trimmed
  exact fun wrong => lines_free text line inside (mem_of_mem_trim wrong)

/-! ## Without blanks -/

/-- The characters of a text that are not blank. -/
def ink (text : Text) : Text := text.filter (! Text.isBlank ·)

theorem ink_append (front back : Text) : ink (front ++ back) = ink front ++ ink back :=
  List.filter_append ..

theorem ink_of_blank (blank : Run Text.isBlank text) : ink text = [] :=
  List.filter_eq_nil_iff.mpr fun c member => by simp [blank c member]

theorem ink_trim (text : Text) : ink (Text.trim text) = ink text := by
  obtain ⟨blanks, split, blank⟩ := trimEnd_split (Text.trimStart text)
  have parted := List.takeWhile_append_dropWhile (p := Text.isBlank) (l := text)
  have dropped : Run Text.isBlank (text.takeWhile Text.isBlank) :=
    fun c member => List.mem_takeWhile_imp member
  calc ink (Text.trim text)
      = ink (Text.trim text ++ blanks) := by rw [ink_append, ink_of_blank blank, List.append_nil]
    _ = ink (Text.trimStart text) := by rw [Text.trim, ← split]
    _ = ink (text.takeWhile Text.isBlank ++ Text.trimStart text) := by
      rw [ink_append, ink_of_blank dropped, List.nil_append]
    _ = ink text := by rw [Text.trimStart, parted]

/-- What ends lines is blank, so that the lines of a text hold all else. -/
theorem ink_lines (text : Text) : (Text.lines text).flatMap ink = ink text := by
  have feed (rest : Text) : ink ('\n' :: rest) = ink rest := rfl
  have pair (rest : Text) : ink ('\r' :: '\n' :: rest) = ink rest := rfl
  induction text using Text.lines.induct with
  | case1 => rfl
  | case2 rest ih =>
    rw [Text.lines, feed, ← ih]
    rfl
  | case3 rest ih =>
    rw [Text.lines, pair, ← ih]
    rfl
  | case4 c rest feed pair nothing ih =>
    rw [nothing] at ih
    have whole : ink (c :: rest) = ink [c] ++ ink rest := ink_append [c] rest
    rw [lines_single feed pair nothing, whole, ← ih]
    rfl
  | case5 c rest feed pair line more split ih =>
    rw [split] at ih
    have first : ink (c :: line) = ink [c] ++ ink line := ink_append [c] line
    have whole : ink (c :: rest) = ink [c] ++ ink rest := ink_append [c] rest
    rw [lines_longer feed pair split, whole, ← ih, List.flatMap_cons, List.flatMap_cons, first,
      List.append_assoc]

theorem ink_join {separator : Text} (blank : Run Text.isBlank separator) (parts : List Text) :
    ink (Text.join separator parts) = parts.flatMap ink := by
  induction parts with
  | nil => rfl
  | cons part parts ih =>
    cases parts with
    | nil => rw [join_singleton, List.flatMap_cons, List.flatMap_nil, List.append_nil]
    | cons next parts =>
      rw [join_cons_cons, ink_append, ink_append, ink_of_blank blank, List.append_nil, ih]
      rfl

/-- Joining lines moves blanks only. -/
theorem ink_joinLines (text : Text) : ink (Text.joinLines text) = ink text := by
  have trimmed (lines : List Text) :
      ((lines.map Text.trim).filter (! ·.isEmpty)).flatMap ink = lines.flatMap ink := by
    induction lines with
    | nil => rfl
    | cons line lines ih =>
      have kept := ink_trim line
      rw [List.map_cons, List.filter_cons, List.flatMap_cons, ← kept, ← ih]
      split
      · rfl
      · rename_i nothing
        have nothing : Text.trim line = [] := by simpa using nothing
        rw [nothing]
        rfl
  rw [Text.joinLines, ink_join (by decide), trimmed, ink_lines]

/-- A carriage return in a text that is not followed by a line feed, and does not end the text. -/
def LoneReturn (text : Text) : Prop := ∃ c, c ≠ '\n' ∧ ['\r', c] <:+: text

/-- Text that is joined onto one line keeps a carriage return only if no line feed follows it. -/
theorem joinLines_return (member : '\r' ∈ Text.joinLines text) : LoneReturn text := by
  by_contra paired
  refine join_free (fun part listed wrong => paired ?_) (by decide) member
  obtain ⟨trimmed, -⟩ := List.mem_filter.mp listed
  obtain ⟨line, read, rfl⟩ := List.mem_map.mp trimmed
  have inside := (trim_part line).trans ((lines_part text).1 line read)
  obtain ⟨front, back, split⟩ := List.append_of_mem wrong
  cases back with
  | nil =>
    have last : (Text.trim line).getLast? = some '\r' := by rw [split, List.getLast?_concat]
    have blank := trimEnd_last last
    cases blank
  | cons c more =>
    have pair : ['\r', c] <:+: Text.trim line := ⟨front, more, by rw [split]; simp⟩
    refine ⟨c, ?_, pair.trans inside⟩
    rintro rfl
    exact lines_free text line read (mem_of_mem_trim (pair.mem (by simp)))

end PluginReadme.Lines
