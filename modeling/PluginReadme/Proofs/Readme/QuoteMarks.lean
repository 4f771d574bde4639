import PluginReadme.Proofs.Readme.Passes
import PluginReadme.Proofs.Readme.Spacing

/-! The marks of a quote. What puts them in front of the lines of a text and what takes them off
again are apart from each other; a quote that is rendered and read back is the same, line by line,
whatever its lines begin with. -/
namespace PluginReadme.QuoteMarks
open Document (stripQuoteMark stripQuoteMarks)
open Readme (quoteLine renderDocument renderLinks)
open Numeral Lines LinkForm Passes Spacing

variable {text line : Text} {lines : List Text}

/-! ## One line -/

theorem quoteLine_cons (line : Text) : ∃ rest, quoteLine line = '>' :: rest := by
  unfold quoteLine
  split
  · exact ⟨[], rfl⟩
  · exact ⟨' ' :: line, rfl⟩

/-- The mark of a line comes off, and nothing else. -/
theorem stripQuoteMark_quoteLine (line : Text) : stripQuoteMark (quoteLine line) = line := by
  have solid (rest : Text) : Text.trimStart ('>' :: rest) = '>' :: rest := rfl
  unfold quoteLine
  split
  · rename_i empty
    rw [List.isEmpty_iff.mp empty, stripQuoteMark, solid]
    rfl
  · rw [stripQuoteMark, solid]
    rfl

theorem quoteLine_inLine (inside : Run inLine line) : Run inLine (quoteLine line) := by
  unfold quoteLine
  split
  · decide
  · exact run_cons.mpr ⟨rfl, run_cons.mpr ⟨rfl, inside⟩⟩

theorem quoteLine_trimmed (trimmed : Text.trimEnd line = line) :
    Text.trimEnd (quoteLine line) = quoteLine line := by
  unfold quoteLine
  split
  · rfl
  · rename_i filled
    have marked : '>' :: ' ' :: line = ['>', ' '] ++ line := rfl
    rw [marked, trimEnd_append, if_neg (by simpa [trimmed] using filled), trimmed]

/-! ## All lines -/

/-- Marked lines that are joined lose their marks. -/
theorem stripQuoteMarks_join (inside : ∀ line ∈ lines, Run inLine line) :
    stripQuoteMarks (Text.join ['\n'] (lines.map quoteLine)) = Text.join ['\n'] lines := by
  have read : Text.lines (Text.join ['\n'] (lines.map quoteLine)) = lines.map quoteLine := by
    refine lines_join (List.forall_mem_map.mpr fun line listed => ?_)
      (List.forall_mem_map.mpr fun line _ => ?_)
    · exact quoteLine_inLine (inside line listed)
    · obtain ⟨rest, split⟩ := quoteLine_cons line
      rw [split]
      exact List.cons_ne_nil _ _
  have stripped : stripQuoteMark ∘ quoteLine = id := funext stripQuoteMark_quoteLine
  rw [stripQuoteMarks, read, List.map_map, stripped, List.map_id]

/-- The lines of a text, each behind the mark of a quote. -/
def marked (text : Text) : Text := Text.join ['\n'] ((Text.lines text).map quoteLine)

theorem body_quote (filled : text ≠ []) (plain : ¬ HoldsLink text)
    (trimmed : ∀ line ∈ Text.lines text, Text.trimEnd line = line) :
    body? (.quote text) = some (marked text) := by
  obtain ⟨first, more, read⟩ := List.exists_cons_of_ne_nil (lines_ne_nil filled)
  have kept : ((Text.lines text).map quoteLine).map Text.trimEnd =
      (Text.lines text).map quoteLine := by
    rw [List.map_map]
    exact List.map_congr_left fun line listed => quoteLine_trimmed (trimmed line listed)
  rw [body?, linesOf, fixed_iff.mpr plain, marked]
  rw [read] at kept ⊢
  exact congrArg (some <| Text.join ['\n'] ·) kept

theorem marked_cons (filled : text ≠ []) : ∃ rest, marked text = '>' :: rest := by
  obtain ⟨first, more, read⟩ := List.exists_cons_of_ne_nil (lines_ne_nil filled)
  obtain ⟨rest, split⟩ := quoteLine_cons first
  rw [marked, read, List.map_cons, split]
  cases more.map quoteLine with
  | nil => exact ⟨rest, join_singleton ..⟩
  | cons next parts => exact ⟨_, join_cons_cons ..⟩

/-- A quote without links and without blanks at the ends of its lines comes out as its lines, each
behind a mark: the mark at the start keeps what follows it from being trimmed. -/
theorem render_quote (filled : text ≠ []) (plain : ¬ HoldsLink text)
    (trimmed : ∀ line ∈ Text.lines text, Text.trimEnd line = line) :
    renderDocument ⟨[.quote text]⟩ = marked text := by
  have solid : ∀ block ∈ [Block.quote text], Solid block :=
    List.forall_mem_singleton.mpr trivial
  have found := body_quote filled plain trimmed
  have whole : composed [.quote text] = some (marked text) := by
    rw [composed, found]
    rfl
  obtain ⟨tail, blank, output⟩ := foldl_composed solid
  obtain ⟨rest, begins⟩ := marked_cons filled
  have started : Text.trimStart (marked text) = marked text := by
    rw [begins]
    rfl
  have ended : Text.trimEnd (marked text) = marked text := by
    obtain ⟨front, last, ends, nonblank⟩ := body_ends (solid _ List.mem_cons_self) found
    rw [ends, ← List.append_nil (front ++ [last]), trimEnd_solid nonblank]
    rfl
  rw [renderDocument, output, trim_append_blank _ blank, whole, Option.getD_some, Text.trim,
    started, ended]

/-- What is read of a rendered quote is the text of the quote, if it holds no link, no carriage
return and no blank at the end of a line, and does not end with a line feed: empty lines, blanks at
the start of lines, and marks in the text are all there. -/
theorem quotes_are_read_back (filled : text ≠ []) (unreturned : '\r' ∉ text)
    (plain : ¬ HoldsLink text) (trimmed : ∀ line ∈ Text.lines text, Text.trimEnd line = line)
    (unended : text.getLast? ≠ some '\n') :
    stripQuoteMarks (renderDocument ⟨[.quote text]⟩) = text := by
  have inside : ∀ line ∈ Text.lines text, Run inLine line := by
    intro line listed c member
    by_contra broken
    rcases inLine_eq_false.mp (Bool.eq_false_iff.mpr broken) with rfl | rfl
    · exact lines_free text line listed member
    · exact unreturned (((lines_part text).1 line listed).mem member)
  rw [render_quote filled plain trimmed, marked, stripQuoteMarks_join inside,
    join_lines unreturned unended]

/-- A quote that begins with an empty line, with blanks and marks in front of its lines, and with
brackets that are no link. -/
private def layered : Text := "\n  > a\n>> b\n\n[c]() [d] (e)\n > >".toList

theorem layered_quote_is_read_back :
    layered ≠ [] ∧ '\r' ∉ layered ∧ ¬ HoldsLink layered ∧
      (∀ line ∈ Text.lines layered, Text.trimEnd line = line) ∧
      layered.getLast? ≠ some '\n' ∧
      stripQuoteMarks (renderDocument ⟨[.quote layered]⟩) = layered := by
  have plain : ¬ HoldsLink layered := fixed_iff.mp (by decide +kernel)
  have trimmed : ∀ line ∈ Text.lines layered, Text.trimEnd line = line := by decide +kernel
  exact ⟨by decide, by decide, plain, trimmed, by decide,
    quotes_are_read_back (by decide) (by decide) plain trimmed (by decide)⟩

end PluginReadme.QuoteMarks
