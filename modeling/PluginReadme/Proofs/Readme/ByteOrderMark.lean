import PluginReadme.Proofs.Document.Moved
import PluginReadme.Proofs.Pattern.Alike
import PluginReadme.Proofs.Pattern.Plain
import PluginReadme.Proofs.Readme.LeadingTitle

/-! A byte order mark in front of a text. Blocks are read behind it as they are without it, and so
is every version that is declared below the first line. What looks at the very start of a text by
itself does not pass over the mark: the title of a changelog is not dropped behind it, and no label
stands at the start of its line there. -/
namespace PluginReadme.ByteOrderMark
open Readme (render build stripLeadingTitle)
open Version (find foundAt lineLabel lineStarts)
open Markdown (Unmarked)
open LeadingTitle (stripLeadingTitle_untitled)

variable {source readme changelog label : Text}

/-! ## Blocks -/

/-- A source is rendered as it is without a byte order mark. -/
theorem render_marked (unmarked : Unmarked source) :
    render ('\uFEFF' :: source) = render source := by
  unfold render
  rw [Document.ofMarkdown_marked unmarked]

/-! ## Titles -/

/-- No title is seen behind a byte order mark. -/
theorem stripLeadingTitle_marked (text : Text) :
    stripLeadingTitle ('\uFEFF' :: text) = '\uFEFF' :: text := rfl

/-! ## Versions -/

/-- The starts of lines below the first one. -/
def lowerStarts (source : Text) : List Cursor :=
  (Cursor.onwards 0 none source).tail.filter fun cursor => cursor.previous.all (· == '\n')

theorem lineStarts_eq (source : Text) :
    lineStarts source = Cursor.atStart source :: lowerStarts source := by
  cases source <;> rfl

/-- Below the first line a byte order mark only moves the places along. -/
theorem lowerStarts_marked (source : Text) :
    lowerStarts ('\uFEFF' :: source) = (lowerStarts source).map (Cursor.moved 1) := by
  cases source with
  | nil => rfl
  | cons c rest =>
    have moved := Cursor.onwards_moved 1 1 (some c) rest
    have marked : lowerStarts ('\uFEFF' :: c :: rest) =
        (Cursor.onwards 2 (some c) rest).filter fun cursor => cursor.previous.all (· == '\n') :=
      rfl
    rw [marked, moved, List.filter_map]
    rfl

/-- A version is found at the very start, or else below the first line, where a byte order mark
changes nothing. -/
theorem find_marked (source label : Text) : ∃ below,
    find source label =
      (foundAt (lineLabel label).pattern (Cursor.atStart source)).or below ∧
    find ('\uFEFF' :: source) label =
      (foundAt (lineLabel label).pattern (Cursor.atStart ('\uFEFF' :: source))).or below := by
  refine ⟨(lowerStarts source).findSome? (foundAt (lineLabel label).pattern), ?_, ?_⟩
  · unfold find
    rw [lineStarts_eq, List.findSome?_cons]
    cases foundAt (lineLabel label).pattern (Cursor.atStart source) <;> rfl
  · have same : (foundAt (lineLabel label).pattern ∘ Cursor.moved 1) =
        foundAt (lineLabel label).pattern := funext (Version.foundAt_moved 1 _)
    unfold find
    rw [lineStarts_eq, lowerStarts_marked, List.findSome?_cons, List.findSome?_map, same]
    cases foundAt (lineLabel label).pattern (Cursor.atStart ('\uFEFF' :: source)) <;> rfl

/-! ## Both texts -/

/-- A byte order mark in front of a readme and one in front of its changelog change nothing, if the
changelog does not begin with a title, and nothing in the version that is found for a label, if it
is the same at the very start of the readme. -/
theorem marks_change_nothing (unmarked : Unmarked readme) (unmarked' : Unmarked changelog)
    (untitled : ¬ ['#', ' '] <+: changelog)
    (same : foundAt (lineLabel label).pattern (Cursor.atStart ('\uFEFF' :: readme)) =
      foundAt (lineLabel label).pattern (Cursor.atStart readme)) :
    build ('\uFEFF' :: readme) ('\uFEFF' :: changelog) = build readme changelog ∧
      find ('\uFEFF' :: readme) label = find readme label := by
  constructor
  · unfold build
    rw [stripLeadingTitle_marked, stripLeadingTitle_untitled untitled, render_marked unmarked,
      render_marked unmarked']
  · obtain ⟨below, plain, marked⟩ := find_marked readme label
    rw [plain, marked, same]

/-- A readme that declares its version below its title. -/
private def tagged : Text := "# Plugin\nStable tag: 1.2.3".toList

/-- A changelog that begins with a heading of the second level. -/
private def untitled : Text := "## 1.2.3\n* x".toList

private theorem stable_tag : (lineLabel "Stable tag".toList).pattern =
    Pattern.literal "Stable tag".toList := Plain.read_plain rfl rfl _ (by decide)

theorem marks_in_front_of_tagged :
    Unmarked tagged ∧ Unmarked untitled ∧ ¬ ['#', ' '] <+: untitled ∧
      build ('\uFEFF' :: tagged) ('\uFEFF' :: untitled) = build tagged untitled ∧
      find ('\uFEFF' :: tagged) "Stable tag".toList = find tagged "Stable tag".toList := by
  have unmarked : Unmarked tagged := by decide
  have unmarked' : Unmarked untitled := by decide
  have other : ¬ ['#', ' '] <+: untitled := by decide
  refine ⟨unmarked, unmarked', other, marks_change_nothing unmarked unmarked' other ?_⟩
  rw [stable_tag]
  decide +kernel

/-- Behind a byte order mark a title stays in the changelog, and a version at the very start of a
readme is not found. -/
theorem mark_hides_the_start :
    Unmarked ['A'] ∧ Unmarked "# Bom\n* x".toList ∧ Unmarked "Stable tag: 1.2.3".toList ∧
      build ['A'] "# Bom\n* x".toList = "A\n\n== Changelog ==\n* x".toList ∧
      build ['\uFEFF', 'A'] ('\uFEFF' :: "# Bom\n* x".toList) =
        "A\n\n== Changelog ==\n=== Bom ===\n* x".toList ∧
      find "Stable tag: 1.2.3".toList "Stable tag".toList = some "1.2.3".toList ∧
      find ('\uFEFF' :: "Stable tag: 1.2.3".toList) "Stable tag".toList = none := by
  have found (source : Text) : find source "Stable tag".toList =
      (lineStarts source).findSome? (foundAt (Pattern.literal "Stable tag".toList)) := by
    unfold find
    rw [stable_tag]
  rw [found, found]
  decide +kernel

end PluginReadme.ByteOrderMark
