import PluginReadme.Proofs.Document.Lowering
import PluginReadme.Proofs.Markdown.Nesting
import PluginReadme.Proofs.Readme.Output
import PluginReadme.Proofs.Readme.Spacing

/-! Empty lines in a rendered readme. Between two blocks there is at most one, and running text
holds none in the source; the brackets of a link may hide one line feed from the next, but no
third one. -/
namespace PluginReadme.BlankLines
open Readme (Link renderLinks headingLine)
open Markdown (Span)
open LinkForm (exists_pass)
open Numeral Lines Links SourceLine Layout Lowered Spacing Output

variable {text front back line source body after : Text} {count start stop : Nat} {c : Char}
  {block : Block} {blocks : List Block} {link : Link}

/-! ## Line feeds in a row -/

/-- So many line feeds stand in a row in a text. -/
def Piled (count : Nat) (text : Text) : Prop := List.replicate count '\n' <:+: text

theorem Piled.within (piled : Piled count text) (inside : text <:+: back) : Piled count back :=
  piled.trans inside

theorem Piled.fewer {fewer : Nat} (piled : Piled count text) (le : fewer ≤ count) :
    Piled fewer text := by
  refine .within ⟨[], List.replicate (count - fewer) '\n', ?_⟩ piled
  rw [List.nil_append, ← List.replicate_add, Nat.add_sub_cancel' le]

theorem Piled.mem (piled : Piled (count + 1) text) : '\n' ∈ text :=
  piled.sublist.mem (by simp)

/-- A row of line feeds stands on one side of any other character. -/
theorem piled_split (other : c ≠ '\n') (piled : Piled count (front ++ c :: back)) :
    Piled count front ∨ Piled count back := by
  obtain ⟨before, after, split⟩ := piled
  rcases split_cons split with ⟨more, rfl, -⟩ | ⟨more, ahead, rfl⟩
  · exact Or.inl ⟨before, more, rfl⟩
  · rcases split_cons ahead with ⟨inner, -, wrong⟩ | ⟨inner, -, rfl⟩
    · have member : c ∈ List.replicate count '\n' := by simp [wrong]
      exact absurd (List.eq_of_mem_replicate member) other
    · exact Or.inr ⟨inner, after, rfl⟩

/-- Around a text that is free of line feeds nothing is added to a row. -/
theorem not_piled_around (free : '\n' ∉ front) (free' : '\n' ∉ back)
    (sparse : ¬ Piled (count + 1) text) : ¬ Piled (count + 1) (front ++ text ++ back) := by
  have ahead : ¬ Piled (count + 1) (front ++ text) := by
    induction front with
    | nil => exact sparse
    | cons c front ih =>
      simp only [List.mem_cons, not_or] at free
      intro piled
      rcases @piled_split [] (front ++ text) _ c (Ne.symm free.1) piled with wrong | later
      · cases wrong.mem
      · exact ih free.2 later
  cases back with
  | nil => rwa [List.append_nil]
  | cons c back =>
    simp only [List.mem_cons, not_or] at free'
    intro piled
    rcases piled_split (Ne.symm free'.1) piled with wrong | wrong
    · exact ahead wrong
    · exact free'.2 wrong.mem

/-- No two line feeds stand in a row where no line is empty. -/
theorem dense_slice (dense : Dense source start stop) :
    ¬ Piled 2 ((Span.mk start stop).slice source) := by
  rintro ⟨before, after, split⟩
  have here (place : Nat) (inside : place < 2) :
      ((Span.mk start stop).slice source)[before.length + place]? = some '\n' := by
    rw [← split, List.append_assoc, List.getElem?_append_right (Nat.le_add_right ..),
      Nat.add_sub_cancel_left, List.getElem?_append_left (by simpa using inside),
      List.getElem?_replicate, if_pos inside]
  have there (place : Nat) (found : ((Span.mk start stop).slice source)[place]? = some '\n') :
      source[start + place]? = some '\n' ∧ start + place < stop := by
    have bound := (List.getElem?_eq_some_iff.mp found).1
    unfold Span.slice at found bound
    dsimp only at found bound
    rw [List.length_take] at bound
    rw [List.getElem?_take_of_lt (by omega), List.getElem?_drop] at found
    exact ⟨found, by omega⟩
  obtain ⟨first, inside⟩ := there _ (here 0 (by decide))
  obtain ⟨second, -⟩ := there _ (here 1 (by decide))
  exact dense _ (Nat.le_add_right ..) inside first second

/-! ## Links -/

private theorem prefix_split (other : c ≠ '\n')
    (leads : List.replicate count '\n' <+: front ++ c :: back) :
    List.replicate count '\n' <+: front := by
  obtain ⟨after, split⟩ := leads
  rcases split_cons split with ⟨more, rfl, -⟩ | ⟨more, wrong, -⟩
  · exact List.prefix_append _ _
  · have member : c ∈ List.replicate count '\n' := by simp [wrong]
    exact absurd (List.eq_of_mem_replicate member) other

/-- A link that is rewritten parts what stands around it. -/
private theorem link_piled (text : ¬ Piled 2 link.text) (url : ¬ Piled 2 link.url)
    (behind : ¬ Piled 3 after) :
    ¬ Piled 3 (link.render ++ after) ∧ ¬ List.replicate 2 '\n' <+: link.render ++ after := by
  have written : link.render ++ after =
      link.text ++ ' ' :: ([] ++ '(' :: (link.url ++ ')' :: after)) := by
    simp [Link.render]
  rw [written]
  constructor
  · intro piled
    rcases piled_split (by decide) piled with here | piled
    · exact text (here.fewer (by decide))
    rcases piled_split (by decide) piled with here | piled
    · cases here.mem
    rcases piled_split (by decide) piled with here | piled
    · exact url (here.fewer (by decide))
    · exact behind piled
  · intro leads
    exact text (prefix_split (by decide) leads).isInfix

/-- Where no two line feeds stand in a row, rewriting the links brings no three together, and two at
the start only behind a line feed that was there. -/
theorem renderLinks_piled (sparse : ¬ Piled 2 text) :
    ¬ Piled 3 (renderLinks text) ∧
      (text.head? ≠ some '\n' → ¬ List.replicate 2 '\n' <+: renderLinks text) := by
  obtain ⟨links, pass⟩ := exists_pass text
  generalize renderLinks text = out at pass ⊢
  induction pass with
  | done =>
    constructor
    · intro wrong
      cases wrong.mem
    · rintro - ⟨more, wrong⟩
      cases wrong
  | @keep links rest out c bare onward ih =>
    have later : ¬ Piled 2 rest := fun piled =>
      sparse (piled.within (List.suffix_cons c rest).isInfix)
    have kept := ih later
    by_cases feed : c = '\n'
    · subst feed
      have single : rest.head? ≠ some '\n' := by
        intro head
        obtain ⟨more, rfl⟩ := List.head?_eq_some_iff.mp head
        exact sparse ⟨[], more, rfl⟩
      refine ⟨?_, fun wrong => absurd rfl wrong⟩
      intro piled
      rcases List.infix_cons_iff.mp piled with leads | inside
      · exact kept.2 single (List.cons_prefix_cons.mp leads).2
      · exact kept.1 inside
    · constructor
      · intro piled
        rcases @piled_split [] out _ c feed piled with wrong | inside
        · cases wrong.mem
        · exact kept.1 inside
      · rintro - ⟨more, split⟩
        exact feed (List.cons.inj split).1.symm
  | @link links link rest out proper onward ih =>
    rw [LinkForm.source_append] at sparse
    have inside (part : Text)
        (infix' : part <:+: '[' :: (link.text ++ ']' :: '(' :: (link.url ++ ')' :: rest))) :
        ¬ Piled 2 part := fun piled => sparse (piled.within infix')
    have text := inside link.text ⟨['['], _, rfl⟩
    have url := inside link.url ⟨'[' :: link.text ++ [']', '('], ')' :: rest, by simp⟩
    have behind := inside rest
      ⟨'[' :: link.text ++ ']' :: '(' :: (link.url ++ [')']), [], by simp⟩
    obtain ⟨piled, leads⟩ := link_piled text url (ih behind).1
    exact ⟨piled, fun _ => leads⟩

/-! ## Bodies -/

/-- A text begins on its first line. -/
def Begins (text : Text) : Prop := ∃ c rest, text = c :: rest ∧ c ≠ '\n'

/-- A paragraph that comes out as more than blanks, and on its first line. -/
def Opens (text : Text) : Prop := Begins (Text.trimEnd (renderLinks text))

/-- A block as running text, an item or a quote can give it: no empty line stands in it. -/
def Even : Block → Prop
  | .heading level text => 1 ≤ level ∧ ¬ Piled 2 text
  | .list _ items => ∀ item ∈ items, '\n' ∉ item
  | .paragraph text => ¬ Piled 2 text ∧ Opens text
  | .quote _ => True
  | .blank => True
  | .verbatim _ => False

/-- What comes out of a block: it begins on its first line, and there is at most one empty line
between two lines of it. -/
def Spaced (body : Text) : Prop := Begins body ∧ ¬ Piled 3 body

private theorem not_blank_of_begins (begins : Begins (Text.trimEnd text)) :
    ¬ Run Text.isBlank text := by
  intro blank
  obtain ⟨c, rest, split, -⟩ := begins
  rw [trimEnd_of_blank blank] at split
  cases split

theorem solid_of_even (even : Even block) : Solid block := by
  cases block with
  | heading level text =>
    obtain ⟨c, mark, closing, parts, solid, -⟩ := headingLine_parts even.1 (renderLinks text)
    intro blank
    rw [parts] at blank
    have wrong := blank c (by simp)
    rw [solid] at wrong
    cases wrong
  | list start items => exact trivial
  | paragraph text => exact not_blank_of_begins even.2
  | quote text => exact trivial
  | blank => exact trivial
  | verbatim text => exact even.elim

/-- A line that is not empty leaves no empty line in front of a text that begins on its first
line. -/
private theorem line_piled (filled : line ≠ []) (free : '\n' ∉ line) (begins : Begins text)
    (sparse : ¬ Piled 2 text) : ¬ Piled 2 (line ++ '\n' :: text) := by
  obtain ⟨front, last, rfl⟩ := (List.eq_nil_or_concat' line).resolve_left filled
  simp only [List.mem_append, List.mem_singleton, not_or] at free
  rw [List.append_assoc, List.singleton_append]
  intro piled
  rcases piled_split (Ne.symm free.2) piled with wrong | piled
  · exact free.1 wrong.mem
  · rcases List.infix_cons_iff.mp piled with leads | inside
    · obtain ⟨c, rest, rfl, other⟩ := begins
      obtain ⟨same, -⟩ := List.cons_prefix_cons.mp (List.cons_prefix_cons.mp leads).2
      exact other same.symm
    · exact sparse inside

/-- Lines that are not empty do not make an empty line when they are joined. -/
private theorem join_spaced (line : Text) (parts : List Text)
    (filled : ∀ part ∈ line :: parts, part ≠ [])
    (free : ∀ part ∈ line :: parts, '\n' ∉ part) :
    Begins (Text.join ['\n'] (line :: parts)) ∧ ¬ Piled 2 (Text.join ['\n'] (line :: parts)) := by
  induction parts generalizing line with
  | nil =>
    obtain ⟨here, -⟩ := List.forall_mem_cons.mp filled
    obtain ⟨free, -⟩ := List.forall_mem_cons.mp free
    obtain ⟨c, rest, rfl⟩ := List.exists_cons_of_ne_nil here
    rw [join_singleton]
    simp only [List.mem_cons, not_or] at free
    exact ⟨⟨c, rest, rfl, Ne.symm free.1⟩, fun wrong => absurd wrong.mem (by simp [free])⟩
  | cons next parts ih =>
    obtain ⟨here, filled⟩ := List.forall_mem_cons.mp filled
    obtain ⟨clean, free⟩ := List.forall_mem_cons.mp free
    obtain ⟨begins, sparse⟩ := ih next filled free
    rw [join_cons_cons, List.append_assoc, List.singleton_append]
    refine ⟨?_, line_piled here clean begins sparse⟩
    obtain ⟨c, rest, rfl⟩ := List.exists_cons_of_ne_nil here
    simp only [List.mem_cons, not_or] at clean
    exact ⟨c, _, rfl, Ne.symm clean.1⟩

private theorem lines_spaced (solid : Solid block) (free : ∀ line ∈ linesOf block, '\n' ∉ line)
    (found : body? block = some body) : Spaced body := by
  have filled : ∀ line ∈ linesOf block, Text.trimEnd line ≠ [] := by
    intro line member
    obtain ⟨front, last, ends, -⟩ := trimEnd_ends (lines_solid solid line member)
    simp [ends]
  have clean : ∀ line ∈ linesOf block, '\n' ∉ Text.trimEnd line := fun line member wrong =>
    free line member ((trimEnd_front line).mem wrong)
  unfold body? at found
  split at found
  · cases found
  · rename_i line more lines
    cases found
    rw [lines] at filled clean
    obtain ⟨begins, sparse⟩ := join_spaced (Text.trimEnd line) (more.map Text.trimEnd)
      (by simpa using filled) (by simpa using clean)
    exact ⟨begins, fun piled => sparse (piled.fewer (by decide))⟩

private theorem line_spaced (begins : Begins (Text.trimEnd line))
    (sparse : ¬ Piled 3 line) (alone : linesOf block = [line])
    (found : body? block = some body) : Spaced body := by
  have single : body? block = some (Text.trimEnd line) := by
    simp only [body?, alone, List.map_cons, List.map_nil, join_singleton]
  obtain rfl := Option.some.inj (single.symm.trans found)
  exact ⟨begins, fun piled => sparse (piled.within (trimEnd_front line).isInfix)⟩

theorem body_spaced (even : Even block) (found : body? block = some body) : Spaced body := by
  have solid := solid_of_even even
  cases block with
  | heading level text =>
    obtain ⟨marked, sparse⟩ := even
    obtain ⟨c, mark, closing, parts, solid, free, free'⟩ :=
      headingLine_parts marked (renderLinks text)
    refine line_spaced ?_ ?_ rfl found
    · have kept := @trimEnd_solid [] c solid (mark ++ renderLinks text ++ closing)
      rw [parts]
      refine ⟨c, _, kept, ?_⟩
      rintro rfl
      cases solid
    · rw [parts]
      exact not_piled_around free free' (renderLinks_piled sparse).1
  | list start items =>
    refine lines_spaced solid ?_ found
    intro line member
    obtain ⟨⟨item, index⟩, listed, rfl⟩ := List.mem_map.mp member
    exact Output.item_free start index (even item (List.fst_mem_of_mem_zipIdx listed))
  | paragraph text => exact line_spaced even.2 (renderLinks_piled even.1).1 rfl found
  | quote text =>
    refine lines_spaced solid ?_ found
    intro line member
    obtain ⟨line, listed, rfl⟩ := List.mem_map.mp member
    exact Output.quote_free (lines_free _ line listed)
  | blank => cases found
  | verbatim text => exact even.elim

/-! ## Documents -/

private theorem gap_cases (block : Block) (rest : List Block) :
    gap block rest = ['\n'] ∨ gap block rest = ['\n', '\n'] := by
  unfold gap
  split
  · exact Or.inl rfl
  · exact Or.inr rfl

/-- A gap, too, holds at most one empty line. -/
private theorem gap_piled (ends : Ends body) (sparse : ¬ Piled 3 body) (spaced : Spaced text)
    (block : Block) (rest : List Block) : ¬ Piled 3 (body ++ gap block rest ++ text) := by
  obtain ⟨front, last, rfl, solid⟩ := ends
  obtain ⟨⟨c, more, rfl, other⟩, sparse'⟩ := spaced
  have ended : last ≠ '\n' := by
    rintro rfl
    cases solid
  rw [List.append_assoc, List.append_assoc, List.singleton_append]
  intro piled
  rcases piled_split ended piled with inside | piled
  · exact sparse (inside.within (List.prefix_append front [last]).isInfix)
  rcases piled_split other piled with between | inside
  · have size := between.length_le
    rcases gap_cases block rest with one | two
    · simp [one] at size
    · simp [two] at size
  · exact sparse' (inside.within (List.suffix_cons c more).isInfix)

/-- Bodies that are spaced are still so when they are set apart. -/
theorem composed_spaced (even : ∀ block ∈ blocks, Even block)
    (found : composed blocks = some text) : Spaced text := by
  induction blocks generalizing text with
  | nil => cases found
  | cons block rest ih =>
    obtain ⟨here, later⟩ := List.forall_mem_cons.mp even
    unfold composed at found
    split at found
    · exact ih later found
    · rename_i body written ends
      cases found
      exact body_spaced here written
    · rename_i body below written onward
      cases found
      have ends := body_ends (solid_of_even here) written
      obtain ⟨⟨c, more, split, other⟩, sparse⟩ := body_spaced here written
      refine ⟨⟨c, more ++ gap block rest ++ below, ?_, other⟩,
        gap_piled ends sparse (ih later onward) block rest⟩
      rw [split, List.cons_append, List.cons_append]

/-- The blocks that are read from markdown hold no empty line, but those that are kept as they
are and paragraphs that are blank. -/
theorem even_of_markdown {markdown : Text} {block : Block}
    (member : block ∈ (Document.ofMarkdown markdown).blocks)
    (plain : ∀ text, block ≠ .verbatim text)
    (opens : ∀ text, block = .paragraph text → Opens text) : Even block := by
  obtain ⟨high, chain⟩ := Nesting.blocksOf_laid markdown
  rcases mem_lowerAll member with rfl | ⟨node, inside, rfl⟩
  · exact trivial
  · obtain ⟨sound, -, -⟩ := chain.mem inside
    cases node with
    | heading span level content =>
      obtain ⟨marked, contents⟩ := sound
      refine ⟨marked, ?_⟩
      cases content with
      | none => exact fun wrong => nomatch wrong.mem
      | some content =>
        obtain ⟨-, -, -, dense⟩ := contents content rfl
        exact dense_slice dense
    | paragraph span => exact ⟨dense_slice sound.2.2, opens _ rfl⟩
    | quote span children => exact trivial
    | list span mark start items => exact entries_free markdown items
    | verbatim span => exact absurd rfl (plain _)

/-- In a readme that is rendered from markdown no two empty lines follow each other, if no block is
kept as it is and no paragraph is blank or begins, its links rewritten, with an empty line. -/
theorem no_two_empty_lines (markdown : Text)
    (plain : ∀ text, .verbatim text ∉ (Document.ofMarkdown markdown).blocks)
    (opens : ∀ text, .paragraph text ∈ (Document.ofMarkdown markdown).blocks → Opens text) :
    ¬ ['\n', '\n', '\n'] <:+: Readme.render markdown := by
  have even : ∀ block ∈ (Document.ofMarkdown markdown).blocks, Even block := by
    intro block member
    apply even_of_markdown member
    · rintro text rfl
      exact plain text member
    · rintro text rfl
      exact opens text member
  obtain ⟨tail, blank, written⟩ := foldl_composed fun block member =>
    solid_of_even (even block member)
  intro piled
  rw [Readme.render, Readme.renderDocument, written, trim_append_blank _ blank] at piled
  have piled : Piled 3 ((composed (Document.ofMarkdown markdown).blocks).getD []) :=
    Piled.within piled (trim_part _)
  cases found : composed (Document.ofMarkdown markdown).blocks with
  | none =>
    rw [found] at piled
    cases piled.mem
  | some text =>
    rw [found] at piled
    exact (composed_spaced even found).2 piled

/-- A list with too many empty lines behind it, and a link whose text goes on below its bracket. -/
private def roomy : Text := "# a\n* b\n\n\n\nc\n[\nd](e)".toList

theorem roomy_has_no_two_empty_lines :
    (∀ text, .verbatim text ∉ (Document.ofMarkdown roomy).blocks) ∧
      (∀ text, .paragraph text ∈ (Document.ofMarkdown roomy).blocks → Opens text) ∧
      ¬ ['\n', '\n', '\n'] <:+: Readme.render roomy := by
  have read : (Document.ofMarkdown roomy).blocks =
      [.heading 1 ['a'], .list none [['b']], .paragraph "c\n[\nd](e)".toList] := by
    decide +kernel
  have plain : ∀ text, .verbatim text ∉ (Document.ofMarkdown roomy).blocks := by simp [read]
  have opens : ∀ text, .paragraph text ∈ (Document.ofMarkdown roomy).blocks → Opens text := by
    intro text member
    obtain rfl : text = "c\n[\nd](e)".toList := by simpa [read] using member
    exact ⟨'c', "\n\nd (e)".toList, by decide +kernel, by decide⟩
  exact ⟨plain, opens, no_two_empty_lines roomy plain opens⟩

/-- A paragraph of one blank that does not indent. -/
private def hollow : Text := "a\n\n\u00a0\n\nb".toList

/-- A paragraph that begins with a link whose text begins on the next line. -/
private def folded : Text := "a\n\n[\nb](c)".toList

/-- Such paragraphs bring a second empty line. -/
theorem paragraphs_bring_empty_lines :
    ((∀ text, .verbatim text ∉ (Document.ofMarkdown hollow).blocks) ∧
      ['\n', '\n', '\n'] <:+: Readme.render hollow) ∧
    (∀ text, .verbatim text ∉ (Document.ofMarkdown folded).blocks) ∧
      ['\n', '\n', '\n'] <:+: Readme.render folded := by
  have read : (Document.ofMarkdown hollow).blocks =
      [.paragraph ['a'], .blank, .paragraph ['\u00a0'], .blank, .paragraph ['b']] := by
    decide +kernel
  have read' : (Document.ofMarkdown folded).blocks =
      [.paragraph ['a'], .blank, .paragraph "[\nb](c)".toList] := by
    decide +kernel
  have written : Readme.render hollow = "a\n\n\nb".toList := by decide +kernel
  have written' : Readme.render folded = "a\n\n\nb (c)".toList := by decide +kernel
  refine ⟨⟨by simp [read], ?_⟩, by simp [read'], ?_⟩
  · rw [written]
    exact ⟨['a'], ['b'], rfl⟩
  · rw [written']
    exact ⟨['a'], "b (c)".toList, rfl⟩

end PluginReadme.BlankLines
