import PluginReadme.Proofs.Readme.Placed

/-! Code spans in running text. Links are looked for in the text as it is written, so that one may
be found in a code span or reach into it; the span then loses the brackets of the link. Nothing else
is taken from a code span, and one that loses no bracket stands in the readme as it is. -/
namespace PluginReadme.CodeSpans
open Readme (Link render renderLinks headingLine)
open Numeral Lines LinkForm Spacing Placed

variable {markdown text front back span rest out : Text} {flags : List Bool} {links : List Link}
  {c : Char} {block : Block}

/-! ## Lost brackets -/

/-- Which characters of a text are brackets that it loses because they are those of a link. -/
def lost : Text → List Bool
  | [] => []
  | c :: rest =>
    if c = '[' then
      match _taken : Link.afterBracket rest with
      | some (link, rest') => true :: (List.replicate link.text.length false ++
          true :: (List.replicate (link.url.length + 2) false ++ lost rest'))
      | none => false :: lost rest
    else false :: lost rest
termination_by text => text.length
decreasing_by
  · have := Link.length_afterBracket _taken; simp; omega
  · simp
  · simp

/-- A text without the brackets that it loses: an opening one is gone, and there is a space for a
closing one. -/
def without (text : Text) (flags : List Bool) : Text :=
  (text.zip flags).flatMap fun (c, gone) => if gone then if c = ']' then [' '] else [] else [c]

/-- Which characters a part of a text loses. -/
def lostIn (front part back : Text) : List Bool :=
  ((lost (front ++ part ++ back)).drop front.length).take part.length

theorem lost_link (proper : Proper link) (rest : Text) :
    lost (source link ++ rest) = true :: (List.replicate link.text.length false ++
      true :: (List.replicate (link.url.length + 2) false ++ lost rest)) := by
  have read : Link.afterBracket (link.text ++ ']' :: '(' :: (link.url ++ ')' :: rest)) =
      some (link, rest) := afterBracket_iff.mpr ⟨proper, rfl⟩
  rw [source_append, lost, if_pos rfl]
  split
  · rename_i taken
    rw [read] at taken
    cases taken
    rfl
  · rename_i taken
    rw [read] at taken
    cases taken

theorem lost_keep (bare : ¬ StartsLink (c :: rest)) : lost (c :: rest) = false :: lost rest := by
  rw [lost]
  split
  · rename_i bracket
    split
    · rename_i link after read
      exact absurd (startsLink_iff.mpr ⟨bracket, link, after, read⟩) bare
    · rfl
  · rfl

theorem without_append (same : front.length = flags.length) (back : Text) (more : List Bool) :
    without (front ++ back) (flags ++ more) = without front flags ++ without back more := by
  rw [without, List.zip_append same, List.flatMap_append]
  rfl

theorem without_cons (c : Char) (gone : Bool) (rest : Text) (flags : List Bool) :
    without (c :: rest) (gone :: flags) =
      (if gone then if c = ']' then [' '] else [] else [c]) ++ without rest flags := rfl

/-- A text that loses nothing. -/
theorem without_none (text : Text) : without text (List.replicate text.length false) = text := by
  induction text with
  | nil => rfl
  | cons c rest ih => exact congrArg (c :: ·) ih

/-- What a pass makes of a text is the text without the brackets that it loses. -/
theorem pass_without (pass : Pass links text out) :
    out = without text (lost text) ∧ (lost text).length = text.length := by
  induction pass with
  | done =>
    rw [lost]
    exact ⟨rfl, rfl⟩
  | keep c bare onward ih =>
    rw [lost_keep bare, List.length_cons, List.length_cons, ih.2]
    exact ⟨congrArg (c :: ·) ih.1, rfl⟩
  | @link links link rest out proper onward ih =>
    obtain ⟨same, size⟩ := ih
    have parts : source link ++ rest =
        ['['] ++ (link.text ++ ([']'] ++ (('(' :: link.url ++ [')']) ++ rest))) := by
      simp [source]
    have flags : lost (source link ++ rest) = [true] ++ (List.replicate link.text.length false ++
        ([true] ++ (List.replicate ('(' :: link.url ++ [')']).length false ++ lost rest))) := by
      rw [lost_link proper]
      simp
    constructor
    · rw [flags, parts, without_append rfl, without_append (by simp), without_append rfl,
        without_append (by simp), without_none, without_none, ← same]
      simp [without, Link.render]
    · rw [flags, parts]
      simp only [List.length_append, List.length_replicate, size, List.length_singleton]

/-- Only brackets are lost. -/
theorem pass_brackets (pass : Pass links text out) :
    ∀ pair ∈ text.zip (lost text), pair.2 = true → isBracket pair.1 = true := by
  induction pass with
  | done => exact nofun
  | keep c bare onward ih =>
    rw [lost_keep bare]
    exact List.forall_mem_cons.mpr ⟨nofun, ih⟩
  | @link links link rest out proper onward ih =>
    have kept (part : Text) : ∀ pair ∈ part.zip (List.replicate part.length false),
        pair.2 = true → isBracket pair.1 = true := by
      intro pair member gone
      have flag := List.eq_of_mem_replicate (List.of_mem_zip member).2
      rw [gone] at flag
      cases flag
    have parts : source link ++ rest =
        '[' :: (link.text ++ ']' :: (('(' :: link.url ++ [')']) ++ rest)) := by
      simp [source]
    have size : link.url.length + 2 = ('(' :: link.url ++ [')']).length := by simp
    rw [lost_link proper, parts, List.zip_cons_cons, List.zip_append (by simp),
      List.zip_cons_cons, size, List.zip_append (by simp)]
    refine List.forall_mem_cons.mpr ⟨fun _ => rfl, List.forall_mem_append.mpr ⟨kept _, ?_⟩⟩
    exact List.forall_mem_cons.mpr ⟨fun _ => rfl, List.forall_mem_append.mpr ⟨kept _, ih⟩⟩

/-! ## Parts of a text -/

/-- A part of a text comes out without the brackets that it loses, and only brackets are lost. -/
theorem part_without (front part back : Text) :
    without part (lostIn front part back) <:+: renderLinks (front ++ part ++ back) ∧
      (lostIn front part back).length = part.length ∧
      ∀ pair ∈ part.zip (lostIn front part back), pair.2 = true → isBracket pair.1 = true := by
  obtain ⟨links, pass⟩ := exists_pass (front ++ part ++ back)
  obtain ⟨written, size⟩ := pass_without pass
  have brackets := pass_brackets pass
  unfold lostIn
  generalize lost (front ++ part ++ back) = flags at written size brackets ⊢
  rw [List.length_append, List.length_append] at size
  have first : front.length = (flags.take front.length).length := by
    rw [List.length_take]
    omega
  have second : part.length = ((flags.drop front.length).take part.length).length := by
    rw [List.length_take, List.length_drop]
    omega
  have parts : flags = flags.take front.length ++ ((flags.drop front.length).take part.length ++
      (flags.drop front.length).drop part.length) := by
    rw [List.take_append_drop, List.take_append_drop]
  refine ⟨?_, second.symm, fun pair member => brackets pair ?_⟩
  · rw [written, List.append_assoc]
    conv_rhs => rw [parts, without_append first, without_append second]
    exact ⟨_, _, List.append_assoc ..⟩
  · rw [parts, List.append_assoc, List.zip_append first, List.zip_append second]
    exact List.mem_append_right _ (List.mem_append_left _ member)

/-- Text without brackets loses nothing. -/
theorem free_keeps (size : flags.length = text.length)
    (brackets : ∀ pair ∈ text.zip flags, pair.2 = true → isBracket pair.1 = true)
    (free : ∀ c ∈ text, isBracket c = false) : ∀ gone ∈ flags, gone = false := by
  induction text generalizing flags with
  | nil =>
    obtain rfl := List.eq_nil_of_length_eq_zero size
    exact nofun
  | cons c rest ih =>
    obtain ⟨gone, flags, rfl⟩ := List.exists_cons_of_length_eq_add_one size
    obtain ⟨here, later⟩ := List.forall_mem_cons.mp brackets
    obtain ⟨plain, free⟩ := List.forall_mem_cons.mp free
    refine List.forall_mem_cons.mpr ⟨?_, ih (Nat.succ.inj size) later free⟩
    by_contra taken
    have bracket := here (by simpa using taken)
    rw [plain] at bracket
    cases bracket

private theorem without_length (text : Text) (flags : List Bool) :
    (without text flags).length ≤ text.length := by
  induction text generalizing flags with
  | nil => exact Nat.le_refl 0
  | cons c rest ih =>
    cases flags with
    | nil => exact Nat.zero_le _
    | cons gone flags =>
      have shorter := ih flags
      rw [without_cons, List.length_append, List.length_cons]
      split
      · split
        · rw [List.length_singleton]
          omega
        · rw [List.length_nil]
          omega
      · rw [List.length_singleton]
        omega

/-- A part that loses a bracket is not what it was. -/
theorem without_eq_iff (size : flags.length = text.length) :
    without text flags = text ↔ ∀ gone ∈ flags, gone = false := by
  induction text generalizing flags with
  | nil =>
    obtain rfl := List.eq_nil_of_length_eq_zero size
    exact ⟨fun _ => nofun, fun _ => rfl⟩
  | cons c rest ih =>
    obtain ⟨gone, flags, rfl⟩ := List.exists_cons_of_length_eq_add_one size
    have size : flags.length = rest.length := Nat.succ.inj size
    rw [without_cons, List.forall_mem_cons, ← ih size]
    cases gone with
    | false => simp
    | true =>
      refine ⟨fun same => ?_, nofun⟩
      by_cases closing : c = ']'
      · rw [if_pos rfl, if_pos closing, closing] at same
        cases same
      · have shorter := without_length rest flags
        rw [if_pos rfl, if_neg closing, List.nil_append] at same
        rw [same, List.length_cons] at shorter
        omega

/-! ## Code spans -/

/-- A code span: a string of backticks, then text in which no string of just as many stands, then as
many backticks again. -/
def CodeSpan (span : Text) : Prop :=
  ∃ (count : Nat) (inner : Text),
    span = List.replicate count '`' ++ inner ++ List.replicate count '`' ∧ 0 < count ∧
    inner ≠ [] ∧ inner.head? ≠ some '`' ∧ inner.getLast? ≠ some '`' ∧
    ∀ front back, inner = front ++ List.replicate count '`' ++ back →
      front.getLast? = some '`' ∨ back.head? = some '`'

/-- A text without backticks makes a code span between two of them. -/
theorem code_of_free (filled : text ≠ []) (free : '`' ∉ text) :
    CodeSpan ('`' :: text ++ ['`']) := by
  refine ⟨1, text, rfl, Nat.one_pos, filled, ?_, ?_, fun front back split => ?_⟩
  · exact fun head => free (List.mem_of_mem_head? head)
  · exact fun last => free (List.mem_of_getLast? last)
  · refine absurd ?_ free
    simp [split]

/-- The text of a heading or a paragraph. -/
def runningText : Block → Option Text
  | .heading _ text => some text
  | .paragraph text => some text
  | _ => none

theorem runningText_line (running : runningText block = some text) :
    ∃ line ∈ linesOf block, renderLinks text <:+: line := by
  cases block with
  | heading level text' =>
    cases running
    refine ⟨_, List.mem_cons_self, ?_⟩
    unfold headingLine
    split
    · exact ⟨_, _, rfl⟩
    · exact ⟨_, _, rfl⟩
    · exact ⟨_, _, rfl⟩
    · exact ((List.suffix_cons ' ' _).trans (List.suffix_append _ _)).isInfix
  | paragraph text' =>
    cases running
    exact ⟨_, List.mem_cons_self, List.infix_refl _⟩
  | _ => cases running

theorem code_ends (code : CodeSpan span) :
    (∃ rest, span = ['`'] ++ rest) ∧ ∃ most, span = most ++ ['`'] := by
  obtain ⟨count, inner, rfl, positive, -⟩ := code
  obtain ⟨count, rfl⟩ := Nat.exists_eq_add_of_le' positive
  constructor
  · exact ⟨List.replicate count '`' ++ inner ++ List.replicate (count + 1) '`', by
      simp [List.replicate_succ]⟩
  · exact ⟨List.replicate (count + 1) '`' ++ inner ++ List.replicate count '`', by
      simp [List.replicate_succ']⟩

/-- Its backticks stay with a code span. -/
theorem code_bounded (code : CodeSpan span) (size : flags.length = span.length)
    (brackets : ∀ pair ∈ span.zip flags, pair.2 = true → isBracket pair.1 = true) :
    Bounded (without span flags) := by
  have tick {gone : Bool} (kept : gone = true → isBracket '`' = true) :
      without ['`'] [gone] = ['`'] := by
    cases gone with
    | false => rfl
    | true =>
      have wrong := kept rfl
      cases wrong
  obtain ⟨⟨rest, first⟩, most, last⟩ := code_ends code
  constructor
  · rw [first] at size brackets ⊢
    obtain ⟨gone, more, rfl⟩ := List.exists_cons_of_length_eq_add_one size
    have kept := tick (brackets ('`', gone) List.mem_cons_self)
    have whole : without (['`'] ++ rest) ([gone] ++ more) = ['`'] ++ without rest more := by
      rw [without_append rfl, kept]
    exact ⟨'`', without rest more, whole, rfl⟩
  · rw [last] at size brackets ⊢
    rcases List.eq_nil_or_concat flags with rfl | ⟨more, gone, rfl⟩
    · simp at size
    · have size' : most.length = more.length := by simpa using size.symm
      rw [List.concat_eq_append] at brackets ⊢
      rw [List.zip_append size'] at brackets
      have kept := tick (brackets ('`', gone) (List.mem_append_right _ List.mem_cons_self))
      rw [without_append size', kept]
      exact ⟨_, '`', rfl, rfl⟩

/-- A code span in a heading or a paragraph stands in the readme without the brackets that it loses
because a link is found there. It stands there as it is if it loses none, so in particular if it
holds no square bracket; otherwise it is another text. -/
theorem code_spans_lose_brackets (member : block ∈ (Document.ofMarkdown markdown).blocks)
    (running : runningText block = some (front ++ span ++ back)) (code : CodeSpan span) :
    without span (lostIn front span back) <:+: render markdown ∧
    (without span (lostIn front span back) = span ↔
      ∀ gone ∈ lostIn front span back, gone = false) ∧
    ((∀ gone ∈ lostIn front span back, gone = false) → span <:+: render markdown) ∧
    ((∀ c ∈ span, isBracket c = false) → span <:+: render markdown) := by
  obtain ⟨inside, size, brackets⟩ := part_without front span back
  obtain ⟨line, listed, written⟩ := runningText_line running
  have unchanged := @without_eq_iff span (lostIn front span back) size
  have placed : without span (lostIn front span back) <:+: render markdown := by
    exact (code_bounded code size brackets).renderDocument member listed (inside.trans written)
  have kept (none : ∀ gone ∈ lostIn front span back, gone = false) : span <:+: render markdown := by
    have same := unchanged.mpr none
    rwa [same] at placed
  exact ⟨placed, unchanged, kept, fun free => kept (free_keeps size brackets free)⟩

/-- A paragraph with a bracket in a code span, and with a link. -/
private def quotedBracket : Text := "`[a]` and [b](c)".toList

theorem quoted_bracket_is_kept :
    (Document.ofMarkdown quotedBracket).blocks = [.paragraph quotedBracket] ∧
      CodeSpan "`[a]`".toList ∧
      (∀ gone ∈ lostIn [] "`[a]`".toList " and [b](c)".toList, gone = false) ∧
      "`[a]`".toList <:+: render quotedBracket := by
  have parsed : (Document.ofMarkdown quotedBracket).blocks = [.paragraph quotedBracket] := by
    decide +kernel
  have code : CodeSpan "`[a]`".toList := @code_of_free "[a]".toList (by decide) (by decide)
  have none : ∀ gone ∈ lostIn [] "`[a]`".toList " and [b](c)".toList, gone = false := by
    decide +kernel
  have member : Block.paragraph quotedBracket ∈ (Document.ofMarkdown quotedBracket).blocks := by
    rw [parsed]
    exact List.mem_cons_self
  exact ⟨parsed, code, none, (code_spans_lose_brackets member rfl code).2.2.1 none⟩

/-- A paragraph that is a code span with what would be a link outside of it. -/
private def quotedLink : Text := "`[a](b)`".toList

/-- The code span loses the brackets. -/
theorem quoted_link_is_rewritten :
    (Document.ofMarkdown quotedLink).blocks = [.paragraph quotedLink] ∧ CodeSpan quotedLink ∧
      render quotedLink = "`a (b)`".toList ∧ ¬ quotedLink <:+: render quotedLink := by
  have code : CodeSpan quotedLink := @code_of_free "[a](b)".toList (by decide) (by decide)
  exact ⟨by decide +kernel, code, by decide +kernel, by decide +kernel⟩

end PluginReadme.CodeSpans
