import PluginReadme.Proofs.Version.Dialects

/-! The two declarations of a source file. The line of a comment block and the definition of a
constant never overlap: the one has a colon and no semicolon, the other a semicolon at its end and
no colon. So neither can come up, go or move when the other one is rewritten. -/
namespace PluginReadme.SourceRules
open Version (Declaration Rule)
open Numeral Rewriting Dialects

variable {version version' : Text} {found : Declaration}

/-- The text of a constant has no colon, and a semicolon is its last character. -/
private theorem constant_marks {body : Text}
    (read : Declaration.constant? (body ++ found.rest) = some found) :
    ':' ∉ body ∧ ∃ front, body = front ++ [';'] := by
  have colonBlank : Text.isBlank ':' = false := rfl
  have colonName : Declaration.isNameChar ':' = false := rfl
  have colonNumeral : isNumeral ':' = false := rfl
  obtain ⟨split, ⟨before, name, between, head, blank, ⟨-, run⟩, blanks⟩, number, gap, tail, gaps⟩ :=
    constant_iff.mp read
  obtain rfl := List.append_cancel_right split
  constructor
  · rw [head, tail]
    simp [not_mem_of_run blank colonBlank, not_mem_of_run run colonName,
      not_mem_of_run blanks colonBlank, not_mem_of_run number.run colonNumeral,
      not_mem_of_run gaps colonBlank]
  · exact ⟨found.head ++ found.version ++ '\'' :: gap ++ [')'], by simp [tail]⟩

/-- The text of the line of a comment block, up to the end of its number. -/
private theorem docblock_body {body : Text}
    (read : Declaration.docblock? (body ++ found.rest) = some found) :
    ∃ first pad version, body = "Version:".toList ++ first :: (pad ++ version) ∧
      Text.isBlank first = true ∧ Run Text.isBlank pad ∧ IsNumber version := by
  obtain ⟨gap, first, pad, version, rest, laid, rfl⟩ := (docblock_reads _ _).mp read
  obtain rfl := laid.tight rfl
  refine ⟨first, pad, version, ?_, laid.firstBlank, laid.padBlank, laid.number⟩
  have split := List.append_cancel_right laid.split
  simpa using split

private theorem docblock_without {mark : Char} {body : Text}
    (read : Declaration.docblock? (body ++ found.rest) = some found)
    (outside : mark ∉ "Version:".toList) (notBlank : Text.isBlank mark = false)
    (notNumeral : isNumeral mark = false) : mark ∉ body := by
  obtain ⟨first, pad, version, rfl, blank, run, number⟩ := docblock_body read
  have other : mark ≠ first := fun same => by simp [← same, notBlank] at blank
  simp only [List.mem_append, List.mem_cons, not_or]
  exact ⟨outside, other, not_mem_of_run run notBlank, not_mem_of_run number.run notNumeral⟩

/-- No definition starts in the line of a comment block, where there is no `d`. -/
theorem docblock_aside : Aside Declaration.docblock? Declaration.constant? := by
  rintro _ found rest read before after rfl filled
  apply Option.eq_none_iff_forall_ne_some.mpr
  intro other start
  obtain ⟨split, ⟨blanks, name, between, head, -⟩, -⟩ := constant_iff.mp start
  obtain ⟨c, after, rfl⟩ := List.exists_cons_of_ne_nil filled
  have letter : c = 'd' := by
    rw [head] at split
    exact (List.cons.inj split).1
  have absent := docblock_without read (by decide : 'd' ∉ _) rfl rfl
  exact absent (by simp [letter])

/-- No line of a comment block starts in a definition: it would have to go past the semicolon. -/
theorem constant_aside : Aside Declaration.constant? Declaration.docblock? := by
  rintro _ found rest read before after rfl filled
  apply Option.eq_none_iff_forall_ne_some.mpr
  intro other start
  obtain ⟨noColon, front, last⟩ := constant_marks read
  obtain ⟨body, split, local'⟩ := (docblock_reads.framed (by decide)).body _ other start
  have noSemicolon : ';' ∉ body := docblock_without (split ▸ start) (by decide) rfl rfl
  obtain ⟨first, pad, version, laid, -⟩ := docblock_body (split ▸ start)
  obtain ⟨inner, rfl⟩ : ∃ inner, after = inner ++ [';'] := by
    rcases List.eq_nil_or_concat after with rfl | ⟨inner, c, rfl⟩
    · exact absurd rfl filled
    · rw [List.concat_eq_append, ← List.append_assoc] at last
      exact ⟨inner, by simp [List.append_inj_right' last rfl]⟩
  rw [List.append_assoc, List.singleton_append] at split
  obtain ⟨more, rfl, -⟩ := front_of_mark split.symm noSemicolon
  exact noColon (by simp [laid])

/-- The two declarations of a source file are independent. -/
theorem docblock_constant :
    Independent Declaration.docblock? Declaration.constant? where
  framed := docblock_reads.framed (by decide)
  framed' := constant_framed
  steady := docblock_reads.steady
  steady' := constant_steady
  aside := docblock_aside
  aside' := constant_aside

/-- A source file comes out the same whether the line of its comment block is rewritten first or
the definition of its constant, whatever the two versions are. -/
theorem source_rules_commute (number : IsNumber version) (number' : IsNumber version')
    (content : Text) :
    Rule.constant.rewrite version' (Rule.docblock.rewrite version content) =
      Rule.docblock.rewrite version (Rule.constant.rewrite version' content) := by
  simp only [rewrite_eq constant_local, rewrite_eq docblock_local]
  exact (docblock_constant.comm number number' content).symm

/-- A line and a definition without anything in between, and a name that looks like a line. -/
theorem adjacent_rules_commute :
    IsNumber "2.0.0".toList ∧ IsNumber "10.20.30".toList ∧
      Rule.constant.rewrite "10.20.30".toList (Rule.docblock.rewrite "2.0.0".toList
          "Version:\n 1.0.0define('Version_VERSION', '1.0.0');".toList) =
        Rule.docblock.rewrite "2.0.0".toList (Rule.constant.rewrite "10.20.30".toList
          "Version:\n 1.0.0define('Version_VERSION', '1.0.0');".toList) := by
  have number : IsNumber "2.0.0".toList := by decide
  have number' : IsNumber "10.20.30".toList := by decide
  exact ⟨number, number', source_rules_commute number number' _⟩

end PluginReadme.SourceRules
