import PluginReadme.Proofs.Pattern.Classes

/-! The tokens of patterns that change no flags. Those of an alternative are the same wherever it
stands, and so are those of a group: a pattern is split in the same way with more behind it. -/
namespace PluginReadme.Splitting
open Pattern

variable {input front more : Text} {tokens before after : List Token} {spaces : List Bool}
  {fuel : Nat} {first : Token}

/-- A token that changes no flags and gives no name to a group. -/
def Unflagged : Token → Prop
  | .openGroup _ name change => name = none ∧ change = []
  | .setFlags _ => False
  | _ => True

instance : DecidablePred Unflagged
  | .openGroup _ name change => inferInstanceAs (Decidable (name = none ∧ change = []))
  | .setFlags _ => inferInstanceAs (Decidable False)
  | .literal _ | .dot | .anchor _ | .charClass _ | .close | .bar | .repetition .. =>
    inferInstanceAs (Decidable True)

/-- The tokens that a pattern is split into, where blanks stand for themselves. -/
inductive Splits : Text → List Token → Prop
  | nil : Splits [] []
  | cons {c rest first behind tokens} (read : token false c rest = some (first, behind))
      (onward : Splits behind tokens) : Splits (c :: rest) (first :: tokens)

/-- A pattern that is complete is split in the same way if it goes on. -/
theorem Splits.append (split : Splits front before) (breaks : Breaks more)
    (onward : Splits more after) : Splits (front ++ more) (before ++ after) := by
  induction split with
  | nil => exact onward
  | cons read _ ih => exact .cons ((token_local _ _ _ _ read).2 more breaks) ih

theorem Splits.closed (split : Splits front before) :
    Splits (front ++ [')']) (before ++ [.close]) :=
  split.append (.close []) (.cons rfl .nil)

theorem unflagged_closed (unflagged : ∀ token ∈ tokens, Unflagged token) :
    ∀ token ∈ tokens ++ [.close], Unflagged token :=
  List.forall_mem_append.mpr ⟨unflagged, List.forall_mem_singleton.mpr trivial⟩

/-- No blank is ignored in any of the groups around a place. -/
def Calm (spaces : List Bool) : Prop := ∀ spaced ∈ spaces, spaced = false

theorem Calm.head (calm : Calm spaces) : spaces.headD false = false := by
  cases spaces with
  | nil => rfl
  | cons spaced spaces => exact calm spaced List.mem_cons_self

theorem Calm.onward (calm : Calm spaces) (unflagged : Unflagged first) :
    Calm (first.spaces spaces) := by
  cases first with
  | openGroup captured name change =>
    obtain ⟨-, rfl⟩ := unflagged
    refine List.forall_mem_cons.mpr ⟨?_, calm⟩
    rw [calm.head]
    rfl
  | setFlags change => exact unflagged.elim
  | close => exact fun spaced member => calm spaced (List.mem_of_mem_tail member)
  | _ => exact calm

private theorem tokensFrom_cons (calm : Calm spaces) (c : Char) (rest : Text) :
    tokensFrom spaces (fuel + 1) (c :: rest) = (token false c rest).bind fun found =>
      (tokensFrom (found.1.spaces spaces) fuel found.2).map (found.1 :: ·) := by
  rw [tokensFrom, calm.head]
  simp only [skip, Bool.false_eq_true, ↓reduceIte, Option.map_eq_bind]
  rfl

theorem tokensFrom_iff (calm : Calm spaces) (enough : input.length ≤ fuel)
    (unflagged : ∀ token ∈ tokens, Unflagged token) :
    tokensFrom spaces fuel input = some tokens ↔ Splits input tokens := by
  induction fuel generalizing spaces input tokens with
  | zero =>
    obtain rfl := List.length_eq_zero_iff.mp (Nat.le_zero.mp enough)
    constructor
    · intro read
      cases read
      exact .nil
    · rintro ⟨⟩
      rfl
  | succ fuel ih =>
    cases input with
    | nil =>
      have none : tokensFrom spaces (fuel + 1) [] = some [] := by
        rw [tokensFrom, calm.head]
        rfl
      rw [none]
      constructor
      · intro read
        cases read
        exact .nil
      · rintro ⟨⟩
        rfl
    | cons c rest =>
      rw [tokensFrom_cons calm]
      have shorter {first behind} (read : token false c rest = some (first, behind)) :
          behind.length ≤ fuel :=
        Nat.le_trans (token_local _ _ _ _ read).1.length_le (Nat.le_of_succ_le_succ enough)
      constructor
      · intro read
        obtain ⟨⟨first, behind⟩, head, read⟩ := Option.bind_eq_some_iff.mp read
        obtain ⟨onward, tail, rfl⟩ := Option.map_eq_some_iff.mp read
        obtain ⟨here, later⟩ := List.forall_mem_cons.mp unflagged
        exact .cons head ((ih (calm.onward here) (shorter head) later).mp tail)
      · rintro (- | ⟨head, onward⟩)
        obtain ⟨here, later⟩ := List.forall_mem_cons.mp unflagged
        rw [head, Option.bind_some, (ih (calm.onward here) (shorter head) later).mpr onward]
        rfl

theorem tokens_iff (unflagged : ∀ token ∈ tokens, Unflagged token) :
    Pattern.tokens input = some tokens ↔ Splits input tokens :=
  tokensFrom_iff (fun _ member => nomatch member) (Nat.le_refl _) unflagged

end PluginReadme.Splitting
