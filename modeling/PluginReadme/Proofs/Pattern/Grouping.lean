import PluginReadme.Proofs.Pattern.Tokens

/-! A pattern within another one. It is read there as it is read by itself: as one of the
alternatives around it, or as the inside of a group. -/
namespace PluginReadme.Grouping
open Pattern Splitting

variable {flags : Flags} {state next : ParseState} {token : Token}
  {tokens before after : List Token} {captured : Bool} {older : List Part}
  {below : List Pattern.Level} {parsed first second : Parsed} {label front back : Text}
  {taken : List Text}

/-- A state in which nothing has been read. -/
def start (flags : Flags) : ParseState := ⟨flags, [], [], ⟨flags, false, [], []⟩⟩

/-! ## What a token does -/

/-- What a state becomes by a token that changes no flags. Most tokens only add to the parts of the
current alternative, or change the last of them, whatever stands around it. -/
inductive Moves (state : ParseState) : Token → ParseState → Prop
  | grows {token parts} (alike : ∀ other : ParseState, other.flags = state.flags →
      other.level.parts = state.level.parts →
        other.step token = some { other with level := { other.level with parts } }) :
      Moves state token { state with level := { state.level with parts } }
  | bar : Moves state .bar { state with
      level := { state.level with
        branches := inRow state.level.parts :: state.level.branches
        parts := [] } }
  | opens (captured : Bool) : Moves state (.openGroup captured none [])
      ⟨state.flags, state.names, state.level :: state.outer, ⟨state.flags, captured, [], []⟩⟩
  | closes {level outer} (around : state.outer = level :: outer) : Moves state .close
      { state with
        flags := state.level.outer
        outer
        level := level.add ⟨if state.level.captured then .group state.level.whole.pattern
          else state.level.whole.pattern, state.level.whole.depth + 1, false⟩ }

theorem moves_of_step (unflagged : Unflagged token) (step : state.step token = some next) :
    Moves state token next := by
  cases token with
  | literal char =>
    obtain ⟨set, known, rfl⟩ := Option.map_eq_some_iff.mp step
    refine .grows fun other flags parts => ?_
    simp only [ParseState.step, flags, known, Option.map_some, Level.add, parts]
  | dot =>
    cases unicode : state.flags.unicode with
    | false => simp [ParseState.step, unicode] at step
    | true =>
      simp only [ParseState.step, unicode, ↓reduceIte, Option.some.injEq] at step
      subst step
      refine .grows fun other flags parts => ?_
      simp only [ParseState.step, flags, unicode, ↓reduceIte, Level.add, parts]
  | anchor anchor =>
    cases step
    refine .grows fun other flags parts => ?_
    simp only [ParseState.step, flags, Level.add, parts]
  | charClass item =>
    obtain ⟨set, known, rfl⟩ := Option.map_eq_some_iff.mp step
    refine .grows fun other flags parts => ?_
    simp only [ParseState.step, flags, known, Option.map_some, Level.add, parts]
  | setFlags change => exact unflagged.elim
  | repetition least most greedy =>
    simp only [ParseState.step] at step
    split at step
    · cases step
    · rename_i part rest ahead
      split at step
      · cases step
      · rename_i change
        cases step
        refine .grows fun other flags parts => ?_
        simp only [ParseState.step, flags, parts, ahead, change]
        rfl
  | bar =>
    cases step
    exact .bar
  | openGroup captured name change =>
    obtain ⟨rfl, rfl⟩ := unflagged
    cases step
    exact .opens captured
  | close =>
    obtain ⟨flags, names, outer, level⟩ := state
    cases outer with
    | nil => cases step
    | cons around outer =>
      cases step
      exact .closes rfl

/-! ## Reading on top of something else -/

/-- A group with older alternatives than its own. -/
def onto (captured : Bool) (older : List Part) (level : Pattern.Level) : Pattern.Level :=
  { level with captured, branches := level.branches ++ older }

/-- The groups around a place, of which the outermost one has older alternatives, with more groups
around it. -/
def under (captured : Bool) (older : List Part) (below : List Pattern.Level) :
    Pattern.Level → List Pattern.Level → Pattern.Level × List Pattern.Level
  | level, [] => (onto captured older level, below)
  | level, next :: outer =>
    let inner := under captured older below next outer
    (level, inner.1 :: inner.2)

/-- A state that is reached on top of something that has been read before. -/
def within (captured : Bool) (older : List Part) (below : List Pattern.Level) (state : ParseState) :
    ParseState :=
  let levels := under captured older below state.level state.outer
  { state with level := levels.1, outer := levels.2 }

private theorem parts_within :
    (within captured older below state).level.parts = state.level.parts := by
  obtain ⟨flags, names, - | ⟨around, outer⟩, level⟩ := state <;> rfl

private theorem within_parts (parts : List Part) :
    { within captured older below state with
      level := { (within captured older below state).level with parts } } =
      within captured older below { state with level := { state.level with parts } } := by
  obtain ⟨flags, names, - | ⟨around, outer⟩, level⟩ := state <;> rfl

/-- One token makes the same of a state wherever it is reached. -/
theorem step_within (unflagged : Unflagged token) (step : state.step token = some next) :
    (within captured older below state).step token = some (within captured older below next) := by
  cases moves_of_step unflagged step with
  | grows alike =>
    exact (alike (within captured older below state) rfl parts_within).trans
      (congrArg some (within_parts _))
  | bar => obtain ⟨flags, names, - | ⟨around, outer⟩, level⟩ := state <;> rfl
  | opens captured => obtain ⟨flags, names, - | ⟨around, outer⟩, level⟩ := state <;> rfl
  | closes around =>
    obtain ⟨flags, names, outer, level⟩ := state
    obtain rfl := around
    rename_i outer
    cases outer <;> rfl

/-- So does a whole pattern. -/
theorem run_within (captured : Bool) (older : List Part) (below : List Pattern.Level)
    (unflagged : ∀ token ∈ tokens, Unflagged token)
    (run : tokens.foldlM ParseState.step state = some next) :
    tokens.foldlM ParseState.step (within captured older below state) =
      some (within captured older below next) := by
  induction tokens generalizing state with
  | nil =>
    cases run
    rfl
  | cons token tokens ih =>
    obtain ⟨here, later⟩ := List.forall_mem_cons.mp unflagged
    rw [List.foldlM_cons] at run ⊢
    obtain ⟨middle, step, run⟩ := Option.bind_eq_some_iff.mp run
    rw [step_within here step]
    exact ih later run

/-! ## Flags that stay -/

/-- A state in which flags are what they were at the start, and no group has a name. -/
structure Steady (flags : Flags) (state : ParseState) : Prop where
  inForce : state.flags = flags
  unnamed : state.names = []
  around : state.level.outer = flags
  further : ∀ level ∈ state.outer, level.outer = flags

theorem Steady.start (flags : Flags) : Steady flags (start flags) :=
  ⟨rfl, rfl, rfl, fun _ member => nomatch member⟩

theorem Steady.step (steady : Steady flags state) (unflagged : Unflagged token)
    (step : state.step token = some next) : Steady flags next := by
  cases moves_of_step unflagged step with
  | grows alike => exact ⟨steady.inForce, steady.unnamed, steady.around, steady.further⟩
  | bar => exact ⟨steady.inForce, steady.unnamed, steady.around, steady.further⟩
  | opens captured =>
    exact ⟨steady.inForce, steady.unnamed, steady.inForce,
      List.forall_mem_cons.mpr ⟨steady.around, steady.further⟩⟩
  | closes around =>
    obtain ⟨outer, further⟩ := List.forall_mem_cons.mp (around ▸ steady.further)
    exact ⟨steady.around, steady.unnamed, outer, further⟩

theorem Steady.run (steady : Steady flags state) (unflagged : ∀ token ∈ tokens, Unflagged token)
    (run : tokens.foldlM ParseState.step state = some next) : Steady flags next := by
  induction tokens generalizing state with
  | nil =>
    cases run
    exact steady
  | cons token tokens ih =>
    obtain ⟨here, later⟩ := List.forall_mem_cons.mp unflagged
    rw [List.foldlM_cons] at run
    obtain ⟨middle, step, run⟩ := Option.bind_eq_some_iff.mp run
    exact ih (steady.step here step) later run

/-! ## Patterns that are read by themselves -/

/-- What is read of a label that changes no flags. -/
def Parses (flags : Flags) (label : Text) (parsed : Parsed) : Prop :=
  ∃ tokens, Splits label tokens ∧ (∀ token ∈ tokens, Unflagged token) ∧
    parseTokens flags tokens = some parsed

theorem parseTokens_iff (unflagged : ∀ token ∈ tokens, Unflagged token) :
    parseTokens flags tokens = some parsed ↔ ∃ level : Pattern.Level, level.outer = flags ∧
      tokens.foldlM ParseState.step (start flags) = some ⟨flags, [], [], level⟩ ∧
      parsed = ⟨level.whole.pattern, [], level.whole.depth⟩ := by
  unfold parseTokens
  rw [Option.bind_eq_bind, Option.bind_eq_some_iff]
  constructor
  · rintro ⟨⟨inForce, names, outer, level⟩, run, read⟩
    obtain ⟨rfl, rfl, around, -⟩ := (Steady.start flags).run unflagged run
    cases outer with
    | nil =>
      cases read
      exact ⟨level, around, run, rfl⟩
    | cons next outer => cases read
  · rintro ⟨level, -, run, rfl⟩
    exact ⟨_, run, rfl⟩

/-- The alternatives of a group as one pattern: in front of the last one stand older ones, of which
the newest comes first in the list. -/
def alternatives (older : List Part) (last : Pattern) : Pattern :=
  older.foldl (fun rest part => .either part.pattern rest) last

theorem whole_pattern (level : Pattern.Level) :
    level.whole.pattern = alternatives level.branches (inRow level.parts).pattern := by
  have all (older : List Part) (branch : Part) : (older.foldl (fun (rest : Part) part =>
      ⟨.either part.pattern rest.pattern, max rest.depth part.depth, false⟩) branch).pattern =
      alternatives older branch.pattern := by
    induction older generalizing branch with
    | nil => rfl
    | cons part older ih => exact ih _
  obtain ⟨outer, captured, - | ⟨part, older⟩, parts⟩ := level
  · rfl
  · exact all (part :: older) (inRow parts)

/-- That a group is captured makes no difference to what is in it. -/
private theorem whole_onto (captured : Bool) (level : Pattern.Level) :
    (onto captured [] level).whole = level.whole := by
  rw [onto, List.append_nil]
  rfl

/-- Two patterns with a bar between them: the last alternative of the first one is followed by the
second one. -/
theorem Parses.either (left : Parses flags front first) (right : Parses flags back second) :
    ∃ older last parsed, first.pattern = alternatives older last ∧
      Parses flags (front ++ '|' :: back) parsed ∧
      parsed.pattern = alternatives older (.either last second.pattern) := by
  obtain ⟨before, split, plain, read⟩ := left
  obtain ⟨after, split', plain', read'⟩ := right
  obtain ⟨level, around, run, rfl⟩ := (parseTokens_iff plain).mp read
  obtain ⟨level', around', run', rfl⟩ := (parseTokens_iff plain').mp read'
  have parted : Splits ('|' :: back) (.bar :: after) := .cons rfl split'
  have unflagged : ∀ token ∈ before ++ .bar :: after, Unflagged token :=
    List.forall_mem_append.mpr ⟨plain, List.forall_mem_cons.mpr ⟨trivial, plain'⟩⟩
  let all := onto level.captured (inRow level.parts :: level.branches) level'
  have both : (before ++ .bar :: after).foldlM ParseState.step (start flags) =
      some ⟨flags, [], [], all⟩ := by
    have onward := run_within level.captured (inRow level.parts :: level.branches) [] plain' run'
    rw [List.foldlM_append, run]
    subst around
    exact onward
  refine ⟨level.branches, (inRow level.parts).pattern, ⟨all.whole.pattern, [], all.whole.depth⟩,
    whole_pattern level, ⟨_, split.append (.bar back) parted, unflagged, ?_⟩, ?_⟩
  · exact (parseTokens_iff unflagged).mpr ⟨all, around', both, rfl⟩
  · rw [whole_pattern, whole_pattern]
    exact List.foldl_append ..

/-- A pattern does not start with a mark that makes what is in front of it repeat. -/
private theorem Parses.head (parses : Parses flags label parsed) : label.head? ≠ some '?' := by
  intro ahead
  obtain ⟨rest, rfl⟩ := List.head?_eq_some_iff.mp ahead
  obtain ⟨tokens, split, -, read⟩ := parses
  cases split with
  | cons first onward =>
    cases first
    cases read

/-- A pattern in parentheses. -/
theorem Parses.group (inner : Parses flags label parsed) :
    Parses flags ('(' :: label ++ [')']) ⟨.group parsed.pattern, [], parsed.depth + 1⟩ := by
  have plainHead := inner.head
  obtain ⟨tokens, split, plain, read⟩ := inner
  obtain ⟨level, around, run, rfl⟩ := (parseTokens_iff plain).mp read
  have parted : Splits ('(' :: label ++ [')']) (.openGroup true none [] :: (tokens ++ [.close])) :=
    .cons (opened_captured ((Breaks.close []).ahead (by decide) plainHead)) split.closed
  have unflagged : ∀ token ∈ Token.openGroup true none [] :: (tokens ++ [.close]),
      Unflagged token :=
    List.forall_mem_cons.mpr ⟨⟨rfl, rfl⟩, unflagged_closed plain⟩
  refine ⟨_, parted, unflagged, (parseTokens_iff unflagged).mpr ?_⟩
  let part : Part := ⟨.group level.whole.pattern, level.whole.depth + 1, false⟩
  refine ⟨⟨flags, false, [], [part]⟩, rfl, ?_, rfl⟩
  have opens : (start flags).step (.openGroup true none []) =
      some (within true [] [(start flags).level] (start flags)) := rfl
  have inside := run_within true [] [(start flags).level] plain run
  have closes : (within true [] [(start flags).level] ⟨flags, [], [], level⟩).step .close =
      some ⟨flags, [], [], ⟨flags, false, [], [part]⟩⟩ := by
    simp only [part, ← whole_onto true level]
    subst around
    rfl
  rw [List.foldlM_cons, opens, Option.bind_eq_bind, Option.bind_some, List.foldlM_append, inside,
    Option.bind_eq_bind, Option.bind_some, List.foldlM_cons, closes]
  rfl

/-! ## Labels -/

/-- A label without inline flags and without named groups. -/
def FlagFree (label : Text) : Prop :=
  ∀ tokens ∈ Pattern.tokens label, ∀ token ∈ tokens, Unflagged token

/-- What is read of a label, if anything, is not too deep or too large to be used in front of a
version. -/
def Fits (flags : Flags) (label : Text) : Prop :=
  ∀ parsed ∈ (Pattern.tokens label).bind (parseTokens flags),
    parsed.depth + Label.depthAround ≤ Label.depthLimit ∧
      parsed.pattern.fits Label.roomAround = true

instance (label : Text) : Decidable (FlagFree label) :=
  inferInstanceAs (Decidable (∀ tokens ∈ Pattern.tokens label, ∀ token ∈ tokens, Unflagged token))

instance (flags : Flags) (label : Text) : Decidable (Fits flags label) :=
  inferInstanceAs (Decidable (∀ parsed ∈ (Pattern.tokens label).bind (parseTokens flags),
    parsed.depth + Label.depthAround ≤ Label.depthLimit ∧
      parsed.pattern.fits Label.roomAround = true))

/-- A label that is used as a pattern is one by itself. -/
theorem parses_of_valid (valid : (Label.read flags taken label).isLiteral = false)
    (flagFree : FlagFree label) : ∃ parsed, Parses flags label parsed ∧
      (Label.read flags taken label).pattern = parsed.pattern := by
  unfold Label.read at valid ⊢
  split at valid
  · rename_i pattern read
    unfold Label.pattern? at read
    obtain ⟨tokens, split, read⟩ := Option.bind_eq_some_iff.mp read
    obtain ⟨parsed, parse, read⟩ := Option.bind_eq_some_iff.mp read
    obtain ⟨enclosed, -, read⟩ := Option.bind_eq_some_iff.mp read
    have plain := flagFree tokens split
    refine ⟨parsed, ⟨tokens, (tokens_iff plain).mp split, plain, parse⟩, ?_⟩
    dsimp only at read
    split at read
    · exact (Option.some.inj read).symm
    · cases read
  · cases valid

/-- A pattern that fits is used wherever it stands. -/
theorem Parses.read (parses : Parses flags label parsed) (fits : Fits flags label)
    (taken : List Text) : Label.read flags taken label = ⟨parsed.pattern, false⟩ := by
  obtain ⟨tokens, split, plain, parse⟩ := parses
  have here : Pattern.tokens label = some tokens := (tokens_iff plain).mpr split
  have enclosed : Pattern.tokens (label ++ [')']) = some (tokens ++ [.close]) :=
    (tokens_iff (unflagged_closed plain)).mpr split.closed
  obtain ⟨shallow, small⟩ := fits parsed (by rw [here]; exact parse)
  have unnamed : parsed.names = [] := by
    obtain ⟨level, -, -, rfl⟩ := (parseTokens_iff plain).mp parse
    rfl
  have used : Label.pattern? flags taken label = some parsed.pattern := by
    simp [Label.pattern?, here, parse, enclosed, unnamed, shallow, small]
  unfold Label.read
  rw [used]

end PluginReadme.Grouping
