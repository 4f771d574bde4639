import PluginReadme.Pattern.Label
import PluginReadme.Pattern.Search

/-! Labels that stand for their own text. A label without an operator is read as one character
after the other, so it makes no difference whether it is taken as a pattern or literally. -/
namespace PluginReadme.Plain
open Pattern

variable {label text : Text} {cursor stop : Cursor} {flags : Flags}

/-- The characters that stand for something else in a pattern, outside of classes and unless
blanks are ignored. -/
def isOperator (c : Char) : Bool := "\\.+*?()|[\x7b^$".toList.contains c

/-- A label stands for its own text. -/
def IsPlain (label : Text) : Prop := ∀ c ∈ label, isOperator c = false

instance (label : Text) : Decidable (IsPlain label) :=
  decidable_of_iff (label.all fun c => !isOperator c) (by simp [IsPlain])

/-! ## Reading a plain label -/

theorem token_plain (plain : isOperator c = false) (rest : Text) :
    token false c rest = some (.literal ⟨c, false⟩, rest) := by
  unfold token
  split <;> first | rfl | exact absurd plain (by decide)

private theorem tokensFrom_plain (plain : IsPlain label) :
    tokensFrom [] label.length label = some (label.map fun c => .literal ⟨c, false⟩) := by
  induction label with
  | nil => rfl
  | cons c rest ih =>
    obtain ⟨head, tail⟩ := List.forall_mem_cons.mp plain
    simp [tokensFrom, skip, token_plain head, Token.spaces, ih tail]

theorem tokens_plain (plain : IsPlain label) :
    tokens label = some (label.map fun c => .literal ⟨c, false⟩) :=
  tokensFrom_plain plain

/-- The part that a character stands for. -/
private def part (c : Char) : Part := ⟨.set (.single c.toNat), 0, false⟩

private theorem step_plain (unicode : flags.unicode = true) (caseful : flags.ignoreCase = false)
    (names : List Text) (outer : List Pattern.Level) (level : Pattern.Level) (c : Char) :
    ParseState.step ⟨flags, names, outer, level⟩ (.literal ⟨c, false⟩) =
      some ⟨flags, names, outer, level.add (part c)⟩ := by
  simp [ParseState.step, Literal.resolve, fold, unicode, caseful, part]

private theorem steps_plain (unicode : flags.unicode = true) (caseful : flags.ignoreCase = false)
    (names : List Text) (outer : List Pattern.Level) (label : Text) (level : Pattern.Level) :
    (label.map fun c => Token.literal ⟨c, false⟩).foldlM ParseState.step
        ⟨flags, names, outer, level⟩ =
      some ⟨flags, names, outer,
        { level with parts := (label.map part).reverse ++ level.parts }⟩ := by
  induction label generalizing level with
  | nil => rfl
  | cons c rest ih =>
    rw [List.map_cons, List.foldlM_cons, step_plain unicode caseful]
    simp [ih, Pattern.Level.add]

private theorem literal_concat (front : Text) (last : Char) :
    literal (front ++ [last]) =
      front.foldr (fun c rest => concat (.set (.single c.toNat)) rest)
        (.set (.single last.toNat)) := by
  induction front with
  | nil => rfl
  | cons c rest ih =>
    have unfolded : literal (c :: (rest ++ [last])) =
        concat (.set (.single c.toNat)) (literal (rest ++ [last])) := by
      cases rest <;> rfl
    rw [List.cons_append, unfolded, ih, List.foldr_cons]

private theorem row_pattern (front : Text) (row : Part) :
    ((front.map part).foldr
        (fun part row => ⟨.concat part.pattern row.pattern, max row.depth part.depth, false⟩)
        row).pattern =
      front.foldr (fun c rest => concat (.set (.single c.toNat)) rest) row.pattern := by
  induction front with
  | nil => rfl
  | cons c rest ih =>
    simp only [List.map_cons, List.foldr_cons, ih]
    rfl

/-- Characters in a row make up the pattern for their own text. -/
private theorem inRow_plain (label : Text) :
    (inRow (label.map part).reverse).pattern = literal label := by
  rcases List.eq_nil_or_concat label with rfl | ⟨front, last, rfl⟩
  · rfl
  · rw [List.concat_eq_append, List.map_append, List.map_singleton, List.reverse_append,
      List.reverse_singleton, List.singleton_append, literal_concat]
    cases front with
    | nil => rfl
    | cons c rest =>
      rw [inRow]
      · rw [List.foldl_reverse]
        exact row_pattern (c :: rest) (part last)
      · simp

theorem parseTokens_plain (unicode : flags.unicode = true) (caseful : flags.ignoreCase = false)
    (label : Text) : ∃ parsed,
      parseTokens flags (label.map fun c => .literal ⟨c, false⟩) = some parsed ∧
        parsed.pattern = literal label := by
  have whole := inRow_plain label
  simp [parseTokens, steps_plain unicode caseful, Pattern.Level.whole, whole]

theorem read_plain (unicode : flags.unicode = true) (caseful : flags.ignoreCase = false)
    (taken : List Text) (plain : IsPlain label) :
    (Label.read flags taken label).pattern = literal label := by
  unfold Label.read
  split
  · rename_i pattern found
    obtain ⟨parsed, read, same⟩ := parseTokens_plain unicode caseful label
    simp only [Label.pattern?, tokens_plain plain, read, Option.bind_eq_bind, Option.bind_some,
      Option.bind_eq_some_iff] at found
    obtain ⟨enclosed, -, found⟩ := found
    split at found
    · cases found
      exact same
    · cases found
  · rfl

/-- A label that is no valid pattern stands for its own text, too. -/
theorem read_literal (taken : List Text) (isLiteral : (Label.read flags taken label).isLiteral) :
    (Label.read flags taken label).pattern = literal label := by
  unfold Label.read at isLiteral ⊢
  split at isLiteral
  · cases isLiteral
  · rfl

/-- A label without operators stands for its own text, and so does one that is no valid pattern. -/
theorem read_own (unicode : flags.unicode = true) (caseful : flags.ignoreCase = false)
    (taken : List Text)
    (own : IsPlain label ∨ (Label.read flags taken label).isLiteral = true) :
    (Label.read flags taken label).pattern = literal label := by
  rcases own with plain | isLiteral
  · exact read_plain unicode caseful taken plain
  · exact read_literal taken isLiteral

/-! ## Room for a text -/

private theorem single_size (backwards : Bool) (c : Char) :
    (Pattern.set (.single c.toNat)).size backwards = stateSize * c.utf8Size := by
  simp [Pattern.size, setSize, Unicode.CodeSet.single, Unicode.CodeSet.range, Char.ofNat_toNat]

theorem literal_size (backwards : Bool) (c : Char) (text : Text) :
    (literal (c :: text)).size backwards =
      stateSize * (c :: text).foldr (fun c bytes => c.utf8Size + bytes) 0 := by
  induction text generalizing c with
  | nil => simp [literal, single_size]
  | cons d text ih =>
    have parted : (literal (c :: d :: text)).size backwards =
        (Pattern.set (.single c.toNat)).size backwards + (literal (d :: text)).size backwards := rfl
    rw [parted, single_size, ih, ← Nat.mul_add]
    rfl

/-- A text has room as a label if it is not longer than the longest one. -/
theorem literal_fits (text : Text) : (literal text).fits Label.roomAround = true ↔
    text.foldr (fun c bytes => c.utf8Size + bytes) 0 ≤ Label.longest := by
  cases text with
  | nil => decide
  | cons c text =>
    simp only [fits, literal_size, stateSize, room, Label.roomAround, Label.longest,
      Bool.and_eq_true, decide_eq_true_iff]
    omega

/-! ## Matching a text -/

/-- The place behind a text, if it stands at a place. -/
def past (cursor : Cursor) : Text → Option Cursor
  | [] => some cursor
  | c :: text =>
    match cursor.rest with
    | [] => none
    | d :: rest => if d = c then past ⟨cursor.position + 1, some d, rest⟩ text else none

theorem past_ok (found : past cursor text = some stop) :
    cursor.rest = text ++ stop.rest ∧ stop.position = cursor.position + text.length := by
  induction text generalizing cursor with
  | nil =>
    cases found
    exact ⟨rfl, rfl⟩
  | cons c text ih =>
    unfold past at found
    split at found
    · cases found
    · rename_i d rest ahead
      split at found
      · rename_i same
        subst same
        obtain ⟨split, position⟩ := ih found
        exact ⟨by rw [ahead, List.cons_append, ← split],
          by rw [position, List.length_cons]; exact Nat.add_right_comm ..⟩
      · cases found

theorem past_append (standing : cursor.rest = text ++ rest) :
    ∃ stop, past cursor text = some stop ∧ stop.rest = rest ∧
      stop.position = cursor.position + text.length := by
  induction text generalizing cursor with
  | nil => exact ⟨cursor, rfl, standing, rfl⟩
  | cons c text ih =>
    obtain ⟨stop, found, behind, position⟩ :=
      @ih ⟨cursor.position + 1, some c, text ++ rest⟩ rfl
    refine ⟨stop, ?_, behind, by rw [position, List.length_cons]; exact Nat.add_right_comm ..⟩
    simp [past, standing, found]

/-- Two texts in a row are passed one after the other. -/
theorem past_join (cursor : Cursor) (front back : Text) :
    past cursor (front ++ back) = (past cursor front).bind fun middle => past middle back := by
  induction front generalizing cursor with
  | nil => rfl
  | cons c front ih =>
    simp only [List.cons_append, past]
    cases cursor.rest with
    | nil => rfl
    | cons d rest =>
      by_cases same : d = c
      · simp [same, ih]
      · simp [same]

private theorem single_contains (c d : Char) :
    (Unicode.CodeSet.single c.toNat).contains d = decide (d = c) := by
  have same : d.toNat = c.toNat ↔ d = c := Char.toNat_inj
  simp only [Unicode.CodeSet.single, Unicode.CodeSet.range, Unicode.CodeSet.contains,
    Unicode.CodeSet.containsCode, List.any_cons, List.any_nil, Bool.or_false]
  rw [Bool.eq_iff_iff]
  simp only [Bool.and_eq_true, decide_eq_true_eq, ← same]
  omega

private theorem set_walk (c : Char) (way : List Nat) (onward : Course) (search : Search)
    (cursor : Cursor) : (Machine.set (.single c.toNat)).walk way onward search cursor =
      (past cursor [c]).elim search (onward search) := by
  unfold Machine.walk past
  cases cursor.rest with
  | nil => rfl
  | cons d rest =>
    by_cases same : d = c
    · simp [single_contains, same, past]
    · simp [single_contains, same]

/-- A search goes on from where a text ends, if the text stands at a place. -/
theorem literal_walk (text : Text) (way : List Nat) (onward : Course) (search : Search)
    (cursor : Cursor) : (literal text).machine.walk way onward search cursor =
      (past cursor text).elim search (onward search) := by
  induction text generalizing way cursor with
  | nil => rfl
  | cons c text ih =>
    cases text with
    | nil => exact set_walk c way onward search cursor
    | cons d text =>
      have parted : past cursor (c :: d :: text) =
          (past cursor [c]).bind fun next => past next (d :: text) :=
        past_join cursor [c] (d :: text)
      have first := set_walk c (0 :: way) ((literal (d :: text)).machine.walk (1 :: way) onward)
        search cursor
      rw [parted]
      refine Eq.trans first ?_
      cases past cursor [c] with
      | none => rfl
      | some next => exact ih (1 :: way) next

/-- A text is matched by itself and ends where it ends. -/
theorem literal_ends (text : Text) (cursor : Cursor) :
    (literal text).ends cursor = (past cursor text).toList := by
  rw [ends, literal_walk]
  cases past cursor text with
  | none => rfl
  | some stop => simp [Search.arrive, Search.start, Cursor.distinct, Cursor.distinctFrom]

end PluginReadme.Plain
