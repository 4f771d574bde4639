import PluginReadme.Json.Number
import PluginReadme.Json.String

/-!
Values of JSON: skipping a value of any kind, and saying what kind a value is that is not of the
type asked for.
-/

namespace PluginReadme.Json

/-- Blanks between the parts of a JSON text. -/
def isSpace (c : Char) : Bool := c == ' ' || c == '\n' || c == '\t' || c == '\r'

/-- Drops the blanks at the start. -/
def skipSpace (text : Text) : Text := text.dropWhile isSpace

/-- Reads the rest of a word letter by letter. -/
def skipWord : Text → Text → Except Failure Text
  | [], text => .ok text
  | _ :: _, [] => failHere (.unfinished .value) []
  | expected :: word, c :: rest =>
    if c == expected then skipWord word rest else failNext .wrongWord (c :: rest)

/-- What surrounds a value. -/
inductive Frame where
  | list
  | object
  deriving DecidableEq, Repr

namespace Frame

def unfinished : Frame → Cause
  | list => .unfinished .list
  | object => .unfinished .object

def closing : Frame → Char
  | list => ']'
  | object => '\x7d'

def noComma : Frame → Cause
  | list => .noCommaOrBracket
  | object => .noCommaOrBrace

end Frame

/-- Where the skipping of a value stands. -/
inductive Stage where
  /-- Before a value. -/
  | value
  /-- Before an entry of the innermost frame. -/
  | entry
  /-- After the opening of the innermost frame. -/
  | opened
  /-- After a value. -/
  | after
  deriving DecidableEq, Repr

/-- How many stages can follow at the same place. -/
private def Stage.rank : Stage → Nat
  | value => 0
  | entry => 1
  | opened => 2
  | after => 0

/-- What comes of a value that starts with a character: the stage and the frame that follow it, and
the text after it. -/
def skipStart (c : Char) (rest : Text) : Except Failure (Stage × Option Frame × Text) := do
  match c with
  | 'n' => return (.after, none, ← skipWord "ull".toList rest)
  | 't' => return (.after, none, ← skipWord "rue".toList rest)
  | 'f' => return (.after, none, ← skipWord "alse".toList rest)
  | '-' => return (.after, none, ← skipNumber rest)
  | '"' => return (.after, none, ← skipString rest)
  | '[' => return (.opened, some .list, rest)
  | '\x7b' => return (.opened, some .object, rest)
  | c =>
    if isDigit c then return (.after, none, ← skipNumber (c :: rest))
    else failNext .noValue (c :: rest)

/-- Skips the key of an entry and its colon. -/
def skipKey (text : Text) : Except Failure Text :=
  match skipSpace text with
  | [] => failHere (.unfinished .object) []
  | c :: rest =>
    if c == '"' then do
      let rest ← skipString rest
      match skipSpace rest with
      | [] => failHere (.unfinished .object) []
      | ':' :: rest => return rest
      | rest => failNext .noColon rest
    else failNext .keyNotString (c :: rest)

/-- Skipping blanks leaves no more than there was. -/
theorem length_skipSpace (text : Text) : (skipSpace text).length ≤ text.length :=
  (List.dropWhile_suffix isSpace).length_le

private theorem length_skipWord {word text rest : Text} (h : skipWord word text = .ok rest) :
    rest.length ≤ text.length := by
  fun_induction skipWord word text with
  | case1 => cases h; exact Nat.le_refl _
  | case2 => cases h
  | case3 expected word c text same ih =>
    have := ih h
    simp only [List.length_cons]
    omega
  | case4 => cases h

private theorem length_skipStart {c : Char} {rest after : Text} {stage : Stage}
    {frame : Option Frame} (h : skipStart c rest = .ok (stage, frame, after)) :
    after.length ≤ rest.length := by
  have afterWord {word : Text} (h : (do return (Stage.after, none, ← skipWord word rest)) =
      Except.ok (ε := Failure) (stage, frame, after)) : after.length ≤ rest.length := by
    cases read : skipWord word rest with
    | error => simp [read, bind, Except.bind] at h
    | ok found =>
      simp only [read, bind, Except.bind, pure, Except.pure, Except.ok.injEq, Prod.mk.injEq] at h
      obtain ⟨_, _, rfl⟩ := h
      exact length_skipWord read
  have afterNumber {text : Text} (h : (do return (Stage.after, none, ← skipNumber text)) =
      Except.ok (ε := Failure) (stage, frame, after)) : after.length < text.length := by
    cases read : skipNumber text with
    | error => simp [read, bind, Except.bind] at h
    | ok found =>
      simp only [read, bind, Except.bind, pure, Except.pure, Except.ok.injEq, Prod.mk.injEq] at h
      obtain ⟨_, _, rfl⟩ := h
      exact length_skipNumber read
  unfold skipStart at h
  split at h
  · exact afterWord h
  · exact afterWord h
  · exact afterWord h
  · exact Nat.le_of_lt (afterNumber h)
  · cases read : skipString rest with
    | error => simp [read, bind, Except.bind] at h
    | ok found =>
      simp only [read, bind, Except.bind, pure, Except.pure, Except.ok.injEq, Prod.mk.injEq] at h
      obtain ⟨_, _, rfl⟩ := h
      exact Nat.le_of_lt (length_skipString read)
  · cases h
    exact Nat.le_refl _
  · cases h
    exact Nat.le_refl _
  · split at h
    · exact Nat.le_of_lt_succ (afterNumber h)
    · cases h

private theorem length_skipKey {text rest : Text} (h : skipKey text = .ok rest) :
    rest.length < text.length := by
  unfold skipKey at h
  have spaces := length_skipSpace text
  split at h
  · cases h
  · rename_i c after start
    rw [start, List.length_cons] at spaces
    split at h
    · cases read : skipString after with
      | error => simp [read, bind, Except.bind] at h
      | ok found =>
        have := length_skipString read
        have more := length_skipSpace found
        simp only [read, bind, Except.bind] at h
        split at h
        · cases h
        · rename_i last start
          cases h
          rw [start, List.length_cons] at more
          omega
        · cases h
    · cases h

/-- Skips a value from a stage on, with the frames around it, innermost first. -/
def skipFrom (stage : Stage) (frames : List Frame) (text : Text) : Except Failure Text :=
  match stage, frames with
  | .value, frames =>
    match _start : skipSpace text with
    | [] => failHere (.unfinished .value) []
    | c :: rest =>
      match _taken : skipStart c rest with
      | .ok (stage, frame, rest) => skipFrom stage (frame.toList ++ frames) rest
      | .error failure => .error failure
  | .entry, .object :: frames =>
    match _taken : skipKey text with
    | .ok rest => skipFrom .value (.object :: frames) rest
    | .error failure => .error failure
  | .entry, frames => skipFrom .value frames text
  | _, [] => .ok text
  | stage, frame :: frames =>
    match _start : skipSpace text with
    | [] => failHere frame.unfinished []
    | c :: rest =>
      if c == frame.closing then skipFrom .after frames rest
      else if stage == .opened then skipFrom .entry (frame :: frames) (c :: rest)
      else if c == ',' then skipFrom .entry (frame :: frames) rest
      else failNext frame.noComma (c :: rest)
termination_by (text.length, stage.rank)
decreasing_by
  · have spaces := length_skipSpace text
    have := length_skipStart _taken
    rw [_start, List.length_cons] at spaces
    exact Prod.Lex.left _ _ (by omega)
  · exact Prod.Lex.left _ _ (length_skipKey _taken)
  · exact Prod.Lex.right _ (by decide)
  all_goals
    have spaces := length_skipSpace text
    rw [_start, List.length_cons] at spaces
  · exact Prod.Lex.left _ _ (by omega)
  · rcases Nat.lt_or_eq_of_le spaces with less | same
    · exact Prod.Lex.left _ _ less
    · rw [List.length_cons, same]
      exact Prod.Lex.right _ (by simp_all [Stage.rank])
  · exact Prod.Lex.left _ _ (by omega)

/-- Skips a value. -/
def skipValue (text : Text) : Except Failure Text := skipFrom .value [] text

private theorem length_skipFrom {stage : Stage} {frames : List Frame} {text rest : Text}
    (h : skipFrom stage frames text = .ok rest) : rest.length ≤ text.length := by
  fun_induction skipFrom stage frames text with
  | case1 => cases h
  | case2 text frames c after start stage frame next taken ih =>
    have := ih h
    have := length_skipStart taken
    have spaces := length_skipSpace text
    rw [start, List.length_cons] at spaces
    omega
  | case3 => cases h
  | case4 text frames next taken ih =>
    have := ih h
    have := length_skipKey taken
    omega
  | case5 => cases h
  | case6 text frames _ ih => exact ih h
  | case7 => cases h; exact Nat.le_refl _
  | case8 => cases h
  | case9 text _ frame frames _ _ _ c after start _ ih =>
    have := ih h
    have spaces := length_skipSpace text
    rw [start, List.length_cons] at spaces
    omega
  | case10 text _ frame frames _ _ _ c after start _ _ ih =>
    have := ih h
    have spaces := length_skipSpace text
    rw [start] at spaces
    omega
  | case11 text _ frame frames _ _ _ c after start _ _ _ ih =>
    have := ih h
    have spaces := length_skipSpace text
    rw [start, List.length_cons] at spaces
    omega
  | case12 => cases h

/-- Skipping a value leaves no more than there was. -/
theorem length_skipValue {text rest : Text} (h : skipValue text = .ok rest) :
    rest.length ≤ text.length := length_skipFrom h

/-- Refuses a value, which starts with a character, for its type. -/
def refuse (expected : Text) (c : Char) (rest : Text) : Except Failure α := do
  match c with
  | 'n' => failHere (.wrongType .null expected) (← skipWord "ull".toList rest)
  | 't' => failHere (.wrongType (.bool true) expected) (← skipWord "rue".toList rest)
  | 'f' => failHere (.wrongType (.bool false) expected) (← skipWord "alse".toList rest)
  | '-' =>
    let (found, rest) ← numberFound true rest
    failHere (.wrongType found expected) rest
  | '"' =>
    let (text, rest) ← stringText rest
    failHere (.wrongType (.string text) expected) rest
  | '[' => failHere (.wrongType .list expected) (c :: rest)
  | '\x7b' => failHere (.wrongType .object expected) (c :: rest)
  | c =>
    if isDigit c then
      let (found, rest) ← numberFound false (c :: rest)
      failHere (.wrongType found expected) rest
    else failNext .noValue (c :: rest)

end PluginReadme.Json
