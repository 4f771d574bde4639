import PluginReadme.Pattern.CharClass

/-!
Splitting a pattern into tokens.  Inside a group with the flag `x` blanks and comments stand for
nothing, so the split keeps track of that flag group by group.
-/

namespace PluginReadme.Pattern

open Unicode (CodeSet)

/-- A condition on a place, as it is written. -/
inductive Anchor where
  | lineStart
  | lineEnd
  | textStart
  | textEnd
  | wordBoundary
  | notWordBoundary
  | wordStart
  | wordEnd
  | wordStartHalf
  | wordEndHalf
  deriving DecidableEq, Repr

/-- A token of a pattern. -/
inductive Token where
  | literal (char : Literal)
  | dot
  | anchor (anchor : Anchor)
  | charClass (item : ClassItem)
  /-- The start of a group; it may be captured, and may have a name or change flags. -/
  | openGroup (captured : Bool) (name : Option Text) (change : FlagChange)
  | setFlags (change : FlagChange)
  | close
  | bar
  | repetition (least : Nat) (most : Option Nat) (greedy : Bool)
  deriving Repr

/-- Skips blanks and comments, which last to the end of their line. -/
def skipComments (inComment : Bool) : Text → Text
  | [] => []
  | c :: rest =>
    if inComment then skipComments (c != '\n') rest
    else if Text.isBlank c then skipComments false rest
    else if c == '#' then skipComments true rest
    else c :: rest

/-- Skips what stands for nothing. -/
def skip (spaced : Bool) (input : Text) : Text :=
  if spaced then skipComments false input else input

/-- Characters that mean something in a pattern unless a backslash stands before them. -/
def isMeta (c : Char) : Bool := "\\.+*?()|[]\x7b\x7d^$#&-~".toList.contains c

/-- Characters that a backslash leaves as they are: ASCII but for letters and digits. -/
def isEscapable (c : Char) : Bool :=
  c.toNat < 0x80 && !c.isAlphanum && c != '<' && c != '>'

def isHex (c : Char) : Bool :=
  c.isDigit || ('a' ≤ c && c ≤ 'f') || ('A' ≤ c && c ≤ 'F')

def hexValue (digits : Text) : Nat :=
  digits.foldl (fun value c => value * 16 + Unicode.digitValue c.toLower) 0

/-- The character with a code, if there is one. -/
def charOf? (code : Nat) : Option Char :=
  if code.isValidChar then some (Char.ofNat code) else none

/-- Collects characters up to a closing brace. -/
def untilBrace (spaced : Bool) (fuel : Nat) (input : Text) : Option (Text × Text) :=
  match fuel, skip spaced input with
  | _, [] => none
  | 0, _ => none
  | fuel + 1, c :: rest =>
    if c == '\x7d' then some ([], rest)
    else (untilBrace spaced fuel rest).map fun (text, rest) => (c :: text, rest)

/-- Collects exactly so many hexadecimal digits. -/
def hexDigits (spaced : Bool) : Nat → Text → Option (Text × Text)
  | 0, input => some ([], input)
  | count + 1, input =>
    match skip spaced input with
    | [] => none
    | c :: rest =>
      if isHex c then (hexDigits spaced count rest).map fun (text, rest) => (c :: text, rest)
      else none

/-- The character of a hexadecimal escape, after its letter. -/
def hexEscape (spaced : Bool) (letter : Char) (input : Text) : Option (Literal × Text) :=
  match skip spaced input with
  | '\x7b' :: rest => do
    let (digits, rest) ← untilBrace spaced rest.length rest
    if digits.isEmpty || !digits.all isHex then none
    else some (⟨← charOf? (hexValue digits), false⟩, skip spaced rest)
  | input => do
    let count := if letter == 'x' then 2 else if letter == 'u' then 4 else 8
    let (digits, rest) ← hexDigits spaced count input
    some (⟨← charOf? (hexValue digits), letter == 'x'⟩, skip spaced rest)

/-- Splits a text at the first place where a separator stands. -/
def splitAtFirst (separator : Text) : Text → Option (Text × Text)
  | [] => none
  | c :: rest =>
    if separator.isPrefixOf (c :: rest) then some ([], (c :: rest).drop separator.length)
    else (splitAtFirst separator rest).map fun (before, after) => (c :: before, after)

/-- The property that a text in braces asks for.  An inequality asks for the same set as an equality:
only the letter of the escape negates. -/
def propertyQuery (text : Text) : PropertyQuery :=
  match splitAtFirst "!=".toList text <|> splitAtFirst [':'] text <|> splitAtFirst ['='] text with
  | some (name, value) => .valued name value
  | none => .named text

/-- The property of a property escape, after its letter. -/
def propertyEscape (spaced : Bool) (input : Text) : Option (PropertyQuery × Text) :=
  match skip spaced input with
  | [] => none
  | '\x7b' :: rest =>
    (untilBrace spaced rest.length rest).map fun (text, rest) => (propertyQuery text, rest)
  | c :: rest => if c == '\\' then none else some (.named [c], skip spaced rest)

def isBoundaryChar (c : Char) : Bool := c.isAlpha || c == '-'

def boundaryName (spaced : Bool) (fuel : Nat) (input : Text) : Text × Text :=
  match fuel, input with
  | fuel + 1, c :: rest =>
    if isBoundaryChar c then
      let (name, rest) := boundaryName spaced fuel (skip spaced rest)
      (c :: name, rest)
    else ([], input)
  | _, _ => ([], input)

/-- A word boundary, after its letter: it may name a side in braces.  Braces that do not start with
a letter belong to a repetition. -/
def boundaryEscape (spaced : Bool) (input : Text) : Option (Anchor × Text) :=
  match input with
  | '\x7b' :: inner =>
    match skip spaced inner with
    | [] => none
    | c :: rest =>
      if !isBoundaryChar c then some (.wordBoundary, input)
      else
        match boundaryName spaced (rest.length + 1) (c :: rest) with
        | (name, '\x7d' :: rest) =>
          if name == "start".toList then some (.wordStart, rest)
          else if name == "end".toList then some (.wordEnd, rest)
          else if name == "start-half".toList then some (.wordStartHalf, rest)
          else if name == "end-half".toList then some (.wordEndHalf, rest)
          else none
        | _ => none
  | _ => some (.wordBoundary, input)

/-- The character of an escape with a letter of its own. -/
def controlEscape : Char → Option Char
  | 'a' => some '\x07'
  | 'f' => some '\x0C'
  | 't' => some '\t'
  | 'n' => some '\n'
  | 'r' => some '\r'
  | 'v' => some '\x0B'
  | _ => none

/-- The token of an escape, after its backslash. -/
def escape (spaced : Bool) : Text → Option (Token × Text)
  | [] => none
  | c :: rest =>
    match c with
    | 'x' | 'u' | 'U' => (hexEscape spaced c rest).map fun (char, rest) => (.literal char, rest)
    | 'p' | 'P' => (propertyEscape spaced rest).map fun (query, rest) =>
        (.charClass (.property query (c == 'P')), rest)
    | 'd' | 'D' => some (.charClass (.perl .digit (c == 'D')), rest)
    | 's' | 'S' => some (.charClass (.perl .space (c == 'S')), rest)
    | 'w' | 'W' => some (.charClass (.perl .word (c == 'W')), rest)
    | 'A' => some (.anchor .textStart, rest)
    | 'z' => some (.anchor .textEnd, rest)
    | 'B' => some (.anchor .notWordBoundary, rest)
    | '<' => some (.anchor .wordStart, rest)
    | '>' => some (.anchor .wordEnd, rest)
    | 'b' => (boundaryEscape spaced rest).map fun (anchor, rest) => (.anchor anchor, rest)
    | _ =>
      if isEscapable c then some (.literal ⟨c, false⟩, rest)
      else (controlEscape c).map fun char => (.literal ⟨char, false⟩, rest)

/-- A decimal number with blanks around it, which fits into 32 bits. -/
def number (spaced : Bool) (fuel : Nat) (digits : Text) (input : Text) :
    Option (Nat × Text) :=
  match fuel, input with
  | fuel + 1, c :: rest =>
    if c.isDigit then number spaced fuel (digits ++ [c]) (skip spaced rest)
    else finish digits input
  | _, _ => finish digits input
where
  finish (digits input : Text) : Option (Nat × Text) :=
    let value := digits.foldl (fun value c => value * 10 + Unicode.digitValue c) 0
    if digits.isEmpty || 1 <<< 32 ≤ value then none else some (value, dropBlanks input)
  dropBlanks : Text → Text
    | [] => []
    | c :: rest => if Text.isBlank c then dropBlanks (skip spaced rest) else c :: rest
  termination_by text => text.length
  decreasing_by
    have shorter : ∀ (inComment : Bool) (text : Text),
        (skipComments inComment text).length ≤ text.length := by
      intro inComment text
      induction text generalizing inComment with
      | nil => simp [skipComments]
      | cons c rest ih =>
        simp only [skipComments]
        split
        · exact Nat.le_succ_of_le (ih _)
        · split
          · exact Nat.le_succ_of_le (ih _)
          · split
            · exact Nat.le_succ_of_le (ih _)
            · exact Nat.le_refl _
    have := shorter false rest
    simp only [skip, List.length_cons]
    split <;> omega

def lazyMark : Text → Bool × Text
  | '?' :: rest => (false, rest)
  | rest => (true, rest)

/-- A counted repetition, after its opening brace. -/
def counted (spaced : Bool) (input : Text) : Option (Token × Text) := do
  let (least, rest) ← number spaced input.length [] (Text.trimStart (skip spaced input))
  let (most, rest) ← match rest with
    | ',' :: rest =>
      match skip spaced rest with
      | '\x7d' :: rest => some (none, '\x7d' :: rest)
      | rest => do
        let (most, rest) ← number spaced rest.length [] (Text.trimStart rest)
        some (some most, rest)
    | rest => some (some least, rest)
  match rest with
  | '\x7d' :: rest =>
    let (greedy, rest) := lazyMark (skip spaced rest)
    if most.any (· < least) then none else some (.repetition least most greedy, rest)
  | _ => none

/-- The name of a group up to its `>`. -/
def groupName (first : Bool) : Text → Option (Text × Text)
  | [] => none
  | c :: rest =>
    if c == '>' then some ([], rest)
    else
      let fits :=
        if first then c == '_' || Unicode.letters.contains c
        else c == '_' || c == '.' || c == '[' || c == ']' || Unicode.lettersAndNumbers.contains c
      if fits then (groupName false rest).map fun (name, rest) => (c :: name, rest) else none

def named (input : Text) : Option (Token × Text) := do
  let (name, rest) ← groupName true input
  if name.isEmpty then none else some (.openGroup true (some name) [], rest)

/-- A group or a change of flags, after its parenthesis.  There is no looking around. -/
def opened (input : Text) : Option (Token × Text) :=
  match input with
  | '?' :: 'P' :: '<' :: rest => named rest
  | '?' :: '<' :: rest =>
    match rest with
    | '=' :: _ => none
    | '!' :: _ => none
    | _ => named rest
  | '?' :: '=' :: _ => none
  | '?' :: '!' :: _ => none
  | '?' :: rest =>
    match FlagChange.read false [] rest with
    | some (change, ')' :: rest) => if change.isEmpty then none else some (.setFlags change, rest)
    | some (change, _ :: rest) => some (.openGroup false none change, rest)
    | _ => none
  | rest => some (.openGroup true none [], rest)

/-- A class of ASCII characters in brackets and colons, after its first bracket. -/
def asciiClass (input : Text) : Option (ClassItem × Text) :=
  match input with
  | ':' :: rest =>
    let (negated, rest) : Bool × Text := match rest with
      | '^' :: rest => (true, rest)
      | rest => (false, rest)
    match rest.dropWhile (· != ':') with
    | ':' :: ']' :: after =>
      (asciiClass? (rest.takeWhile (· != ':'))).map fun set => (.ascii set negated, after)
    | _ => none
  | _ => none

/-- One item of a class: a character or a class escape. -/
def classPrimitive (spaced : Bool) (input : Text) : Option (ClassItem × Text) :=
  match input with
  | [] => none
  | '\\' :: rest =>
    match escape spaced rest with
    | some (.literal char, rest) => some (.literal char, rest)
    | some (.charClass item, rest) => some (item, rest)
    | _ => none
  | c :: rest => some (.literal ⟨c, false⟩, rest)

/-- The character after a hyphen, blanks left out. -/
def peekAfter (spaced : Bool) (rest : Text) : Option Char :=
  if spaced then
    match rest.dropWhile Text.isBlank with
    | '#' :: more => (more.dropWhile Text.isBlank).head?
    | more => more.head?
  else rest.head?

/-- An item of a class or a range of characters. -/
def classRange (spaced : Bool) (input : Text) : Option (ClassItem × Text) := do
  let (first, rest) ← classPrimitive spaced input
  match skip spaced rest with
  | [] => none
  | '-' :: rest =>
    let peeked := peekAfter spaced rest
    if peeked == some ']' || peeked == some '-' then some (first, '-' :: rest)
    else do
      let (last, rest) ← classPrimitive spaced (skip spaced rest)
      match first, last with
      | .literal first, .literal last =>
        if first.char ≤ last.char then some (.range first last, rest) else none
      | _, _ => none
  | rest => some (first, rest)

/-- The opening of a class, after its bracket: whether it is negated, and the hyphens or the
bracket that it holds because they come first. -/
def classOpening (spaced : Bool) (input : Text) : Option (Bool × List ClassItem × Text) :=
  let input := skip spaced input
  let (negated, input) : Bool × Text := match input with
    | '^' :: rest => (true, skip spaced rest)
    | _ => (false, input)
  let hyphens (fuel : Nat) (items : List ClassItem) (input : Text) : List ClassItem × Text :=
    fuel.fold (fun _ _ (state : List ClassItem × Text) =>
      match state.2 with
      | '-' :: rest => (.literal ⟨'-', false⟩ :: state.1, skip spaced rest)
      | _ => state) (items, input)
  let (items, input) := hyphens input.length [] input
  match items, input with
  | _, [] => none
  | [], ']' :: rest =>
    match skip spaced rest with
    | [] => none
    | rest => some (negated, [.literal ⟨']', false⟩], rest)
  | _, _ => some (negated, items, input)

/-- The items of a class, newest first, as one. -/
def joinItems : List ClassItem → ClassItem
  | [] => .empty
  | [item] => item
  | item :: older => .both (joinItems older) item

def joinOp (pending : Option (ClassOp × ClassItem)) (item : ClassItem) : ClassItem :=
  match pending with
  | none => item
  | some (op, left) => .op op left item

/-- The inside of a class up to its closing bracket. -/
def classBody (spaced : Bool) (fuel : Nat) (pending : Option (ClassOp × ClassItem))
    (items : List ClassItem) (input : Text) : Option (ClassItem × Text) :=
  match fuel with
  | 0 => none
  | fuel + 1 =>
    let operator (op : ClassOp) (rest : Text) :=
      classBody spaced fuel (some (op, joinOp pending (joinItems items))) [] rest
    match skip spaced input with
    | [] => none
    | '[' :: rest =>
      match asciiClass rest with
      | some (item, rest) => classBody spaced fuel pending (item :: items) rest
      | none => do
        let (negated, first, rest) ← classOpening spaced rest
        let (inner, rest) ← classBody spaced fuel none first rest
        classBody spaced fuel pending (.bracket negated inner :: items) rest
    | ']' :: rest => some (joinOp pending (joinItems items), rest)
    | '&' :: '&' :: rest => operator .inter rest
    | '-' :: '-' :: rest => operator .diff rest
    | '~' :: '~' :: rest => operator .symmDiff rest
    | input => do
      let (item, rest) ← classRange spaced input
      classBody spaced fuel pending (item :: items) rest

/-- A class in brackets, after its first bracket. -/
def bracketed (spaced : Bool) (input : Text) : Option (Token × Text) := do
  let (negated, items, rest) ← classOpening spaced input
  let (inner, rest) ← classBody spaced (rest.length + 1) none items rest
  some (.charClass (.bracket negated inner), rest)

/-- The token that a pattern starts with. -/
def token (spaced : Bool) (c : Char) (rest : Text) : Option (Token × Text) :=
  match c with
  | '(' => opened (skip spaced rest)
  | ')' => some (.close, rest)
  | '|' => some (.bar, rest)
  | '[' => bracketed spaced rest
  | '?' => let (greedy, rest) := lazyMark rest; some (.repetition 0 (some 1) greedy, rest)
  | '*' => let (greedy, rest) := lazyMark rest; some (.repetition 0 none greedy, rest)
  | '+' => let (greedy, rest) := lazyMark rest; some (.repetition 1 none greedy, rest)
  | '\x7b' => counted spaced rest
  | '\\' => escape spaced rest
  | '.' => some (.dot, rest)
  | '^' => some (.anchor .lineStart, rest)
  | '$' => some (.anchor .lineEnd, rest)
  | c => some (.literal ⟨c, false⟩, rest)

/-- How a token changes the flag `x`: group by group, innermost first. -/
def Token.spaces (spaces : List Bool) : Token → List Bool
  | .openGroup _ _ change => change.apply .ignoreSpace (spaces.headD false) :: spaces
  | .setFlags change => change.apply .ignoreSpace (spaces.headD false) :: spaces.tail
  | .close => spaces.tail
  | _ => spaces

/-- The tokens of a pattern.  Each takes at least one character. -/
def tokensFrom (spaces : List Bool) : Nat → Text → Option (List Token)
  | 0, _ => some []
  | fuel + 1, input =>
    let spaced := spaces.headD false
    match skip spaced input with
    | [] => some []
    | c :: rest => do
      let (token, rest) ← token spaced c rest
      some (token :: (← tokensFrom (token.spaces spaces) fuel rest))

/-- The tokens of a pattern, if it can be split into tokens at all. -/
def tokens (input : Text) : Option (List Token) := tokensFrom [] input.length input

end PluginReadme.Pattern
