import PluginReadme.Text.LineBreak
import PluginReadme.Text.Lines

/-!
Wrapping a text into lines of a limited width.  Words go on a line as long as they fit; a word that
is too wide for any line is broken apart.
-/

namespace PluginReadme.Text

/-- A word and the spaces behind it. -/
structure Word where
  text : Text
  spaces : Text
  deriving DecidableEq, Repr

/-- A piece of text as a word. -/
private def Word.of (piece : Text) : Word where
  text := (piece.reverse.dropWhile (· == ' ')).reverse
  spaces := piece.reverse.takeWhile (· == ' ')

/-- Joins pieces that are only separated by a hyphen at the end of the first. -/
private def joinHyphens : List Text → List Text
  | first :: second :: rest =>
    if first.getLast? == some '-' then joinHyphens ((first ++ second) :: rest)
    else first :: joinHyphens (second :: rest)
  | pieces => pieces
termination_by pieces => pieces.length

/-- Splits a word after each hyphen between letters or digits. -/
private def splitHyphens (current : Text) : Text → List Text
  | '-' :: next :: rest =>
    if current.head?.any isWordChar && isWordChar next then
      ('-' :: current).reverse :: splitHyphens [] (next :: rest)
    else splitHyphens ('-' :: current) (next :: rest)
  | c :: rest => splitHyphens (c :: current) rest
  | [] => [current.reverse]
where
  isWordChar (c : Char) : Bool := c.isAlphanum || (0x80 ≤ c.toNat && breakClass c == .alphabetic)

/-- The words of a piece: it may be split after hyphens. -/
private def Word.split (word : Word) : List Word :=
  match (splitHyphens [] word.text).reverse with
  | [] => [word]
  | last :: others => (others.map fun part => ⟨part, []⟩).reverse ++ [⟨last, word.spaces⟩]

/-- Breaks a text apart into parts of a limited width. -/
private def breakApart (limit used : Nat) (current : Text) : Text → List Text
  | [] => [current.reverse]
  | c :: rest =>
    if 0 < used && limit < used + charWidth c then
      current.reverse :: breakApart limit (charWidth c) [c] rest
    else breakApart limit (used + charWidth c) (c :: current) rest

/-- A word in parts that fit into a line. -/
private def Word.fit (limit : Nat) (word : Word) : List Word :=
  if width word.text ≤ limit then [word]
  else
    match (breakApart limit 0 [] word.text).reverse with
    | [] => [word]
    | last :: others => (others.map fun part => ⟨part, []⟩).reverse ++ [⟨last, word.spaces⟩]

/-- The text of some words, without the spaces behind the last one. -/
private def joinWords : List Word → Text
  | [] => []
  | [word] => word.text
  | word :: rest => word.text ++ word.spaces ++ joinWords rest

/-- Fills lines with words; `line` holds the words of the current line, last first. -/
private def fillLines (later : Nat) : Nat → Nat → List Word → List Word → List Text
  | _, _, line, [] => [joinWords line.reverse]
  | limit, used, line, word :: rest =>
    let size := width word.text
    if limit < used + size && !line.isEmpty then
      joinWords line.reverse :: fillLines later later (size + width word.spaces) [word] rest
    else fillLines later limit (used + size + width word.spaces) (word :: line) rest

/-- How a text is wrapped: the width of the lines with their indents, and the indents of the first
line and of the others. -/
structure Wrapping where
  width : Nat
  first : Text
  later : Text
  /-- The columns of the indents, which can hold marks that do not show. -/
  firstWidth : Nat
  laterWidth : Nat
  deriving DecidableEq, Repr

/-- Wraps a single line; `isFirst` says whether it is the first line of the whole. -/
private def wrapLine (wrapping : Wrapping) (isFirst : Bool) (line : Text) : List Text :=
  let first := wrapping.width - wrapping.firstWidth
  let later := wrapping.width - wrapping.laterWidth
  let words := (joinHyphens (pieces line)).flatMap fun piece =>
    (Word.of piece).split.flatMap (Word.fit later)
  -- An empty word lets the first line stay empty if the first word fits only into a later line.
  let filled := fillLines later first 0 [] (⟨[], []⟩ :: words)
  match filled with
  | [] => []
  | head :: rest =>
    ((if isFirst then wrapping.first else wrapping.later) ++ head)
      :: rest.map (wrapping.later ++ ·)

/-- Wraps a text, line by line. -/
def wrap (wrapping : Wrapping) (text : Text) : Text :=
  let wrapped := match text.splitOn '\n' with
    | [] => []
    | first :: rest =>
      wrapLine wrapping true first ++ rest.flatMap (wrapLine wrapping false)
  join ['\n'] wrapped

end PluginReadme.Text
