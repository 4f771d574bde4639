import PluginReadme.Markdown.Container

/-!
Definitions `[label]: destination "title"`.  They stand at the start of a paragraph's text, one
after the other, and each ends with a line.
-/

namespace PluginReadme.Markdown

private def dropSpaces (text : Text) : Text := text.dropWhile (· == ' ')

/-- Drops blanks and at most one line ending among them. -/
private def dropSpacesAndEnding (text : Text) : Text :=
  match dropSpaces text with
  | '\n' :: rest => dropSpaces rest
  | rest => rest

/-- What follows a destination or a title: blanks up to the end of the line. -/
private def atLineEnd (text : Text) : Option Text :=
  match dropSpaces text with
  | [] => some []
  | '\n' :: rest => some ('\n' :: rest)
  | _ => none

/-- Reads a label up to its `]`; `filled` says that it holds more than blanks. -/
private def label (escaped filled : Bool) (size : Nat) : Text → Option Text
  | [] => none
  | c :: rest =>
    if labelLimit < size then none
    else if c == '\n' then label false filled size rest
    else if escaped && (c == '[' || c == '\\' || c == ']') then label false true (size + 1) rest
    else if c == '[' then none
    else if c == ']' then if filled then some rest else none
    else label (c == '\\') (filled || c != ' ') (size + c.utf8Size) rest

private def isControl (c : Char) : Bool :=
  (1 ≤ c.toNat && c.toNat ≤ 0x1F) || c.toNat == 0x7F

/-- Reads a destination in angle brackets up to its `>`. -/
private def enclosed (escaped : Bool) : Text → Option Text
  | [] => none
  | c :: rest =>
    if c == '\n' then none
    else if escaped && (c == '<' || c == '>' || c == '\\') then enclosed false rest
    else if c == '<' then none
    else if c == '>' then some rest
    else enclosed (c == '\\') rest

/-- Reads a bare destination; parentheses in it are balanced. -/
private def bare (escaped : Bool) (depth : Nat) : Text → Option Text
  | [] => if depth == 0 then some [] else none
  | c :: rest =>
    if escaped && (c == '(' || c == ')' || c == '\\') then bare false depth rest
    else if depth == 0 && (c == ' ' || c == '\n' || c == ')') then some (c :: rest)
    else if c == '(' then bare false (depth + 1) rest
    else if c == ')' then bare false (depth - 1) rest
    else if c == ' ' || isControl c then none
    else bare (c == '\\') depth rest

private def destination : Text → Option Text
  | [] => none
  | '<' :: rest => enclosed false rest
  | c :: rest =>
    if c == ' ' || c == ')' || isControl c then none else bare false 0 (c :: rest)

/-- Reads a title up to its closing mark. -/
private def titleText (closing : Char) (escaped : Bool) : Text → Option Text
  | [] => none
  | c :: rest =>
    if escaped && (c == closing || c == '\\') then titleText closing false rest
    else if c == closing then some rest
    else titleText closing (c == '\\') rest

/-- A title with blanks before it, and the end of the line after it. -/
private def title (text : Text) : Option Text :=
  match text with
  | [] => none
  | c :: _ =>
    if c == ' ' || c == '\n' then
      match dropSpacesAndEnding text with
      | '"' :: rest => (titleText '"' false rest).bind atLineEnd
      | '\'' :: rest => (titleText '\'' false rest).bind atLineEnd
      | '(' :: rest => (titleText ')' false rest).bind atLineEnd
      | _ => none
    else none

/-- What is left of a text after the definition that it starts with: nothing, or a line ending. -/
def definition (text : Text) : Option Text := do
  match dropSpaces text with
  | '[' :: rest =>
    match ← label false false 0 rest with
    | ':' :: rest =>
      let rest ← destination (dropSpacesAndEnding rest)
      match title rest with
      | some rest => some rest
      | none => atLineEnd rest
    | _ => none
  | _ => none

end PluginReadme.Markdown
