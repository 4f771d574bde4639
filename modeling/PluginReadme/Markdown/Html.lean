import PluginReadme.Text.Blank

/-!
Blocks of markup.  Seven kinds of opening start one: four of them, a comment, an instruction, a
declaration and character data, end at a closing mark of their own; script-like elements end at
a closing tag; all other elements end before a blank line.
-/

namespace PluginReadme.Markdown

/-- What ends a block of markup. -/
inductive HtmlEnd where
  /-- The closing tag of an element whose text is not markup. -/
  | rawTag
  /-- `-->` -/
  | comment
  /-- `?>` -/
  | instruction
  /-- `>` -/
  | declaration
  /-- `]]>` -/
  | characterData
  /-- A blank line, which is not part of the block. -/
  | blankLine
  deriving DecidableEq, Repr

/-- Elements whose text is not markup. -/
def rawElements : List Text :=
  ["pre", "script", "style", "textarea"].map String.toList

/-- Elements that start a block anywhere. -/
def blockElements : List Text :=
  ["address", "article", "aside", "base", "basefont", "blockquote", "body", "caption", "center",
    "col", "colgroup", "dd", "details", "dialog", "dir", "div", "dl", "dt", "fieldset",
    "figcaption", "figure", "footer", "form", "frame", "frameset", "h1", "h2", "h3", "h4", "h5",
    "h6", "head", "header", "hr", "html", "iframe", "legend", "li", "link", "main", "menu",
    "menuitem", "nav", "noframes", "ol", "optgroup", "option", "p", "param", "search", "section",
    "summary", "table", "tbody", "td", "tfoot", "th", "thead", "title", "tr", "track",
    "ul"].map String.toList

/-- Whether `part` occurs in a text. -/
def occurs (part : Text) : Text → Bool
  | [] => part.isEmpty
  | c :: rest => part.isPrefixOf (c :: rest) || occurs part rest

/-- Whether a closing tag of an element with plain text occurs in a text. -/
def closesRaw (text : Text) : Bool :=
  let lowered := text.map Char.toLower
  rawElements.any fun name => occurs ('<' :: '/' :: name ++ ['>']) lowered

/-- Whether character data ends in a text: brackets are read in pairs. -/
def closesData : Text → Bool
  | ']' :: ']' :: '>' :: _ => true
  | ']' :: ']' :: rest => closesData rest
  | _ :: rest => closesData rest
  | [] => false

/-- Whether a line holds the end of the block. -/
def HtmlEnd.inLine (text : Text) : HtmlEnd → Bool
  | .rawTag => closesRaw text
  | .comment => occurs "-->".toList text
  | .instruction => occurs "?>".toList text
  | .declaration => text.contains '>'
  | .characterData => closesData text
  | .blankLine => false

/-- How far a complete tag has been read, after its name. -/
inductive TagPart where
  | beforeName
  | name
  | afterName
  | beforeValue
  | quoted (quote : Char)
  | unquoted
  | afterQuoted
  | beforeEnd
  | ended
  deriving DecidableEq, Repr

namespace TagPart

private def atEnd (c : Char) : Option TagPart := if c == '>' then some .ended else none

private def atName (c : Char) : Option TagPart :=
  if c == '/' then some .beforeEnd
  else if c == ':' || c == '_' || c.isAlpha then some .name
  else if c == ' ' then some .beforeName
  else atEnd c

private def pastName (c : Char) : Option TagPart :=
  if c == '=' then some .beforeValue else if c == ' ' then some .afterName else atName c

private def atUnquoted (c : Char) : Option TagPart :=
  if " \"'/<=>`".toList.contains c then pastName c else some .unquoted

/-- The next character of a complete tag. -/
def step (c : Char) : TagPart → Option TagPart
  | .beforeName => atName c
  | .name =>
    if c == '-' || c == '.' || c == ':' || c == '_' || c.isAlphanum then some .name
    else pastName c
  | .afterName => pastName c
  | .beforeValue =>
    if "<=>`".toList.contains c then none
    else if c == '"' || c == '\'' then some (.quoted c)
    else if c == ' ' then some .beforeValue
    else atUnquoted c
  | .quoted quote => some (if c == quote then .afterQuoted else .quoted quote)
  | .unquoted => atUnquoted c
  | .afterQuoted => if c == '/' || c == '>' || c == ' ' then atName c else none
  | .beforeEnd => atEnd c
  | .ended => if c == ' ' then some .ended else none

/-- Whether a line ends with a complete tag and nothing but blanks after it. -/
def completes (part : TagPart) (text : Text) : Bool :=
  text.foldlM (fun part c => part.step c) part == some .ended

end TagPart

/-- A closing tag may have blanks after its name, but no attributes. -/
private def closingTagCompletes (text : Text) : Bool :=
  TagPart.completes .beforeEnd (text.dropWhile (· == ' '))

/-- An element, from its name on.  An unknown one starts a block only when its tag fills the line,
and then interrupts no paragraph. -/
private def elementEnd (interrupting closing : Bool) (text : Text) : Option (HtmlEnd × Text) :=
  let isName (c : Char) := c == '-' || c.isAlphanum
  let name := (text.takeWhile isName).map Char.toLower
  let rest := text.dropWhile isName
  let slashed := rest.head? == some '/'
  if rest.head?.all (fun c => c == ' ' || c == '/' || c == '>') then
    if !slashed && !closing && rawElements.contains name then some (.rawTag, rest)
    else if blockElements.contains name then
      if slashed && rest.tail.head? != some '>' then none else some (.blankLine, [])
    else if interrupting then none
    else if (if closing then closingTagCompletes rest else TagPart.completes .beforeName rest) then
      some (.blankLine, [])
    else none
  else none

/-- The block of markup that a line opens, from its first `<` on: what ends it, and the text of
the line in which the end may already stand. -/
def HtmlEnd.opened (interrupting : Bool) : Text → Option (HtmlEnd × Text)
  | '<' :: '!' :: '-' :: '-' :: rest => some (.comment, '-' :: '-' :: rest)
  | '<' :: '!' :: '[' :: rest =>
    if "CDATA[".toList.isPrefixOf rest then some (.characterData, rest.drop 6) else none
  | '<' :: '!' :: c :: rest => if c.isAlpha then some (.declaration, rest) else none
  | '<' :: '?' :: rest => some (.instruction, '?' :: rest)
  | '<' :: '/' :: c :: rest => if c.isAlpha then elementEnd interrupting true (c :: rest) else none
  | '<' :: c :: rest => if c.isAlpha then elementEnd interrupting false (c :: rest) else none
  | _ => none

end PluginReadme.Markdown
