import PluginReadme.Markdown.Definition
import PluginReadme.Markdown.Fence
import PluginReadme.Markdown.Heading
import PluginReadme.Markdown.Html
import PluginReadme.Markdown.Table
import PluginReadme.Markdown.Tree

/-!
Blocks without inner blocks, line by line.  `Leaf` is the block that the last line has left open;
`Leaf.advance` says what one more line makes of it: which blocks end before the line, which block
the line is by itself, and what it leaves open.
-/

namespace PluginReadme.Markdown

/-- A line of running text. -/
structure TextLine where
  start : Nat
  cells : List Cell
  stop : Nat
  deriving Repr

/-- The block that the last line has left open. -/
inductive Leaf where
  | idle
  /-- Running text, newest line first.  `lead` is a line of heading marks that had no heading to
  mark and so begins the paragraph; `columns` says of how many columns a table would be that has
  the newest line for its head. -/
  | text (lines : List TextLine) (lead : Option Span) (columns : Option Nat)
  /-- A line of heading marks; it is a paragraph of its own if it marks no heading. -/
  | underlined (paragraph : Option Span)
  | fence (start : Nat) (fence : Fence)
  | html (start stop : Nat) (ending : HtmlEnd)
  | code (start stop : Nat)
  | table (start stop : Nat)
  deriving Repr

/-- How the next line stands to the open blocks. -/
structure Situation where
  /-- The line does not repeat the marks of all open containers. -/
  lazy : Bool
  /-- The line opens a container. -/
  pierced : Bool
  /-- A paragraph is being interrupted. -/
  interrupting : Bool

/-- What a line makes of the open block. -/
structure Advance where
  /-- The blocks that end before the line, or with it. -/
  ended : List Node
  /-- The block that the line is by itself. -/
  made : List Node
  leaf : Leaf
  interrupting : Bool

/-- The columns of lines of text, with a line feed for each ending between them. -/
def joinedCells : List TextLine → List Cell
  | [] => []
  | [line] => line.cells
  | line :: more => line.cells ++ ⟨'\n', ⟨line.stop, 0⟩⟩ :: joinedCells more

/-- Splits off the definitions that lines of text start with. -/
def definitionsOf (lines : List TextLine) : List Node × List TextLine :=
  match lines with
  | [] => ([], [])
  | first :: more =>
    let text := chars (joinedCells (first :: more))
    match definition text with
    | none => ([], first :: more)
    | some rest =>
      let endings := text.count '\n' - rest.count '\n'
      let last := ((first :: more)[endings]?).getD first
      let (nodes, left) := definitionsOf (more.drop endings)
      (.verbatim ⟨first.start, last.stop⟩ :: nodes, left)
termination_by lines.length
decreasing_by simp +arith

/-- The offset after a task mark `[ ]` or `[x]` and the blank or line ending that follows it.  The
mark is one only if more text comes after. -/
def afterTaskMark (cells : List Cell) : Option Nat :=
  match cells with
  | opening :: state :: closing :: next :: rest =>
    if opening.char == '[' && " \nxX".toList.contains state.char && closing.char == ']' &&
        (next.char == '\n' || next.char == ' ' && !allBlank rest) then
      some (next.place.offset + 1)
    else none
  | _ => none

/-- The blocks of running text: definitions, then a paragraph.  The paragraph that an item of a
list begins with may start with a task mark, which is not part of it. -/
def textNodes (startsItem : Bool) (lead : Option Span) (lines : List TextLine) : List Node :=
  let (definitions, rest) := definitionsOf lines
  match rest.getLast? with
  | none => (lead.map Node.paragraph).toList ++ definitions
  | some last =>
    let start := (rest.head?.map TextLine.start).getD 0
    match lead with
    | some span =>
      if definitions.isEmpty then [.paragraph ⟨span.start, last.stop⟩]
      else .paragraph span :: definitions ++ [.paragraph ⟨start, last.stop⟩]
    | none =>
      let task := if startsItem && definitions.isEmpty then afterTaskMark (joinedCells rest)
        else none
      definitions ++ [.paragraph ⟨task.getD start, last.stop⟩]

/-- The blocks of running text that turns out to be a heading, and whether there was any text but
definitions to make a heading of. -/
def underlinedNodes (lead : Option Span) (lines : List TextLine) (level stop : Nat) :
    List Node × Bool :=
  let (definitions, rest) := definitionsOf lines
  match rest with
  | [] => ((lead.map Node.paragraph).toList ++ definitions, false)
  | first :: _ =>
    let content := trimCells ((joinedCells rest).dropWhile (·.char == ' '))
    let start := match lead with
      | some span => if definitions.isEmpty then span.start else first.start
      | none => first.start
    let before := if definitions.isEmpty then [] else (lead.map Node.paragraph).toList
    (before ++ definitions ++ [.heading ⟨start, stop⟩ level (contentSpan content)], true)

/-- The blocks that an open block comes to when it ends.  Code and markup without an end of their
own go up to `stop`. -/
def Leaf.nodes (startsItem : Bool) (stop : Nat) : Leaf → List Node
  | .idle => []
  | .text lines lead _ => textNodes startsItem lead lines.reverse
  | .underlined paragraph => (paragraph.map Node.paragraph).toList
  | .fence start _ => [.verbatim ⟨start, stop⟩]
  | .html start last ending =>
    [.verbatim ⟨start, if ending = .blankLine then last else stop⟩]
  | .code start last => [.verbatim ⟨start, last⟩]
  | .table start last => [.verbatim ⟨start, last⟩]

/-- Whether a lazy line can go on with the open block. -/
def Leaf.acceptsLazy : Leaf → Bool
  | .text .. => true
  | .underlined _ => true
  | _ => false

/-- Whether the lines of the open block are taken as they are, so that none opens a container. -/
def Leaf.isOpaque : Leaf → Bool
  | .fence .. => true
  | .html .. => true
  | _ => false

/-- What a line is, as far as the open block allows. -/
inductive LineKind where
  | blank
  | code
  | fence (fence : Fence) (start : Nat)
  | html (ending : HtmlEnd) (rest : Text)
  | heading (level : Nat) (content : List Cell)
  | underline (level : Nat)
  | rule
  | row
  /-- Running text, or the head of a table of so many columns. -/
  | text (columns : Option Nat)

/-- A line of an open table, or one that may begin a table. -/
def tableKind (leaf : Leaf) (here : Situation) (cells : List Cell) : LineKind :=
  match leaf with
  | .table .. =>
    if here.pierced then .text (headColumns cells)
    else if here.lazy then .text none
    else .row
  | _ => .text (headColumns cells)

def htmlKind (here : Situation) (cells : List Cell) : Option LineKind := do
  let (ending, rest) ← HtmlEnd.opened (here.interrupting && !here.lazy) (chars (← dropIndent cells))
  some (.html ending rest)

def fenceKind (line : Line) (cells : List Cell) : Option LineKind := do
  let (fence, rest) ← Fence.opened cells
  some (.fence fence (line.offsetOf rest))

def headingKind (cells : List Cell) : Option LineKind := do
  let (level, content) ← markedHeading cells
  some (.heading level content)

def ruleKind (cells : List Cell) : Option LineKind :=
  if isRule cells then some .rule else none

def underlineKind (leaf : Leaf) (here : Situation) (cells : List Cell) : Option LineKind :=
  if leaf.acceptsLazy && !here.lazy && !here.pierced then (underline cells).map .underline
  else none

def codeKind (here : Situation) (cells : List Cell) : Option LineKind :=
  if !here.interrupting && (takeBlanks tabStop cells).isSome then some .code else none

/-- What a line is.  A line that starts with the mark of one kind of block, without indentation,
is of that kind or plain text. -/
def lineKind (line : Line) (leaf : Leaf) (here : Situation) (cells : List Cell) : LineKind :=
  let first := (cells.head?.map (·.char)).getD ' '
  if allBlank cells then .blank
  else if first == '#' then (headingKind cells).getD (.text none)
  else if first == '`' || first == '~' || first == '$' then
    (fenceKind line cells).getD (.text none)
  else if first == '*' || first == '_' then (ruleKind cells).getD (.text none)
  else
    (codeKind here cells <|> fenceKind line cells <|> htmlKind here cells <|> headingKind cells <|>
      underlineKind leaf here cells <|> ruleKind cells).getD (tableKind leaf here cells)

/-- The advance by which an open block ends with the line before. -/
def Leaf.endsBefore (leaf : Leaf) (startsItem : Bool) (previous : Nat) (made : List Node)
    (next : Leaf) (interrupting : Bool) : Advance :=
  ⟨leaf.nodes startsItem previous, made, next, interrupting⟩

/-- The advance by a line that starts afresh: the open block ends with the line before, except
for text, which a line of text goes on with. -/
def advanceFresh (line : Line) (startsItem : Bool) (previous : Nat) (leaf : Leaf)
    (here : Situation) (cells : List Cell) : Advance :=
  let change := leaf.endsBefore startsItem previous
  let start := line.offsetOf cells
  let whole : Node := .verbatim ⟨start, line.stop⟩
  match lineKind line leaf here cells with
  | .blank => change [] .idle false
  | .code => change [] (.code start line.stop) here.interrupting
  | .fence fence place => change [] (.fence place fence) here.interrupting
  | .html ending rest =>
    if ending.inLine rest then change [whole] .idle false
    else change [] (.html start line.stop ending) here.interrupting
  | .heading level content =>
    change [.heading ⟨start, line.stop⟩ level (contentSpan content)] .idle false
  | .underline level =>
    match leaf with
    | .text lines lead _ =>
      let (nodes, marked) := underlinedNodes lead lines.reverse level line.stop
      ⟨nodes, [], .underlined (if marked then none else some ⟨start, line.stop⟩), false⟩
    | _ => change [] (.underlined (some ⟨start, line.stop⟩)) false
  | .rule => change [whole] .idle false
  | .row =>
    match leaf with
    | .table start _ => ⟨[], [], .table start line.stop, here.interrupting⟩
    | _ => change [] (.table start line.stop) here.interrupting
  | .text columns =>
    let newest : TextLine := ⟨start, cells, line.stop⟩
    match leaf with
    | .text lines lead _ =>
      if here.pierced then change [] (.text [newest] none columns) true
      else ⟨[], [], .text (newest :: lines) lead columns, true⟩
    | .underlined paragraph =>
      if here.pierced then change [] (.text [newest] none columns) true
      else ⟨[], [], .text [newest] paragraph columns, true⟩
    | _ => change [] (.text [newest] none columns) true

/-- What a line makes of the open block.  `previous` is where the line before ends. -/
def Leaf.advance (line : Line) (startsItem : Bool) (previous : Nat) (here : Situation)
    (cells : List Cell) (leaf : Leaf) : Advance :=
  let fresh (interrupting : Bool) : Advance :=
    advanceFresh line startsItem previous leaf { here with interrupting := interrupting } cells
  match leaf with
  | .fence start opening =>
    if here.lazy || here.pierced then fresh false
    else if opening.closedBy cells then ⟨[.verbatim ⟨start, line.stop⟩], [], .idle, false⟩
    else ⟨[], [], leaf, here.interrupting⟩
  | .html start _ ending =>
    if here.lazy || here.pierced || (ending == .blankLine && allBlank cells) then fresh false
    else if ending.inLine (chars cells) then ⟨[.verbatim ⟨start, line.stop⟩], [], .idle, false⟩
    else ⟨[], [], .html start line.stop ending, here.interrupting⟩
  | .code start _ =>
    if here.lazy || here.pierced then fresh false
    else if (takeBlanks tabStop cells).isSome then ⟨[], [], .code start line.stop, false⟩
    else if allBlank cells then ⟨[], [], leaf, false⟩
    else fresh false
  | .text (head :: lines) lead (some columns) =>
    if !here.lazy && !here.pierced && delimiterColumns cells == some columns then
      ⟨if lines.isEmpty then (lead.map Node.paragraph).toList
        else textNodes startsItem lead lines.reverse, [], .table head.start line.stop, false⟩
    else fresh true
  | _ => fresh here.interrupting

end PluginReadme.Markdown
