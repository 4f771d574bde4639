import PluginReadme.Text.Blank

/-!
The block tree of a markdown source.  A node keeps the span of source it covers; only the blocks
that a plugin readme has a form for are told apart, every other block is kept verbatim.
-/

namespace PluginReadme.Markdown

/-- A stretch of a source, from one offset up to another. -/
structure Span where
  start : Nat
  stop : Nat
  deriving DecidableEq, Repr

/-- The text that a span covers; empty when the span runs backwards. -/
def Span.slice (span : Span) (source : Text) : Text :=
  (source.drop span.start).take (span.stop - span.start)

mutual

/-- A block of a source. -/
inductive Node where
  /-- A heading with the span of its content, if it has any. -/
  | heading (span : Span) (level : Nat) (content : Option Span)
  | paragraph (span : Span)
  | quote (span : Span) (children : List Node)
  /-- A list: the character that marks its items, and the first number of an ordered one. -/
  | list (span : Span) (mark : Char) (start : Option Nat) (items : List Item)
  /-- Any other block: code, a table, a rule, markup, a definition. -/
  | verbatim (span : Span)

/-- An item of a list. -/
inductive Item where
  | mk (span : Span) (children : List Node)

end

instance : Inhabited Node := ⟨.verbatim ⟨0, 0⟩⟩

/-- The span of a node. -/
def Node.span : Node → Span
  | .heading span .. => span
  | .paragraph span => span
  | .quote span _ => span
  | .list span .. => span
  | .verbatim span => span

/-- The span of an item. -/
def Item.span : Item → Span
  | .mk span _ => span

/-- The blocks of an item. -/
def Item.children : Item → List Node
  | .mk _ children => children

end PluginReadme.Markdown
