import PluginReadme.Text.Lines

/-!
Documents as a flat sequence of blocks, the form in which a readme is rendered.  Inline markup in
a block's text is still as the author wrote it.
-/

namespace PluginReadme

/-- A block of a document. -/
inductive Block where
  | heading (level : Nat) (text : Text)
  /-- The items of a list, each on one line; `start` is the first number of a numbered list. -/
  | list (start : Option Nat) (items : List Text)
  | paragraph (text : Text)
  | quote (text : Text)
  /-- At least one empty line between the blocks around it. -/
  | blank
  /-- A block that a plugin readme has no form for, kept as it is. -/
  | verbatim (text : Text)
  deriving DecidableEq, Repr

/-- The blocks of a document in order. -/
structure Document where
  blocks : List Block
  deriving DecidableEq, Repr

end PluginReadme
