import PluginReadme.Markdown.Line

/-!
Tables: a head line is one only when the line under it, the delimiter row, names as many columns.
-/

namespace PluginReadme.Markdown

/-- What has been read of a line that may be the head of a table. -/
private structure HeadScan where
  /-- Whether the next thing starts a column. -/
  fresh : Bool
  /-- Cell texts and dividers so far; a text at the start of the line counts twice. -/
  things : Nat
  columns : Nat
  /-- Inside a cell text, and whether a backslash stands before. -/
  inText : Bool
  escaped : Bool

private def HeadScan.step (scan : HeadScan) (c : Char) : HeadScan :=
  if scan.inText && scan.escaped && (c == '\\' || c == '|') then { scan with escaped := false }
  else if c == ' ' then { scan with inText := false, escaped := false }
  else if c == '|' then
    { fresh := true, things := scan.things + 1
      columns := scan.columns + (if scan.fresh then 1 else 0), inText := false, escaped := false }
  else if scan.inText then { scan with escaped := c == '\\' }
  else
    { fresh := false, things := scan.things + 1
      columns := scan.columns + (if scan.fresh then 1 else 0), inText := true
      escaped := c == '\\' }

/-- How many columns a line has as the head of a table; none if it is a lone divider or indented
too far. -/
def headColumns (cells : List Cell) : Option Nat :=
  match dropIndent cells with
  | some (first :: rest) =>
    let open' := first.char != '|'
    let scan := (chars (first :: rest)).foldl HeadScan.step
      ⟨open', if open' then 1 else 0, 0, false, false⟩
    if 1 < scan.things then some scan.columns else none
  | _ => none

/-- How far a delimiter row has been read. -/
private inductive DelimiterPart where
  | start
  | afterDivider
  | afterColon
  | dashes
  | afterCell
  deriving DecidableEq

/-- The part reached, the columns so far, and whether a colon or a divider has been seen. -/
private abbrev DelimiterScan := DelimiterPart × Nat × Bool

private def delimiterStep (scan : DelimiterScan) (c : Char) : Option DelimiterScan :=
  let (part, columns, seen) := scan
  match part with
  | .start =>
    if c == '|' then some (.afterDivider, columns, true)
    else if c == ':' then some (.afterColon, columns + 1, true)
    else if c == '-' then some (.dashes, columns + 1, seen)
    else none
  | .afterDivider =>
    if c == ' ' then some (.afterDivider, columns, seen)
    else if c == ':' then some (.afterColon, columns + 1, true)
    else if c == '-' then some (.dashes, columns + 1, seen)
    else none
  | .afterColon => if c == '-' then some (.dashes, columns, seen) else none
  | .dashes =>
    if c == '-' then some (.dashes, columns, seen)
    else if c == ':' then some (.afterCell, columns, true)
    else if c == ' ' then some (.afterCell, columns, seen)
    else if c == '|' then some (.afterDivider, columns, true)
    else none
  | .afterCell =>
    if c == ' ' then some (.afterCell, columns, seen)
    else if c == '|' then some (.afterDivider, columns, true)
    else none

/-- How many columns a delimiter row names.  A row without a colon or a divider is none: it is a
rule or the line under a heading. -/
def delimiterColumns (cells : List Cell) : Option Nat :=
  match dropIndent cells with
  | some (first :: rest) =>
    match (chars (first :: rest)).foldlM delimiterStep (.start, 0, false) with
    | some (part, columns, true) =>
      if part == .dashes || part == .afterCell || part == .afterDivider then some columns else none
    | _ => none
  | _ => none

end PluginReadme.Markdown
