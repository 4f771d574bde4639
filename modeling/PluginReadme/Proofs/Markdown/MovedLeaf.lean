import PluginReadme.Proofs.Markdown.MovedLine
import PluginReadme.Markdown.Leaf

/-! Blocks that stand further along in a source. What a line makes of the open leaf is told from
the characters of its lines, so that the blocks it comes to are moved with them. -/
namespace PluginReadme.Markdown

/-! ## What is moved -/

mutual

/-- A block further along, with all blocks in it. -/
def Node.moved (ahead : Nat) : Node → Node
  | .heading span level content => .heading (span.moved ahead) level (content.map (·.moved ahead))
  | .paragraph span => .paragraph (span.moved ahead)
  | .quote span children => .quote (span.moved ahead) (nodesMoved ahead children)
  | .list span mark start items => .list (span.moved ahead) mark start (itemsMoved ahead items)
  | .verbatim span => .verbatim (span.moved ahead)

/-- An item further along. -/
def Item.moved (ahead : Nat) : Item → Item
  | .mk span children => .mk (span.moved ahead) (nodesMoved ahead children)

/-- Blocks further along. -/
def nodesMoved (ahead : Nat) : List Node → List Node
  | [] => []
  | node :: rest => node.moved ahead :: nodesMoved ahead rest

/-- Items further along. -/
def itemsMoved (ahead : Nat) : List Item → List Item
  | [] => []
  | item :: rest => item.moved ahead :: itemsMoved ahead rest

end

@[simp] theorem nodesMoved_eq (ahead : Nat) (nodes : List Node) :
    nodesMoved ahead nodes = nodes.map (Node.moved ahead) := by
  induction nodes with
  | nil => rfl
  | cons node rest ih => rw [nodesMoved, ih, List.map_cons]

@[simp] theorem itemsMoved_eq (ahead : Nat) (items : List Item) :
    itemsMoved ahead items = items.map (Item.moved ahead) := by
  induction items with
  | nil => rfl
  | cons item rest ih => rw [itemsMoved, ih, List.map_cons]

/-- A line of running text further along. -/
def TextLine.moved (ahead : Nat) (row : TextLine) : TextLine :=
  ⟨row.start + ahead, row.cells.map (Cell.moved ahead), row.stop + ahead⟩

/-- An open leaf further along. -/
def Leaf.moved (ahead : Nat) : Leaf → Leaf
  | .idle => .idle
  | .text lines lead columns =>
    .text (lines.map (TextLine.moved ahead)) (lead.map (Span.moved ahead)) columns
  | .underlined paragraph => .underlined (paragraph.map (Span.moved ahead))
  | .fence start opening => .fence (start + ahead) opening
  | .html start stop ending => .html (start + ahead) (stop + ahead) ending
  | .code start stop => .code (start + ahead) (stop + ahead)
  | .table start stop => .table (start + ahead) (stop + ahead)

/-- What a line is, further along. -/
def LineKind.moved (ahead : Nat) : LineKind → LineKind
  | .fence opening start => .fence opening (start + ahead)
  | .heading level content => .heading level (content.map (Cell.moved ahead))
  | kind => kind

/-- What a line makes of the open leaf, further along. -/
def Advance.moved (ahead : Nat) (advance : Advance) : Advance :=
  ⟨advance.ended.map (Node.moved ahead), advance.made.map (Node.moved ahead),
    advance.leaf.moved ahead, advance.interrupting⟩

/-! ## Fences, headings and tables -/

theorem Fence.opened_moved (ahead : Nat) (cells : List Cell) :
    Fence.opened (cells.map (Cell.moved ahead)) =
      (Fence.opened cells).map (Prod.map id (List.map (Cell.moved ahead))) := by
  unfold Fence.opened
  rw [dropIndent_moved]
  match dropIndent cells with
  | none => rfl
  | some [] => rfl
  | some (first :: rest) =>
    have marks := takeWhile_moved ahead (· == first.char) (first :: rest)
    have info := dropWhile_moved ahead (· == first.char) (first :: rest)
    rw [List.map_cons] at marks info
    simp only [Option.map_some, List.map_cons, Cell.moved_char, marks, info, List.length_map,
      List.all_map, Function.comp_def, apply_ite (Option.map _), Option.map_none]
    rfl

theorem Fence.closedBy_moved (ahead : Nat) (fence : Fence) (cells : List Cell) :
    fence.closedBy (cells.map (Cell.moved ahead)) = fence.closedBy cells := by
  unfold Fence.closedBy
  rw [dropIndent_moved]
  cases dropIndent cells with
  | none => rfl
  | some inner =>
    simp only [Option.map_some, takeWhile_moved ahead (· == fence.mark),
      dropWhile_moved ahead (· == fence.mark), List.length_map, allBlank_moved]

theorem contentSpan_moved (ahead : Nat) (cells : List Cell) :
    contentSpan (cells.map (Cell.moved ahead)) = (contentSpan cells).map (Span.moved ahead) := by
  unfold contentSpan
  rw [List.getLast?_map]
  cases cells with
  | nil => rfl
  | cons first rest =>
    cases (first :: rest).getLast? with
    | none => rfl
    | some last =>
      simp only [List.map_cons, Option.map_some, Cell.moved_char, Cell.moved_offset, List.head?_map,
        Option.any_map, Span.moved, Option.some.injEq, Span.mk.injEq]
      omega

theorem markedContent_moved (ahead : Nat) (cells : List Cell) :
    markedContent (cells.map (Cell.moved ahead)) =
      (markedContent cells).map (Cell.moved ahead) := by
  unfold markedContent
  simp only [dropWhile_moved ahead fun c => c == ' ' || c == '#', ← List.map_reverse,
    takeWhile_moved ahead fun c => c == ' ' || c == '#', takeWhile_moved ahead (· == '#'),
    List.map_append]

theorem markedHeading_moved (ahead : Nat) (cells : List Cell) :
    markedHeading (cells.map (Cell.moved ahead)) =
      (markedHeading cells).map (Prod.map id (List.map (Cell.moved ahead))) := by
  unfold markedHeading
  rw [dropIndent_moved]
  cases dropIndent cells with
  | none => rfl
  | some inner =>
    simp only [Option.map_some, takeWhile_moved ahead (· == '#'), dropWhile_moved ahead (· == '#'),
      List.length_map, List.head?_map, Option.all_map, Cell.moved_char,
      markedContent_moved, apply_ite (Option.map _), Option.map_none]
    rfl

theorem underline_moved (ahead : Nat) (cells : List Cell) :
    underline (cells.map (Cell.moved ahead)) = underline cells := by
  unfold underline
  rw [dropIndent_moved]
  match dropIndent cells with
  | none => rfl
  | some [] => rfl
  | some (mark :: rest) =>
    simp only [Option.map_some, List.map_cons, Cell.moved_char,
      dropWhile_moved ahead (· == mark.char), allBlank_moved]
    rfl

theorem headColumns_moved (ahead : Nat) (cells : List Cell) :
    headColumns (cells.map (Cell.moved ahead)) = headColumns cells := by
  unfold headColumns
  rw [dropIndent_moved]
  match dropIndent cells with
  | none => rfl
  | some [] => rfl
  | some (first :: rest) =>
    have same := chars_moved ahead (first :: rest)
    rw [List.map_cons] at same
    simp only [Option.map_some, List.map_cons, Cell.moved_char, same]
    rfl

theorem delimiterColumns_moved (ahead : Nat) (cells : List Cell) :
    delimiterColumns (cells.map (Cell.moved ahead)) = delimiterColumns cells := by
  unfold delimiterColumns
  rw [dropIndent_moved]
  match dropIndent cells with
  | none => rfl
  | some [] => rfl
  | some (first :: rest) =>
    have same := chars_moved ahead (first :: rest)
    rw [List.map_cons] at same
    simp only [Option.map_some, List.map_cons, same]

/-! ## Running text -/

private theorem joinedCells_cons_cons (row next : TextLine) (rows : List TextLine) :
    joinedCells (row :: next :: rows) =
      row.cells ++ ⟨'\n', ⟨row.stop, 0⟩⟩ :: joinedCells (next :: rows) := rfl

theorem joinedCells_moved (ahead : Nat) (rows : List TextLine) :
    joinedCells (rows.map (TextLine.moved ahead)) =
      (joinedCells rows).map (Cell.moved ahead) := by
  induction rows with
  | nil => rfl
  | cons row rows ih =>
    cases rows with
    | nil => rfl
    | cons next rows =>
      rw [List.map_cons] at ih
      rw [List.map_cons, List.map_cons, joinedCells_cons_cons, ih, joinedCells_cons_cons,
        List.map_append, List.map_cons]
      rfl

/-- The definitions that running text begins with are the same wherever it stands. -/
theorem definitionsOf_moved (ahead : Nat) (rows : List TextLine) :
    definitionsOf (rows.map (TextLine.moved ahead)) =
      Prod.map (List.map (Node.moved ahead)) (List.map (TextLine.moved ahead))
        (definitionsOf rows) := by
  induction size : rows.length using Nat.strongRecOn generalizing rows with
  | ind size' ih =>
    cases rows with
    | nil => simp [definitionsOf]
    | cons first more =>
      have joined := joinedCells_moved ahead (first :: more)
      rw [List.map_cons] at joined
      rw [List.map_cons, definitionsOf, definitionsOf]
      dsimp only
      rw [joined, chars_moved]
      cases definition (chars (joinedCells (first :: more))) with
      | none => rfl
      | some rest =>
        dsimp only
        generalize List.count '\n' (chars (joinedCells (first :: more))) - List.count '\n' rest =
          endings
        have shorter : (more.drop endings).length < size' := by
          simp only [← size, List.length_drop, List.length_cons]
          omega
        have later := ih (more.drop endings).length shorter (more.drop endings) rfl
        have last : ((first :: more).map (TextLine.moved ahead))[endings]?.getD
            (first.moved ahead) = ((first :: more)[endings]?.getD first).moved ahead := by
          rw [List.getElem?_map, Option.getD_map]
        rw [List.map_cons] at last
        rw [← List.map_drop, later, last]
        rfl

theorem afterTaskMark_moved (ahead : Nat) (cells : List Cell) :
    afterTaskMark (cells.map (Cell.moved ahead)) = (afterTaskMark cells).map (· + ahead) := by
  match cells with
  | [] => rfl
  | [_] => rfl
  | [_, _] => rfl
  | [_, _, _] => rfl
  | opening :: state :: closing :: next :: rest =>
    simp only [List.map_cons, afterTaskMark, Cell.moved_char, allBlank_moved, Cell.moved_offset,
      apply_ite (Option.map _), Option.map_some, Option.map_none, Nat.add_right_comm]

theorem textNodes_moved (ahead : Nat) (startsItem : Bool) (lead : Option Span)
    (rows : List TextLine) :
    textNodes startsItem (lead.map (Span.moved ahead)) (rows.map (TextLine.moved ahead)) =
      (textNodes startsItem lead rows).map (Node.moved ahead) := by
  unfold textNodes
  rw [definitionsOf_moved]
  generalize definitionsOf rows = parts
  obtain ⟨definitions, rest⟩ := parts
  simp only [Prod.map, List.getLast?_map, joinedCells_moved, afterTaskMark_moved]
  cases ends : rest.getLast? with
  | none => cases lead <;> simp [Node.moved]
  | some last =>
    obtain ⟨row, more, rfl⟩ : ∃ row more, rest = row :: more :=
      List.exists_cons_of_ne_nil fun empty => by simp [empty] at ends
    simp only [Option.map_some, List.map_cons, List.head?_cons, Option.getD_some,
      List.isEmpty_map]
    cases lead with
    | none =>
      simp only [Option.map_none, List.map_append, List.map_cons, List.map_nil, Node.moved]
      cases startsItem && definitions.isEmpty with
      | false => rfl
      | true =>
        cases afterTaskMark (joinedCells (row :: more)) <;> rfl
    | some span =>
      simp only [Option.map_some]
      split
      · rfl
      · simp [Node.moved, TextLine.moved]

theorem underlinedNodes_moved (ahead : Nat) (lead : Option Span) (rows : List TextLine)
    (level stop : Nat) :
    underlinedNodes (lead.map (Span.moved ahead)) (rows.map (TextLine.moved ahead)) level
        (stop + ahead) =
      Prod.map (List.map (Node.moved ahead)) id (underlinedNodes lead rows level stop) := by
  unfold underlinedNodes
  rw [definitionsOf_moved]
  generalize definitionsOf rows = parts
  obtain ⟨definitions, rest⟩ := parts
  simp only [Prod.map]
  cases rest with
  | nil => cases lead <;> simp [Node.moved]
  | cons first more =>
    have joined := joinedCells_moved ahead (first :: more)
    rw [List.map_cons] at joined
    simp only [List.map_cons, joined, dropWhile_moved ahead (· == ' '), trimCells_moved,
      contentSpan_moved, List.isEmpty_map]
    cases lead with
    | none => simp [Node.moved, TextLine.moved]
    | some span =>
      cases definitions.isEmpty <;> simp [Node.moved, TextLine.moved]

/-! ## Leaves -/

theorem Leaf.nodes_moved (ahead : Nat) (startsItem : Bool) (stop : Nat) (leaf : Leaf) :
    (leaf.moved ahead).nodes startsItem (stop + ahead) =
      (leaf.nodes startsItem stop).map (Node.moved ahead) := by
  cases leaf with
  | idle => rfl
  | text lines lead columns =>
    simp only [Leaf.moved, Leaf.nodes, ← List.map_reverse, textNodes_moved]
  | underlined paragraph => cases paragraph <;> rfl
  | fence start opening => rfl
  | html start last ending =>
    simp only [Leaf.moved, Leaf.nodes]
    split <;> rfl
  | code start last => rfl
  | table start last => rfl

@[simp] theorem Leaf.acceptsLazy_moved (ahead : Nat) (leaf : Leaf) :
    (leaf.moved ahead).acceptsLazy = leaf.acceptsLazy := by
  cases leaf <;> rfl

@[simp] theorem Leaf.isOpaque_moved (ahead : Nat) (leaf : Leaf) :
    (leaf.moved ahead).isOpaque = leaf.isOpaque := by
  cases leaf <;> rfl

private theorem tableKind_moved (ahead : Nat) (leaf : Leaf) (here : Situation)
    (cells : List Cell) :
    tableKind (leaf.moved ahead) here (cells.map (Cell.moved ahead)) =
      (tableKind leaf here cells).moved ahead := by
  cases leaf with
  | table start stop =>
    simp only [Leaf.moved, tableKind, headColumns_moved]
    split
    · rfl
    · split <;> rfl
  | _ => simp only [Leaf.moved, tableKind, headColumns_moved, LineKind.moved]

private theorem htmlKind_moved (ahead : Nat) (here : Situation) (cells : List Cell) :
    htmlKind here (cells.map (Cell.moved ahead)) =
      (htmlKind here cells).map (LineKind.moved ahead) := by
  unfold htmlKind
  rw [dropIndent_moved]
  cases dropIndent cells with
  | none => rfl
  | some inner =>
    simp only [Option.map_some, Option.bind_eq_bind, Option.bind_some, chars_moved]
    cases HtmlEnd.opened (here.interrupting && !here.lazy) (chars inner) <;> rfl

private theorem fenceKind_moved (ahead : Nat) (line : Line) (cells : List Cell) :
    fenceKind (line.moved ahead) (cells.map (Cell.moved ahead)) =
      (fenceKind line cells).map (LineKind.moved ahead) := by
  unfold fenceKind
  rw [Fence.opened_moved]
  cases Fence.opened cells with
  | none => rfl
  | some found => simp [LineKind.moved]

private theorem headingKind_moved (ahead : Nat) (cells : List Cell) :
    headingKind (cells.map (Cell.moved ahead)) =
      (headingKind cells).map (LineKind.moved ahead) := by
  unfold headingKind
  rw [markedHeading_moved]
  cases markedHeading cells <;> rfl

private theorem ruleKind_moved (ahead : Nat) (cells : List Cell) :
    ruleKind (cells.map (Cell.moved ahead)) = (ruleKind cells).map (LineKind.moved ahead) := by
  unfold ruleKind
  rw [isRule_moved]
  split <;> rfl

private theorem underlineKind_moved (ahead : Nat) (leaf : Leaf) (here : Situation)
    (cells : List Cell) :
    underlineKind (leaf.moved ahead) here (cells.map (Cell.moved ahead)) =
      (underlineKind leaf here cells).map (LineKind.moved ahead) := by
  unfold underlineKind
  rw [Leaf.acceptsLazy_moved, underline_moved]
  split
  · cases underline cells <;> rfl
  · rfl

private theorem codeKind_moved (ahead : Nat) (here : Situation) (cells : List Cell) :
    codeKind here (cells.map (Cell.moved ahead)) =
      (codeKind here cells).map (LineKind.moved ahead) := by
  unfold codeKind
  rw [takeBlanks_moved, Option.isSome_map]
  split <;> rfl

private theorem getD_moved (ahead : Nat) (found : Option LineKind) (other : LineKind) :
    (found.map (LineKind.moved ahead)).getD (other.moved ahead) =
      (found.getD other).moved ahead := by
  cases found <;> rfl

private theorem orElse_moved (ahead : Nat) (first second : Option LineKind) :
    (first.map (LineKind.moved ahead) <|> second.map (LineKind.moved ahead)) =
      (first <|> second).map (LineKind.moved ahead) := by
  cases first <;> rfl

theorem lineKind_moved (ahead : Nat) (line : Line) (leaf : Leaf) (here : Situation)
    (cells : List Cell) :
    lineKind (line.moved ahead) (leaf.moved ahead) here (cells.map (Cell.moved ahead)) =
      (lineKind line leaf here cells).moved ahead := by
  unfold lineKind
  simp only [List.head?_map, Option.map_map, Function.comp_def, Cell.moved_char, allBlank_moved,
    headingKind_moved, fenceKind_moved, ruleKind_moved, codeKind_moved, htmlKind_moved,
    underlineKind_moved, tableKind_moved, orElse_moved]
  split
  · rfl
  · split
    · exact getD_moved ahead _ (.text none)
    · split
      · exact getD_moved ahead _ (.text none)
      · split
        · exact getD_moved ahead _ (.text none)
        · exact getD_moved ahead _ _

private theorem endsBefore_moved (ahead : Nat) (leaf next : Leaf) (startsItem : Bool)
    (previous : Nat) (made : List Node) (interrupting : Bool) :
    (leaf.moved ahead).endsBefore startsItem (previous + ahead) (made.map (Node.moved ahead))
        (next.moved ahead) interrupting =
      (leaf.endsBefore startsItem previous made next interrupting).moved ahead := by
  unfold Leaf.endsBefore Advance.moved
  rw [Leaf.nodes_moved]

private theorem advanceFresh_moved (ahead : Nat) (line : Line) (startsItem : Bool)
    (previous : Nat) (leaf : Leaf) (here : Situation) (cells : List Cell) :
    advanceFresh (line.moved ahead) startsItem (previous + ahead) (leaf.moved ahead) here
        (cells.map (Cell.moved ahead)) =
      (advanceFresh line startsItem previous leaf here cells).moved ahead := by
  have ends (made : List Node) (next : Leaf) (interrupting : Bool) :=
    endsBefore_moved ahead leaf next startsItem previous made interrupting
  unfold advanceFresh
  dsimp only
  rw [lineKind_moved, Line.offsetOf_moved]
  cases lineKind line leaf here cells with
  | blank => exact ends [] .idle false
  | code => exact ends [] (.code (line.offsetOf cells) line.stop) here.interrupting
  | fence opening start => exact ends [] (.fence start opening) here.interrupting
  | html ending rest =>
    simp only [LineKind.moved]
    split
    · exact ends [.verbatim ⟨line.offsetOf cells, line.stop⟩] .idle false
    · exact ends [] (.html (line.offsetOf cells) line.stop ending) here.interrupting
  | heading level content =>
    simp only [LineKind.moved, contentSpan_moved]
    exact ends [.heading ⟨line.offsetOf cells, line.stop⟩ level (contentSpan content)] .idle false
  | underline level =>
    cases leaf with
    | text lines lead columns =>
      simp only [LineKind.moved, Leaf.moved, Line.moved, ← List.map_reverse, underlinedNodes_moved,
        Advance.moved, Prod.map, id, List.map_nil]
      split <;> rfl
    | _ => exact ends [] (.underlined (some ⟨line.offsetOf cells, line.stop⟩)) false
  | rule => exact ends [.verbatim ⟨line.offsetOf cells, line.stop⟩] .idle false
  | row =>
    cases leaf with
    | table start stop => rfl
    | _ => exact ends [] (.table (line.offsetOf cells) line.stop) here.interrupting
  | text columns =>
    have begins := ends [] (.text [⟨line.offsetOf cells, cells, line.stop⟩] none columns) true
    cases leaf with
    | text lines lead columns' =>
      simp only [LineKind.moved, Leaf.moved]
      split
      · exact begins
      · rfl
    | underlined paragraph =>
      simp only [LineKind.moved, Leaf.moved]
      split
      · exact begins
      · rfl
    | _ => exact begins

theorem Leaf.advance_moved (ahead : Nat) (line : Line) (startsItem : Bool) (previous : Nat)
    (here : Situation) (cells : List Cell) (leaf : Leaf) :
    (leaf.moved ahead).advance (line.moved ahead) startsItem (previous + ahead) here
        (cells.map (Cell.moved ahead)) =
      (leaf.advance line startsItem previous here cells).moved ahead := by
  have fresh (interrupting : Bool) := advanceFresh_moved ahead line startsItem previous leaf
    { here with interrupting := interrupting } cells
  cases leaf with
  | fence start opening =>
    simp only [Leaf.moved, Leaf.advance, Fence.closedBy_moved]
    split
    · exact fresh false
    · split <;> rfl
  | html start last ending =>
    simp only [Leaf.moved, Leaf.advance, allBlank_moved, chars_moved]
    split
    · exact fresh false
    · split <;> rfl
  | code start last =>
    simp only [Leaf.moved, Leaf.advance, allBlank_moved, takeBlanks_moved, Option.isSome_map]
    split
    · exact fresh false
    · split
      · rfl
      · split
        · rfl
        · exact fresh false
  | text lines lead columns =>
    cases lines with
    | nil => exact fresh here.interrupting
    | cons head lines =>
      cases columns with
      | none => exact fresh here.interrupting
      | some columns =>
        simp only [Leaf.moved, List.map_cons, Leaf.advance, delimiterColumns_moved,
          List.isEmpty_map, ← List.map_reverse, textNodes_moved]
        split
        · cases lines.isEmpty with
          | false => rfl
          | true => cases lead <;> rfl
        · exact fresh true
  | _ => exact fresh here.interrupting

end PluginReadme.Markdown
