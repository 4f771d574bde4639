import PluginReadme.Text.Blank

/-!
The lines of a text.  A line feed ends a line, and a carriage return right before it belongs to
the ending; a text that stops without a line feed has a last line all the same.
-/

namespace PluginReadme.Text

/-- The lines of a text, without their endings. -/
def lines : Text → List Text
  | [] => []
  | '\n' :: rest => [] :: lines rest
  | '\r' :: '\n' :: rest => [] :: lines rest
  | c :: rest =>
    match lines rest with
    | [] => [[c]]
    | line :: more => (c :: line) :: more

/-- Texts in a row, with a separator between neighbours. -/
def join (separator : Text) (parts : List Text) : Text := List.intercalate separator parts

/-- One line out of many: each line trimmed, empty ones dropped, the rest set apart by spaces. -/
def joinLines (text : Text) : Text :=
  join [' '] (((lines text).map trim).filter (! ·.isEmpty))

/-- How many line feeds a text holds. -/
def lineFeeds (text : Text) : Nat := text.count '\n'

end PluginReadme.Text
