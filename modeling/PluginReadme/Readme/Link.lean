import PluginReadme.Text.Blank

/-!
Inline links.  A plugin readme has no links with a text of their own, so `[text](url)` becomes
`text (url)`.  The text holds no bracket, the address no closing parenthesis, and neither is empty.
-/

namespace PluginReadme.Readme

/-- A link, without its brackets. -/
structure Link where
  text : Text
  url : Text
  deriving DecidableEq, Repr

/-- Whether a character may stand in the text of a link. -/
def isLinkText (c : Char) : Bool := c != '[' && c != ']'

/-- Whether a character may stand in the address of a link. -/
def isLinkUrl (c : Char) : Bool := c != ')'

/-- Reads the rest of a link after its opening bracket. -/
def Link.afterBracket (input : Text) : Option (Link × Text) :=
  match input.dropWhile isLinkText with
  | ']' :: '(' :: rest =>
    match rest.dropWhile isLinkUrl with
    | ')' :: rest' =>
      let link : Link := ⟨input.takeWhile isLinkText, rest.takeWhile isLinkUrl⟩
      if link.text.isEmpty || link.url.isEmpty then none else some (link, rest')
    | _ => none
  | _ => none

/-- The form of a link in a plugin readme. -/
def Link.render (link : Link) : Text := link.text ++ " (".toList ++ link.url ++ [')']

theorem Link.length_afterBracket {input rest : Text} {link : Link}
    (h : Link.afterBracket input = some (link, rest)) : rest.length < input.length := by
  unfold Link.afterBracket at h
  split at h
  · rename_i more hmore
    split at h
    · rename_i rest' hrest
      simp only [Option.ite_none_left_eq_some] at h
      obtain ⟨-, h⟩ := h
      cases h
      have first := (List.dropWhile_suffix isLinkText (l := input)).length_le
      have second := (List.dropWhile_suffix isLinkUrl (l := more)).length_le
      rw [hmore] at first
      rw [hrest] at second
      simp at first second
      omega
    · cases h
  · cases h

/-- Rewrites the links of a text in one pass from left to right.  What a link is rewritten to is
not looked at again. -/
def renderLinks : Text → Text
  | [] => []
  | c :: rest =>
    if c = '[' then
      match _taken : Link.afterBracket rest with
      | some (link, rest') => link.render ++ renderLinks rest'
      | none => c :: renderLinks rest
    else c :: renderLinks rest
termination_by text => text.length
decreasing_by
  · have := Link.length_afterBracket _taken; simp; omega
  · simp
  · simp

end PluginReadme.Readme
