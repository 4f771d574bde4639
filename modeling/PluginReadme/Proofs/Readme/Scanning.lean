import PluginReadme.Proofs.Readme.LinkPattern

/-! Links by way of a scan. A scanner goes from left to right and looks from each opening bracket for
the next bracket and then for the next closing parenthesis; it makes of a text what the replacement
of all matches of the pattern makes of it. -/
namespace PluginReadme.Scanning
open Pattern Numeral LinkForm LinkPattern
open Readme (Link renderLinks isLinkText isLinkUrl)

variable {text url out front back rest : Text} {c : Char} {place size : Nat}

/-! ## The scanner -/

/-- The text and the address of a link behind its opening bracket, and how many characters they take
with the marks around them: the next bracket closes, some text stands in front of it and a
parenthesis behind it, and an address is in front of the next closing parenthesis. -/
def linkAhead (rest : Text) : Option (Text × Text × Nat) := do
  let bracket ← rest.findIdx? isBracket
  let behind := rest.drop (bracket + 2)
  let parenthesis ← behind.findIdx? (· == ')')
  if rest[bracket]? = some ']' ∧ 1 ≤ bracket ∧ rest[bracket + 1]? = some '(' ∧ 1 ≤ parenthesis then
    some (rest.take bracket, behind.take parenthesis, bracket + 2 + (parenthesis + 1))
  else none

/-- Goes through a text; so many characters at its start belong to a link that has been written. -/
def scanFrom : Nat → Text → Text
  | _, [] => []
  | passed + 1, _ :: rest => scanFrom passed rest
  | 0, c :: rest =>
    match if c = '[' then linkAhead rest else none with
    | some (text, url, size) => text ++ " (".toList ++ url ++ ")".toList ++ scanFrom size rest
    | none => c :: scanFrom 0 rest

/-- Rewrites the links of a text in a single scan. -/
def scan (text : Text) : Text := scanFrom 0 text

/-! ## What is found ahead -/

/-- The first place of a kind is where the text parts at a character of that kind. -/
theorem findIdx?_iff {kind : Char → Bool} : text.findIdx? kind = some place ↔
    ∃ front c back, text = front ++ c :: back ∧ front.length = place ∧ kind c = true ∧
      ∀ d ∈ front, kind d = false := by
  constructor
  · intro found
    obtain ⟨inside, here, earlier⟩ := List.findIdx?_eq_some_iff_getElem.mp found
    refine ⟨text.take place, text[place], text.drop (place + 1), by simp,
      List.length_take_of_le (Nat.le_of_lt inside), here, ?_⟩
    intro d member
    obtain ⟨index, bound, rfl⟩ := List.mem_take_iff_getElem.mp member
    simpa using earlier index (Nat.lt_of_lt_of_le bound (Nat.min_le_left ..))
  · rintro ⟨front, c, back, rfl, rfl, here, earlier⟩
    rw [List.findIdx?_append, List.findIdx?_eq_none_iff.mpr earlier]
    simp [List.findIdx?_cons, here]

private theorem behind_marks (front back : Text) :
    (front ++ ']' :: '(' :: back).drop (front.length + 2) = back := by
  simp [← List.drop_drop]

/-- What is found ahead is a link whose parts can be told apart. -/
theorem link_of_ahead (ahead : linkAhead rest = some (text, url, size)) :
    Proper ⟨text, url⟩ ∧ ∃ after, rest = text ++ ']' :: '(' :: (url ++ ')' :: after) := by
  simp only [linkAhead, Option.bind_eq_bind, Option.bind_eq_some_iff] at ahead
  obtain ⟨bracket, first, parenthesis, second, taken⟩ := ahead
  split at taken
  · rename_i marks
    obtain ⟨closing, filled, opening, filled'⟩ := marks
    obtain ⟨front, c, more, rfl, rfl, -, plain⟩ := findIdx?_iff.mp first
    obtain rfl : c = ']' := by simpa using closing
    obtain ⟨more, rfl⟩ : ∃ later, more = '(' :: later := by
      cases more with
      | nil => simp at opening
      | cons d later => exact ⟨later, by simpa using opening⟩
    rw [behind_marks] at second taken
    obtain ⟨address, d, after, rfl, rfl, last, unclosed⟩ := findIdx?_iff.mp second
    obtain rfl : d = ')' := by simpa using last
    rw [List.take_left, List.take_left] at taken
    cases taken
    refine ⟨⟨fun d member => isLinkText_iff.mpr (plain d member), List.length_pos_iff.mp filled,
      fun d member => ?_, List.length_pos_iff.mp filled'⟩, after, rfl⟩
    simpa [isLinkUrl] using unclosed d member
  · cases taken

/-- A link whose parts can be told apart is found ahead, up to its closing parenthesis. -/
theorem ahead_of_link (proper : Proper ⟨text, url⟩) (after : Text) :
    linkAhead (text ++ ']' :: '(' :: (url ++ ')' :: after)) =
      some (text, url, (text ++ ']' :: '(' :: (url ++ [')'])).length) := by
  have plain (d : Char) (member : d ∈ text) : isBracket d = false :=
    isLinkText_iff.mp (proper.text d member)
  have unclosed (d : Char) (member : d ∈ url) : (d == ')') = false := by
    simpa [isLinkUrl] using proper.url d member
  have first : (text ++ ']' :: '(' :: (url ++ ')' :: after)).findIdx? isBracket =
      some text.length := findIdx?_iff.mpr ⟨text, ']', _, rfl, rfl, rfl, plain⟩
  have second : (url ++ ')' :: after).findIdx? (· == ')') = some url.length :=
    findIdx?_iff.mpr ⟨url, ')', after, rfl, rfl, rfl, unclosed⟩
  have filled := List.length_pos_iff.mpr proper.textFilled
  have filled' := List.length_pos_iff.mpr proper.urlFilled
  have size : text.length + 2 + (url.length + 1) =
      (text ++ ']' :: '(' :: (url ++ [')'])).length := by
    simp only [List.length_append, List.length_cons, List.length_nil]
    omega
  simp only [linkAhead, first, behind_marks, second, Option.bind_eq_bind, Option.bind_some]
  rw [if_pos ⟨by simp, filled, by simp, filled'⟩, List.take_left, List.take_left, size]

/-! ## The scan of a text -/

theorem scanFrom_skip (front back : Text) : scanFrom front.length (front ++ back) = scan back := by
  induction front with
  | nil => rfl
  | cons c front ih => exact ih

theorem scan_pass {links : List Link} (pass : Pass links text out) : out = scan text := by
  induction pass with
  | done => rfl
  | @keep links rest out c bare onward ih =>
    have nothing : (if c = '[' then linkAhead rest else none) = none := by
      split
      · rename_i bracket
        by_contra some
        obtain ⟨⟨text, url, size⟩, ahead⟩ := Option.ne_none_iff_exists'.mp some
        obtain ⟨proper, after, split⟩ := link_of_ahead ahead
        refine bare ⟨⟨text, url⟩, after, proper, ?_⟩
        rw [source_append, bracket, split]
      · rfl
    rw [ih, scan, scan, scanFrom, nothing]
  | @link links link rest out proper onward ih =>
    have ahead := ahead_of_link proper rest
    have skipped := scanFrom_skip (link.text ++ ']' :: '(' :: (link.url ++ [')'])) rest
    simp only [List.append_assoc, List.cons_append, List.nil_append] at skipped
    rw [source_append, scan, scanFrom, if_pos rfl, ahead, ih]
    simp only [skipped]
    simp [Link.render]

/-- The links of a text are rewritten as by replacing all matches of the pattern of a link from left
to right, each by the text of its first group and that of its second one in parentheses, and as by
a single scan. -/
theorem links_are_scanned (text : Text) :
    ((tokens linkExpression).bind (parseTokens .initial)).map Parsed.pattern = some linkPattern ∧
    (∀ out, Replaced (Cursor.atStart text) out ↔ out = renderLinks text) ∧
    renderLinks text = scan text := by
  obtain ⟨links, pass⟩ := exists_pass text
  exact ⟨linkPattern_read, fun out => replaced_iff, scan_pass pass⟩

example : renderLinks "[[$1]($2)](b) [](c) [d](".toList = "[$1 ($2)](b) [](c) [d](".toList := by cbv

end PluginReadme.Scanning
