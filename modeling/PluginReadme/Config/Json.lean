import PluginReadme.Config.Basic
import PluginReadme.Json.Value

/-!
Reading a configuration from JSON: an object with the names of the fields, or a list of the values
in their order.  What is missing keeps its standard value, names of no field are skipped, and no
field is given twice.
-/

namespace PluginReadme.Config

open Json

/-- A field of a configuration. -/
inductive Field where
  | readmeMd
  | changelogMd
  | readmeTxt
  | stableTag
  | versionKey
  | styleFiles
  | phpFiles
  deriving DecidableEq, Repr

namespace Field

/-- The fields in the order of a list. -/
def all : List Field :=
  [readmeMd, changelogMd, readmeTxt, stableTag, versionKey, styleFiles, phpFiles]

/-- The name of a field. -/
def name : Field → Text
  | readmeMd => "readmeMdPath".toList
  | changelogMd => "changelogMdPath".toList
  | readmeTxt => "readmeTxtPath".toList
  | stableTag => "stableTagPattern".toList
  | versionKey => "versionReplacementPattern".toList
  | styleFiles => "styleFiles".toList
  | phpFiles => "phpFiles".toList

/-- The field with a name. -/
def ofName? (name : Text) : Option Field := all.find? (·.name == name)

end Field

/-- Reads a string; `expected` says what it is asked for as. -/
def readString (expected text : Text) : Except Failure (Text × Text) :=
  match skipSpace text with
  | [] => failHere (.unfinished .value) []
  | c :: rest => if c == '"' then stringText rest else refuse expected c rest

/-- Reads a path. -/
def readPath (text : Text) : Except Failure (Text × Text) := readString "path string".toList text

/-- Goes to the next element of a list, if there is one. -/
def nextElement (first : Bool) (text : Text) : Except Failure (Option Text) :=
  match skipSpace text with
  | [] => failHere (.unfinished .list) []
  | ']' :: _ => .ok none
  | c :: rest =>
    if first then .ok (some (c :: rest))
    else if c == ',' then
      match skipSpace rest with
      | [] => failHere (.unfinished .value) []
      | ']' :: rest => failNext .trailingComma (']' :: rest)
      | rest => .ok (some rest)
    else failNext .noCommaOrBracket (c :: rest)

/-- Closes a list. -/
def closeList (text : Text) : Except Failure Text :=
  match skipSpace text with
  | [] => failHere (.unfinished .list) []
  | ']' :: rest => .ok rest
  | ',' :: rest =>
    match skipSpace rest with
    | ']' :: rest => failNext .trailingComma (']' :: rest)
    | rest => failNext .trailingText rest
  | rest => failNext .trailingText rest

/-- A refused value is never read. -/
private theorem refuse_ne_ok {expected rest : Text} {c : Char} {found : α} :
    refuse expected c rest ≠ .ok found := by
  unfold refuse
  intro h
  split at h
  case h_1 | h_2 | h_3 =>
    generalize skipWord _ rest = word at h
    cases word <;> cases h
  case h_4 =>
    generalize numberFound true rest = number at h
    cases number <;> cases h
  case h_5 =>
    generalize stringText rest = string at h
    cases string <;> cases h
  case h_6 | h_7 => cases h
  case h_8 =>
    split at h
    · generalize numberFound false _ = number at h
      cases number <;> cases h
    · cases h

/-- A string takes at least one character. -/
theorem length_readString {expected text rest found : Text}
    (h : readString expected text = .ok (found, rest)) : rest.length < text.length := by
  unfold readString at h
  have spaces := length_skipSpace text
  split at h
  · cases h
  · rename_i c after start
    rw [start, List.length_cons] at spaces
    split at h
    · have := length_stringText h
      omega
    · exact absurd h refuse_ne_ok

private theorem length_nextElement {first : Bool} {text rest : Text}
    (h : nextElement first text = .ok (some rest)) : rest.length ≤ text.length := by
  unfold nextElement at h
  have spaces := length_skipSpace text
  split at h
  · cases h
  · cases h
  · rename_i c after _ start
    have more := length_skipSpace after
    rw [start, List.length_cons] at spaces
    split at h
    · cases h
      simp only [List.length_cons]
      omega
    · split at h
      · split at h <;> cases h
        omega
      · cases h

private theorem length_closeList {text rest : Text} (h : closeList text = .ok rest) :
    rest.length < text.length := by
  unfold closeList at h
  have spaces := length_skipSpace text
  split at h
  · cases h
  · rename_i after start
    cases h
    rw [start, List.length_cons] at spaces
    omega
  · split at h <;> cases h
  · cases h

/-- Reads the elements of a list of paths, up to its closing bracket. -/
def readPaths (first : Bool) (text : Text) : Except Failure (List Text × Text) :=
  match _next : nextElement first text with
  | .error failure => .error failure
  | .ok none => (closeList text).map fun rest => ([], rest)
  | .ok (some element) =>
    match _taken : readPath element with
    | .error failure => .error failure
    | .ok (path, rest) => (readPaths false rest).map fun (paths, rest) => (path :: paths, rest)
termination_by text.length
decreasing_by
  have := length_nextElement _next
  have := length_readString _taken
  omega

/-- Reads a list of paths. -/
def readPathList (text : Text) : Except Failure (List Text × Text) :=
  match skipSpace text with
  | [] => failHere (.unfinished .value) []
  | c :: rest => if c == '[' then readPaths true rest else refuse "a sequence".toList c rest

private theorem length_readPaths {first : Bool} {text rest : Text} {paths : List Text}
    (h : readPaths first text = .ok (paths, rest)) : rest.length ≤ text.length := by
  fun_induction readPaths first text generalizing paths with
  | case1 => cases h
  | case2 first text next =>
    cases close : closeList text with
    | error => simp [close, Except.map] at h
    | ok after =>
      have := length_closeList close
      simp only [close, Except.map, Except.ok.injEq, Prod.mk.injEq] at h
      obtain ⟨_, rfl⟩ := h
      omega
  | case3 => cases h
  | case4 first text element next path after taken ih =>
    have := length_nextElement next
    have := length_readString taken
    cases more : readPaths false after with
    | error => simp [more, Except.map] at h
    | ok read =>
      simp only [more, Except.map, Except.ok.injEq, Prod.mk.injEq] at h
      have := ih (show readPaths false after = .ok (read.1, rest) by rw [more, ← h.2])
      omega

private theorem length_readPathList {text rest : Text} {paths : List Text}
    (h : readPathList text = .ok (paths, rest)) : rest.length ≤ text.length := by
  unfold readPathList at h
  have spaces := length_skipSpace text
  split at h
  · cases h
  · rename_i c after start
    rw [start, List.length_cons] at spaces
    split at h
    · have := length_readPaths h
      omega
    · exact absurd h refuse_ne_ok

/-- A configuration that is being read, and the fields that it was given. -/
structure Draft where
  config : Config
  given : List Field
  deriving DecidableEq, Repr

/-- Sets a field to a value that was read. -/
def Draft.setRead (draft : Draft) (field : Field) (set : α → Config)
    (read : Except Failure (α × Text)) : Except Failure (Draft × Text) :=
  read.map fun (value, rest) => (⟨set value, field :: draft.given⟩, rest)

/-- Reads the value of a field. -/
def Draft.readField (draft : Draft) (field : Field) (text : Text) :
    Except Failure (Draft × Text) :=
  let config := draft.config
  let path (set : Text → Config) := draft.setRead field set (readPath text)
  let label (set : Text → Config) := draft.setRead field set (readString "a string".toList text)
  let paths (set : List Text → Config) := draft.setRead field set (readPathList text)
  match field with
  | .readmeMd => path fun path => { config with readmeMd := path }
  | .changelogMd => path fun path => { config with changelogMd := path }
  | .readmeTxt => path fun path => { config with readmeTxt := path }
  | .stableTag => label fun label => { config with stableTag := label }
  | .versionKey => label fun label => { config with versionKey := label }
  | .styleFiles => paths fun paths => { config with styleFiles := paths }
  | .phpFiles => paths fun paths => { config with phpFiles := paths }

private theorem read_of_setRead {draft after : Draft} {field : Field} {set : α → Config}
    {read : Except Failure (α × Text)} {rest : Text}
    (h : draft.setRead field set read = .ok (after, rest)) : ∃ value, read = .ok (value, rest) := by
  cases read with
  | error => simp [Draft.setRead, Except.map] at h
  | ok found =>
    simp only [Draft.setRead, Except.map, Except.ok.injEq, Prod.mk.injEq] at h
    exact ⟨found.1, by rw [← h.2]⟩

private theorem length_readField {draft after : Draft} {field : Field} {text rest : Text}
    (h : draft.readField field text = .ok (after, rest)) : rest.length ≤ text.length := by
  have string {expected : Text} {set : Text → Config}
      (h : draft.setRead field set (readString expected text) = .ok (after, rest)) :
      rest.length ≤ text.length := by
    obtain ⟨_, read⟩ := read_of_setRead h
    exact Nat.le_of_lt (length_readString read)
  have list {set : List Text → Config}
      (h : draft.setRead field set (readPathList text) = .ok (after, rest)) :
      rest.length ≤ text.length := by
    obtain ⟨_, read⟩ := read_of_setRead h
    exact length_readPathList read
  unfold Draft.readField readPath at h
  cases field <;> simp only at h
  case styleFiles | phpFiles => exact list h
  all_goals exact string h

/-- Reads the fields of a list in their order; those that the list does not reach keep their
values. -/
def Draft.readElements (draft : Draft) (first : Bool) :
    List Field → Text → Except Failure (Draft × Text)
  | [], text => .ok (draft, text)
  | field :: fields, text => do
    match ← nextElement first text with
    | none => return (draft, text)
    | some element =>
      let (draft, rest) ← draft.readField field element
      draft.readElements false fields rest

/-- Goes to the next key of an object, after its opening quote, if there is one. -/
def nextKey (first : Bool) (text : Text) : Except Failure (Option Text) :=
  match skipSpace text with
  | [] => failHere (.unfinished .object) []
  | '\x7d' :: _ => .ok none
  | c :: rest =>
    if c == ',' && !first then
      match skipSpace rest with
      | [] => failHere (.unfinished .value) []
      | '"' :: rest => .ok (some rest)
      | '\x7d' :: rest => failNext .trailingComma ('\x7d' :: rest)
      | rest => failNext .keyNotString rest
    else if !first then failNext .noCommaOrBrace (c :: rest)
    else if c == '"' then .ok (some rest)
    else failNext .keyNotString (c :: rest)

/-- Reads the colon after a key. -/
def afterColon (text : Text) : Except Failure Text :=
  match skipSpace text with
  | [] => failHere (.unfinished .object) []
  | c :: rest => if c == ':' then .ok rest else failNext .noColon (c :: rest)

/-- Reads the value of a key; one that is the name of no field is skipped. -/
def Draft.readEntry (draft : Draft) (key text : Text) : Except Failure (Draft × Text) :=
  match Field.ofName? key with
  | none => do return (draft, ← skipValue (← afterColon text))
  | some field =>
    if draft.given.contains field then
      -- The object is left, with its closing brace if that comes next.
      let rest := skipSpace text
      if rest.head? == some '\x7d' then failNext (.repeatedField key) rest
      else failHere (.repeatedField key) rest
    else do draft.readField field (← afterColon text)

private theorem length_afterColon {text rest : Text} (h : afterColon text = .ok rest) :
    rest.length < text.length := by
  unfold afterColon at h
  have spaces := length_skipSpace text
  split at h
  · cases h
  · rename_i c after start
    rw [start, List.length_cons] at spaces
    split at h <;> cases h
    omega

private theorem length_readEntry {draft after : Draft} {key text rest : Text}
    (h : draft.readEntry key text = .ok (after, rest)) : rest.length ≤ text.length := by
  unfold Draft.readEntry at h
  split at h
  · cases colon : afterColon text with
    | error => simp [colon, bind, Except.bind] at h
    | ok value =>
      have := length_afterColon colon
      cases skipped : skipValue value with
      | error => simp [colon, skipped, bind, Except.bind] at h
      | ok behind =>
        have := length_skipValue skipped
        simp only [colon, skipped, bind, Except.bind, pure, Except.pure, Except.ok.injEq,
          Prod.mk.injEq] at h
        obtain ⟨_, rfl⟩ := h
        omega
  · split at h
    · simp only at h
      split at h <;> cases h
    · cases colon : afterColon text with
      | error => simp [colon, bind, Except.bind] at h
      | ok value =>
        have := length_afterColon colon
        simp only [colon, bind, Except.bind] at h
        have := length_readField h
        omega

private theorem length_nextKey {first : Bool} {text rest : Text}
    (h : nextKey first text = .ok (some rest)) : rest.length < text.length := by
  unfold nextKey at h
  have spaces := length_skipSpace text
  split at h
  · cases h
  · cases h
  · rename_i c after _ start
    have more := length_skipSpace after
    rw [start, List.length_cons] at spaces
    split at h
    · split at h
      · cases h
      · rename_i key quote
        cases h
        rw [quote, List.length_cons] at more
        omega
      · cases h
      · cases h
    · split at h
      · cases h
      · split at h <;> cases h
        omega

/-- Reads the entries of an object, up to its closing brace. -/
def Draft.readEntries (draft : Draft) (first : Bool) (text : Text) :
    Except Failure (Draft × Text) :=
  match _next : nextKey first text with
  | .error failure => .error failure
  | .ok none => .ok (draft, (skipSpace text).drop 1)
  | .ok (some start) =>
    match _key : stringText start with
    | .error failure => .error failure
    | .ok (key, rest) =>
      match _taken : draft.readEntry key rest with
      | .error failure => .error failure
      | .ok (draft, rest) => draft.readEntries false rest
termination_by text.length
decreasing_by
  have := length_nextKey _next
  have := length_stringText _key
  have := length_readEntry _taken
  omega

/-- Reads a configuration and what follows it. -/
def readConfig (text : Text) : Except Failure (Config × Text) :=
  match skipSpace text with
  | [] => failHere (.unfinished .value) []
  | c :: rest =>
    let draft : Draft := ⟨standard, []⟩
    if c == '[' then do
      let (draft, rest) ← draft.readElements true Field.all rest
      return (draft.config, ← closeList rest)
    else if c == '\x7b' then do
      let (draft, rest) ← draft.readEntries true rest
      return (draft.config, rest)
    else refuse "struct MdwpConfig".toList c rest

/-- The configuration that a JSON text holds; nothing but blanks may follow it. -/
def ofJson (source : Text) : Except Failure Config := do
  let (config, rest) ← readConfig source
  match skipSpace rest with
  | [] => return config
  | rest => failNext .trailingText rest

end PluginReadme.Config
