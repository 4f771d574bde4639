import PluginReadme.Config.Json
import PluginReadme.Proofs.Json.Skipping

/-! The value of a field as it is written: a string, or a list of strings. It is read back, whatever
blanks and escapes it is written with. -/
namespace PluginReadme.FieldText
open Json Config JsonText

variable {text rest blanks value expected : Text} {paths : List Text} {first : Bool}

/-- What a field holds. -/
def Held : Field → Type
  | .readmeMd | .changelogMd | .readmeTxt | .stableTag | .versionKey => Text
  | .styleFiles | .phpFiles => List Text

/-- The value of a field. -/
def get (config : Config) : (field : Field) → Held field
  | .readmeMd => config.readmeMd
  | .changelogMd => config.changelogMd
  | .readmeTxt => config.readmeTxt
  | .stableTag => config.stableTag
  | .versionKey => config.versionKey
  | .styleFiles => config.styleFiles
  | .phpFiles => config.phpFiles

/-- A configuration with another value of a field. -/
def set (config : Config) : (field : Field) → Held field → Config
  | .readmeMd, path => { config with readmeMd := path }
  | .changelogMd, path => { config with changelogMd := path }
  | .readmeTxt, path => { config with readmeTxt := path }
  | .stableTag, label => { config with stableTag := label }
  | .versionKey, label => { config with versionKey := label }
  | .styleFiles, paths => { config with styleFiles := paths }
  | .phpFiles, paths => { config with phpFiles := paths }

@[simp] theorem get_set (config : Config) (field : Field) (held : Held field) :
    get (set config field held) field = held := by
  cases field <;> rfl

theorem get_set_ne {field other : Field} (different : other ≠ field) (config : Config)
    (held : Held field) : get (set config field held) other = get config other := by
  cases field <;> cases other <;> first | rfl | exact absurd rfl different

/-- A list of strings as it is written. -/
def ListText (paths : List Text) (text : Text) : Prop :=
  Enclosed '[' ']' (fun path => Spaced (StringText path)) paths text

/-- The value of a field as it is written. -/
def HeldText : (field : Field) → Held field → Text → Prop
  | .readmeMd, value, text | .changelogMd, value, text | .readmeTxt, value, text
  | .stableTag, value, text | .versionKey, value, text => StringText value text
  | .styleFiles, paths, text | .phpFiles, paths, text => ListText paths text

/-- What stands in front of an item that is the first one or a later one. -/
def lead (first : Bool) : Text := if first then [] else [',']

/-! ## Strings -/

/-- A string begins with its quote, behind the blanks. -/
theorem spaced_quote (spaced : Spaced (StringText value) text) :
    ∃ more, ∀ rest, skipSpace (text ++ rest) = '"' :: (more ++ rest) := by
  obtain ⟨before, inner, after, ahead, ⟨body, -, rfl⟩, -, rfl⟩ := spaced
  refine ⟨body ++ ['"'] ++ after, fun rest => ?_⟩
  rw [List.append_assoc, skipSpace_blanks ahead]
  exact skipSpace_solid rfl _

theorem readString_read (spaced : Spaced (StringText value) text) (expected rest : Text) :
    ∃ after, Blanks after ∧ readString expected (text ++ rest) = .ok (value, after ++ rest) := by
  obtain ⟨before, inner, after, ahead, ⟨body, escaped, rfl⟩, behind, rfl⟩ := spaced
  refine ⟨after, behind, ?_⟩
  have shape : before ++ ('"' :: body ++ ['"'] ++ after) ++ rest =
      before ++ ('"' :: (body ++ '"' :: (after ++ rest))) := by simp
  rw [shape, readString, skipSpace_blanks ahead, skipSpace_solid rfl]
  exact escaped.read (after ++ rest)

theorem readString_space (expected text : Text) :
    readString expected (skipSpace text) = readString expected text := by
  rw [readString, readString, skipSpace_twice]

/-! ## Lists -/

theorem nextElement_read (spaced : Spaced (StringText value) text) (first : Bool) (rest : Text) :
    nextElement first (lead first ++ (text ++ rest)) = .ok (some (skipSpace (text ++ rest))) := by
  obtain ⟨more, start⟩ := spaced_quote spaced
  cases first with
  | true =>
    rw [lead, if_pos rfl, List.nil_append, nextElement, start]
    rfl
  | false =>
    rw [lead, if_neg (by decide), List.singleton_append, nextElement, skipSpace_solid rfl]
    simp [start]

theorem nextElement_space (first : Bool) (text : Text) :
    nextElement first (skipSpace text) = nextElement first text := by
  rw [nextElement, nextElement, skipSpace_twice]

theorem readPaths_space (first : Bool) (text : Text) :
    readPaths first (skipSpace text) = readPaths first text := by
  rw [readPaths, readPaths, nextElement_space]
  simp only [closeList, skipSpace_twice]

theorem readPaths_blanks (blank : Blanks blanks) (first : Bool) (text : Text) :
    readPaths first (blanks ++ text) = readPaths first text := by
  rw [← readPaths_space, skipSpace_blanks blank, readPaths_space]

theorem readPaths_end (first : Bool) (rest : Text) :
    readPaths first (']' :: rest) = .ok ([], rest) := by
  have next : nextElement first (']' :: rest) = .ok none := by
    rw [nextElement, skipSpace_solid rfl]
    rfl
  have close : closeList (']' :: rest) = .ok rest := by
    rw [closeList, skipSpace_solid rfl]
    rfl
  rw [readPaths, next]
  simp only
  rw [close]
  rfl

/-- One path of a list is read, with what is in front of it. -/
theorem readPaths_path (spaced : Spaced (StringText value) text) (first : Bool) (rest : Text) :
    readPaths first (lead first ++ (text ++ rest)) =
      (readPaths false rest).map fun (paths, rest) => (value :: paths, rest) := by
  have next := nextElement_read spaced first rest
  obtain ⟨after, behind, taken⟩ := readString_read spaced "path string".toList rest
  rw [readPaths, next]
  simp only
  rw [readPath, readString_space, taken]
  simp only
  rw [readPaths_blanks behind]

theorem readPaths_read (row : Row (fun path => Spaced (StringText path)) paths text)
    (first : Bool) (rest : Text) :
    readPaths first (lead first ++ (text ++ ']' :: rest)) = .ok (paths, rest) := by
  induction row generalizing first with
  | last here =>
    rw [readPaths_path here, readPaths_end]
    rfl
  | @more _ paths _ later here _ ih =>
    have follows : readPaths false (',' :: later ++ ']' :: rest) = .ok (paths, rest) := ih false
    rw [List.append_assoc, readPaths_path here, follows]
    rfl

theorem readPathList_read (spaced : Spaced (ListText paths) text) (rest : Text) :
    ∃ after, Blanks after ∧ readPathList (text ++ rest) = .ok (paths, after ++ rest) := by
  obtain ⟨before, inner, after, ahead, ⟨items, rfl, written⟩, behind, rfl⟩ := spaced
  refine ⟨after, behind, ?_⟩
  have shape : before ++ ('[' :: items ++ [']'] ++ after) ++ rest =
      before ++ ('[' :: (items ++ ']' :: (after ++ rest))) := by simp
  rw [shape, readPathList, skipSpace_blanks ahead, skipSpace_solid rfl]
  rcases written with ⟨rfl, blank⟩ | row
  · exact (readPaths_blanks blank true _).trans (readPaths_end true _)
  · exact readPaths_read row true (after ++ rest)

/-! ## Fields -/

/-- The value of any field is read, and it is the only one that changes. -/
theorem readField_read {field : Field} {held : Held field}
    (spaced : Spaced (HeldText field held) text) (draft : Draft) (rest : Text) :
    ∃ after, Blanks after ∧ draft.readField field (text ++ rest) =
      .ok (⟨set draft.config field held, field :: draft.given⟩, after ++ rest) := by
  cases field with
  | readmeMd | changelogMd | readmeTxt =>
    obtain ⟨after, behind, read⟩ := readString_read spaced "path string".toList rest
    refine ⟨after, behind, ?_⟩
    rw [Draft.readField, readPath, read]
    rfl
  | stableTag | versionKey =>
    obtain ⟨after, behind, read⟩ := readString_read spaced "a string".toList rest
    refine ⟨after, behind, ?_⟩
    rw [Draft.readField, read]
    rfl
  | styleFiles | phpFiles =>
    obtain ⟨after, behind, read⟩ := readPathList_read spaced rest
    refine ⟨after, behind, ?_⟩
    rw [Draft.readField, read]
    rfl

end PluginReadme.FieldText
