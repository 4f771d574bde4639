import PluginReadme.Proofs.Config.FieldText

/-! A configuration is read back from any object that it is written in: the fields in any order,
with any blanks and escapes, and with entries of other names between them. A field that is given
twice is refused. -/
namespace PluginReadme.Reading
open Json Config JsonText FieldText Numeral

variable {text rest blanks name key element : Text} {draft : Draft} {field : Field}

/-! ## Objects -/

/-- An entry of an object: a field with its value, or a name of no field with any value. -/
inductive Entry where
  | known (field : Field) (held : Held field)
  | unknown (name : Text)

/-- The field of an entry. -/
def Entry.field? : Entry → Option Field
  | known field _ => some field
  | unknown _ => none

/-- The fields of some entries, in their order. -/
def fieldsOf (entries : List Entry) : List Field := entries.filterMap Entry.field?

/-- An entry as it is written. -/
def Entry.Written : Entry → Text → Prop
  | known field held, text => EntryText field.name (HeldText field held) text
  | unknown name, text =>
    (∀ field : Field, field.name ≠ name) ∧ EntryText name (JsonText.Written .value) text

/-- An object as it is written, with blanks around it. -/
def ObjectText (entries : List Entry) (text : Text) : Prop :=
  Spaced (Enclosed '\x7b' '\x7d' Entry.Written entries) text

/-- A draft with an entry taken into it. -/
def take (draft : Draft) : Entry → Draft
  | .known field held => ⟨set draft.config field held, field :: draft.given⟩
  | .unknown _ => draft

variable {entries : List Entry} {entry : Entry}

/-! ## One entry -/

theorem ofName_name (field : Field) : Field.ofName? field.name = some field := by
  cases field <;> decide

theorem ofName_unknown (unknown : ∀ field : Field, field.name ≠ name) :
    Field.ofName? name = none := by
  rw [Field.ofName?, List.find?_eq_none]
  exact fun field _ same => unknown field (eq_of_beq same)

theorem afterColon_colon (blank : Blanks blanks) (rest : Text) :
    afterColon (blanks ++ ':' :: rest) = .ok rest := by
  rw [afterColon, skipSpace_blanks blank, skipSpace_solid rfl]
  rfl

theorem nextKey_read (blank : Blanks blanks) (first : Bool) (rest : Text) :
    nextKey first (lead first ++ (blanks ++ '"' :: rest)) = .ok (some rest) := by
  cases first with
  | true =>
    rw [lead, if_pos rfl, List.nil_append, nextKey, skipSpace_blanks blank, skipSpace_solid rfl]
    simp
  | false =>
    rw [lead, if_neg (by decide), List.singleton_append, nextKey, skipSpace_solid rfl]
    simp [skipSpace_blanks blank, skipSpace_solid (show isSpace '"' = false from rfl)]

theorem readEntries_space (draft : Draft) (first : Bool) (text : Text) :
    draft.readEntries first (skipSpace text) = draft.readEntries first text := by
  have next : nextKey first (skipSpace text) = nextKey first text := by
    rw [nextKey, nextKey, skipSpace_twice]
  rw [Draft.readEntries, Draft.readEntries, next, skipSpace_twice]

theorem readEntries_blanks (blank : Blanks blanks) (draft : Draft) (first : Bool) (text : Text) :
    draft.readEntries first (blanks ++ text) = draft.readEntries first text := by
  rw [← readEntries_space, skipSpace_blanks blank, readEntries_space]

theorem readEntries_end (draft : Draft) (first : Bool) (rest : Text) :
    draft.readEntries first ('\x7d' :: rest) = .ok (draft, rest) := by
  have next : nextKey first ('\x7d' :: rest) = .ok none := by
    rw [nextKey, skipSpace_solid rfl]
    rfl
  rw [Draft.readEntries, next]
  simp only
  rw [skipSpace_solid rfl]
  rfl

/-- A key is read, whatever it is; what comes of its entry decides how the object goes on. -/
theorem readEntries_key (spaced : Spaced (StringText name) key) (draft : Draft) (first : Bool)
    (rest : Text) : ∃ after, Blanks after ∧
      draft.readEntries first (lead first ++ (key ++ rest)) =
        match draft.readEntry name (after ++ rest) with
        | .error failure => .error failure
        | .ok (draft, rest) => draft.readEntries false rest := by
  obtain ⟨before, inner, after, ahead, ⟨body, escaped, rfl⟩, behind, rfl⟩ := spaced
  refine ⟨after, behind, ?_⟩
  have shape : before ++ ('"' :: body ++ ['"'] ++ after) ++ rest =
      before ++ '"' :: (body ++ '"' :: (after ++ rest)) := by simp
  have next := nextKey_read ahead first (body ++ '"' :: (after ++ rest))
  have named := escaped.read (after ++ rest)
  rw [shape, Draft.readEntries, next]
  simp only
  rw [named]
  simp only
  cases draft.readEntry name (after ++ rest) <;> rfl

theorem readEntry_known {held : Held field} (spaced : Spaced (HeldText field held) element)
    (fresh : field ∉ draft.given) (between : Blanks blanks) (rest : Text) :
    ∃ after, Blanks after ∧ draft.readEntry field.name (blanks ++ ':' :: (element ++ rest)) =
      .ok (take draft (.known field held), after ++ rest) := by
  obtain ⟨after, behind, read⟩ := readField_read spaced draft rest
  have absent : ¬ draft.given.contains field = true := by simpa using fresh
  refine ⟨after, behind, ?_⟩
  rw [Draft.readEntry, ofName_name]
  simp only
  rw [if_neg absent, afterColon_colon between]
  exact read

theorem readEntry_unknown (unknown : ∀ field : Field, field.name ≠ name)
    (spaced : Spaced (JsonText.Written .value) element) (between : Blanks blanks)
    (stop : Stops inNumber rest) :
    ∃ after, Blanks after ∧ draft.readEntry name (blanks ++ ':' :: (element ++ rest)) =
      .ok (draft, after ++ rest) := by
  obtain ⟨after, behind, skipped⟩ := skipValue_spaced spaced stop
  refine ⟨after, behind, ?_⟩
  rw [Draft.readEntry, ofName_unknown unknown]
  simp only
  rw [afterColon_colon between]
  simp only [skipped, bind, Except.bind]
  rfl

/-- The object goes on behind an entry that is read. -/
theorem readEntries_entry {holds : Text → Prop} {next : Draft} (written : EntryText name holds text)
    (taken : ∀ element blanks, Spaced holds element → Blanks blanks → ∃ after, Blanks after ∧
      draft.readEntry name (blanks ++ ':' :: (element ++ rest)) = .ok (next, after ++ rest))
    (first : Bool) :
    draft.readEntries first (lead first ++ (text ++ rest)) = next.readEntries false rest := by
  obtain ⟨key, element, spaced, spaced', rfl⟩ := written
  obtain ⟨middle, between, step⟩ := readEntries_key spaced draft first (':' :: (element ++ rest))
  obtain ⟨after, behind, read⟩ := taken element middle spaced' between
  rw [List.append_assoc, List.cons_append, step, read]
  exact readEntries_blanks behind _ _ _

/-- An entry is taken in when its field was not given before. -/
theorem readEntries_taken (written : entry.Written text)
    (fresh : ∀ field, entry.field? = some field → field ∉ draft.given) (first : Bool)
    (stop : Stops inNumber rest) :
    draft.readEntries first (lead first ++ (text ++ rest)) =
      (take draft entry).readEntries false rest := by
  cases entry with
  | known field held =>
    exact readEntries_entry written
      (fun _ _ spaced between => readEntry_known spaced (fresh field rfl) between rest) first
  | unknown name =>
    exact readEntries_entry written.2
      (fun _ _ spaced between => readEntry_unknown written.1 spaced between stop) first

/-- The name of a field that was given before is refused, whatever stands behind it. -/
theorem readEntries_refused (spaced : Spaced (StringText field.name) key)
    (given : field ∈ draft.given) (first : Bool) (rest : Text) :
    ∃ failure, draft.readEntries first (lead first ++ (key ++ rest)) = .error failure ∧
      failure.cause = .repeatedField field.name := by
  obtain ⟨after, -, step⟩ := readEntries_key spaced draft first rest
  have present : draft.given.contains field = true := by simpa using given
  rw [step, Draft.readEntry, ofName_name]
  simp only
  rw [if_pos present]
  split
  · rename_i refused
    split at refused <;> cases refused <;> exact ⟨_, rfl, rfl⟩
  · rename_i read
    split at read <;> cases read

/-! ## All entries -/

theorem fieldsOf_known (field : Field) (held : Held field) (entries : List Entry) :
    fieldsOf (.known field held :: entries) = field :: fieldsOf entries := rfl

/-- The fields of some entries and those given before are the same ones when the first entry is
taken in. -/
theorem fields_take (draft : Draft) (entry : Entry) (entries : List Entry) :
    (fieldsOf (entry :: entries) ++ draft.given).Perm
      (fieldsOf entries ++ (take draft entry).given) := by
  cases entry with
  | known field held => exact List.perm_middle.symm
  | unknown name => exact .refl _

theorem fresh_of_distinct (distinct : (fieldsOf (entry :: entries) ++ draft.given).Nodup)
    (field : Field) (same : entry.field? = some field) : field ∉ draft.given := by
  cases entry with
  | known =>
    cases same
    exact fun given => (List.nodup_cons.mp distinct).1 (List.mem_append_right _ given)
  | unknown => cases same

theorem distinct_take (distinct : draft.given.Nodup)
    (fresh : ∀ field, entry.field? = some field → field ∉ draft.given) :
    (take draft entry).given.Nodup := by
  cases entry with
  | known field held => exact List.nodup_cons.mpr ⟨fresh field rfl, distinct⟩
  | unknown name => exact distinct

/-- Entries of different fields are all taken in, in their order. -/
theorem readEntries_row (row : Row Entry.Written entries text)
    (distinct : (fieldsOf entries ++ draft.given).Nodup) (first : Bool)
    (stop : Stops inNumber rest) :
    draft.readEntries first (lead first ++ (text ++ rest)) =
      (entries.foldl take draft).readEntries false rest := by
  induction row generalizing draft first with
  | last here => exact readEntries_taken here (fresh_of_distinct distinct) first stop
  | @more entry entries _ later here _ ih =>
    have onwards := ih ((fields_take draft entry entries).nodup_iff.mp distinct) false
    rw [List.append_assoc, List.cons_append,
      readEntries_taken here (fresh_of_distinct distinct) first (stops_cons rfl _)]
    exact onwards

/-- Either an entry names a field that was given before, and is refused, or it is taken in. -/
theorem readEntries_step (written : entry.Written text) (draft : Draft) (entries : List Entry)
    (first : Bool) (stop : Stops inNumber rest) :
    (∃ field failure, 2 ≤ (fieldsOf (entry :: entries) ++ draft.given).count field ∧
      draft.readEntries first (lead first ++ (text ++ rest)) = .error failure ∧
      failure.cause = .repeatedField field.name) ∨
    ((∀ field, entry.field? = some field → field ∉ draft.given) ∧
      draft.readEntries first (lead first ++ (text ++ rest)) =
        (take draft entry).readEntries false rest) := by
  by_cases fresh : ∀ field, entry.field? = some field → field ∉ draft.given
  · exact .inr ⟨fresh, readEntries_taken written fresh first stop⟩
  · left
    push Not at fresh
    obtain ⟨field, same, given⟩ := fresh
    cases entry with
    | unknown => cases same
    | known field held =>
      cases same
      obtain ⟨key, element, spaced, -, rfl⟩ := written
      obtain ⟨failure, refused, cause⟩ :=
        readEntries_refused spaced given first (':' :: element ++ rest)
      refine ⟨field, failure, ?_, ?_, cause⟩
      · rw [fieldsOf_known, List.cons_append, List.count_cons_self]
        exact Nat.succ_le_succ (List.count_pos_iff.mpr (List.mem_append_right _ given))
      · rw [List.append_assoc]
        exact refused

/-- Entries with a field that is given twice are refused. -/
theorem readEntries_repeated (row : Row Entry.Written entries text)
    (distinct : draft.given.Nodup) (repeated : ¬ (fieldsOf entries ++ draft.given).Nodup)
    (first : Bool) (rest : Text) :
    ∃ field failure, 2 ≤ (fieldsOf entries ++ draft.given).count field ∧
      draft.readEntries first (lead first ++ (text ++ '\x7d' :: rest)) = .error failure ∧
      failure.cause = .repeatedField field.name := by
  induction row generalizing draft first with
  | @last entry _ here =>
    have stop : Stops inNumber ('\x7d' :: rest) := stops_cons rfl rest
    rcases readEntries_step here draft [] first stop with refused | ⟨fresh, -⟩
    · exact refused
    · exact absurd ((fields_take draft entry []).nodup_iff.mpr (distinct_take distinct fresh))
        repeated
  | @more entry entries _ later here _ ih =>
    rw [List.append_assoc, List.cons_append]
    have stop : Stops inNumber (',' :: (later ++ '\x7d' :: rest)) := stops_cons rfl _
    rcases readEntries_step here draft entries first stop with refused | ⟨fresh, taken⟩
    · exact refused
    · have same := fields_take draft entry entries
      obtain ⟨field, failure, twice, refused, cause⟩ :=
        ih (distinct_take distinct fresh) (fun held => repeated (same.nodup_iff.mpr held)) false
      exact ⟨field, failure, same.count_eq field ▸ twice, taken.trans refused, cause⟩

/-! ## The values -/

theorem get_unnamed (absent : field ∉ fieldsOf entries) (draft : Draft) :
    get (entries.foldl take draft).config field = get draft.config field := by
  induction entries generalizing draft with
  | nil => rfl
  | cons entry entries ih =>
    rw [List.foldl_cons]
    cases entry with
    | known other held =>
      rw [fieldsOf_known, List.mem_cons, not_or] at absent
      rw [ih absent.2]
      exact get_set_ne absent.1 draft.config held
    | unknown => exact ih absent draft

theorem get_named {held : Held field} (distinct : (fieldsOf entries).Nodup)
    (member : .known field held ∈ entries) (draft : Draft) :
    get (entries.foldl take draft).config field = held := by
  induction entries generalizing draft with
  | nil => cases member
  | cons entry entries ih =>
    rw [List.foldl_cons]
    rcases List.mem_cons.mp member with rfl | later
    · rw [get_unnamed (List.nodup_cons.mp distinct).1]
      exact get_set draft.config field held
    · cases entry with
      | known => exact ih (List.nodup_cons.mp distinct).2 later _
      | unknown => exact ih distinct later _

/-! ## The whole text -/

theorem readConfig_object (ahead : Blanks blanks) (text : Text) :
    readConfig (blanks ++ '\x7b' :: text) =
      (Draft.readEntries ⟨standard, []⟩ true text).map fun (draft, rest) =>
        (draft.config, rest) := by
  rw [readConfig, skipSpace_blanks ahead, skipSpace_solid rfl]
  simp only
  rw [if_neg (by decide), if_pos (by decide)]
  cases Draft.readEntries ⟨standard, []⟩ true text <;> rfl

theorem ofJson_entries {after : Text} (ahead : Blanks blanks) (behind : Blanks after)
    (read : Draft.readEntries ⟨standard, []⟩ true text = .ok (draft, after)) :
    ofJson (blanks ++ '\x7b' :: text) = .ok draft.config := by
  have nothing : skipSpace after = [] := by
    rw [← List.append_nil after, skipSpace_blanks behind]
    rfl
  simp only [ofJson, readConfig_object ahead, read, Except.map, bind, Except.bind, nothing]
  rfl

theorem ofJson_refused {failure : Failure} (ahead : Blanks blanks)
    (refused : Draft.readEntries ⟨standard, []⟩ true text = .error failure) :
    ofJson (blanks ++ '\x7b' :: text) = .error failure := by
  simp only [ofJson, readConfig_object ahead, refused, Except.map, bind, Except.bind]

theorem mem_given (entries : List Entry) (draft : Draft) :
    field ∈ (entries.foldl take draft).given ↔ field ∈ fieldsOf entries ++ draft.given := by
  induction entries generalizing draft with
  | nil => exact Iff.rfl
  | cons entry entries ih => exact (ih _).trans (fields_take draft entry entries).mem_iff.symm

/-- The name of a field that an entry in front of it has is refused, whatever stands behind it. -/
theorem repeated_name_is_refused (ahead : Blanks blanks) (row : Row Entry.Written entries text)
    (distinct : (fieldsOf entries).Nodup) (member : field ∈ fieldsOf entries)
    (spaced : Spaced (StringText field.name) key) (rest : Text) :
    ∃ failure, ofJson (blanks ++ '\x7b' :: (text ++ ',' :: (key ++ rest))) = .error failure ∧
      failure.cause = .repeatedField field.name := by
  have distinct : (fieldsOf entries ++ (Draft.mk standard []).given).Nodup :=
    (List.append_nil _).symm ▸ distinct
  have stop : Stops inNumber (',' :: (key ++ rest)) := stops_cons rfl _
  have taken := readEntries_row row distinct true stop
  obtain ⟨failure, refused, cause⟩ := readEntries_refused spaced
    ((mem_given entries ⟨standard, []⟩).mpr (List.mem_append_left _ member)) false rest
  exact ⟨failure, ofJson_refused ahead (taken.trans refused), cause⟩

/-- Whatever object a configuration is written in, its fields are read back, with the standard
values of those that are not named, unless one is given twice, which is refused. -/
theorem object_is_read_back (written : ObjectText entries text) :
    ((fieldsOf entries).Nodup →
      ∃ config, ofJson text = .ok config ∧
        (∀ field held, .known field held ∈ entries → get config field = held) ∧
        ∀ field, field ∉ fieldsOf entries → get config field = get standard field) ∧
    (¬ (fieldsOf entries).Nodup →
      ∃ field failure, 2 ≤ (fieldsOf entries).count field ∧ ofJson text = .error failure ∧
        failure.cause = .repeatedField field.name) := by
  obtain ⟨before, inner, after, ahead, ⟨row, rfl, items⟩, behind, rfl⟩ := written
  have shape : before ++ ('\x7b' :: row ++ ['\x7d'] ++ after) =
      before ++ '\x7b' :: (row ++ '\x7d' :: after) := by simp
  rw [shape]
  have same : fieldsOf entries ++ (Draft.mk standard []).given = fieldsOf entries :=
    List.append_nil _
  constructor
  · intro distinct
    have read : Draft.readEntries ⟨standard, []⟩ true (row ++ '\x7d' :: after) =
        .ok (entries.foldl take ⟨standard, []⟩, after) := by
      rcases items with ⟨rfl, blank⟩ | items
      · exact (readEntries_blanks blank _ true _).trans (readEntries_end _ true after)
      · exact (readEntries_row items (same.symm ▸ distinct) true (stops_cons rfl after)).trans
          (readEntries_end _ false after)
    exact ⟨_, ofJson_entries ahead behind read, fun field held member =>
      get_named distinct member _, fun field absent => get_unnamed absent _⟩
  · intro repeated
    rcases items with ⟨rfl, -⟩ | items
    · exact absurd List.nodup_nil repeated
    · obtain ⟨field, failure, twice, refused, cause⟩ :=
        readEntries_repeated items List.nodup_nil (same ▸ repeated) true after
      exact ⟨field, failure, same ▸ twice, ofJson_refused ahead refused, cause⟩

/-- An object with a name of no field, an escaped label and a list. -/
private def escapedObject : Text :=
  "\x7b \"x\": [null, \x7b\"k\":-1.5e+3\x7d], ".toList ++
    "\"stableTagPattern\":\"A\\u00e9\\uD83d\\ude00\" ,\"phpFiles\":[\"a.php\"]\x7d".toList

theorem escaped_object_is_read_back :
    (∃ config, ofJson escapedObject = .ok config ∧ config.stableTag = "Aé😀".toList ∧
      config.phpFiles = ["a.php".toList] ∧ config.readmeMd = standard.readmeMd) ∧
    ∃ field failure,
      ofJson "\x7b\"phpFiles\":[],\"phpFiles\":[]\x7d".toList = .error failure ∧
        failure.cause = .repeatedField (Field.name field) := by
  have none : Blanks [] := by decide
  have blank : Blanks [' '] := by decide
  have tight {holds : Text → Prop} {text : Text} (held : holds text) : Spaced holds text :=
    ⟨[], text, [], none, held, none, (List.append_nil text).symm⟩
  have number : Unsigned "1.5e+3".toList :=
    ⟨['1'], ".5".toList, "e+3".toList, .inr ⟨by decide, by decide⟩,
      .inr ⟨['5'], by decide, rfl⟩,
      .inr ⟨'e', ['+'], ['3'], .inl rfl, .inr (.inl rfl), by decide, rfl⟩, rfl⟩
  have skipped : JsonText.Written .value "[null, \x7b\"k\":-1.5e+3\x7d]".toList :=
    have inner := JsonText.Written.object (.lastEntry (.entry none
      (.plain (show Plain 'k' by decide) .nil) none (.element none (.negative number) none)))
    JsonText.Written.list (.elements (.element none .null none)
      (.lastElement (.element blank inner none)))
  have unknown : Entry.Written (.unknown "x".toList)
      " \"x\": [null, \x7b\"k\":-1.5e+3\x7d]".toList := by
    refine ⟨fun field => by cases field <;> decide, " \"x\"".toList, _,
      ⟨[' '], "\"x\"".toList, [], blank, .of_plain "x".toList (by decide), none, rfl⟩,
      ⟨[' '], _, [], blank, skipped, none, rfl⟩, rfl⟩
  have accent : CodeUnit 'é'.toNat "00e9".toList :=
    .digits (show HexDigit 0 '0' by decide) (show HexDigit 0 '0' by decide)
      (show HexDigit 14 'e' by decide) (show HexDigit 9 '9' by decide)
  have high : CodeUnit (0xD800 + ('😀'.toNat - 0x10000) / 0x400) "D83d".toList :=
    .digits (show HexDigit 13 'D' by decide) (show HexDigit 8 '8' by decide)
      (show HexDigit 3 '3' by decide) (show HexDigit 13 'd' by decide)
  have low : CodeUnit (0xDC00 + ('😀'.toNat - 0x10000) % 0x400) "de00".toList :=
    .digits (show HexDigit 13 'd' by decide) (show HexDigit 14 'e' by decide)
      (show HexDigit 0 '0' by decide) (show HexDigit 0 '0' by decide)
  have label : StringText "Aé😀".toList "\"A\\u00e9\\uD83d\\ude00\"".toList :=
    ⟨_, .cons (.plain (show Plain 'A' by decide)) (.cons (.unit accent)
      (.cons (.surrogates (by decide) high low) .nil)), rfl⟩
  have named : Entry.Written (.known .stableTag "Aé😀".toList)
      " \"stableTagPattern\":\"A\\u00e9\\uD83d\\ude00\" ".toList :=
    ⟨" \"stableTagPattern\"".toList, _,
      ⟨[' '], _, [], blank, .of_plain "stableTagPattern".toList (by decide), none, rfl⟩,
      ⟨[], _, [' '], none, label, blank, rfl⟩, rfl⟩
  have files : Entry.Written (.known .phpFiles ["a.php".toList])
      "\"phpFiles\":[\"a.php\"]".toList :=
    ⟨_, _, tight (.of_plain "phpFiles".toList (by decide)),
      tight ⟨_, rfl, .inr (.last (tight (.of_plain "a.php".toList (by decide))))⟩, rfl⟩
  have nothing : Entry.Written (.known .phpFiles []) "\"phpFiles\":[]".toList :=
    ⟨_, _, tight (.of_plain "phpFiles".toList (by decide)),
      tight ⟨[], rfl, .inl ⟨rfl, none⟩⟩, rfl⟩
  have single : ObjectText [.unknown "x".toList, .known .stableTag "Aé😀".toList,
      .known .phpFiles ["a.php".toList]] escapedObject :=
    tight ⟨_, rfl, .inr (.more unknown (.more named (.last files)))⟩
  have double : ObjectText [.known .phpFiles [], .known .phpFiles []]
      "\x7b\"phpFiles\":[],\"phpFiles\":[]\x7d".toList :=
    tight ⟨_, rfl, .inr (.more nothing (.last nothing))⟩
  obtain ⟨config, read, given, others⟩ := (object_is_read_back single).1 (by decide)
  obtain ⟨field, failure, -, refused, cause⟩ := (object_is_read_back double).2 (by decide)
  exact ⟨⟨config, read, given .stableTag _ (by simp), given .phpFiles _ (by simp),
    others .readmeMd (by decide)⟩, field, failure, refused, cause⟩

end PluginReadme.Reading
