import PluginReadme.Files.Disk

/-! Where a path leads depends on which places are directories and which are taken, never on what
the files hold. A path that can be read leads to the very place that a write to it fills, and a
write changes that place alone. -/
namespace PluginReadme.Walk

variable {disk first second before after : Disk} {place next last : Place} {part path : Text}

/-- Whether an entry can be gone through. -/
def Passable : Entry → Bool
  | .directory => true
  | .file _ => false
  | .binary _ => false

/-- The same entry at every place. -/
structure Same (first second : Disk) : Prop where
  working : first.workingDirectory = second.workingDirectory
  entries : ∀ place, first.entry? place = second.entry? place

/-- The same directories and the same places taken; what the files hold may differ. -/
structure SameShape (first second : Disk) : Prop where
  working : first.workingDirectory = second.workingDirectory
  entries : ∀ place, (first.entry? place).map Passable = (second.entry? place).map Passable

/-- The same directories, and every place that is taken stays taken. -/
structure Grows (before after : Disk) : Prop where
  working : before.workingDirectory = after.workingDirectory
  directories : ∀ place,
    before.entry? place = some .directory ↔ after.entry? place = some .directory
  taken : ∀ place, (before.entry? place).isSome → (after.entry? place).isSome

theorem Same.refl (disk : Disk) : Same disk disk := ⟨rfl, fun _ => rfl⟩

theorem Same.symm (same : Same first second) : Same second first :=
  ⟨same.working.symm, fun place => (same.entries place).symm⟩

theorem Same.trans (left : Same first second) (right : Same second third) : Same first third :=
  ⟨left.working.trans right.working, fun place =>
    (left.entries place).trans (right.entries place)⟩

theorem Same.shape (same : Same first second) : SameShape first second :=
  ⟨same.working, fun place => congrArg _ (same.entries place)⟩

theorem SameShape.refl (disk : Disk) : SameShape disk disk := ⟨rfl, fun _ => rfl⟩

theorem SameShape.trans (left : SameShape first second) (right : SameShape second third) :
    SameShape first third :=
  ⟨left.working.trans right.working, fun place =>
    (left.entries place).trans (right.entries place)⟩

private theorem passable_eq_some_true {entry : Option Entry} :
    entry.map Passable = some true ↔ entry = some .directory := by
  rcases entry with _ | ⟨_ | _ | _⟩ <;> simp [Passable]

theorem SameShape.directory_iff (same : SameShape first second) (place : Place) :
    first.entry? place = some .directory ↔ second.entry? place = some .directory := by
  rw [← passable_eq_some_true, ← passable_eq_some_true, same.entries]

theorem SameShape.taken_iff (same : SameShape first second) (place : Place) :
    (first.entry? place).isSome = (second.entry? place).isSome := by
  rw [← Option.isSome_map (f := Passable), ← Option.isSome_map (f := Passable), same.entries]

theorem SameShape.grows (same : SameShape before after) : Grows before after where
  working := same.working
  directories := same.directory_iff
  taken place taken := by rwa [← same.taken_iff]

/-! ## One step and a whole walk -/

/-- A part that leads down to an entry of its own name. -/
def Names (part : Text) : Prop := part ≠ [] ∧ part ≠ ['.'] ∧ part ≠ ['.', '.']

/-- A step starts from a directory and stays there, goes up, or goes down to an entry. -/
theorem step_cases (stepped : disk.step place part = .ok next) :
    disk.entry? place = some .directory ∧
      ((part = [] ∨ part = ['.']) ∧ next = place ∨
        part = ['.', '.'] ∧ next = place.dropLast ∨
        Names part ∧ next = place ++ [part] ∧ (disk.entry? next).isSome) := by
  unfold Disk.step at stepped
  split at stepped
  · rename_i here
    refine ⟨here, ?_⟩
    split at stepped
    · rename_i stays
      cases stepped
      exact Or.inl ⟨by simpa using stays, rfl⟩
    · rename_i moves
      split at stepped
      · rename_i up
        cases stepped
        exact Or.inr (Or.inl ⟨by simpa using up, rfl⟩)
      · rename_i down
        dsimp only at stepped
        split at stepped
        · rename_i taken
          cases stepped
          exact Or.inr (Or.inr ⟨by simp_all [Names], rfl, taken⟩)
        · cases stepped
  · cases stepped
  · cases stepped

theorem step_nil (here : disk.entry? place = some .directory) : disk.step place [] = .ok place := by
  simp [Disk.step, here]

theorem step_names (here : disk.entry? place = some .directory) (names : Names part)
    (taken : (disk.entry? (place ++ [part])).isSome) :
    disk.step place part = .ok (place ++ [part]) := by
  simp [Disk.step, here, names.1, names.2.1, names.2.2, taken]

/-- Steps only look at which places are directories and which are taken. -/
theorem step_congr (same : SameShape first second) : first.step = second.step := by
  funext place part
  have here := same.directory_iff place
  have ahead := same.taken_iff (place ++ [part])
  have taken := same.taken_iff place
  unfold Disk.step
  rcases atFirst : first.entry? place with _ | ⟨_ | _ | _⟩ <;>
    rcases atSecond : second.entry? place with _ | ⟨_ | _ | _⟩ <;>
    simp_all

/-- A walk from place to place along the parts of a path. -/
def walk (disk : Disk) (place : Place) (parts : List Text) : Except FileError Place :=
  parts.foldlM disk.step place

theorem walk_cons : walk disk place (part :: rest) =
    (disk.step place part).bind fun next => walk disk next rest := rfl

theorem walk_append (disk : Disk) (place : Place) (parts more : List Text) :
    walk disk place (parts ++ more) =
      (walk disk place parts).bind fun next => walk disk next more := by
  simp only [walk, List.foldlM_append]
  rfl

theorem walk_cons_ok (walked : walk disk place (part :: rest) = .ok last) :
    ∃ next, disk.step place part = .ok next ∧ walk disk next rest = .ok last := by
  rw [walk_cons] at walked
  cases stepped : disk.step place part with
  | error error => rw [stepped] at walked; cases walked
  | ok next => rw [stepped] at walked; exact ⟨next, rfl, walked⟩

theorem walk_append_ok (walked : walk disk place (parts ++ more) = .ok last) :
    ∃ next, walk disk place parts = .ok next ∧ walk disk next more = .ok last := by
  rw [walk_append] at walked
  cases first : walk disk place parts with
  | error error => rw [first] at walked; cases walked
  | ok next => rw [first] at walked; exact ⟨next, rfl, walked⟩

theorem start_congr (working : first.workingDirectory = second.workingDirectory) (path : Text) :
    first.start path = second.start path := by
  simp [Disk.start, working]

theorem locate_congr (same : SameShape first second) (path : Text) :
    first.locate path = second.locate path := by
  simp only [Disk.locate, step_congr same, start_congr same.working path]

theorem destination_congr (same : SameShape first second) (path : Text) :
    first.destination path = second.destination path := by
  have directories (place : Place) : (first.entry? place == some .directory) =
      (second.entry? place == some .directory) := by
    rw [Bool.eq_iff_iff]
    simpa using same.directory_iff place
  simp only [Disk.destination, step_congr same, directories, start_congr same.working path]

theorem read_congr (same : Same first second) (path : Text) :
    first.read path = second.read path := by
  simp only [Disk.read, locate_congr same.shape, same.entries]

/-! ## Reading and writing lead to one place -/

/-- Everything above a place is a directory. -/
def Standing (disk : Disk) (place : Place) : Prop :=
  ∀ above rest, above ++ rest = place → rest ≠ [] → disk.entry? above = some .directory

private theorem prefix_of_working (inside : place <+: disk.workingDirectory) :
    disk.entry? place = some .directory := by
  simp [Disk.entry?, List.isPrefixOf_iff_prefix.mpr inside]

private theorem start_standing (disk : Disk) (path : Text) : Standing disk (disk.start path) := by
  intro above rest split _
  apply prefix_of_working
  have inside : disk.start path <+: disk.workingDirectory := by
    unfold Disk.start
    split
    · exact List.nil_prefix
    · exact List.prefix_refl _
  exact (split ▸ List.prefix_append above rest).trans inside

private theorem step_standing (standing : Standing disk place)
    (stepped : disk.step place part = .ok next) : Standing disk next := by
  obtain ⟨here, ⟨-, rfl⟩ | ⟨-, rfl⟩ | ⟨-, rfl, -⟩⟩ := step_cases stepped
  · exact standing
  · intro above rest split nonempty
    rcases List.eq_nil_or_concat place with rfl | ⟨parent, name, rfl⟩
    · simp at split
      exact absurd split.2 nonempty
    · rw [List.concat_eq_append, List.dropLast_concat] at split
      exact standing above (rest ++ [name]) (by simp [← split]) (by simp)
  · intro above rest split nonempty
    rcases List.eq_nil_or_concat rest with rfl | ⟨inner, name, rfl⟩
    · exact absurd rfl nonempty
    · rw [List.concat_eq_append, ← List.append_assoc] at split
      obtain ⟨split, -⟩ := List.append_inj' split rfl
      by_cases whole : inner = []
      · subst whole
        simpa [← split] using here
      · exact standing above inner split whole

private theorem walk_standing (standing : Standing disk place)
    (walked : walk disk place parts = .ok last) : Standing disk last := by
  induction parts generalizing place with
  | nil => cases walked; exact standing
  | cons part rest ih =>
    obtain ⟨next, stepped, walked⟩ := walk_cons_ok walked
    exact ih (step_standing standing stepped) walked

/-- A step that ends at a file went down to it by its name. -/
private theorem step_to_file (standing : Standing disk place)
    (stepped : disk.step place part = .ok next) (file : disk.entry? next ≠ some .directory) :
    disk.entry? place = some .directory ∧ Names part ∧ next = place ++ [part] := by
  obtain ⟨here, ⟨-, rfl⟩ | ⟨-, rfl⟩ | ⟨names, rfl, -⟩⟩ := step_cases stepped
  · exact absurd here file
  · rcases List.eq_nil_or_concat place with rfl | ⟨parent, name, rfl⟩
    · exact absurd here file
    · rw [List.concat_eq_append, List.dropLast_concat] at file
      exact absurd (standing parent [name] (by simp) (by simp)) file
  · exact ⟨here, names, rfl⟩

/-- Parts that stand for nothing can be left out of a walk. -/
private theorem walk_filter (walked : walk disk place parts = .ok last) :
    walk disk place (parts.filter (!·.isEmpty)) = .ok last := by
  induction parts generalizing place with
  | nil => exact walked
  | cons part rest ih =>
    obtain ⟨next, stepped, onward⟩ := walk_cons_ok walked
    by_cases empty : part = []
    · subst empty
      obtain ⟨-, ⟨-, rfl⟩ | ⟨wrong, -⟩ | ⟨names, -⟩⟩ := step_cases stepped
      · simpa using ih onward
      · cases wrong
      · exact absurd rfl names.1
    · rw [List.filter_cons_of_pos (by simpa using empty), walk_cons, stepped]
      exact ih onward

theorem locate_ok (located : disk.locate path = .ok place) :
    path.contains '\x00' = false ∧ path ≠ [] ∧
      walk disk (disk.start path) (Path.parts path) = .ok place := by
  unfold Disk.locate at located
  split at located
  · cases located
  · rename_i clean
    split at located
    · cases located
    · rename_i filled
      exact ⟨by simpa using clean, by simpa using filled, located⟩

/-- A path is read exactly when it leads to a file that holds a text. -/
theorem read_ok_iff : disk.read path = .ok content ↔
    ∃ place, disk.locate path = .ok place ∧ disk.entry? place = some (.file content) := by
  unfold Disk.read
  cases located : disk.locate path with
  | error error =>
    constructor
    · intro wrong
      cases wrong
    · rintro ⟨_, wrong, -⟩
      cases wrong
  | ok place =>
    simp only [bind, Except.bind]
    rcases found : disk.entry? place with _ | ⟨_ | _ | _⟩ <;> simp [found]

private theorem not_slash_last (path : Text) (parts : List Text)
    (split : Path.parts path = parts ++ [name]) (names : name ≠ []) :
    path.getLast? ≠ some '/' := by
  intro slash
  obtain ⟨front, rfl⟩ := List.getLast?_eq_some_iff.mp slash
  rw [Path.parts, List.splitOn_append_cons_self, List.splitOn_nil] at split
  obtain ⟨-, last⟩ := List.append_inj' split rfl
  simp at last
  exact names last

/-- A path that ends with the name of a file, which follows the given parts. -/
structure EndsInName (path : Text) (parts : List Text) (name : Text) : Prop where
  clean : path.contains '\x00' = false
  filled : path ≠ []
  split : (Path.parts path).filter (!·.isEmpty) = parts ++ [name]
  unclosed : path.getLast? ≠ some '/'
  names : name ≠ ['.'] ∧ name ≠ ['.', '.']

private theorem destination_of_name (ends : EndsInName path parts name)
    (walked : walk disk (disk.start path) parts = .ok parent)
    (here : disk.entry? parent = some .directory)
    (free : disk.entry? (parent ++ [name]) ≠ some .directory) :
    disk.destination path = .ok (parent ++ [name]) := by
  have walked : parts.foldlM disk.step (disk.start path) = .ok parent := walked
  simp only [Disk.destination, ends.clean, Bool.false_eq_true, ↓reduceIte, List.isEmpty_iff,
    ends.filled, ends.split, List.getLast?_concat, List.dropLast_concat, walked]
  change (disk.step parent []).bind _ = _
  rw [step_nil here]
  simp [Except.bind, ends.unclosed, ends.names.1, ends.names.2, free]

/-- The place that a file is put at is an entry of the directory that stands before its name. -/
private theorem name_of_destination (named : disk.destination path = .ok place) :
    ∃ parts name parent, EndsInName path parts name ∧
      walk disk (disk.start path) parts = .ok parent ∧
      disk.entry? parent = some .directory ∧ place = parent ++ [name] ∧
      disk.entry? place ≠ some .directory := by
  unfold Disk.destination at named
  split at named
  · cases named
  rename_i clean
  split at named
  · cases named
  rename_i filled
  dsimp only at named
  split at named
  · cases named
  rename_i name ending
  obtain ⟨parts, split⟩ := List.getLast?_eq_some_iff.mp ending
  rw [split, List.dropLast_concat] at named
  cases walked : parts.foldlM disk.step (disk.start path) with
  | error error => rw [walked] at named; cases named
  | ok parent =>
    rw [walked] at named
    change (disk.step parent []).bind _ = _ at named
    cases stepped : disk.step parent [] with
    | error error => rw [stepped] at named; cases named
    | ok again =>
      rw [stepped] at named
      obtain ⟨here, ⟨-, rfl⟩ | ⟨wrong, -⟩ | ⟨names, -⟩⟩ := step_cases stepped
      · simp only [Except.bind] at named
        split at named
        · cases named
        rename_i proper
        simp only [Bool.or_eq_true, beq_iff_eq, not_or] at proper
        split at named
        · cases named
        rename_i free
        cases named
        exact ⟨parts, name, again,
          ⟨by simpa using clean, by simpa using filled, split, proper.1.1, proper.1.2, proper.2⟩,
          walked, here, rfl, by simpa using free⟩
      · cases wrong
      · exact absurd rfl names.1

/-- A file can be put at a path exactly when the path ends in a name, what stands before the name
leads to a directory, and there is no directory of that name in it. -/
theorem destination_ok_iff : disk.destination path = .ok place ↔
    ∃ parts name parent, EndsInName path parts name ∧
      walk disk (disk.start path) parts = .ok parent ∧
      disk.entry? parent = some .directory ∧ place = parent ++ [name] ∧
      disk.entry? place ≠ some .directory := by
  constructor
  · exact name_of_destination
  · rintro ⟨parts, name, parent, ends, walked, here, rfl, free⟩
    exact destination_of_name ends walked here free

/-- Writing to a path fills the place that reading it comes from. -/
theorem destination_of_locate (located : disk.locate path = .ok place)
    (file : disk.entry? place ≠ some .directory) : disk.destination path = .ok place := by
  obtain ⟨clean, filled, walked⟩ := locate_ok located
  rcases List.eq_nil_or_concat (Path.parts path) with none | ⟨parts, name, split⟩
  · exact absurd none (List.splitOn_ne_nil '/' path)
  rw [List.concat_eq_append] at split
  rw [split] at walked
  obtain ⟨parent, toParent, down⟩ := walk_append_ok walked
  obtain ⟨_, stepped, arrived⟩ := walk_cons_ok down
  cases arrived
  obtain ⟨here, names, rfl⟩ :=
    step_to_file (walk_standing (start_standing disk path) toParent) stepped file
  have kept : (Path.parts path).filter (!·.isEmpty) = parts.filter (!·.isEmpty) ++ [name] := by
    simp [split, List.filter_append, names.1]
  exact destination_of_name ⟨clean, filled, kept, not_slash_last path parts split names.1, names.2⟩
    (walk_filter toParent) here file

theorem destination_free (named : disk.destination path = .ok place) :
    disk.entry? place ≠ some .directory := by
  obtain ⟨_, _, _, _, _, _, _, free⟩ := destination_ok_iff.mp named
  exact free

/-! ## Writing -/

private theorem lookup_set (entries : List (Place × Entry)) (place other : Place) (entry : Entry) :
    (entries.map fun found => if found.1 == place then (place, entry) else found).lookup other =
      if other = place then (entries.lookup other).map fun _ => entry
      else entries.lookup other := by
  induction entries with
  | nil => simp
  | cons head rest ih =>
    obtain ⟨key, old⟩ := head
    by_cases at_key : key = place
    · subst at_key
      by_cases wanted : other = key
      · subst wanted
        simp
      · have missed : (other == key) = false := by simpa using wanted
        simpa [List.lookup_cons, missed, wanted] using ih
    · by_cases wanted : other = key
      · subst wanted
        simp [at_key]
      · have missed : (other == key) = false := by simpa using wanted
        simpa [List.lookup_cons, at_key, missed] using ih

theorem set_working (disk : Disk) (place : Place) (entry : Entry) :
    (disk.set place entry).workingDirectory = disk.workingDirectory := by
  unfold Disk.set
  split <;> rfl

/-- A new entry is found at its place, and every other place keeps its own. -/
theorem entry_set (free : disk.entry? place ≠ some .directory) (other : Place) (entry : Entry) :
    Disk.entry? (disk.set place entry) other =
      if other = place then some entry else disk.entry? other := by
  have outside : ¬ place.isPrefixOf disk.workingDirectory := fun inside =>
    free (by simp [Disk.entry?, inside])
  by_cases above : other.isPrefixOf disk.workingDirectory
  · have apart : other ≠ place := by
      rintro rfl
      simp [above] at outside
    simp [Disk.entry?, set_working, above, apart]
  · unfold Disk.set
    split
    · rename_i present
      simp only [Disk.entry?, above, Bool.false_eq_true, ↓reduceIte, lookup_set]
      split
      · rename_i same
        subst same
        cases found : disk.entries.lookup other with
        | none =>
          rw [List.lookup_eq_none_iff] at found
          simp only [List.any_eq_true, beq_iff_eq] at present
          obtain ⟨held, member, key⟩ := present
          simpa [key] using found held member
        | some old => rfl
      · rfl
    · rename_i absent
      simp only [Disk.entry?, above, Bool.false_eq_true, ↓reduceIte, List.lookup_append]
      split
      · rename_i same
        subst same
        have missing : disk.entries.lookup other = none := by
          rw [List.lookup_eq_none_iff]
          intro held member
          simp only [List.any_eq_true, beq_iff_eq, not_exists, not_and] at absent
          have apart : other ≠ held.1 := fun same => absent held member same.symm
          simpa using apart
        simp [missing]
      · rename_i apart
        have missed : (other == place) = false := by simpa using apart
        cases disk.entries.lookup other <;> simp [List.lookup_cons, missed]

/-- A write succeeds exactly when its path names a place for a file, which it fills. -/
theorem write_ok_iff : disk.write path content = .ok after ↔
    ∃ place, disk.destination path = .ok place ∧ after = disk.set place (.file content) := by
  unfold Disk.write
  cases named : disk.destination path with
  | error error =>
    constructor
    · intro wrong
      cases wrong
    · rintro ⟨_, wrong, -⟩
      cases wrong
  | ok place =>
    constructor
    · intro written
      cases written
      exact ⟨place, rfl, rfl⟩
    · rintro ⟨_, same, rfl⟩
      cases same
      rfl

theorem write_of_destination (named : disk.destination path = .ok place) (content : Text) :
    disk.write path content = .ok (disk.set place (.file content)) :=
  write_ok_iff.mpr ⟨place, named, rfl⟩

/-- What can be read can be written back. -/
theorem write_of_read (located : disk.locate path = .ok place)
    (file : disk.entry? place = some (.file old)) (content : Text) :
    disk.write path content = .ok (disk.set place (.file content)) :=
  write_of_destination (destination_of_locate located (by simp [file])) content

/-- Filling a place that was no directory makes the tree grow at most by that place. -/
theorem set_grows (free : disk.entry? place ≠ some .directory) (content : Text) :
    Grows disk (disk.set place (.file content)) where
  working := (set_working disk place _).symm
  directories other := by
    rw [entry_set free]
    split
    · rename_i same
      subst same
      simp [free]
    · exact Iff.rfl
  taken other taken := by
    rw [entry_set free]
    split
    · rfl
    · exact taken

/-- Filling a place that holds a file keeps the shape of the tree. -/
theorem set_shape (free : disk.entry? place ≠ some .directory)
    (taken : (disk.entry? place).isSome) (content : Text) :
    SameShape disk (disk.set place (.file content)) where
  working := (set_working disk place _).symm
  entries other := by
    rw [entry_set free]
    split
    · rename_i same
      subst same
      rcases found : disk.entry? other with _ | ⟨_ | _ | _⟩ <;> simp_all [Passable]
    · rfl

/-! ## Paths in a tree that grows -/

theorem Grows.trans (left : Grows first second) (right : Grows second third) :
    Grows first third where
  working := left.working.trans right.working
  directories place := (left.directories place).trans (right.directories place)
  taken place taken := right.taken place (left.taken place taken)

private theorem step_grows (grows : Grows before after)
    (stepped : before.step place part = .ok next) : after.step place part = .ok next := by
  obtain ⟨here, ⟨blank, rfl⟩ | ⟨up, rfl⟩ | ⟨names, rfl, taken⟩⟩ := step_cases stepped
  · rcases blank with rfl | rfl <;> simp [Disk.step, (grows.directories _).mp here]
  · subst up
    simp [Disk.step, (grows.directories _).mp here]
  · exact step_names ((grows.directories _).mp here) names (grows.taken _ taken)

private theorem walk_grows (grows : Grows before after)
    (walked : walk before place parts = .ok last) : walk after place parts = .ok last := by
  induction parts generalizing place with
  | nil => exact walked
  | cons part rest ih =>
    obtain ⟨next, stepped, onward⟩ := walk_cons_ok walked
    rw [walk_cons, step_grows grows stepped]
    exact ih onward

/-- A path that leads somewhere leads there still when the tree has grown. -/
theorem locate_grows (grows : Grows before after) (located : before.locate path = .ok place) :
    after.locate path = .ok place := by
  obtain ⟨clean, filled, walked⟩ := locate_ok located
  have onward : (Path.parts path).foldlM after.step (after.start path) = .ok place := by
    rw [← start_congr grows.working]
    exact walk_grows grows walked
  simp only [Disk.locate, clean, Bool.false_eq_true, ↓reduceIte, List.isEmpty_iff, filled, onward]

/-- A walk to a directory needs nothing that the tree has gained. -/
private theorem walk_shrinks (grows : Grows before after)
    (walked : walk after place parts = .ok last) (here : after.entry? last = some .directory) :
    walk before place parts = .ok last := by
  induction parts generalizing place with
  | nil => exact walked
  | cons part rest ih =>
    obtain ⟨next, stepped, onward⟩ := walk_cons_ok walked
    have passed : after.entry? next = some .directory := by
      cases rest with
      | nil => cases onward; exact here
      | cons _ _ =>
        obtain ⟨_, further, -⟩ := walk_cons_ok onward
        exact (step_cases further).1
    have back : before.step place part = .ok next := by
      obtain ⟨from_, ⟨blank, rfl⟩ | ⟨up, rfl⟩ | ⟨names, rfl, -⟩⟩ := step_cases stepped
      · rcases blank with rfl | rfl <;> simp [Disk.step, (grows.directories _).mpr from_]
      · subst up
        simp [Disk.step, (grows.directories _).mpr from_]
      · exact step_names ((grows.directories _).mpr from_) names
          (by simp [(grows.directories _).mpr passed])
    rw [walk_cons, back]
    exact ih onward

/-- Where a file is put does not depend on what a tree has gained. -/
theorem destination_grows (grows : Grows before after) :
    before.destination path = .ok place ↔ after.destination path = .ok place := by
  rw [destination_ok_iff, destination_ok_iff, start_congr grows.working]
  constructor
  · rintro ⟨parts, name, parent, ends, walked, here, rfl, free⟩
    exact ⟨parts, name, parent, ends, walk_grows grows walked, (grows.directories _).mp here, rfl,
      fun directory => free ((grows.directories _).mpr directory)⟩
  · rintro ⟨parts, name, parent, ends, walked, here, rfl, free⟩
    exact ⟨parts, name, parent, ends, walk_shrinks grows walked here,
      (grows.directories _).mpr here, rfl,
      fun directory => free ((grows.directories _).mp directory)⟩

/-! ## Paths that do not meet a place -/

/-- A path leads to a place or through it. -/
def Meets (disk : Disk) (path : Text) (place : Place) : Prop :=
  ∃ count, walk disk (disk.start path) ((Path.parts path).take count) = .ok place

theorem meets_congr (same : SameShape first second) :
    Meets first path place ↔ Meets second path place := by
  simp only [Meets, walk, step_congr same, start_congr same.working]

/-- A walk that does not meet a place goes on as if nothing had been put there. -/
private theorem walk_unmet (free : disk.entry? place ≠ some .directory) (content : Text)
    (apart : ∀ count, walk (disk.set place (.file content)) here (parts.take count) ≠ .ok place) :
    walk (disk.set place (.file content)) here parts = walk disk here parts := by
  induction parts generalizing here with
  | nil => rfl
  | cons part rest ih =>
    have elsewhere : here ≠ place := fun same => apart 0 (congrArg Except.ok same)
    have kept : (disk.set place (.file content)).step here part = disk.step here part := by
      by_cases same : here ++ [part] = place
      · by_cases down : disk.entry? here = some .directory ∧ Names part
        · have met := apart 1
          rw [List.take_succ_cons, List.take_zero, walk_cons, step_names _ down.2 _, same] at met
          · exact absurd rfl met
          · rw [entry_set free, if_neg elsewhere]
            exact down.1
          · rw [same, entry_set free, if_pos rfl]
            rfl
        · unfold Disk.step
          rw [entry_set free, if_neg elsewhere]
          rcases found : disk.entry? here with _ | ⟨_ | _ | _⟩
          · rfl
          · have still : part = [] ∨ part = ['.'] ∨ part = ['.', '.'] := by
              simpa [found, Names, Decidable.or_iff_not_imp_left] using down
            rcases still with rfl | rfl | rfl <;> rfl
          · rfl
          · rfl
      · unfold Disk.step
        simp only [entry_set free, if_neg elsewhere, if_neg same]
    rw [walk_cons, walk_cons, kept]
    cases stepped : disk.step here part with
    | error error => rfl
    | ok next =>
      refine ih fun count met => apart (count + 1) ?_
      rw [List.take_succ_cons, walk_cons, kept, stepped]
      exact met

/-- A path that does not meet a place reads there as if nothing had been put there. -/
theorem read_unmet (free : disk.entry? place ≠ some .directory) (content : Text)
    (unmet : ¬ Meets (disk.set place (.file content)) path place) :
    (disk.set place (.file content)).read path = disk.read path := by
  have start : (disk.set place (.file content)).start path = disk.start path :=
    start_congr (set_working disk place _) path
  have apart : ∀ count, walk (disk.set place (.file content)) (disk.start path)
      ((Path.parts path).take count) ≠ .ok place :=
    fun count met => unmet ⟨count, start ▸ met⟩
  have walked := walk_unmet free content apart
  have located : (disk.set place (.file content)).locate path = disk.locate path := by
    simp only [Disk.locate, start]
    rw [← walk, ← walk, walked]
  unfold Disk.read
  rw [located]
  cases found : disk.locate path with
  | error error => rfl
  | ok last =>
    have elsewhere : last ≠ place := by
      rintro rfl
      apply apart (Path.parts path).length
      rw [List.take_length, walked]
      exact (locate_ok found).2.2
    simp only [bind, Except.bind, entry_set free, if_neg elsewhere]

/-- Where a file was before, a path that leads elsewhere reads as it did. -/
theorem read_elsewhere (free : disk.entry? place ≠ some .directory)
    (taken : (disk.entry? place).isSome) (content : Text)
    (elsewhere : (disk.set place (.file content)).locate path ≠ .ok place) :
    (disk.set place (.file content)).read path = disk.read path := by
  have located := locate_congr (set_shape free taken content) path
  unfold Disk.read
  rw [← located] at elsewhere ⊢
  cases found : disk.locate path with
  | error error => rfl
  | ok last =>
    have apart : last ≠ place := fun same => elsewhere (found.trans (congrArg Except.ok same))
    simp only [bind, Except.bind, entry_set free, if_neg apart]

end PluginReadme.Walk
