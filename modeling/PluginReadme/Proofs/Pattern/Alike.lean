import PluginReadme.Proofs.Pattern.Search
import PluginReadme.Version.Found

/-! Searches that go alike. What a search does does not depend on how much of a text stands before
a place, nor on where its machine stands within another one: it only compares places with each
other, looks back at no more than one character, and passes no fork outside of its machine. So a
match further along is what it is there, and of two alternatives each one is searched as if it stood
alone. -/
namespace PluginReadme

variable {ahead : Nat}

namespace Cursor

/-- A place with more in front of it. -/
def moved (ahead : Nat) (cursor : Cursor) : Cursor :=
  { cursor with position := cursor.position + ahead }

@[simp] theorem moved_position (ahead : Nat) (cursor : Cursor) :
    (cursor.moved ahead).position = cursor.position + ahead := rfl

@[simp] theorem moved_zero : moved 0 = id := rfl

theorem onwards_moved (ahead position : Nat) (previous : Option Char) (text : Text) :
    onwards (position + ahead) previous text =
      (onwards position previous text).map (moved ahead) := by
  induction text generalizing position previous with
  | nil => rfl
  | cons c rest ih =>
    simp only [onwards, List.map_cons, ← ih, Nat.add_right_comm]
    rfl

/-! ## Keeping each place once -/

theorem testBit_moved (ahead seen place : Nat) :
    (seen <<< ahead).testBit (place + ahead) = seen.testBit place := by
  simp [Nat.testBit_shiftLeft]

theorem insert_moved (ahead seen place : Nat) :
    seen <<< ahead ||| 1 <<< (place + ahead) = (seen ||| 1 <<< place) <<< ahead := by
  rw [Nat.shiftLeft_or_distrib, Nat.shiftLeft_add]

theorem distinctFrom_moved (ahead seen : Nat) (cursors : List Cursor) :
    distinctFrom (seen <<< ahead) (cursors.map (moved ahead)) =
      (distinctFrom seen cursors).map (moved ahead) := by
  induction cursors generalizing seen with
  | nil => rfl
  | cons cursor rest ih =>
    simp only [List.map_cons, distinctFrom, moved_position, testBit_moved, insert_moved, ih]
    split <;> rfl

theorem distinct_moved (ahead : Nat) (cursors : List Cursor) :
    distinct (cursors.map (moved ahead)) = (distinct cursors).map (moved ahead) := by
  have moved := distinctFrom_moved ahead 0 cursors
  rwa [Nat.zero_shiftLeft] at moved

end Cursor

namespace Pattern

variable {way way' other : List Nat} {before : List Cursor} {search search' : Search}
  {course course' first first' second second' : Course} {greedy : Bool}

/-! ## Searches -/

/-- A search that has been through the same as another one, but further along in a text, and under
another way in its machine; it may have arrived at some places before. -/
structure Search.Alike (ahead : Nat) (way way' : List Nat) (before : List Cursor)
    (search search' : Search) : Prop where
  passed : ∀ below place, search'.hasPassed (below ++ way') (place + ahead) =
    search.hasPassed (below ++ way) place
  found : search'.found = search.found.map (Cursor.moved ahead) ++ before

/-- Courses that keep searches alike. -/
def Course.Alike (ahead : Nat) (way way' : List Nat) (before : List Cursor)
    (course course' : Course) : Prop :=
  ∀ {search search'} (cursor : Cursor), Search.Alike ahead way way' before search search' →
    Search.Alike ahead way way' before (course search cursor)
      (course' search' (cursor.moved ahead))

theorem Search.Alike.pass (alike : Search.Alike ahead way way' before search search')
    (below : List Nat) (place : Nat) :
    Search.Alike ahead way way' before (search.pass (below ++ way) place)
      (search'.pass (below ++ way') (place + ahead)) where
  passed below' place' := by simp [hasPassed_pass, alike.passed]
  found := alike.found

theorem arrive_alike : Course.Alike ahead way way' before Search.arrive Search.arrive :=
  fun cursor alike => ⟨alike.passed, congrArg (cursor.moved ahead :: ·) alike.found⟩

theorem fork_alike (below : List Nat) (alike : Course.Alike ahead way way' before first first')
    (alike' : Course.Alike ahead way way' before second second') :
    Course.Alike ahead way way' before (Course.fork (below ++ way) first second)
      (Course.fork (below ++ way') first' second') := by
  intro search search' cursor same
  unfold Course.fork
  rw [Cursor.moved_position, same.passed]
  split
  · exact same
  · exact alike' cursor (alike cursor (same.pass below cursor.position))

theorem again_alike (below : List Nat) {round round' : Course → Course}
    (rounds : ∀ {course course'}, Course.Alike ahead way way' before course course' →
      Course.Alike ahead way way' before (round course) (round' course'))
    (alike : Course.Alike ahead way way' before course course') :
    Course.Alike ahead way way' before (Course.again (below ++ way) greedy round course)
      (Course.again (below ++ way') greedy round' course') := by
  have fuelled (fuel : Nat) : Course.Alike ahead way way' before
      (Course.rounds (below ++ way) greedy round course fuel)
      (Course.rounds (below ++ way') greedy round' course' fuel) := by
    induction fuel with
    | zero => exact fun _ same => same
    | succ fuel ih =>
      cases greedy with
      | true => exact fork_alike below (rounds ih) alike
      | false => exact fork_alike below alike (rounds ih)
  intro search search' cursor same
  exact fuelled (cursor.rest.length + 1) cursor same

theorem walk_alike (machine : Machine) (below : List Nat)
    (alike : Course.Alike ahead way way' before course course') :
    Course.Alike ahead way way' before (machine.walk (below ++ way) course)
      (machine.walk (below ++ way') course') := by
  induction machine generalizing below course course' with
  | done => exact alike
  | set chars =>
    rintro search search' ⟨position, previous, rest⟩ same
    cases rest with
    | nil => exact same
    | cons c rest =>
      by_cases inside : chars.contains c = true
      · have next := alike ⟨position + 1, some c, rest⟩ same
        simp only [Machine.walk, Cursor.moved, inside, ↓reduceIte, Nat.add_right_comm] at next ⊢
        exact next
      · simp only [Machine.walk, Cursor.moved, inside, Bool.false_eq_true, ↓reduceIte]
        exact same
  | look condition =>
    intro search search' cursor same
    have holds : condition.holds (cursor.moved ahead) = condition.holds cursor := rfl
    simp only [Machine.walk, holds]
    split
    · exact alike cursor same
    · exact same
  | concat first second ih ih' => exact ih (0 :: below) (ih' (1 :: below) alike)
  | fork first second ih ih' =>
    exact fork_alike below (ih (0 :: below) alike) (ih' (1 :: below) alike)
  | star greedy part ih => exact again_alike below (ih (0 :: below)) alike
  | plus greedy part ih => exact ih (0 :: below) (again_alike below (ih (0 :: below)) alike)

/-! ## Forks outside of a machine -/

/-- A course that leaves a fork alone. -/
def Keeps (other : List Nat) (course : Course) : Prop :=
  ∀ search cursor place, (course search cursor).hasPassed other place = search.hasPassed other place

/-- A pattern matches the same further along. -/
theorem ends_moved (ahead : Nat) (pattern : Pattern) (cursor : Cursor) :
    pattern.ends (cursor.moved ahead) = (pattern.ends cursor).map (Cursor.moved ahead) := by
  have same : Search.Alike ahead [] [] [] .start .start :=
    ⟨fun below place => by simp [Search.hasPassed, Search.start], rfl⟩
  have found := (walk_alike pattern.machine [] arrive_alike cursor same).found
  rw [List.append_nil, List.append_nil] at found
  rw [ends, found, ← List.map_reverse, Cursor.distinct_moved, ends]

end Pattern

/-! ## Versions -/

/-- A version is found further along as it is found there. -/
theorem Version.foundAt_moved (ahead : Nat) (label : Pattern) (cursor : Cursor) :
    Version.foundAt label (cursor.moved ahead) = Version.foundAt label cursor := by
  unfold Version.foundAt
  rw [Pattern.ends_moved, List.findSome?_map]
  rfl

end PluginReadme
