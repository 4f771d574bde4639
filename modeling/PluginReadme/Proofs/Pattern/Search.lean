import PluginReadme.Proofs.Pattern.Matches

/-! What a search finds. It arrives just where a match of its pattern can end. It leaves alone the
forks that it has passed, so the point is that it misses none: when it is done, both ways have been
followed from each fork that it has passed, and a set of forks like that holds all that can be
reached from it. -/
namespace PluginReadme.Pattern
open Cursor (Onward)

variable {search : Search} {machine : Machine} {way other : List Nat}
  {cursor start stop origin home : Cursor} {course first second : Course} {greedy : Bool}

/-! ## Forks -/

theorem lookup_mark (way other : List Nat) (place : Nat) (passed : List (List Nat × Nat)) :
    (Search.mark way place passed).lookup other =
      if other = way then some ((passed.lookup way).getD 0 ||| 1 <<< place)
      else passed.lookup other := by
  induction passed with
  | nil =>
    by_cases same : other = way
    · simp [Search.mark, same]
    · simp [Search.mark, List.lookup_cons, same, beq_false_of_ne same]
  | cons entry rest ih =>
    obtain ⟨here, places⟩ := entry
    by_cases found : way = here
    · by_cases same : other = here
      · simp [Search.mark, found, same]
      · simp [Search.mark, List.lookup_cons, found, same, beq_false_of_ne same]
    · have apart := beq_false_of_ne found
      by_cases same : other = here
      · simp [Search.mark, found, same, Ne.symm found]
      · simp [Search.mark, List.lookup_cons, apart, beq_false_of_ne same, ih]

theorem hasPassed_pass (search : Search) (way other : List Nat) (place place' : Nat) :
    (search.pass way place).hasPassed other place' =
      (search.hasPassed other place' || (decide (other = way) && decide (place' = place))) := by
  rw [Search.pass, Search.hasPassed, lookup_mark]
  by_cases same : other = way
  · rw [if_pos same, Option.getD_some, Cursor.testBit_insert, ← same]
    simp [Search.hasPassed]
  · rw [if_neg same]
    simp [Search.hasPassed, same]

/-! ## All that is found is a match -/

/-- From a place on, a course only arrives at places that it is to reach. -/
def Sound (course : Course) (reaches : Cursor → Cursor → Prop) : Prop :=
  ∀ search cursor, ∀ stop ∈ (course search cursor).found, stop ∈ search.found ∨ reaches cursor stop

variable {reaches reaches' passes : Cursor → Cursor → Prop}

theorem Sound.mono (sound : Sound course reaches)
    (wider : ∀ cursor stop, reaches cursor stop → reaches' cursor stop) : Sound course reaches' :=
  fun search cursor stop member => (sound search cursor stop member).imp_right (wider cursor stop)

theorem Sound.fork (sound : Sound first reaches) (sound' : Sound second reaches) :
    Sound (Course.fork way first second) reaches := by
  intro search cursor stop member
  unfold Course.fork at member
  split at member
  · exact Or.inl member
  · exact (sound' _ cursor stop member).elim (sound _ cursor stop) Or.inr

theorem Sound.rounds {round : Course → Course}
    (round_sound : ∀ {course reaches}, Sound course reaches →
      Sound (round course) fun start stop => ∃ middle, passes start middle ∧ reaches middle stop)
    (sound : Sound course reaches) (fuel : Nat) :
    Sound (Course.rounds way greedy round course fuel)
      fun start stop => ∃ middle, (∃ count, Times passes count start middle) ∧
        reaches middle stop := by
  induction fuel with
  | zero => exact fun search cursor stop member => Or.inl member
  | succ fuel ih =>
    have more := (round_sound ih).mono
      fun start stop ⟨next, first, middle, ⟨count, rounds⟩, rest⟩ =>
        show ∃ middle, (∃ count, Times passes count start middle) ∧ reaches middle stop from
          ⟨middle, ⟨count + 1, next, first, rounds⟩, rest⟩
    have less := sound.mono fun start stop reached =>
      show ∃ middle, (∃ count, Times passes count start middle) ∧ reaches middle stop from
        ⟨start, ⟨0, rfl⟩, reached⟩
    cases greedy with
    | true => exact more.fork less
    | false => exact less.fork more

theorem walk_sound (machine : Machine) (way : List Nat) (sound : Sound course reaches) :
    Sound (machine.walk way course)
      fun start stop => ∃ middle, machine.Passes start middle ∧ reaches middle stop := by
  induction machine generalizing way course reaches with
  | done => exact sound.mono fun start stop reached => ⟨start, rfl, reached⟩
  | set chars =>
    intro search cursor stop member
    unfold Machine.walk at member
    split at member
    · exact Or.inl member
    · rename_i c rest ahead
      split at member
      · rename_i inside
        exact (sound search _ stop member).imp_right fun reached =>
          ⟨_, ⟨c, rest, ahead, inside, rfl⟩, reached⟩
      · exact Or.inl member
  | look condition =>
    intro search cursor stop member
    unfold Machine.walk at member
    split at member
    · rename_i holds
      exact (sound search cursor stop member).imp_right fun reached =>
        ⟨cursor, ⟨holds, rfl⟩, reached⟩
    · exact Or.inl member
  | concat first second ih ih' =>
    exact (ih _ (ih' _ sound)).mono fun start stop ⟨next, before, middle, after, reached⟩ =>
      ⟨middle, ⟨next, before, after⟩, reached⟩
  | fork first second ih ih' =>
    exact ((ih _ sound).mono fun start stop ⟨middle, passes, reached⟩ =>
      ⟨middle, Or.inl passes, reached⟩).fork ((ih' _ sound).mono
        fun start stop ⟨middle, passes, reached⟩ => ⟨middle, Or.inr passes, reached⟩)
  | star greedy part ih =>
    exact fun search cursor stop member =>
      Sound.rounds (fun sound => ih _ sound) sound _ _ _ _ member
  | plus greedy part ih =>
    have again : Sound (Course.again way greedy (part.walk (0 :: way)) course) _ :=
      fun search cursor stop member => Sound.rounds (fun sound => ih _ sound) sound _ _ _ _ member
    exact (ih _ again).mono fun start stop ⟨next, first, middle, ⟨count, rounds⟩, reached⟩ =>
      ⟨middle, ⟨count, next, first, rounds⟩, reached⟩

/-! ## All that matches is found -/

/-- One search has been wherever the other one has. -/
structure Search.Grows (before after : Search) : Prop where
  passed : ∀ way place, before.hasPassed way place = true → after.hasPassed way place = true
  found : before.found ⊆ after.found

namespace Search.Grows

variable {before middle after : Search}

theorem refl (search : Search) : search.Grows search := ⟨fun _ _ => id, fun _ => id⟩

theorem trans (first : before.Grows middle) (second : middle.Grows after) : before.Grows after :=
  ⟨fun way place passed => second.passed way place (first.passed way place passed),
    fun _ member => second.found (first.found member)⟩

theorem pass (search : Search) (way : List Nat) (place : Nat) :
    search.Grows (search.pass way place) :=
  ⟨fun other place' passed => by rw [hasPassed_pass, passed, Bool.true_or], fun _ => id⟩

end Search.Grows

/-- What a search is to have reached from a place on. -/
abbrev Aim := Search → Cursor → Prop

/-- A fork has been passed. -/
def Passed (way : List Nat) : Aim := fun search cursor =>
  search.hasPassed way cursor.position = true

/-- Going into a machine at a place, up to its first fork or on behind it. -/
def Machine.Reached : Machine → List Nat → Aim → Aim
  | done, _, aim => aim
  | set chars, _, aim => fun search cursor =>
    ∀ c rest, cursor.rest = c :: rest → chars.contains c = true →
      aim search ⟨cursor.position + 1, some c, rest⟩
  | look condition, _, aim => fun search cursor => condition.holds cursor = true → aim search cursor
  | concat first second, way, aim => first.Reached (0 :: way) (second.Reached (1 :: way) aim)
  | fork _ _, way, _ => Passed way
  | star _ _, way, _ => Passed way
  | plus _ part, way, _ => part.Reached (0 :: way) (Passed way)

/-- Both ways have been followed at a place from a fork, which is one of a machine. -/
def Machine.Followed : Machine → List Nat → Aim → Search → List Nat → Cursor → Prop
  | done, _, _, _, _, _ => False
  | set _, _, _, _, _, _ => False
  | look _, _, _, _, _, _ => False
  | concat first second, way, aim, search, other, cursor =>
    first.Followed (0 :: way) (second.Reached (1 :: way) aim) search other cursor ∨
      second.Followed (1 :: way) aim search other cursor
  | fork first second, way, aim, search, other, cursor =>
    (other = way ∧ first.Reached (0 :: way) aim search cursor ∧
        second.Reached (1 :: way) aim search cursor) ∨
      first.Followed (0 :: way) aim search other cursor ∨
      second.Followed (1 :: way) aim search other cursor
  | star _ part, way, aim, search, other, cursor =>
    (other = way ∧ part.Reached (0 :: way) (Passed way) search cursor ∧ aim search cursor) ∨
      part.Followed (0 :: way) (Passed way) search other cursor
  | plus _ part, way, aim, search, other, cursor =>
    (other = way ∧ part.Reached (0 :: way) (Passed way) search cursor ∧ aim search cursor) ∨
      part.Followed (0 :: way) (Passed way) search other cursor

/-- What a search has reached stays reached. -/
structure Stable (aim : Aim) : Prop where
  kept : ∀ {before after : Search} {cursor : Cursor}, before.Grows after → aim before cursor →
    aim after cursor

variable {aim aim' : Aim}

theorem Stable.passed (way : List Nat) : Stable (Passed way) :=
  ⟨fun grows reached => grows.passed way _ reached⟩

theorem Stable.reached (machine : Machine) (way : List Nat) (stable : Stable aim) :
    Stable (machine.Reached way aim) := by
  induction machine generalizing way aim with
  | done => exact stable
  | set chars =>
    exact ⟨fun grows reached c rest ahead inside => stable.kept grows (reached c rest ahead inside)⟩
  | look condition => exact ⟨fun grows reached holds => stable.kept grows (reached holds)⟩
  | concat first second ih ih' => exact ih _ (ih' _ stable)
  | fork | star => exact .passed way
  | plus greedy part ih => exact ih _ (.passed way)

theorem Stable.followed (machine : Machine) (way : List Nat) (stable : Stable aim) :
    Stable fun search cursor => machine.Followed way aim search other cursor := by
  induction machine generalizing way aim with
  | done | set | look => exact ⟨fun _ followed => followed⟩
  | concat first second ih ih' =>
    exact ⟨fun grows => Or.imp ((ih _ (stable.reached second _)).kept grows)
      ((ih' _ stable).kept grows)⟩
  | fork first second ih ih' =>
    exact ⟨fun grows => Or.imp
      (fun ⟨same, one, two⟩ =>
        ⟨same, (stable.reached first _).kept grows one, (stable.reached second _).kept grows two⟩)
      (Or.imp ((ih _ stable).kept grows) ((ih' _ stable).kept grows))⟩
  | star greedy part ih | plus greedy part ih =>
    exact ⟨fun grows => Or.imp
      (fun ⟨same, one, two⟩ =>
        ⟨same, ((Stable.passed way).reached part _).kept grows one, stable.kept grows two⟩)
      ((ih _ (.passed way)).kept grows)⟩

/-- A search that has gone on from each fork that it has come to pass. -/
structure Explores (origin : Cursor) (settled : List Nat → Aim) (before after : Search) :
    Prop where
  grows : before.Grows after
  settled : ∀ way cursor, Onward origin cursor → Passed way after cursor →
    Passed way before cursor ∨ settled way after cursor

variable {settled : List Nat → Aim}

theorem Explores.refl (search : Search) : Explores origin settled search search :=
  ⟨.refl search, fun _ _ _ passed => Or.inl passed⟩

theorem Explores.trans {before middle after : Search} (stable : ∀ way, Stable (settled way))
    (first : Explores origin settled before middle)
    (second : Explores origin settled middle after) : Explores origin settled before after := by
  refine ⟨first.grows.trans second.grows, fun way cursor onward passed => ?_⟩
  rcases second.settled way cursor onward passed with earlier | done
  · exact (first.settled way cursor onward earlier).imp_right ((stable way).kept second.grows)
  · exact Or.inr done

/-- A course that explores what there is from a place on, for a search that has been somewhere. -/
structure Leads (origin : Cursor) (settled : List Nat → Aim) (search : Search) (cursor : Cursor)
    (course : Course) (aim : Aim) : Prop where
  explores : Explores origin settled search (course search cursor)
  reached : aim (course search cursor) cursor

/-- A course that does so from every place from one on, for any search that has been as far. -/
def LeadsOn (origin : Cursor) (settled : List Nat → Aim) (base : Search) (home : Cursor)
    (course : Course) (aim : Aim) : Prop :=
  ∀ search cursor, base.Grows search → Onward home cursor →
    Leads origin settled search cursor course aim

/-- Both ways from a fork are followed, unless that has been done before. -/
theorem fork_leads (stable : ∀ way, Stable (settled way)) (stable' : Stable aim)
    (onward : Onward origin cursor)
    (ahead : ¬ Passed way search cursor → ∀ later, (search.pass way cursor.position).Grows later →
      Leads origin settled later cursor first aim ∧ Leads origin settled later cursor second aim')
    (done : ∀ later, aim later cursor → aim' later cursor → settled way later cursor) :
    Leads origin settled search cursor (Course.fork way first second) (Passed way) := by
  by_cases passed : search.hasPassed way cursor.position = true
  · have stays : Course.fork way first second search cursor = search := by
      simp [Course.fork, passed]
    constructor <;> rw [stays]
    · exact .refl search
    · exact passed
  · have goes : Course.fork way first second search cursor =
        second (first (search.pass way cursor.position) cursor) cursor := by
      simp [Course.fork, passed]
    have one := (ahead passed _ (.refl _)).1
    have two := (ahead passed _ one.explores.grows).2
    have both := one.explores.trans stable two.explores
    constructor <;> rw [goes]
    · refine ⟨(Search.Grows.pass search way cursor.position).trans both.grows, ?_⟩
      intro other cursor' onward' passed'
      rcases both.settled other cursor' onward' passed' with here | earlier
      · rw [Passed, hasPassed_pass, Bool.or_eq_true, Bool.and_eq_true, decide_eq_true_iff,
          decide_eq_true_iff] at here
        refine here.imp_right fun ⟨same, place⟩ => ?_
        obtain rfl := same
        obtain rfl := onward'.same onward place
        exact done _ (stable'.kept two.explores.grows one.reached) two.reached
      · exact Or.inr earlier
    · exact both.grows.passed way _ (by simp [hasPassed_pass])

/-- Rounds that can be explored, and whose fork is settled when both a round and what comes behind
the rounds have been reached from it. -/
structure RoundLeads (origin : Cursor) (settled : List Nat → Aim) (way : List Nat) (aim : Aim)
    (round : Course → Course) (entry : Aim) : Prop where
  stable : Stable entry
  leads : ∀ {base home course}, Onward origin home →
    LeadsOn origin settled base home course (Passed way) →
    LeadsOn origin settled base home (round course) entry
  done : ∀ search cursor, entry search cursor → aim search cursor → settled way search cursor

variable {base : Search} {round : Course → Course} {entry : Aim}

theorem rounds_leads (stable : ∀ way, Stable (settled way)) (stable' : Stable aim)
    (rounds : RoundLeads origin settled way aim round entry) (onward : Onward origin home)
    (leads : LeadsOn origin settled base home course aim) (fuel : Nat) (grows : base.Grows search)
    (further : Onward home cursor)
    (fuelled : cursor.rest.length < fuel ∨ Passed way search cursor) :
    Leads origin settled search cursor (Course.rounds way greedy round course fuel)
      (Passed way) := by
  induction fuel generalizing search cursor with
  | zero => exact ⟨.refl search, fuelled.resolve_left (Nat.not_lt_zero _)⟩
  | succ fuel ih =>
    have here := onward.trans further
    have ahead : ¬ Passed way search cursor → ∀ later,
        (search.pass way cursor.position).Grows later →
        Leads origin settled later cursor (round (Course.rounds way greedy round course fuel))
            entry ∧
          Leads origin settled later cursor course aim := by
      intro fresh later after
      have room := fuelled.resolve_right fresh
      have grown {later : Search} (after : (search.pass way cursor.position).Grows later) :
          base.Grows later := (grows.trans (.pass search way _)).trans after
      refine ⟨rounds.leads here ?_ later cursor after (.refl cursor),
        leads later cursor (grown after) further⟩
      intro later next after onward'
      refine ih (grown after) (further.trans onward') ?_
      rcases Nat.lt_or_eq_of_le onward'.position_le with beyond | same
      · have length := onward'.length
        exact Or.inl (by omega)
      · exact Or.inr (after.passed way _ (by simp [hasPassed_pass, same]))
    cases greedy with
    | true => exact fork_leads stable rounds.stable here ahead fun _ => rounds.done _ cursor
    | false =>
      exact fork_leads stable stable' here (fun fresh later after => (ahead fresh later after).symm)
        fun _ reached entered => rounds.done _ cursor entered reached

/-- There is fuel enough for a round that gets on, and one that does not comes back to its fork. -/
theorem again_leads (stable : ∀ way, Stable (settled way)) (stable' : Stable aim)
    (rounds : RoundLeads origin settled way aim round entry) (onward : Onward origin home)
    (leads : LeadsOn origin settled base home course aim) :
    LeadsOn origin settled base home (Course.again way greedy round course) (Passed way) := by
  intro search cursor grows further
  obtain ⟨explores, reached⟩ := rounds_leads stable stable' rounds onward leads
    (cursor.rest.length + 1) grows further (Or.inl (Nat.lt_succ_self _))
  exact ⟨explores, reached⟩

theorem walk_leads (stable : ∀ way, Stable (settled way)) (machine : Machine) (way : List Nat)
    (stable' : Stable aim)
    (within : ∀ other search cursor, machine.Followed way aim search other cursor →
      settled other search cursor)
    (onward : Onward origin home) (leads : LeadsOn origin settled base home course aim) :
    LeadsOn origin settled base home (machine.walk way course) (machine.Reached way aim) := by
  induction machine generalizing way aim course base home with
  | done => exact leads
  | set chars =>
    intro search cursor grows further
    obtain ⟨position, previous, rest⟩ := cursor
    cases rest with
    | nil => exact ⟨.refl search, fun c rest ahead => nomatch ahead⟩
    | cons c rest =>
      have next : Onward ⟨position, previous, c :: rest⟩ ⟨position + 1, some c, rest⟩ :=
        ⟨[c], rfl, rfl, rfl⟩
      by_cases inside : chars.contains c = true
      · obtain ⟨explores, reached⟩ := leads search _ grows (further.trans next)
        constructor <;> simp only [Machine.walk, inside, ↓reduceIte]
        · exact explores
        · rintro c rest ⟨⟩ -
          exact reached
      · constructor <;> simp only [Machine.walk, inside, Bool.false_eq_true, ↓reduceIte]
        · exact .refl search
        · rintro c rest ⟨⟩ inside'
          exact absurd inside' inside
  | look condition =>
    intro search cursor grows further
    by_cases holds : condition.holds cursor = true
    · obtain ⟨explores, reached⟩ := leads search cursor grows further
      constructor <;> simp only [Machine.walk, holds, ↓reduceIte]
      · exact explores
      · exact fun _ => reached
    · constructor <;> simp only [Machine.walk, holds, Bool.false_eq_true, ↓reduceIte]
      · exact .refl search
      · exact fun holds' => absurd holds' holds
  | concat first second ih ih' =>
    exact ih _ (stable'.reached second _) (fun _ _ _ followed => within _ _ _ (Or.inl followed))
      onward (ih' _ stable' (fun _ _ _ followed => within _ _ _ (Or.inr followed)) onward leads)
  | fork first second ih ih' =>
    intro search cursor grows further
    refine fork_leads stable (stable'.reached first _) (onward.trans further) ?_
      fun _ one two => within _ _ _ (Or.inl ⟨rfl, one, two⟩)
    intro _ later after
    have grown : base.Grows later := (grows.trans (.pass search way _)).trans after
    exact ⟨ih _ stable' (fun _ _ _ followed => within _ _ _ (Or.inr (Or.inl followed))) onward leads
        later cursor grown further,
      ih' _ stable' (fun _ _ _ followed => within _ _ _ (Or.inr (Or.inr followed))) onward leads
        later cursor grown further⟩
  | star greedy part ih =>
    have round {base home course} (onward : Onward origin home)
        (leads : LeadsOn origin settled base home course (Passed way)) :=
      ih (0 :: way) (.passed way) (fun _ _ _ followed => within _ _ _ (Or.inr followed)) onward
        leads
    exact again_leads stable stable' ⟨(Stable.passed way).reached part _, round,
      fun _ _ entered reached => within _ _ _ (Or.inl ⟨rfl, entered, reached⟩)⟩ onward leads
  | plus greedy part ih =>
    have round {base home course} (onward : Onward origin home)
        (leads : LeadsOn origin settled base home course (Passed way)) :=
      ih (0 :: way) (.passed way) (fun _ _ _ followed => within _ _ _ (Or.inr followed)) onward
        leads
    exact round onward (again_leads stable stable' ⟨(Stable.passed way).reached part _, round,
      fun _ _ entered reached => within _ _ _ (Or.inl ⟨rfl, entered, reached⟩)⟩ onward leads)

/-! ## What has been settled -/

theorem followed_within {cursor : Cursor}
    (followed : machine.Followed way aim search other cursor) : way <:+ other := by
  induction machine generalizing way aim with
  | done | set | look => exact followed.elim
  | concat first second ih ih' =>
    rcases followed with followed | followed
    · exact (List.suffix_cons 0 way).trans (ih followed)
    · exact (List.suffix_cons 1 way).trans (ih' followed)
  | fork first second ih ih' =>
    rcases followed with ⟨rfl, -⟩ | followed | followed
    · exact List.suffix_refl _
    · exact (List.suffix_cons 0 way).trans (ih followed)
    · exact (List.suffix_cons 1 way).trans (ih' followed)
  | star greedy part ih | plus greedy part ih =>
    rcases followed with ⟨rfl, -⟩ | followed
    · exact List.suffix_refl _
    · exact (List.suffix_cons 0 way).trans (ih followed)

/-- A fork is not below itself. -/
theorem not_below (branch : Nat) (way : List Nat) : ¬ branch :: way <:+ way :=
  fun below => absurd below.length_le (by simp)

/-- A fork is below one branch only. -/
theorem branch_unique {branch branch' : Nat} (below : branch :: way <:+ other)
    (below' : branch' :: way <:+ other) : branch = branch' := by
  have same := List.suffix_of_suffix_length_le below below' (by simp)
  exact (List.cons.inj (same.eq_of_length (by simp))).1

/-- From each fork of a machine that a search has passed it has followed both ways. -/
def Settles (origin : Cursor) (machine : Machine) (way : List Nat) (aim : Aim) (search : Search) :
    Prop :=
  ∀ other cursor, way <:+ other → Onward origin cursor → Passed other search cursor →
    machine.Followed way aim search other cursor

theorem Settles.branch {part : Machine} {branch : Nat}
    (settles : Settles origin machine way aim search)
    (only : ∀ other cursor, branch :: way <:+ other → machine.Followed way aim search other cursor →
      part.Followed (branch :: way) aim' search other cursor) :
    Settles origin part (branch :: way) aim' search :=
  fun other cursor below onward passed => only other cursor below
    (settles other cursor ((List.suffix_cons branch way).trans below) onward passed)

theorem Settles.inner {part : Machine}
    (settles : Settles origin (.star greedy part) way aim search) :
    Settles origin part (0 :: way) (Passed way) search := by
  refine settles.branch ?_
  rintro other cursor below (⟨rfl, -⟩ | followed)
  · exact absurd below (not_below 0 other)
  · exact followed

theorem Settles.passed {part : Machine}
    (settles : Settles origin (.star greedy part) way aim search) (onward : Onward origin cursor)
    (passed : Passed way search cursor) :
    part.Reached (0 :: way) (Passed way) search cursor ∧ aim search cursor := by
  rcases settles way cursor (List.suffix_refl _) onward passed with ⟨-, both⟩ | followed
  · exact both
  · exact absurd (followed_within followed) (not_below 0 way)

/-- Where rounds get to from a fork that has been passed, the search has got, too. -/
private theorem rounds_reach {part : Machine}
    (settles : Settles origin (.star greedy part) way aim search)
    (round : ∀ {start stop}, Onward origin start →
      part.Reached (0 :: way) (Passed way) search start → part.Passes start stop →
      Passed way search stop)
    (count : Nat) (onward : Onward origin start) (passed : Passed way search start)
    (rounds : Times part.Passes count start stop) : aim search stop := by
  induction count generalizing start with
  | zero =>
    obtain rfl := rounds
    exact (settles.passed onward passed).2
  | succ count ih =>
    obtain ⟨next, first, rounds⟩ := rounds
    have entered := (settles.passed onward passed).1
    exact ih (onward.trans first.onward) (round onward entered first) rounds

/-- Where a machine gets to from a place that has been reached, the search has got, too. -/
theorem settled_reaches (settles : Settles origin machine way aim search)
    (onward : Onward origin start) (reached : machine.Reached way aim search start)
    (passes : machine.Passes start stop) : aim search stop := by
  induction machine generalizing way aim start stop with
  | done =>
    obtain rfl := passes
    exact reached
  | set chars =>
    obtain ⟨c, rest, ahead, inside, rfl⟩ := passes
    exact reached c rest ahead inside
  | look condition =>
    obtain ⟨holds, rfl⟩ := passes
    exact reached holds
  | concat first second ih ih' =>
    obtain ⟨middle, before, after⟩ := passes
    refine ih' (settles.branch ?_) (onward.trans before.onward)
      (ih (settles.branch ?_) onward reached before) after
    · rintro other cursor below (followed | followed)
      · exact absurd (branch_unique below (followed_within followed)) (by decide)
      · exact followed
    · rintro other cursor below (followed | followed)
      · exact followed
      · exact absurd (branch_unique below (followed_within followed)) (by decide)
  | fork first second ih ih' =>
    obtain ⟨-, one, two⟩ : way = way ∧ first.Reached (0 :: way) aim search start ∧
        second.Reached (1 :: way) aim search start := by
      rcases settles way start (List.suffix_refl _) onward reached with here | followed | followed
      · exact here
      · exact absurd (followed_within followed) (not_below 0 way)
      · exact absurd (followed_within followed) (not_below 1 way)
    rcases passes with passes | passes
    · refine ih (settles.branch ?_) onward one passes
      rintro other cursor below (⟨rfl, -⟩ | followed | followed)
      · exact absurd below (not_below 0 other)
      · exact followed
      · exact absurd (branch_unique below (followed_within followed)) (by decide)
    · refine ih' (settles.branch ?_) onward two passes
      rintro other cursor below (⟨rfl, -⟩ | followed | followed)
      · exact absurd below (not_below 1 other)
      · exact absurd (branch_unique below (followed_within followed)) (by decide)
      · exact followed
  | star greedy part ih =>
    obtain ⟨count, rounds⟩ := passes
    exact rounds_reach settles (ih settles.inner) count onward reached rounds
  | plus greedy part ih =>
    obtain ⟨count, next, first, rounds⟩ := passes
    have settles : Settles origin (.star greedy part) way aim search := settles
    exact rounds_reach settles (ih settles.inner) count (onward.trans first.onward)
      (ih settles.inner onward reached first) rounds

/-! ## The ends of matches -/

/-- To arrive somewhere, with nothing to go on to. -/
def Arrived : Aim := fun search cursor => cursor ∈ search.found

theorem arrive_leads (settled : List Nat → Aim) (search : Search) (cursor : Cursor) :
    Leads origin settled search cursor Search.arrive Arrived where
  explores := ⟨⟨fun _ _ => id, List.subset_cons_self _ _⟩, fun _ _ _ passed => Or.inl passed⟩
  reached := List.mem_cons_self

theorem mem_found (machine : Machine) (start stop : Cursor) :
    stop ∈ (machine.walk [] Search.arrive .start start).found ↔ machine.Passes start stop := by
  constructor
  · intro member
    have arrives : Sound Search.arrive fun cursor stop => stop = cursor :=
      fun search cursor stop member => (List.mem_cons.mp member).symm
    rcases walk_sound machine [] arrives .start start stop member with early | ⟨_, passes, rfl⟩
    · exact absurd early List.not_mem_nil
    · exact passes
  · intro passes
    have stable : Stable Arrived := ⟨fun grows reached => grows.found reached⟩
    have leads : LeadsOn start (fun other search cursor => machine.Followed [] Arrived search other
        cursor) .start start (machine.walk [] Search.arrive) (machine.Reached [] Arrived) :=
      walk_leads (fun _ => stable.followed machine []) machine [] stable (fun _ _ _ => id)
        (.refl start) fun search cursor _ _ => arrive_leads _ search cursor
    obtain ⟨explores, reached⟩ := leads .start start (.refl _) (.refl start)
    have settles : Settles start machine [] Arrived
        (machine.walk [] Search.arrive .start start) := fun other cursor _ onward passed =>
      (explores.settled other cursor onward passed).resolve_left
        (by simp [Passed, Search.hasPassed, Search.start])
    exact settled_reaches settles (.refl start) reached passes

/-- A search arrives just where a match of its pattern ends. -/
theorem mem_ends (pattern : Pattern) (start stop : Cursor) :
    stop ∈ pattern.ends start ↔ pattern.Matches start stop := by
  rw [ends, Cursor.mem_distinct, List.mem_reverse, mem_found, machine_passes]
  exact fun stop member => ((mem_found _ _ _).mp (List.mem_reverse.mp member)).onward

end PluginReadme.Pattern
