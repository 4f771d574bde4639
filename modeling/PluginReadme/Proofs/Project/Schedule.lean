import Mathlib.Data.List.Nodup
import Mathlib.Logic.Relation
import Mathlib.Tactic.ByContra
import PluginReadme.Proofs.Project.FileSync

/-! A batch whose files are worked on at the same time. Every file has a task of its own, the
accesses of the tasks come in any order, and so do their ends; the reports are sorted when all
tasks have ended. Files that are apart come out as if they had been worked on one by one. -/
namespace PluginReadme.Schedule
open Project Walk FileSync
open Version (Rule FileRole rewriteAll)

/-! ## Tasks -/

/-- What a task still has to do: its next access with what it goes on to for each result of it, or
nothing. -/
inductive Work (α : Type) where
  | done (result : α)
  | read (path : Text) (next : Except FileError Text → Work α)
  | write (path content : Text) (next : Except FileError Unit → Work α)

namespace Work

/-- The work that follows on the result of other work. -/
def andThen : Work α → (α → Work β) → Work β
  | done result, rest => rest result
  | read path next, rest => read path fun result => (next result).andThen rest
  | write path content next, rest => write path content fun result => (next result).andThen rest

instance : Monad Work where
  pure := done
  bind := andThen

instance : Files Work where
  read path := read path done
  write path content := write path content done

/-- Makes the next access. -/
def step (disk : Disk) : Work α → Option (Disk × Work α)
  | done _ => none
  | read path next => some (disk, next (disk.read path))
  | write path content next =>
    match disk.write path content with
    | .ok after => some (after, next (.ok ()))
    | .error error => some (disk, next (.error error))

/-- At most so many accesses are left, whatever they result in. -/
inductive Within : Nat → Work α → Prop where
  | done : Within count (done result)
  | read : (∀ result, Within count (next result)) → Within (count + 1) (read path next)
  | write : (∀ result, Within count (next result)) → Within (count + 1) (write path content next)

end Work

/-- The tasks of a batch on one disk. -/
structure Pool where
  disk : Disk
  /-- The path of each task and what the task has to do. -/
  tasks : List (Text × Work (Except Failure Status))
  /-- The reports of the tasks that have been joined, in the order in which they were, each with
  the number of its task. -/
  joined : List (Nat × FileReport)

namespace Pool

/-- The tasks of a batch before any of them has begun. -/
def start (role : FileRole) (key version : Text) (mode : Mode) (paths : List Text) (disk : Disk) :
    Pool :=
  ⟨disk, paths.map fun path => (path, syncFile (role.rules key) version mode path), []⟩

/-- The reports in the order of the tasks. -/
def report (pool : Pool) : Batch :=
  ⟨(pool.joined.mergeSort fun first second => first.1 ≤ second.1).map (·.2)⟩

end Pool

/-- Some task makes its next access, or a task that has ended is joined. -/
inductive Step (pool : Pool) : Pool → Prop where
  | access {index : Nat} {path : Text} {work rest : Work (Except Failure Status)} {disk : Disk} :
      pool.tasks[index]? = some (path, work) → work.step pool.disk = some (disk, rest) →
      Step pool ⟨disk, pool.tasks.set index (path, rest), pool.joined⟩
  | join {index : Nat} {path : Text} {result : Except Failure Status} :
      pool.tasks[index]? = some (path, .done result) → index ∉ pool.joined.map (·.1) →
      Step pool ⟨pool.disk, pool.tasks, pool.joined ++ [(index, ⟨path, result⟩)]⟩

/-- A schedule: any number of steps. -/
abbrev Steps : Pool → Pool → Prop := Relation.ReflTransGen Step

/-- Nothing is left to do. -/
def Ended (pool : Pool) : Prop := ∀ next, ¬ Step pool next

/-- What comes of a batch whose files are worked on one by one. -/
def oneByOne (role : FileRole) (key version : Text) (mode : Mode) (paths : List Text)
    (disk : Disk) : Batch × Disk :=
  let ((batch, _), after) :=
    (syncFiles role key version mode paths : StateT Log (StateM Disk) Batch) [] disk
  (batch, after)

variable {role : FileRole} {key version path : Text} {mode : Mode} {paths done : List Text}
  {disk current after : Disk} {rules : List Rule} {pool later : Pool}
  {work rest : Work (Except Failure Status)}

/-! ## What a step preserves -/

/-- How far the task of a path has come, if the tree was `disk` at the start. -/
inductive Stage (rules : List Rule) (version : Text) (mode : Mode) (disk : Disk) (path : Text) :
    Work (Except Failure Status) → Prop where
  | fresh : Stage rules version mode disk path (syncFile rules version mode path)
  | holding (writes : mode = .write) (found : disk.read path = .ok content)
      (ending : next (.ok ()) = .done (outcome rules version disk path)) :
      Stage rules version mode disk path (.write path (rewriteAll rules version content) next)
  | done : Stage rules version mode disk path (.done (outcome rules version disk path))

/-- The tree once the given files are through: a dry run leaves it alone. -/
def Through (rules : List Rule) (version : Text) (mode : Mode) (disk : Disk) (done : List Text)
    (after : Disk) : Prop :=
  match mode with
  | .dryRun => after = disk
  | .write => Rewritten rules version disk done after

/-- The task of a path has ended. -/
def Over (tasks : List (Text × Work (Except Failure Status))) (path : Text) : Prop :=
  ∃ (index : Nat) (result : Except Failure Status), tasks[index]? = some (path, .done result)

/-- What holds between any two steps: every task is at a stage of its own path, exactly the tasks
that have ended have left their mark on the tree, and what has been joined is what tasks have ended
with. -/
structure Coherent (rules : List Rule) (version : Text) (mode : Mode) (disk : Disk)
    (paths : List Text) (pool : Pool) : Prop where
  paths_eq : pool.tasks.map (·.1) = paths
  stages : ∀ (index : Nat) path work, pool.tasks[index]? = some (path, work) →
    Stage rules version mode disk path work
  tree : ∃ done, Through rules version mode disk done pool.disk ∧
    ∀ path, path ∈ done ↔ Over pool.tasks path
  distinct : (pool.joined.map (·.1)).Nodup
  joined : ∀ index file, (index, file) ∈ pool.joined →
    pool.tasks[index]? = some (file.path, .done file.result)

private theorem syncFile_work (rules : List Rule) (version : Text) (mode : Mode) (path : Text) :
    (syncFile rules version mode path : Work (Except Failure Status)) =
      .read path fun
        | .error error => .done (.error (.ofTarget path error))
        | .ok content =>
          match mode with
          | .dryRun => .done (.ok (statusOf content (rewriteAll rules version content)))
          | .write => .write path (rewriteAll rules version content) fun
            | .error error => .done (.error (.ofTarget path error))
            | .ok () => .done (.ok (statusOf content (rewriteAll rules version content))) := by
  rfl

private theorem through_read (through : Through rules version mode disk done current)
    (apart : ∀ other ∈ done, Apart disk other path) : current.read path = disk.read path := by
  cases mode with
  | dryRun =>
    have same : current = disk := through
    rw [same]
  | write => exact Rewritten.read_apart through apart

private theorem through_skip (through : Through rules version mode disk done current)
    (failed : disk.read path = .error error) :
    Through rules version mode disk (path :: done) current := by
  cases mode with
  | dryRun => exact through
  | write => exact Rewritten.skip through failed

/-- One access of a task takes it from stage to stage, and the tree along when the task ends. -/
private theorem stage_step (stage : Stage rules version mode disk path work)
    (through : Through rules version mode disk done current)
    (apart : ∀ other ∈ done, Apart disk other path)
    (stepped : work.step current = some (after, rest)) :
    Stage rules version mode disk path rest ∧
      ((∃ result, rest = .done result) ∧ Through rules version mode disk (path :: done) after ∨
        (∀ result, rest ≠ .done result) ∧ Through rules version mode disk done after) := by
  cases stage with
  | fresh =>
    rw [syncFile_work, Work.step, through_read through apart] at stepped
    cases found : disk.read path with
    | error error =>
      simp only [found, Option.some.injEq, Prod.mk.injEq] at stepped
      obtain ⟨rfl, rfl⟩ := stepped
      have ending : outcome rules version disk path = .error (.ofTarget path error) := by
        simp [outcome, found]
      exact ⟨ending ▸ .done, Or.inl ⟨⟨_, rfl⟩, through_skip through found⟩⟩
    | ok content =>
      have ending : outcome rules version disk path =
          .ok (statusOf content (rewriteAll rules version content)) := by
        simp [outcome, found]
      cases mode with
      | dryRun =>
        simp only [found, Option.some.injEq, Prod.mk.injEq] at stepped
        obtain ⟨rfl, rfl⟩ := stepped
        exact ⟨ending ▸ .done, Or.inl ⟨⟨_, rfl⟩, through⟩⟩
      | write =>
        simp only [found, Option.some.injEq, Prod.mk.injEq] at stepped
        obtain ⟨rfl, rfl⟩ := stepped
        exact ⟨.holding rfl found (by simp [ending]),
          Or.inr ⟨(by intro result wrong; cases wrong), through⟩⟩
  | holding writes found ending =>
    subst writes
    obtain ⟨place, -, written, extended⟩ := Rewritten.write through found
    simp only [Work.step, written, Option.some.injEq, Prod.mk.injEq] at stepped
    obtain ⟨rfl, rfl⟩ := stepped
    exact ⟨ending ▸ .done, Or.inl ⟨⟨_, ending⟩, extended⟩⟩
  | done => cases stepped

private theorem coherent_start (role : FileRole) (key version : Text) (mode : Mode)
    (paths : List Text) (disk : Disk) :
    Coherent (role.rules key) version mode disk paths
      (Pool.start role key version mode paths disk) where
  paths_eq := by simp [Pool.start, Function.comp_def]
  stages index path work held := by
    simp only [Pool.start, List.getElem?_map, Option.map_eq_some_iff, Prod.mk.injEq] at held
    obtain ⟨_, -, rfl, rfl⟩ := held
    exact .fresh
  tree := by
    refine ⟨[], ?_, ?_⟩
    · cases mode with
      | dryRun => rfl
      | write => exact Rewritten.none _ _ _
    · intro path
      simp only [Over, Pool.start, List.not_mem_nil, List.getElem?_map, Option.map_eq_some_iff,
        Prod.mk.injEq, false_iff, not_exists, not_and]
      rintro index result _ - rfl wrong
      rw [syncFile_work] at wrong
      cases wrong
  distinct := List.nodup_nil
  joined _ _ member := nomatch member

private theorem apart_of_ne (apart : paths.Pairwise (Apart disk)) {first second : Nat}
    (here : paths[first]? = some path) (there : paths[second]? = some other)
    (different : first ≠ second) : Apart disk path other := by
  rw [List.pairwise_iff_getElem] at apart
  obtain ⟨firstBound, rfl⟩ := List.getElem?_eq_some_iff.mp here
  obtain ⟨secondBound, rfl⟩ := List.getElem?_eq_some_iff.mp there
  rcases Nat.lt_or_gt_of_ne different with before | behind
  · exact apart first second firstBound secondBound before
  · exact (apart second first secondBound firstBound behind).symm

private theorem path_of_task (coherent : Coherent rules version mode disk paths pool) {index : Nat}
    (held : pool.tasks[index]? = some (path, work)) : paths[index]? = some path := by
  rw [← coherent.paths_eq, List.getElem?_map, held]
  rfl

private theorem over_set {tasks : List (Text × Work (Except Failure Status))} {index : Nat}
    (held : tasks[index]? = some (path, work)) (running : ∀ result, work ≠ .done result)
    (rest : Work (Except Failure Status)) (other : Text) :
    Over (tasks.set index (path, rest)) other ↔
      other = path ∧ (∃ result, rest = .done result) ∨ Over tasks other := by
  have bound : index < tasks.length := (List.getElem?_eq_some_iff.mp held).1
  constructor
  · rintro ⟨place, result, ended⟩
    by_cases same : index = place
    · subst same
      rw [List.getElem?_set_self bound] at ended
      cases ended
      exact Or.inl ⟨rfl, result, rfl⟩
    · rw [List.getElem?_set_ne same] at ended
      exact Or.inr ⟨place, result, ended⟩
  · rintro (⟨rfl, result, rfl⟩ | ⟨place, result, ended⟩)
    · exact ⟨index, result, List.getElem?_set_self bound⟩
    · refine ⟨place, result, ?_⟩
      rw [List.getElem?_set_ne]
      · exact ended
      · rintro rfl
        rw [held] at ended
        cases ended
        exact running result rfl

private theorem distinct_join {joined : List (Nat × FileReport)} {index : Nat}
    (distinct : (joined.map (·.1)).Nodup) (fresh : index ∉ joined.map (·.1)) (file : FileReport) :
    ((joined ++ [(index, file)]).map (·.1)).Nodup := by
  rw [List.map_append, List.nodup_append]
  refine ⟨distinct, by simp, ?_⟩
  rintro number old _ new rfl
  simp only [List.map_cons, List.map_nil, List.mem_singleton] at new
  exact fresh (new ▸ old)

/-- Any step of any task keeps what holds between steps. -/
theorem coherent_step (apart : paths.Pairwise (Apart disk))
    (coherent : Coherent rules version mode disk paths pool) (stepped : Step pool later) :
    Coherent rules version mode disk paths later := by
  obtain ⟨done, through, members⟩ := coherent.tree
  cases stepped with
  | @access index path work rest after held moved =>
    have bound : index < pool.tasks.length := (List.getElem?_eq_some_iff.mp held).1
    have running : ∀ result, work ≠ .done result := by
      rintro result rfl
      cases moved
    have away : ∀ other ∈ done, Apart disk other path := by
      intro other member
      obtain ⟨place, result, ended⟩ := (members other).mp member
      refine apart_of_ne apart (path_of_task coherent ended) (path_of_task coherent held) ?_
      rintro rfl
      rw [held] at ended
      cases ended
      exact running result rfl
    obtain ⟨stage, tree⟩ := stage_step (coherent.stages index path work held) through away moved
    refine ⟨?_, ?_, ?_, coherent.distinct, ?_⟩
    · rw [List.map_set, coherent.paths_eq]
      obtain ⟨inside, same⟩ := List.getElem?_eq_some_iff.mp (path_of_task coherent held)
      rw [← same, List.set_getElem_self inside]
    · intro place other work again
      by_cases same : place = index
      · subst same
        rw [List.getElem?_set_self bound] at again
        cases again
        exact stage
      · rw [List.getElem?_set_ne (Ne.symm same)] at again
        exact coherent.stages place other work again
    · rcases tree with ⟨ended, through⟩ | ⟨unended, through⟩
      · refine ⟨path :: done, through, ?_⟩
        intro other
        rw [over_set held running, List.mem_cons, members]
        simp [ended]
      · refine ⟨done, through, ?_⟩
        intro other
        rw [over_set held running, members]
        simp [unended]
    · intro place file member
      have ended := coherent.joined place file member
      rw [List.getElem?_set_ne]
      · exact ended
      · rintro rfl
        rw [held] at ended
        cases ended
        exact running _ rfl
  | @join index path result held fresh =>
    refine ⟨coherent.paths_eq, coherent.stages, ⟨done, through, members⟩, ?_, ?_⟩
    · exact distinct_join coherent.distinct fresh _
    · intro place file member
      rcases List.mem_append.mp member with member | member
      · exact coherent.joined place file member
      · simp only [List.mem_singleton, Prod.mk.injEq] at member
        obtain ⟨rfl, rfl⟩ := member
        exact held

theorem coherent_steps (apart : paths.Pairwise (Apart disk))
    (steps : Steps (Pool.start role key version mode paths disk) pool) :
    Coherent (role.rules key) version mode disk paths pool := by
  induction steps with
  | refl => exact coherent_start role key version mode paths disk
  | tail _ step ih => exact coherent_step apart ih step

/-! ## When nothing is left to do -/

private theorem step_exists (running : ∀ result, work ≠ .done result) (disk : Disk) :
    ∃ after rest, work.step disk = some (after, rest) := by
  cases work with
  | done result => exact absurd rfl (running result)
  | read path next => exact ⟨_, _, rfl⟩
  | write path content next =>
    cases written : disk.write path content with
    | ok after => exact ⟨after, next (.ok ()), by simp [Work.step, written]⟩
    | error error => exact ⟨disk, next (.error error), by simp [Work.step, written]⟩

/-- At the end every task has ended and has been joined. -/
private theorem ended_joined (ended : Ended pool) {index : Nat}
    (held : pool.tasks[index]? = some (path, work)) :
    (∃ result, work = .done result) ∧ index ∈ pool.joined.map (·.1) := by
  by_cases done : ∃ result, work = .done result
  · refine ⟨done, ?_⟩
    obtain ⟨result, rfl⟩ := done
    by_contra fresh
    exact ended _ (.join held fresh)
  · obtain ⟨after, rest, moved⟩ := step_exists (fun result same => done ⟨result, same⟩) pool.disk
    exact absurd (.access held moved) (ended _)

private theorem stage_result {result : Except Failure Status}
    (stage : Stage rules version mode disk path (.done result)) :
    result = outcome rules version disk path := by
  cases stage
  rfl

/-- The reports of a batch with the numbers of their tasks, in order. -/
private def numbered (rules : List Rule) (version : Text) (disk : Disk) (paths : List Text) :
    List (Nat × FileReport) :=
  paths.zipIdx.map fun (path, index) => (index, ⟨path, outcome rules version disk path⟩)

private theorem mem_numbered {index : Nat} {file : FileReport} :
    (index, file) ∈ numbered rules version disk paths ↔
      paths[index]? = some file.path ∧ file.result = outcome rules version disk file.path := by
  simp only [numbered, List.mem_map, Prod.mk.injEq, Prod.exists]
  constructor
  · rintro ⟨path, _, member, rfl, rfl⟩
    exact ⟨List.mk_mem_zipIdx_iff_getElem?.mp member, rfl⟩
  · rintro ⟨held, same⟩
    exact ⟨file.path, index, List.mk_mem_zipIdx_iff_getElem?.mpr held, rfl, by rw [← same]⟩

private theorem numbered_indexes (rules : List Rule) (version : Text) (disk : Disk)
    (paths : List Text) :
    (numbered rules version disk paths).map (·.1) = List.range paths.length := by
  simp [numbered, Function.comp_def, List.range_eq_range']

private theorem joined_perm (coherent : Coherent rules version mode disk paths pool)
    (ended : Ended pool) : pool.joined.Perm (numbered rules version disk paths) := by
  have distinct : (numbered rules version disk paths).Nodup := by
    apply List.Nodup.of_map (·.1)
    rw [numbered_indexes]
    exact List.nodup_range
  rw [List.perm_ext_iff_of_nodup (List.Nodup.of_map _ coherent.distinct) distinct]
  rintro ⟨index, file⟩
  rw [mem_numbered]
  constructor
  · intro member
    have held := coherent.joined index file member
    exact ⟨path_of_task coherent held, stage_result (coherent.stages index _ _ held)⟩
  · rintro ⟨named, same⟩
    have task : ∃ work, pool.tasks[index]? = some (file.path, work) := by
      rw [← coherent.paths_eq, List.getElem?_map, Option.map_eq_some_iff] at named
      obtain ⟨⟨_, work⟩, held, rfl⟩ := named
      exact ⟨work, held⟩
    obtain ⟨work, held⟩ := task
    obtain ⟨⟨result, rfl⟩, joined⟩ := ended_joined ended held
    obtain ⟨⟨_, other⟩, member, rfl⟩ := List.mem_map.mp joined
    have again := coherent.joined _ _ member
    rw [held, stage_result (coherent.stages _ _ _ held), ← same] at again
    obtain ⟨path, result⟩ := file
    obtain ⟨otherPath, otherResult⟩ := other
    cases again
    exact member

/-- Sorting puts the reports back into the order of the paths, whatever order they came in. -/
theorem report_eq (coherent : Coherent rules version mode disk paths pool) (ended : Ended pool) :
    pool.report.files = paths.map fun path => ⟨path, outcome rules version disk path⟩ := by
  have perm := joined_perm coherent ended
  have sorted : pool.joined.mergeSort (fun first second => first.1 ≤ second.1) =
      numbered rules version disk paths := by
    apply @List.Perm.eq_of_pairwise _ fun first second => first.1 ≤ second.1
    · rintro ⟨index, file⟩ ⟨_, other⟩ here there before behind
      obtain rfl : index = _ := Nat.le_antisymm before behind
      rw [List.mem_mergeSort, perm.mem_iff] at here
      rw [mem_numbered] at here there
      obtain ⟨path, result⟩ := file
      obtain ⟨otherPath, otherResult⟩ := other
      simp_all
    · have inOrder := @List.pairwise_mergeSort (Nat × FileReport)
        (fun first second => decide (first.1 ≤ second.1))
        (by simp only [decide_eq_true_eq]; omega) (by simp; omega) pool.joined
      exact inOrder.imp (by simp)
    · have inOrder : ((numbered rules version disk paths).map (·.1)).Pairwise (· ≤ ·) := by
        rw [numbered_indexes]
        exact List.pairwise_le_range
      exact List.pairwise_map.mp inOrder
    · exact (List.mergeSort_perm _ _).trans perm
  simp only [Pool.report, sorted, numbered, List.map_map]
  exact (List.map_map (g := fun path => (⟨path, outcome rules version disk path⟩ : FileReport))
    (f := Prod.fst)).symm.trans (by rw [List.zipIdx_map_fst])

/-! ## No schedule goes on for ever -/

/-- How many accesses are left at most in all tasks together. -/
inductive Budget : Nat → List (Text × Work (Except Failure Status)) → Prop where
  | nil : Budget 0 []
  | cons {path : Text} {work : Work (Except Failure Status)}
      {others : List (Text × Work (Except Failure Status))} :
      work.Within count → Budget total others → Budget (count + total) ((path, work) :: others)

/-- At most so many steps are left: the accesses of the tasks, and one join for each of them. -/
structure Bounded (left : Nat) (pool : Pool) : Prop where
  budget : ∃ total, Budget total pool.tasks ∧
    total + pool.tasks.length = left + pool.joined.length
  distinct : (pool.joined.map (·.1)).Nodup
  inside : ∀ index ∈ pool.joined.map (·.1), index < pool.tasks.length

private theorem within_step (within : work.Within count)
    (moved : work.step disk = some (after, rest)) :
    ∃ fewer, count = fewer + 1 ∧ rest.Within fewer := by
  cases within with
  | done => cases moved
  | read inner =>
    cases moved
    exact ⟨_, rfl, inner _⟩
  | @write _ _ path content inner =>
    cases written : disk.write path content with
    | ok after =>
      simp only [Work.step, written, Option.some.injEq, Prod.mk.injEq] at moved
      exact ⟨_, rfl, moved.2 ▸ inner _⟩
    | error error =>
      simp only [Work.step, written, Option.some.injEq, Prod.mk.injEq] at moved
      exact ⟨_, rfl, moved.2 ▸ inner _⟩

private theorem budget_step {tasks : List (Text × Work (Except Failure Status))} {index : Nat}
    (budget : Budget total tasks) (held : tasks[index]? = some (path, work))
    (moved : work.step disk = some (after, rest)) :
    ∃ fewer, total = fewer + 1 ∧ Budget fewer (tasks.set index (path, rest)) := by
  induction budget generalizing index with
  | nil => simp at held
  | cons within others ih =>
    cases index with
    | zero =>
      cases held
      obtain ⟨fewer, rfl, onward⟩ := within_step within moved
      exact ⟨fewer + _, by omega, .cons onward others⟩
    | succ index =>
      obtain ⟨fewer, rfl, onward⟩ := ih (by simpa using held)
      exact ⟨_ + fewer, by omega, .cons within onward⟩

private theorem joined_length (pool : Pool) (distinct : (pool.joined.map (·.1)).Nodup)
    (inside : ∀ index ∈ pool.joined.map (·.1), index < pool.tasks.length) :
    pool.joined.length ≤ pool.tasks.length := by
  have numbers : pool.joined.map (·.1) ⊆ List.range pool.tasks.length :=
    fun index member => List.mem_range.mpr (inside index member)
  simpa using distinct.length_le_of_subset numbers

private theorem bounded_step (bounded : Bounded left pool) (step : Step pool later) :
    ∃ fewer, left = fewer + 1 ∧ Bounded fewer later := by
  obtain ⟨⟨total, budget, balance⟩, distinct, inside⟩ := bounded
  have joined := joined_length pool distinct inside
  cases step with
  | access held moved =>
    obtain ⟨fewer, rfl, onward⟩ := budget_step budget held moved
    exact ⟨left - 1, by omega, ⟨fewer, onward, by simp; omega⟩, distinct, by simpa using inside⟩
  | @join index path result held fresh =>
    have bound : index < pool.tasks.length := (List.getElem?_eq_some_iff.mp held).1
    have distinct := distinct_join distinct fresh ⟨path, result⟩
    have inside : ∀ number ∈ (pool.joined ++ [(index, (⟨path, result⟩ : FileReport))]).map (·.1),
        number < pool.tasks.length := by
      intro number member
      rw [List.map_append, List.mem_append] at member
      rcases member with old | new
      · exact inside number old
      · simp only [List.map_cons, List.map_nil, List.mem_singleton] at new
        exact new ▸ bound
    have joined := joined_length
      ⟨pool.disk, pool.tasks, pool.joined ++ [(index, ⟨path, result⟩)]⟩ distinct inside
    simp only [List.length_append, List.length_singleton] at joined
    exact ⟨left - 1, by omega, ⟨total, budget, by simp; omega⟩, distinct, inside⟩

private theorem syncFile_within (rules : List Rule) (version : Text) (mode : Mode) (path : Text) :
    (syncFile rules version mode path : Work (Except Failure Status)).Within 2 := by
  rw [syncFile_work]
  refine .read fun found => ?_
  cases found with
  | error error => exact .done
  | ok content =>
    cases mode with
    | dryRun => exact .done
    | write =>
      refine .write fun written => ?_
      cases written <;> exact .done

private theorem bounded_start (role : FileRole) (key version : Text) (mode : Mode)
    (paths : List Text) (disk : Disk) :
    Bounded (3 * paths.length) (Pool.start role key version mode paths disk) where
  budget := by
    refine ⟨2 * paths.length, ?_, by simp [Pool.start]; omega⟩
    induction paths with
    | nil => exact .nil
    | cons path rest ih =>
      rw [List.length_cons, Nat.mul_succ, Nat.add_comm]
      exact .cons (syncFile_within _ _ _ _) ih
  distinct := List.nodup_nil
  inside _ member := nomatch member

private theorem chain_length (bounded : Bounded left pool)
    (chain : List.IsChain Step (pool :: pools)) :
    pools.length ≤ left := by
  induction pools generalizing pool left with
  | nil => exact Nat.zero_le _
  | cons later pools ih =>
    obtain ⟨step, chain⟩ := List.isChain_cons_cons.mp chain
    obtain ⟨fewer, rfl, onward⟩ := bounded_step bounded step
    exact Nat.succ_le_succ (ih onward chain)

/-- Some schedule comes to an end, whatever has been done so far. -/
private theorem bounded_ends (bounded : Bounded left pool) :
    ∃ later, Steps pool later ∧ Ended later := by
  induction left generalizing pool with
  | zero =>
    refine ⟨pool, .refl, ?_⟩
    intro next step
    obtain ⟨fewer, wrong, -⟩ := bounded_step bounded step
    cases wrong
  | succ left ih =>
    by_cases ended : Ended pool
    · exact ⟨pool, .refl, ended⟩
    · simp only [Ended, not_forall, not_not] at ended
      obtain ⟨next, step⟩ := ended
      obtain ⟨fewer, same, onward⟩ := bounded_step bounded step
      obtain rfl := Nat.succ.inj same
      obtain ⟨later, steps, ended⟩ := ih onward
      exact ⟨later, .head step steps, ended⟩

theorem start_ends (role : FileRole) (key version : Text) (mode : Mode) (paths : List Text)
    (disk : Disk) :
    ∃ pool, Steps (Pool.start role key version mode paths disk) pool ∧ Ended pool :=
  bounded_ends (bounded_start role key version mode paths disk)

/-! ## Every schedule agrees -/

/-- At the end every file has left its mark on the tree. -/
theorem through_ended (coherent : Coherent rules version mode disk paths pool)
    (ended : Ended pool) : Through rules version mode disk paths pool.disk := by
  obtain ⟨done, through, members⟩ := coherent.tree
  cases mode with
  | dryRun => exact through
  | write =>
    apply Rewritten.congr through
    intro path
    rw [members, ← coherent.paths_eq]
    constructor
    · rintro ⟨index, result, held⟩
      exact List.mem_map.mpr ⟨_, List.mem_of_getElem? held, rfl⟩
    · intro member
      obtain ⟨⟨_, work⟩, listed, rfl⟩ := List.mem_map.mp member
      obtain ⟨index, held⟩ := List.getElem?_of_mem listed
      obtain ⟨⟨result, rfl⟩, -⟩ := ended_joined ended held
      exact ⟨index, result, held⟩

private theorem oneByOne_eq (role : FileRole) (key version : Text) (mode : Mode)
    (apart : paths.Pairwise (Apart disk)) :
    (oneByOne role key version mode paths disk).1.files =
        paths.map (fun path => ⟨path, outcome (role.rules key) version disk path⟩) ∧
      Through (role.rules key) version mode disk paths
        (oneByOne role key version mode paths disk).2 := by
  simp only [oneByOne, syncFiles_run]
  cases mode with
  | dryRun => simp [batch_dryRun, Through]
  | write => exact batch_write (role.rules key) version apart

private theorem through_same (first : Through rules version mode disk paths current)
    (second : Through rules version mode disk paths after) : Same current after := by
  cases mode with
  | dryRun =>
    have left : current = disk := first
    have right : after = disk := second
    rw [left, right]
    exact Same.refl disk
  | write => exact Rewritten.same first second

private theorem through_shape (through : Through rules version mode disk paths after) :
    SameShape disk after := by
  cases mode with
  | dryRun =>
    have same : after = disk := through
    rw [same]
    exact SameShape.refl disk
  | write => exact Rewritten.shape through

private theorem through_others (through : Through rules version mode disk paths after)
    {place : Place} (nowhere : ∀ content, ¬ Target disk paths place content) :
    after.entry? place = disk.entry? place := by
  cases mode with
  | dryRun =>
    have same : after = disk := through
    rw [same]
  | write => exact Rewritten.others through place nowhere

/-- The reports of a batch fall into three parts. -/
theorem parts_perm (batch : Batch) :
    (batch.updated ++ batch.unchanged ++ batch.failures).Perm (batch.files.map (·.path)) := by
  obtain ⟨files⟩ := batch
  induction files with
  | nil => exact .nil
  | cons file rest ih =>
    obtain ⟨path, _ | _ | _⟩ := file
    · have moved : (Batch.updated ⟨rest⟩ ++ Batch.unchanged ⟨rest⟩ ++
          path :: Batch.failures ⟨rest⟩).Perm _ := List.perm_middle
      exact moved.trans (ih.cons path)
    · exact ih.cons path
    · rw [List.append_assoc] at ih ⊢
      have moved : (Batch.updated ⟨rest⟩ ++
          path :: (Batch.unchanged ⟨rest⟩ ++ Batch.failures ⟨rest⟩)).Perm _ := List.perm_middle
      exact moved.trans (ih.cons path)

/-- What a batch comes to, told from the tree at the start. -/
structure AsOneByOne (role : FileRole) (key version : Text) (mode : Mode) (paths : List Text)
    (disk : Disk) (pool : Pool) : Prop where
  tree : Same pool.disk (oneByOne role key version mode paths disk).2
  report : pool.report = (oneByOne role key version mode paths disk).1
  /-- One report for each path, in the order of the paths. -/
  inOrder : pool.report.files.map (·.path) = paths
  /-- Each report is the one that the file would get alone. -/
  alone : ∀ file ∈ pool.report.files,
    (oneByOne role key version mode [file.path] disk).1.files = [file]
  /-- Every file is in exactly one part. -/
  parted : (pool.report.updated ++ pool.report.unchanged ++ pool.report.failures).Perm paths
  isOk_iff : pool.report.isOk = true ↔ pool.report.failures = []
  outside : ∀ place, (∀ path ∈ paths, disk.locate path ≠ .ok place) →
    pool.disk.entry? place = disk.entry? place
  noneMade : ∀ place, (pool.disk.entry? place).isSome = (disk.entry? place).isSome
  unread : ∀ path ∈ paths, ∀ error place, disk.read path = .error error →
    disk.locate path = .ok place → pool.disk.entry? place = disk.entry? place

/-- Whatever order the accesses and the ends of its tasks come in, a batch of files that are apart
ends, after at most three steps a file, in the tree and with the report of working one by one. -/
theorem every_schedule_agrees (apart : paths.Pairwise (Apart disk)) :
    (∀ pool, Steps (Pool.start role key version mode paths disk) pool → Ended pool →
      AsOneByOne role key version mode paths disk pool) ∧
    ∀ pools, List.IsChain Step (Pool.start role key version mode paths disk :: pools) →
      pools.length ≤ 3 * paths.length := by
  refine ⟨fun pool steps ended => ?_,
    fun pools chain => chain_length (bounded_start role key version mode paths disk) chain⟩
  have coherent := coherent_steps apart steps
  have through := through_ended coherent ended
  have files := report_eq coherent ended
  obtain ⟨filesOneByOne, throughOneByOne⟩ :=
    oneByOne_eq role key version mode apart
  have order : pool.report.files.map (·.path) = paths := by simp [files, Function.comp_def]
  refine ⟨through_same through throughOneByOne, ?_, order, ?_, order ▸ parts_perm pool.report,
    List.isEmpty_iff, ?_, ?_, ?_⟩
  · have same : pool.report.files = (oneByOne role key version mode paths disk).1.files :=
      files.trans filesOneByOne.symm
    exact congrArg Batch.mk same
  · intro file member
    rw [files, List.mem_map] at member
    obtain ⟨path, -, rfl⟩ := member
    simpa using (oneByOne_eq role key version mode
      (List.pairwise_singleton (Apart disk) path)).1
  · intro place away
    apply through_others through
    rintro content ⟨path, member, located, -⟩
    exact away path member located
  · intro place
    exact ((through_shape through).taken_iff place).symm
  · intro path member error place failed located
    apply through_others through
    rintro content ⟨_, -, -, file⟩
    rw [read_ok_iff.mpr ⟨place, located, file⟩] at failed
    cases failed

/-- A tree with a source file and a file that holds no text. -/
private def mixed : Disk where
  workingDirectory := []
  entries := [([['a']], .file "Version: 0.1.0".toList), ([['b']], .binary [255])]

/-- A file to rewrite, one that is not text and one that is missing, in one batch. -/
theorem mixed_schedules_agree :
    [['a'], ['b'], ['c']].Pairwise (Apart mixed) ∧
      (∀ pool,
        Steps (Pool.start .source [] "1.0.0".toList .write [['a'], ['b'], ['c']] mixed) pool →
        Ended pool →
        AsOneByOne .source [] "1.0.0".toList .write [['a'], ['b'], ['c']] mixed pool) ∧
      ∀ pools, List.IsChain Step
          (Pool.start .source [] "1.0.0".toList .write [['a'], ['b'], ['c']] mixed :: pools) →
        pools.length ≤ 9 := by
  have apart : [['a'], ['b'], ['c']].Pairwise (Apart mixed) := by
    have first : mixed.destination ['a'] = .ok [['a']] := by decide
    have second : mixed.destination ['b'] = .ok [['b']] := by decide
    have third : mixed.destination ['c'] = .ok [['c']] := by decide
    simp [Apart, first, second, third]
  exact ⟨apart, every_schedule_agrees apart⟩

end PluginReadme.Schedule
