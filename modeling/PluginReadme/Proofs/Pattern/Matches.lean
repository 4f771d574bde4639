import Mathlib.Data.List.Basic
import PluginReadme.Pattern.Search

/-! What patterns match. A match of a pattern goes from a place of a text to one further on, as the
parts of the pattern say. The machine that a pattern is taken apart into has the same matches: that
a part is repeated comes down to copies of it and to rounds. -/
namespace PluginReadme

/-! ## Places further on -/

namespace Cursor

variable {start stop other middle : Cursor}

/-- A place further on in the same text. -/
def Onward (start stop : Cursor) : Prop :=
  ∃ text, start.rest = text ++ stop.rest ∧ stop.position = start.position + text.length ∧
    stop.previous = text.getLast?.or start.previous

theorem Onward.refl (start : Cursor) : Onward start start := ⟨[], by simp⟩

theorem Onward.trans (first : Onward start middle) (second : Onward middle stop) :
    Onward start stop := by
  obtain ⟨text, rest, position, previous⟩ := first
  obtain ⟨text', rest', position', previous'⟩ := second
  refine ⟨text ++ text', by rw [rest, rest', List.append_assoc], ?_, ?_⟩
  · rw [position', position, List.length_append, Nat.add_assoc]
  · rw [previous', previous, List.getLast?_append, Option.or_assoc]

/-- Two places further on are told apart by how many characters stand before them. -/
theorem Onward.same (first : Onward start stop) (second : Onward start other)
    (position : stop.position = other.position) : stop = other := by
  obtain ⟨text, rest, place, previous⟩ := first
  obtain ⟨text', rest', place', previous'⟩ := second
  have lengths : text.length = text'.length := by omega
  obtain ⟨rfl, behind⟩ := List.append_inj (rest.symm.trans rest') lengths
  obtain ⟨position, before, after⟩ := stop
  obtain ⟨position', before', after'⟩ := other
  simp_all

/-- Onward, what is passed is taken from what follows. -/
theorem Onward.length (onward : Onward start stop) :
    stop.position + stop.rest.length = start.position + start.rest.length := by
  obtain ⟨text, rest, position, -⟩ := onward
  rw [rest, position, List.length_append, Nat.add_assoc]

theorem Onward.textTo (onward : Onward start stop) :
    start.rest = start.textTo stop ++ stop.rest := by
  obtain ⟨text, rest, position, -⟩ := onward
  have taken : start.textTo stop = text := by simp [Cursor.textTo, rest, position]
  rw [taken, rest]

theorem Onward.position_le (onward : Onward start stop) : start.position ≤ stop.position := by
  obtain ⟨text, -, position, -⟩ := onward
  omega

/-- Places that are all further on than one. -/
def Beyond (start : Cursor) (cursors : List Cursor) : Prop :=
  ∀ cursor ∈ cursors, Onward start cursor

theorem testBit_insert (seen place other : Nat) :
    (seen ||| 1 <<< place).testBit other = (seen.testBit other || decide (other = place)) := by
  rw [Nat.testBit_or, Nat.shiftLeft_eq, Nat.one_mul, Nat.testBit_two_pow]
  simp [eq_comm]

theorem mem_distinctFrom {cursors : List Cursor} (beyond : Beyond start cursors) (seen : Nat) :
    stop ∈ distinctFrom seen cursors ↔ stop ∈ cursors ∧ seen.testBit stop.position = false := by
  induction cursors generalizing seen with
  | nil => simp [distinctFrom]
  | cons cursor rest ih =>
    obtain ⟨here, beyond⟩ := List.forall_mem_cons.mp beyond
    rw [distinctFrom]
    split
    · rename_i passed
      rw [ih beyond, List.mem_cons]
      constructor
      · rintro ⟨member, fresh⟩
        exact ⟨Or.inr member, fresh⟩
      · rintro ⟨rfl | member, fresh⟩
        · simp [passed] at fresh
        · exact ⟨member, fresh⟩
    · rename_i fresh
      rw [List.mem_cons, List.mem_cons, ih beyond, testBit_insert]
      constructor
      · rintro (rfl | ⟨member, fresh⟩)
        · exact ⟨Or.inl rfl, by simpa using fresh⟩
        · exact ⟨Or.inr member, (Bool.or_eq_false_iff.mp fresh).1⟩
      · rintro ⟨rfl | member, unseen⟩
        · exact Or.inl rfl
        · by_cases same : stop.position = cursor.position
          · exact Or.inl ((beyond stop member).same here same)
          · exact Or.inr ⟨member, by simp [unseen, same]⟩

/-- Of places further on than one, none is lost when each is kept once. -/
theorem mem_distinct {cursors : List Cursor} (beyond : Beyond start cursors) :
    stop ∈ distinct cursors ↔ stop ∈ cursors := by
  rw [distinct, mem_distinctFrom beyond]
  simp

end Cursor

namespace Pattern
open Cursor (Onward)

variable {relation : Cursor → Cursor → Prop} {start stop middle : Cursor} {count : Nat}

/-! ## Rounds -/

/-- So many rounds of a step, one after the other. -/
def Times (relation : Cursor → Cursor → Prop) : Nat → Cursor → Cursor → Prop
  | 0, start, stop => stop = start
  | count + 1, start, stop => ∃ next, relation start next ∧ Times relation count next stop

theorem times_add (count more : Nat) :
    Times relation (count + more) start stop ↔
      ∃ middle, Times relation count start middle ∧ Times relation more middle stop := by
  induction count generalizing start with
  | zero => simp [Times]
  | succ count ih =>
    rw [Nat.succ_add]
    simp only [Times, ih]
    constructor
    · rintro ⟨next, first, middle, rounds, rest⟩
      exact ⟨middle, ⟨next, first, rounds⟩, rest⟩
    · rintro ⟨middle, ⟨next, first, rounds⟩, rest⟩
      exact ⟨next, first, middle, rounds, rest⟩

theorem times_onward (onward : ∀ start stop, relation start stop → Onward start stop)
    (rounds : Times relation count start stop) : Onward start stop := by
  induction count generalizing start with
  | zero =>
    obtain rfl := rounds
    exact Onward.refl stop
  | succ count ih =>
    obtain ⟨next, first, rounds⟩ := rounds
    exact (onward start next first).trans (ih rounds)

theorem times_congr {relation' : Cursor → Cursor → Prop}
    (same : ∀ start stop, relation start stop ↔ relation' start stop) :
    Times relation count start stop ↔ Times relation' count start stop := by
  induction count generalizing start with
  | zero => rfl
  | succ count ih => simp only [Times, same, ih]

/-! ## Machines -/

namespace Machine

variable {machine part rest more less : Machine} {greedy : Bool}

/-- How a machine gets from one place of a text to another, whichever way is preferred. -/
def Passes : Machine → Cursor → Cursor → Prop
  | done, start, stop => stop = start
  | set chars, start, stop =>
    ∃ c rest, start.rest = c :: rest ∧ chars.contains c = true ∧
      stop = ⟨start.position + 1, some c, rest⟩
  | look condition, start, stop => condition.holds start = true ∧ stop = start
  | concat first second, start, stop =>
    ∃ middle, first.Passes start middle ∧ second.Passes middle stop
  | fork first second, start, stop => first.Passes start stop ∨ second.Passes start stop
  | star _ part, start, stop => ∃ count, Times part.Passes count start stop
  | plus _ part, start, stop => ∃ count, Times part.Passes (count + 1) start stop

theorem choice_passes :
    (choice greedy more less).Passes start stop ↔
      more.Passes start stop ∨ less.Passes start stop := by
  cases greedy
  · exact Or.comm
  · exact Iff.rfl

theorem copies_passes (count : Nat) : (copies part count rest).Passes start stop ↔
    ∃ middle, Times part.Passes count start middle ∧ rest.Passes middle stop := by
  induction count generalizing start with
  | zero => simp [copies, Times]
  | succ count ih =>
    simp only [copies, Passes, Times, ih]
    constructor
    · rintro ⟨next, first, middle, rounds, last⟩
      exact ⟨middle, ⟨next, first, rounds⟩, last⟩
    · rintro ⟨middle, ⟨next, first, rounds⟩, last⟩
      exact ⟨next, first, middle, rounds, last⟩

theorem upTo_passes (most : Nat) : (upTo greedy part most).Passes start stop ↔
    ∃ count ≤ most, Times part.Passes count start stop := by
  induction most generalizing start with
  | zero => simp [upTo, Passes, Times]
  | succ most ih =>
    simp only [upTo, choice_passes, Passes, ih]
    constructor
    · rintro (⟨next, first, count, bounded, rounds⟩ | rfl)
      · exact ⟨count + 1, Nat.succ_le_succ bounded, next, first, rounds⟩
      · exact ⟨0, Nat.zero_le _, rfl⟩
    · rintro ⟨count, bounded, rounds⟩
      cases count with
      | zero => exact Or.inr rounds
      | succ count =>
        obtain ⟨next, first, rounds⟩ := rounds
        exact Or.inl ⟨next, first, count, Nat.le_of_succ_le_succ bounded, rounds⟩

/-- A machine goes on in the text. -/
theorem Passes.onward (passes : machine.Passes start stop) : Onward start stop := by
  induction machine generalizing start stop with
  | done =>
    obtain rfl := passes
    exact Onward.refl stop
  | set chars =>
    obtain ⟨c, rest, ahead, -, rfl⟩ := passes
    exact ⟨[c], ahead, rfl, rfl⟩
  | look condition =>
    obtain ⟨-, rfl⟩ := passes
    exact Onward.refl stop
  | concat first second ih ih' =>
    obtain ⟨middle, before, after⟩ := passes
    exact (ih before).trans (ih' after)
  | fork first second ih ih' => exact passes.elim ih ih'
  | star greedy part ih | plus greedy part ih =>
    obtain ⟨count, rounds⟩ := passes
    exact times_onward (fun _ _ => ih) rounds

end Machine

/-! ## Patterns -/

/-- What a pattern matches between two places of a text, whichever match is preferred. -/
def Matches : Pattern → Cursor → Cursor → Prop
  | empty, start, stop => stop = start
  | set chars, start, stop =>
    ∃ c rest, start.rest = c :: rest ∧ chars.contains c = true ∧
      stop = ⟨start.position + 1, some c, rest⟩
  | look condition, start, stop => condition.holds start = true ∧ stop = start
  | concat first second, start, stop =>
    ∃ middle, first.Matches start middle ∧ second.Matches middle stop
  | either first second, start, stop => first.Matches start stop ∨ second.Matches start stop
  | repeated least most _ part, start, stop =>
    ∃ count, least ≤ count ∧ (∀ bound ∈ most, count ≤ max least bound) ∧
      Times part.Matches count start stop
  | group part, start, stop => part.Matches start stop

private theorem bounded_passes (least most : Nat) (greedy : Bool) (part : Pattern) :
    (repeated least (some most) greedy part).machine.Passes start stop ↔
      ∃ count, least ≤ count ∧ count ≤ max least most ∧
        Times part.machine.Passes count start stop := by
  simp only [machine, Machine.copies_passes, Machine.upTo_passes]
  constructor
  · rintro ⟨middle, first, more, bounded, rest⟩
    exact ⟨least + more, by omega, by omega, (times_add least more).mpr ⟨middle, first, rest⟩⟩
  · rintro ⟨count, enough, bounded, rounds⟩
    obtain ⟨more, rfl⟩ := Nat.exists_eq_add_of_le enough
    obtain ⟨middle, first, rest⟩ := (times_add least more).mp rounds
    exact ⟨middle, first, more, by omega, rest⟩

private theorem unbounded_passes (least : Nat) (greedy : Bool) (part : Pattern) :
    (repeated least none greedy part).machine.Passes start stop ↔
      ∃ count, least ≤ count ∧ Times part.machine.Passes count start stop := by
  cases least with
  | zero =>
    rw [machine]
    split
    · simp only [Machine.choice_passes, Machine.Passes]
      constructor
      · rintro (⟨count, rounds⟩ | rfl)
        · exact ⟨count + 1, Nat.zero_le _, rounds⟩
        · exact ⟨0, Nat.le_refl _, rfl⟩
      · rintro ⟨count, -, rounds⟩
        cases count with
        | zero => exact Or.inr rounds
        | succ count => exact Or.inl ⟨count, rounds⟩
    · simp [Machine.Passes]
  | succ least =>
    simp only [machine, Machine.copies_passes, Machine.Passes]
    constructor
    · rintro ⟨middle, first, more, rest⟩
      exact ⟨least + (more + 1), by omega, (times_add _ _).mpr ⟨middle, first, rest⟩⟩
    · rintro ⟨count, enough, rounds⟩
      obtain ⟨more, rfl⟩ : ∃ more, count = least + (more + 1) := ⟨count - (least + 1), by omega⟩
      obtain ⟨middle, first, rest⟩ := (times_add _ _).mp rounds
      exact ⟨middle, first, more, rest⟩

/-- A machine gets through the text as its pattern matches. -/
theorem machine_passes (pattern : Pattern) (start stop : Cursor) :
    pattern.machine.Passes start stop ↔ pattern.Matches start stop := by
  induction pattern generalizing start stop with
  | empty | set chars | look condition => rfl
  | concat first second ih ih' => simp only [machine, Machine.Passes, Matches, ih, ih']
  | either first second ih ih' => simp only [machine, Machine.Passes, Matches, ih, ih']
  | repeated least most greedy part ih =>
    have same {count : Nat} : Times part.machine.Passes count start stop ↔
        Times part.Matches count start stop := times_congr ih
    cases most with
    | some most => simp [bounded_passes, same, Matches]
    | none => simp [unbounded_passes, same, Matches]
  | group part ih => exact ih start stop

/-- A match goes on in the text. -/
theorem Matches.onward {pattern : Pattern} (matched : pattern.Matches start stop) :
    Onward start stop :=
  ((machine_passes pattern start stop).mpr matched).onward

end Pattern

end PluginReadme
