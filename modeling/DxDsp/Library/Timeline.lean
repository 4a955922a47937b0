/-
This file is about a program that goes through a fixed list of steps while other
parties work on the parts it deals with: it brings them to life one after the
other, or it ends them. How far it has come is the number of steps it has taken.
What it has dealt with stays dealt with, and which of two steps is taken first is
read off the list.
-/

import Mathlib.Data.List.Basic

namespace DxDsp.Library

variable {Step Part : Type} {program : List Step} {passed : Nat}

/-- The step is one of the first `passed` steps of the program. -/
def Taken (program : List Step) (passed : Nat) (step : Step) : Prop := step ∈ program.take passed

instance [DecidableEq Step] (step : Step) : Decidable (Taken program passed step) :=
  inferInstanceAs (Decidable (step ∈ program.take passed))

/-- A step taken so far deals with the part. -/
def Dealt (deals : Step → Option Part) (program : List Step) (passed : Nat) (part : Part) : Prop :=
  ∃ step, Taken program passed step ∧ deals step = some part

/-- The next step of the program, and those before. -/
theorem taken_succ_iff {step : Step} :
    Taken program (passed + 1) step ↔ Taken program passed step ∨ program[passed]? = some step := by
  rw [Taken, List.take_add_one, List.mem_append, Option.mem_toList]
  rfl

theorem Taken.later {step : Step} (taken : Taken program passed step) :
    Taken program (passed + 1) step :=
  taken_succ_iff.mpr (.inl taken)

theorem Dealt.later {deals : Step → Option Part} {part : Part}
    (dealt : Dealt deals program passed part) : Dealt deals program (passed + 1) part := by
  obtain ⟨step, taken, same⟩ := dealt
  exact ⟨step, taken.later, same⟩

/-- A part that one step deals with is dealt with when that step is taken. -/
theorem dealt_iff_taken {deals : Step → Option Part} {dealer : Part → Step}
    (only : ∀ step part, deals step = some part ↔ step = dealer part) {part : Part} :
    Dealt deals program passed part ↔ Taken program passed (dealer part) := by
  constructor
  · rintro ⟨step, taken, deals⟩
    rwa [← (only step part).mp deals]
  · intro taken
    exact ⟨dealer part, taken, (only _ part).mpr rfl⟩

section Order

variable [DecidableEq Step]

theorem taken_iff_idxOf_lt {step : Step} (member : step ∈ program) :
    Taken program passed step ↔ program.idxOf step < passed :=
  List.mem_take_iff_idxOf_lt member

/-- A step in front of one that has been taken has been taken. -/
theorem Taken.earlier {step other : Step} (taken : Taken program passed step)
    (order : program.idxOf other ≤ program.idxOf step) : Taken program passed other := by
  have within : step ∈ program := List.mem_of_mem_take taken
  have before : program.idxOf step < program.length := List.idxOf_lt_length_iff.mpr within
  have member : other ∈ program := List.idxOf_lt_length_iff.mp (Nat.lt_of_le_of_lt order before)
  rw [taken_iff_idxOf_lt member]
  exact Nat.lt_of_le_of_lt order ((taken_iff_idxOf_lt within).mp taken)

/-- Several steps have all been taken when the last of them has. -/
theorem forall_taken_iff {steps : List Step} {last : Step} (listed : last ∈ steps)
    (order : ∀ step ∈ steps, program.idxOf step ≤ program.idxOf last) :
    (∀ step ∈ steps, Taken program passed step) ↔ Taken program passed last :=
  ⟨fun all => all last listed, fun taken _ member => taken.earlier (order _ member)⟩

/-- None of several steps has been taken when the first of them has not. -/
theorem forall_not_taken_iff {steps : List Step} {first : Step} (listed : first ∈ steps)
    (order : ∀ step ∈ steps, program.idxOf first ≤ program.idxOf step) :
    (∀ step ∈ steps, ¬ Taken program passed step) ↔ ¬ Taken program passed first :=
  ⟨fun all => all first listed, fun early _ member taken => early (taken.earlier (order _ member))⟩

end Order

end DxDsp.Library
