/-
This file holds two runs of one machine side by side. Where related states move
to related states under actions that differ in nothing but what the runs may
differ in, the two runs make the same notes as long as every step meets the
condition under which its note does not tell the runs apart; and if the notes
of all other steps do tell them apart, the same notes mean that every step met it.
-/

import DxDsp.Library.Observation
import Mathlib.Data.List.Forall2

namespace DxDsp.Library.Machine

variable {State Action Note : Type}

/-- Related states move together under like actions. -/
def Lockstep (machine : Machine State Action) (Related : State → State → Prop)
    (Alike : Action → Action → Prop) : Prop :=
  ∀ ⦃first second own other⦄, Related first second → Alike own other →
    Option.Rel Related (machine.step first own) (machine.step second other)

variable {machine : Machine State Action} {Related : State → State → Prop}
  {Alike : Action → Action → Prop} {note : State → Action → Option Note}
  {Meets : State → Action → Prop}

/-- The notes agree as long as the steps meet a condition under which like steps note the same. -/
theorem Lockstep.notes_eq (lockstep : machine.Lockstep Related Alike)
    (same : ∀ ⦃first second own other⦄, Related first second → Alike own other →
      (∀ next, machine.step first own = some next → Meets first own) →
      note first own = note second other)
    {first second : State} {actions others : List Action} (related : Related first second)
    (alike : List.Forall₂ Alike actions others) (along : machine.StepsMeet Meets first actions) :
    machine.notes note first actions = machine.notes note second others := by
  induction alike generalizing first second with
  | nil => rfl
  | @cons own other rest others pair _ inductionHypothesis =>
    have together := lockstep related pair
    rw [StepsMeet] at along
    rw [notes, notes]
    cases moved : machine.step first own with
    | none =>
      have equal := same related pair fun next stepped => by
        rw [moved] at stepped
        cases stepped
      rw [moved] at together
      generalize machine.step second other = behind at together
      cases together
      rw [equal]
      rfl
    | some next =>
      rw [moved] at along
      have equal := same related pair fun _ _ => along.1
      rw [moved] at together
      generalize machine.step second other = behind at together
      cases together with
      | some later =>
        rw [equal]
        exact congrArg _ (inductionHypothesis later along.2)

/-- Equal notes mean that every step met the condition, where like steps note something or nothing
together, and the same only under the condition. -/
theorem Lockstep.stepsMeet_of_notes_eq (lockstep : machine.Lockstep Related Alike)
    (both : ∀ ⦃first second own other⦄, Related first second → Alike own other →
      (note first own).isSome = (note second other).isSome)
    (tells : ∀ ⦃first second own other next⦄, Related first second → Alike own other →
      machine.step first own = some next → note first own = note second other → Meets first own)
    {first second : State} {actions others : List Action} (related : Related first second)
    (alike : List.Forall₂ Alike actions others)
    (equal : machine.notes note first actions = machine.notes note second others) :
    machine.StepsMeet Meets first actions := by
  induction alike generalizing first second with
  | nil => exact trivial
  | @cons own other rest others pair _ inductionHypothesis =>
    rw [StepsMeet]
    cases moved : machine.step first own with
    | none => exact trivial
    | some next =>
      have together := lockstep related pair
      rw [moved] at together
      cases behind : machine.step second other with
      | none =>
        rw [behind] at together
        cases together
      | some last =>
        rw [behind] at together
        cases together with
        | some later =>
          rw [notes_cons moved, notes_cons behind] at equal
          have length : (note first own).toList.length = (note second other).toList.length := by
            rw [Option.length_toList, Option.length_toList, both related pair]
          obtain ⟨head, tail⟩ := List.append_inj equal length
          have noted := congrArg List.head? head
          rw [Option.head?_toList, Option.head?_toList] at noted
          exact ⟨tells related pair moved noted, inductionHypothesis later tail⟩

end DxDsp.Library.Machine
