/-
This file holds progress by work. Of the steps of a kind some get something done,
and lower a measure of the work that is left; the others test once more what they
tested before, and take nothing from any step that could get something done.
Where a state is not settled, some step can get something done. So a run does
something only so often, a settled state can always be reached, and an endless
run that is weakly fair settles for good.
-/

import DxDsp.Library.Observation
import Mathlib.Order.WellFounded

namespace DxDsp.Library

namespace Machine

variable {State Action : Type}

/-- An action that is urged to go on, is enabled and would get something done. -/
def Ready (machine : Machine State Action) (urged : Action → Prop)
    (retests : State → Action → Prop) (state : State) (action : Action) : Prop :=
  urged action ∧ ¬ retests state action ∧ ∃ next, machine.step state action = some next

/-- An endless run of actions of the kind. Where no action is taken, nothing changes. -/
structure Endless (machine : Machine State Action) (inner : Action → Prop) where
  state : Nat → State
  taken : Nat → Option Action
  isInner : ∀ time action, taken time = some action → inner action
  stays : ∀ time, taken time = none → state (time + 1) = state time
  moves : ∀ time action, taken time = some action →
    machine.step (state time) action = some (state (time + 1))

/-- An action that is ready from some time on is taken. -/
def Endless.WeaklyFair {machine : Machine State Action} {inner : Action → Prop}
    (endless : machine.Endless inner) (urged : Action → Prop)
    (retests : State → Action → Prop) : Prop :=
  ∀ time action,
    (∀ later, time ≤ later → machine.Ready urged retests (endless.state later) action) →
      ∃ later, time ≤ later ∧ endless.taken later = some action

theorem Endless.reaches {machine : Machine State Action} {inner : Action → Prop}
    (endless : machine.Endless inner) {first : State}
    (reached : (machine.startingAt first).Reaches (fun _ _ => True) (endless.state 0))
    (time : Nat) : (machine.startingAt first).Reaches (fun _ _ => True) (endless.state time) := by
  induction time with
  | zero => exact reached
  | succ time inductionHypothesis =>
    cases taken : endless.taken time with
    | none => exact endless.stays time taken ▸ inductionHypothesis
    | some action => exact .step inductionHypothesis trivial (endless.moves time action taken)

/-- The state that a list of actions has led to by a time. -/
def stateAt (machine : Machine State Action) : State → List Action → Nat → State
  | state, [], _ => state
  | state, _ :: _, 0 => state
  | state, action :: rest, time + 1 =>
    (machine.step state action).elim state fun next => stateAt machine next rest time

section OfRun

variable {machine : Machine State Action} {inner : Action → Prop} [DecidablePred inner]
  {state final : State} {actions : List Action}

theorem stateAt_zero : machine.stateAt state actions 0 = state := by
  cases actions <;> rfl

theorem stateAt_length (ran : machine.run (fun _ action => inner action) state actions = some final)
    {time : Nat} (past : actions.length ≤ time) : machine.stateAt state actions time = final := by
  induction actions generalizing state time with
  | nil =>
    rw [run, Option.some_inj] at ran
    exact ran
  | cons action rest inductionHypothesis =>
    obtain ⟨next, -, moved, later⟩ := run_cons_eq_some ran
    cases time with
    | zero => cases past
    | succ time =>
      rw [stateAt, moved]
      exact inductionHypothesis later (Nat.le_of_succ_le_succ past)

theorem stateAt_succ (ran : machine.run (fun _ action => inner action) state actions = some final)
    {time : Nat} {action : Action} (taken : actions[time]? = some action) :
    inner action ∧ machine.step (machine.stateAt state actions time) action =
      some (machine.stateAt state actions (time + 1)) := by
  induction actions generalizing state time with
  | nil => cases taken
  | cons first rest inductionHypothesis =>
    obtain ⟨next, isInner, moved, later⟩ := run_cons_eq_some ran
    cases time with
    | zero =>
      obtain rfl : first = action := Option.some.inj taken
      rw [stateAt, stateAt, moved]
      exact ⟨isInner, congrArg some stateAt_zero.symm⟩
    | succ time =>
      rw [stateAt, stateAt, moved]
      exact inductionHypothesis later taken

/-- A run that ends, and after which nothing happens. -/
def Endless.ofRun (ran : machine.run (fun _ action => inner action) state actions = some final) :
    machine.Endless inner where
  state := machine.stateAt state actions
  taken time := actions[time]?
  isInner time action taken := (stateAt_succ ran taken).1
  stays time nothing := by
    have past := List.getElem?_eq_none_iff.mp nothing
    rw [stateAt_length ran past, stateAt_length ran (past.trans (Nat.le_succ time))]
  moves time action taken := (stateAt_succ ran taken).2

/-- It is weakly fair if nothing is ready in its last state. -/
theorem Endless.weaklyFair_ofRun {urged : Action → Prop} {retests : State → Action → Prop}
    (ran : machine.run (fun _ action => inner action) state actions = some final)
    (rests : ∀ action, ¬ machine.Ready urged retests final action) :
    (Endless.ofRun ran).WeaklyFair urged retests := by
  intro time action ready
  have atEnd := ready (max time actions.length) (Nat.le_max_left _ _)
  have last : (Endless.ofRun ran).state (max time actions.length) = final :=
    stateAt_length ran (Nat.le_max_right _ _)
  rw [last] at atEnd
  exact absurd atEnd (rests action)

end OfRun

/-- The actions of a run that get something done. -/
def doing (retests : State → Action → Prop) [∀ state action, Decidable (retests state action)]
    (state : State) (action : Action) : Option Action :=
  if retests state action then none else some action

end Machine

/-- What a measure of work has to do with the steps of a machine. -/
structure Progress {State Action : Type} (machine : Machine State Action)
    (Invariant : State → Prop) (inner urged : Action → Prop) (retests : State → Action → Prop)
    (work : State → Nat) : Prop where
  isInner : ∀ {action}, urged action → inner action
  keeps : ∀ {state action next}, Invariant state → inner action →
    machine.step state action = some next → Invariant next
  lowers : ∀ {state action next}, Invariant state → inner action → ¬ retests state action →
    machine.step state action = some next → work next < work state
  rests : ∀ {state action next}, Invariant state → inner action → retests state action →
    machine.step state action = some next → work next = work state
  persists : ∀ {state action next other}, Invariant state → inner action → retests state action →
    machine.step state action = some next → machine.Ready urged retests state other →
      machine.Ready urged retests next other

/-- Where a state is not settled, some action is ready. -/
def NeverStuck {State Action : Type} (machine : Machine State Action) (Invariant : State → Prop)
    (urged : Action → Prop) (retests : State → Action → Prop) (Settled : State → Prop) : Prop :=
  ∀ state, Invariant state → ¬ Settled state → ∃ action, machine.Ready urged retests state action

namespace Progress

variable {State Action : Type} {machine : Machine State Action} {Invariant : State → Prop}
  {inner urged : Action → Prop} {retests : State → Action → Prop} {Settled : State → Prop}
  {work : State → Nat}

theorem work_le (progress : Progress machine Invariant inner urged retests work)
    {state next : State} {action : Action} (holds : Invariant state) (isInner : inner action)
    (moved : machine.step state action = some next) : work next ≤ work state := by
  by_cases again : retests state action
  · exact (progress.rests holds isInner again moved).le
  · exact (progress.lowers holds isInner again moved).le

/-! ### Finite runs -/

/-- What a run gets done comes off the work. -/
theorem length_doing_add_work_le [DecidablePred inner]
    [∀ state action, Decidable (retests state action)]
    (progress : Progress machine Invariant inner urged retests work) {state final : State}
    {actions : List Action} (holds : Invariant state)
    (ran : machine.run (fun _ action => inner action) state actions = some final) :
    (machine.notes (Machine.doing retests) state actions).length + work final ≤ work state := by
  induction actions generalizing state with
  | nil =>
    rw [Machine.run, Option.some_inj] at ran
    rw [ran, Machine.notes, List.length_nil, Nat.zero_add]
  | cons action rest inductionHypothesis =>
    obtain ⟨next, isInner, moved, later⟩ := Machine.run_cons_eq_some ran
    have onward := inductionHypothesis (progress.keeps holds isInner moved) later
    rw [Machine.notes_cons moved, List.length_append]
    by_cases again : retests state action
    · have same := progress.rests holds isInner again moved
      rw [Machine.doing, if_pos again, Option.toList_none, List.length_nil]
      omega
    · have less := progress.lowers holds isInner again moved
      rw [Machine.doing, if_neg again, Option.toList_some, List.length_singleton]
      omega

/-! ### Endless runs -/

section Endless

variable {endless : machine.Endless inner}

theorem invariant_endless (progress : Progress machine Invariant inner urged retests work)
    (holds : Invariant (endless.state 0)) (time : Nat) : Invariant (endless.state time) := by
  induction time with
  | zero => exact holds
  | succ time inductionHypothesis =>
    cases taken : endless.taken time with
    | none => exact endless.stays time taken ▸ inductionHypothesis
    | some action =>
      exact progress.keeps inductionHypothesis (endless.isInner time action taken)
        (endless.moves time action taken)

theorem work_endless_le (progress : Progress machine Invariant inner urged retests work)
    (holds : Invariant (endless.state 0)) {time later : Nat} (order : time ≤ later) :
    work (endless.state later) ≤ work (endless.state time) := by
  induction later, order using Nat.le_induction with
  | base => exact Nat.le_refl _
  | succ later _ inductionHypothesis =>
    refine Nat.le_trans ?_ inductionHypothesis
    cases taken : endless.taken later with
    | none => rw [endless.stays later taken]
    | some action =>
      exact progress.work_le (progress.invariant_endless holds later)
        (endless.isInner later action taken) (endless.moves later action taken)

/-- From the time on at which the least work is left, the actions taken get nothing done. -/
theorem retests_of_least (progress : Progress machine Invariant inner urged retests work)
    (holds : Invariant (endless.state 0)) {least : Nat}
    (isLeast : ∀ time, work (endless.state least) ≤ work (endless.state time)) {later : Nat}
    (order : least ≤ later) {action : Action} (taken : endless.taken later = some action) :
    retests (endless.state later) action := by
  by_contra does
  have less := progress.lowers (progress.invariant_endless holds later)
    (endless.isInner later action taken) does (endless.moves later action taken)
  have before := progress.work_endless_le holds order
  exact absurd (isLeast (later + 1)) (by omega)

/-- A weakly fair endless run settles for good. -/
theorem eventually_settled (progress : Progress machine Invariant inner urged retests work)
    (live : NeverStuck machine Invariant urged retests Settled)
    (holds : Invariant (endless.state 0)) (fair : endless.WeaklyFair urged retests) :
    ∃ time, ∀ later, time ≤ later → Settled (endless.state later) := by
  obtain ⟨_, ⟨least, rfl⟩, minimal⟩ := wellFounded_lt.has_min
    (Set.range fun time => work (endless.state time)) ⟨_, 0, rfl⟩
  have isLeast : ∀ time, work (endless.state least) ≤ work (endless.state time) :=
    fun time => Nat.not_lt.mp (minimal _ ⟨time, rfl⟩)
  refine ⟨least, fun time order => ?_⟩
  by_contra unsettled
  obtain ⟨action, ready⟩ := live _ (progress.invariant_endless holds time) unsettled
  -- Nothing done from now on takes the readiness away, so the action is taken and does something.
  have stillReady : ∀ later, time ≤ later →
      machine.Ready urged retests (endless.state later) action := by
    intro later behind
    induction later, behind using Nat.le_induction with
    | base => exact ready
    | succ later behind inductionHypothesis =>
      cases taken : endless.taken later with
      | none => exact endless.stays later taken ▸ inductionHypothesis
      | some other =>
        exact progress.persists (progress.invariant_endless holds later)
          (endless.isInner later other taken)
          (progress.retests_of_least holds isLeast (order.trans behind) taken)
          (endless.moves later other taken) inductionHypothesis
  obtain ⟨later, behind, taken⟩ := fair time action stillReady
  exact (stillReady later behind).2.1
    (progress.retests_of_least holds isLeast (order.trans behind) taken)

end Endless

end Progress

end DxDsp.Library
