/-
This file observes runs. A step may leave a note, which depends on the state it
is taken in, and a run leaves the notes of its steps in order. A cell that
nothing but noted steps write holds, at the end of a run, what the last note put
there, or what it held before the run.

A run may also be watched state by state and step by step: whether something
holds in all its states, and whether all its steps meet a condition.
-/

import DxDsp.Library.Machine

namespace DxDsp.Library.Machine

variable {State Action Note : Type}

/-- The same steps from one state on. -/
def startingAt (machine : Machine State Action) (state : State) : Machine State Action where
  start other := other = state
  step := machine.step

/-- A run under a condition is one under a weaker condition. -/
theorem Reaches.mono {machine : Machine State Action} {allowed condition : State → Action → Prop}
    {state : State} (reached : machine.Reaches allowed state)
    (weaker : ∀ state action, allowed state action → condition state action) :
    machine.Reaches condition state := by
  induction reached with
  | start begins => exact .start begins
  | step _ meets moved inductionHypothesis =>
    exact .step inductionHypothesis (weaker _ _ meets) moved

/-- A run under a condition is a run. -/
theorem Reaches.always {machine : Machine State Action} {allowed : State → Action → Prop}
    {state : State} (reached : machine.Reaches allowed state) :
    machine.Reaches (fun _ _ => True) state :=
  reached.mono fun _ _ _ => trivial

/-- A run from a starting state is a run. -/
theorem Reaches.of_startingAt {machine : Machine State Action} {allowed : State → Action → Prop}
    {first state : State} (reached : (machine.startingAt first).Reaches allowed state)
    (begins : machine.start first) : machine.Reaches allowed state := by
  induction reached with
  | start same => exact .start (same ▸ begins)
  | step _ meets moved inductionHypothesis => exact .step inductionHypothesis meets moved

/-- The notes of a list of actions, as far as it runs. -/
def notes (machine : Machine State Action) (note : State → Action → Option Note) :
    State → List Action → List Note
  | _, [] => []
  | state, action :: rest =>
    (note state action).toList ++
      (machine.step state action).elim [] fun next => notes machine note next rest

theorem notes_cons {machine : Machine State Action} {note : State → Action → Option Note}
    {state next : State} {action : Action} (moved : machine.step state action = some next)
    (rest : List Action) :
    machine.notes note state (action :: rest) =
      (note state action).toList ++ machine.notes note next rest := by
  rw [notes, moved, Option.elim_some]

section Runs

variable {machine : Machine State Action} {allowed : State → Action → Prop}
  [∀ state action, Decidable (allowed state action)] {state final : State}

/-- A run of one more action in front. -/
theorem run_cons_eq_some {action : Action} {rest : List Action}
    (ran : machine.run allowed state (action :: rest) = some final) :
    ∃ next, allowed state action ∧ machine.step state action = some next ∧
      machine.run allowed next rest = some final := by
  rw [run] at ran
  split at ran
  · next meets =>
    split at ran
    · cases ran
    · next next moved => exact ⟨next, meets, moved, ran⟩
  · cases ran

/-- A run goes on where another one ended. -/
theorem run_append {middle : State} {first second : List Action}
    (ran : machine.run allowed state first = some middle)
    (later : machine.run allowed middle second = some final) :
    machine.run allowed state (first ++ second) = some final := by
  induction first generalizing state with
  | nil =>
    rw [run, Option.some_inj] at ran
    exact ran ▸ later
  | cons action rest inductionHypothesis =>
    obtain ⟨next, meets, moved, onward⟩ := run_cons_eq_some ran
    rw [List.cons_append, run, if_pos meets, moved]
    exact inductionHypothesis onward

/-- And a run can be cut anywhere. -/
theorem run_append_eq_some {first second : List Action}
    (ran : machine.run allowed state (first ++ second) = some final) :
    ∃ middle, machine.run allowed state first = some middle ∧
      machine.run allowed middle second = some final := by
  induction first generalizing state with
  | nil => exact ⟨state, rfl, ran⟩
  | cons action rest inductionHypothesis =>
    obtain ⟨next, meets, moved, onward⟩ := run_cons_eq_some ran
    obtain ⟨middle, before, behind⟩ := inductionHypothesis onward
    refine ⟨middle, ?_, behind⟩
    rw [run, if_pos meets, moved]
    exact before

/-- What holds before a run and is kept by every allowed step holds after it. -/
theorem run_invariant {Holds : State → Prop}
    (keeps : ∀ state action next, Holds state → allowed state action →
      machine.step state action = some next → Holds next)
    {actions : List Action} (holds : Holds state)
    (ran : machine.run allowed state actions = some final) : Holds final := by
  induction actions generalizing state with
  | nil =>
    rw [run, Option.some_inj] at ran
    exact ran ▸ holds
  | cons action rest inductionHypothesis =>
    obtain ⟨next, meets, moved, later⟩ := run_cons_eq_some ran
    exact inductionHypothesis (keeps _ _ _ holds meets moved) later

/-- A list of actions that runs to the end is a run from its first state. -/
theorem reaches_startingAt_of_run {actions : List Action}
    (ran : machine.run allowed state actions = some final) :
    (machine.startingAt state).Reaches allowed final := by
  have keeps : ∀ before action next, (machine.startingAt state).Reaches allowed before →
      allowed before action → machine.step before action = some next →
      (machine.startingAt state).Reaches allowed next :=
    fun _ _ _ reached meets moved => .step reached meets moved
  exact run_invariant keeps (.start rfl) ran

/-- A cell that is written by noted steps only holds what the last note put there. -/
theorem run_holds_last {Value : Type} {note : State → Action → Option Note}
    {content : Note → Value} {held : State → Value}
    (writes : ∀ state action next, machine.step state action = some next →
      held next = ((note state action).map content).getD (held state))
    {actions : List Action} (ran : machine.run allowed state actions = some final) :
    held final =
      ((machine.notes note state actions).getLast?.map content).getD (held state) := by
  induction actions generalizing state with
  | nil =>
    rw [run, Option.some_inj] at ran
    rw [← ran]
    rfl
  | cons action rest inductionHypothesis =>
    obtain ⟨next, -, moved, later⟩ := run_cons_eq_some ran
    rw [inductionHypothesis later, notes_cons moved, List.getLast?_append, writes _ _ _ moved]
    cases (machine.notes note next rest).getLast? with
    | some last => rfl
    | none => cases note state action <;> rfl

end Runs

/-! ### A record of a run -/

/-- The machine with a record of what its steps tell. -/
def recording (machine : Machine State Action) (tells : State → Action → List Note) :
    Machine (State × List Note) Action where
  start both := machine.start both.1 ∧ both.2 = []
  step both action :=
    (machine.step both.1 action).map fun next => (next, both.2 ++ tells both.1 action)

theorem recording_step_eq_some {machine : Machine State Action}
    {tells : State → Action → List Note} {both : State × List Note} {next : State × List Note}
    {action : Action} (moved : (machine.recording tells).step both action = some next) :
    machine.step both.1 action = some next.1 ∧ next.2 = both.2 ++ tells both.1 action := by
  obtain ⟨after, goes, rfl⟩ := Option.map_eq_some_iff.mp moved
  exact ⟨goes, rfl⟩

/-- The recorded runs are runs. What is allowed may depend on the record. -/
theorem Reaches.of_recording {machine : Machine State Action} {tells : State → Action → List Note}
    {allowed : State × List Note → Action → Prop} {condition : State → Action → Prop}
    (weaker : ∀ both action, allowed both action → condition both.1 action)
    {both : State × List Note} (reached : (machine.recording tells).Reaches allowed both) :
    machine.Reaches condition both.1 := by
  induction reached with
  | start begins => exact .start begins.1
  | step _ meets moved inductionHypothesis =>
    exact .step inductionHypothesis (weaker _ _ meets) (recording_step_eq_some moved).1

/-! ### All along a run -/

/-- It holds in every state that a list of actions leads through, as far as it runs. -/
def Throughout (machine : Machine State Action) (Holds : State → Prop) :
    State → List Action → Prop
  | state, [] => Holds state
  | state, action :: rest =>
    Holds state ∧
      (machine.step state action).elim True fun next => Throughout machine Holds next rest

/-- Every step of a list of actions meets the condition, as far as it runs. -/
def StepsMeet (machine : Machine State Action) (Meets : State → Action → Prop) :
    State → List Action → Prop
  | _, [] => True
  | state, action :: rest =>
    (machine.step state action).elim True fun next =>
      Meets state action ∧ StepsMeet machine Meets next rest

section Along

variable {machine : Machine State Action}

theorem Throughout.first {Holds : State → Prop} {state : State} {actions : List Action}
    (along : machine.Throughout Holds state actions) : Holds state := by
  cases actions with
  | nil => exact along
  | cons action rest => exact along.1

theorem Throughout.last {allowed : State → Action → Prop}
    [∀ state action, Decidable (allowed state action)] {Holds : State → Prop}
    {state final : State} {actions : List Action}
    (along : machine.Throughout Holds state actions)
    (ran : machine.run allowed state actions = some final) : Holds final := by
  induction actions generalizing state with
  | nil =>
    rw [run, Option.some_inj] at ran
    exact ran ▸ along
  | cons action rest inductionHypothesis =>
    obtain ⟨next, -, moved, later⟩ := run_cons_eq_some ran
    have behind := along.2
    rw [moved] at behind
    exact inductionHypothesis behind later

/-- If what holds is broken by exactly the steps that fail the condition, it holds throughout a run
exactly when all the steps meet the condition. -/
theorem throughout_iff_stepsMeet {Holds : State → Prop} {Meets : State → Action → Prop}
    (decided : ∀ state action next, Holds state → machine.step state action = some next →
      (Holds next ↔ Meets state action))
    {state : State} (holds : Holds state) (actions : List Action) :
    machine.Throughout Holds state actions ↔ machine.StepsMeet Meets state actions := by
  induction actions generalizing state with
  | nil => exact iff_of_true holds trivial
  | cons action rest inductionHypothesis =>
    rw [Throughout, StepsMeet]
    cases moved : machine.step state action with
    | none => exact iff_of_true ⟨holds, trivial⟩ trivial
    | some next =>
      have step := decided state action next holds moved
      constructor
      · rintro ⟨-, later⟩
        exact ⟨step.mp later.first, (inductionHypothesis later.first).mp later⟩
      · rintro ⟨meets, later⟩
        exact ⟨holds, (inductionHypothesis (step.mpr meets)).mpr later⟩

/-- A condition that an invariant guarantees is met all along. -/
theorem stepsMeet_of_invariant {Invariant : State → Prop} {Meets : State → Action → Prop}
    (keeps : ∀ state action next, Invariant state → machine.step state action = some next →
      Invariant next)
    (meets : ∀ state action next, Invariant state → machine.step state action = some next →
      Meets state action)
    {state : State} (holds : Invariant state) (actions : List Action) :
    machine.StepsMeet Meets state actions := by
  induction actions generalizing state with
  | nil => exact trivial
  | cons action rest inductionHypothesis =>
    rw [StepsMeet]
    cases moved : machine.step state action with
    | none => exact trivial
    | some next =>
      exact ⟨meets state action next holds moved,
        inductionHypothesis (keeps state action next holds moved)⟩

/-- The condition at a step in the middle. -/
theorem StepsMeet.at {allowed : State → Action → Prop}
    [∀ state action, Decidable (allowed state action)] {Meets : State → Action → Prop}
    {start state next : State} {before after : List Action} {action : Action}
    (along : machine.StepsMeet Meets start (before ++ action :: after))
    (ran : machine.run allowed start before = some state)
    (moved : machine.step state action = some next) : Meets state action := by
  induction before generalizing start with
  | nil =>
    rw [run, Option.some_inj] at ran
    subst ran
    rw [List.nil_append, StepsMeet, moved] at along
    exact along.1
  | cons first rest inductionHypothesis =>
    obtain ⟨second, -, began, later⟩ := run_cons_eq_some ran
    rw [List.cons_append, StepsMeet, began] at along
    exact inductionHypothesis along.2 later

/-- Two conditions on steps that agree where an invariant holds. -/
theorem stepsMeet_congr {Invariant : State → Prop} {First Second : State → Action → Prop}
    (keeps : ∀ state action next, Invariant state → machine.step state action = some next →
      Invariant next)
    (agree : ∀ state action next, Invariant state → machine.step state action = some next →
      (First state action ↔ Second state action))
    {state : State} (holds : Invariant state) (actions : List Action) :
    machine.StepsMeet First state actions ↔ machine.StepsMeet Second state actions := by
  induction actions generalizing state with
  | nil => exact Iff.rfl
  | cons action rest inductionHypothesis =>
    rw [StepsMeet, StepsMeet]
    cases moved : machine.step state action with
    | none => exact Iff.rfl
    | some next =>
      exact and_congr (agree state action next holds moved)
        (inductionHypothesis (keeps state action next holds moved))

end Along

end DxDsp.Library.Machine
