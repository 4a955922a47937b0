/-
This file holds the run theory the rest of the development rests on. A machine
is a partial step function: an action that is not enabled has no successor. A
run may be restricted to steps that meet a condition, so that "in every run
whose steps all meet the condition" is reachability under that condition, and
"in every run" is reachability under the trivial one.
-/

import Mathlib.Logic.Function.Basic
import Mathlib.Data.List.Basic

namespace DxDsp.Library

/-- A machine: its starting states, and the successor of a state under an enabled action. -/
structure Machine (State Action : Type) where
  start : State → Prop
  step : State → Action → Option State

namespace Machine

variable {State Action : Type} {machine : Machine State Action}

/-- The states of the runs whose every step meets `allowed`. -/
inductive Reaches (machine : Machine State Action) (allowed : State → Action → Prop) :
    State → Prop
  | start {state : State} (initial : machine.start state) : Reaches machine allowed state
  | step {state next : State} {action : Action} (before : Reaches machine allowed state)
      (meets : allowed state action) (moved : machine.step state action = some next) :
      Reaches machine allowed next

/-- What holds at the start and is kept by every allowed step holds in every state reached. -/
theorem Reaches.invariant {allowed : State → Action → Prop} {Holds : State → Prop}
    (initial : ∀ state, machine.start state → Holds state)
    (keeps : ∀ state action next, Holds state → allowed state action →
      machine.step state action = some next → Holds next)
    {state : State} (reached : Reaches machine allowed state) : Holds state := by
  induction reached with
  | start begins => exact initial _ begins
  | step _ meets moved inductionHypothesis => exact keeps _ _ _ inductionHypothesis meets moved

/-- Run a list of actions, stopping with `none` at the first one that is not enabled or not
allowed. -/
def run (machine : Machine State Action) (allowed : State → Action → Prop)
    [∀ state action, Decidable (allowed state action)] : State → List Action → Option State
  | state, [] => some state
  | state, action :: rest =>
    if allowed state action then
      match machine.step state action with
      | none => none
      | some next => run machine allowed next rest
    else none

/-- A list of actions that runs to the end reaches its last state. -/
theorem Reaches.of_run {allowed : State → Action → Prop}
    [∀ state action, Decidable (allowed state action)] {state final : State}
    (actions : List Action) (reached : Reaches machine allowed state)
    (ran : run machine allowed state actions = some final) : Reaches machine allowed final := by
  induction actions generalizing state with
  | nil =>
    rw [run, Option.some_inj] at ran
    exact ran ▸ reached
  | cons action rest inductionHypothesis =>
    rw [run] at ran
    split at ran
    · next meets =>
      split at ran
      · cases ran
      · next next moved => exact inductionHypothesis (.step reached meets moved) ran
    · cases ran

end Machine

end DxDsp.Library
