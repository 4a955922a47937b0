/-
This file follows the requests through the driver. A call has the one that it was
begun with, an entry of the list the one of the `write()` that queued it, and the
thread the one of the entry at the head: what holds of every request that is
submitted holds of every request in the driver.
-/

import DxDsp.Calls
import DxDsp.Wakeups

namespace DxDsp

open Library

variable {Client : Type}

/-! ### The request of a call -/

/-- The request that a call has been given. -/
def CallPc.request : CallPc → Option Object
  | .queue entry => some entry.request
  | .input request _ => some request
  | .idle | .wake _ | .program _ | .output _ => none

/-- The request that an action submits. -/
def Action.brings : Action Client → Option Object
  | .write _ _ _ data => data
  | .writeInput _ (.holds request) => some request
  | _ => none

/-- A step of a call that is in progress brings no request into it. -/
theorem CallStep.request {ownRun : Prop} {call after : CallPc}
    (stepped : CallStep ownRun call after) (busy : call ≠ .idle) {request : Object}
    (holds : after.request = some request) : call.request = some request := by
  cases stepped with
  | stays | runs => exact holds
  | write | writeInput | program | readOutput => exact absurd rfl busy
  | queued | written | ran | effect | finished | reads | answered => cases holds

theorem request_of_prepare {dx : Dxdev} {node : Option Nat} {len : Nat} {data : Option Object}
    {entry : DxrtRequestList} (prepared : dxrtDevWritePrepare dx node len data = .ok entry) :
    data = some entry.request := by
  rw [dxrtDevWritePrepare.eq_def] at prepared
  split at prepared
  · split at prepared
    · cases prepared
    · split at prepared
      · cases prepared
      · split at prepared <;> cases prepared
        rfl
  · cases prepared

namespace State

variable [DecidableEq Client]

theorem request_setCall {state : State Client} {own client : Client} {call : CallPc}
    {request : Object} (holds : ((state.setCall own call).calls client).request = some request) :
    (state.calls client).request = some request ∨ call.request = some request := by
  by_cases same : client = own
  · subst same
    have own : (state.setCall client call).calls client = call := Function.update_self _ _ _
    exact Or.inr (own ▸ holds)
  · have other : (state.setCall own call).calls client = state.calls client :=
      Function.update_of_ne same _ _
    exact Or.inl (other ▸ holds)

/-- A call holds the request it was begun with. -/
theorem step_callRequest {state next : State Client} {action : Action Client}
    (moved : state.step action = some next) {client : Client} {request : Object}
    (holds : (next.calls client).request = some request) :
    (state.calls client).request = some request ∨ action.brings = some request := by
  cases action with
  | write own node len data =>
    obtain ⟨-, rfl⟩ := whenIdle_eq_some moved
    cases prepared : dxrtDevWritePrepare state.dx node len data with
    | error ret =>
      rw [beginWrite, prepared] at holds
      exact Or.inl holds
    | ok entry =>
      rw [beginWrite, prepared] at holds
      refine (request_setCall holds).imp_right fun brought => ?_
      exact (request_of_prepare prepared).trans brought
  | writeInput own data =>
    obtain ⟨-, rfl⟩ := whenIdle_eq_some moved
    cases data with
    | null | fault => exact Or.inl holds
    | holds brought => exact request_setCall holds
  | program own steps =>
    rw [step] at moved
    split at moved
    · obtain ⟨-, rfl⟩ := whenIdle_eq_some moved
      rcases request_setCall holds with before | own
      · exact Or.inl before
      · cases own
    · cases moved
  | readOutput own data =>
    obtain ⟨-, rfl⟩ := whenIdle_eq_some moved
    cases data with
    | null => exact Or.inl holds
    | fault | writable =>
      rcases request_setCall holds with before | own
      · exact Or.inl before
      · cases own
  | _ =>
    left
    rcases step_calls moved with same | ⟨own, call, moves, calls, busy⟩
    · exact same ▸ holds
    · by_cases same : client = own
      · subst same
        first
        | exact (step_call moved client).request (busy trivial) holds
        | cases moves
      · rw [calls, Function.update_of_ne same] at holds
        exact holds

/-! ### Every request in the driver -/

/-- Every request in a call, on the list or in the hand of the thread meets a condition. -/
structure Requests (Meets : Object → Prop) (state : State Client) : Prop where
  calls : ∀ client request, (state.calls client).request = some request → Meets request
  entries : ∀ entry ∈ state.dx.requests, Meets entry.request
  thread : ∀ frame, state.thread.frame = some frame → Meets frame.request

omit [DecidableEq Client] in
theorem Requests.running {Meets : Object → Prop} {state : State Client}
    (requests : Requests Meets state) {caller : Caller Client} {frame : Running}
    (inside : state.running caller = some frame) : Meets frame.request := by
  cases caller with
  | thread => exact requests.thread frame inside
  | input client =>
    obtain ⟨own, pc⟩ := frame
    refine requests.calls client own ?_
    rw [running_input inside]
    rfl

theorem Requests.step {Meets : Object → Prop} {state next : State Client} {action : Action Client}
    (requests : Requests Meets state) (brings : ∀ request, action.brings = some request →
      Meets request) (moved : state.step action = some next) : Requests Meets next where
  calls client request holds :=
    (step_callRequest moved holds).elim (requests.calls client request) (brings request)
  entries entry member := by
    rcases step_requests moved with same | ⟨client, own, place, appended, -⟩ | ⟨own, -, unlinks⟩
    · exact requests.entries entry (same ▸ member)
    · rw [appended] at member
      rcases List.mem_append.mp member with before | new
      · exact requests.entries entry before
      · refine requests.calls client entry.request ?_
        rw [place, List.mem_singleton.mp new]
        rfl
    · rw [unlinks] at member
      exact requests.entries entry (List.mem_of_mem_eraseP member)
  thread frame inside := by
    by_cases own : action = .thread
    · subst own
      obtain ⟨entry, member, same⟩ := threadStep_request moved inside
      exact same ▸ requests.entries entry member
    · by_cases ownRun : action = .run .thread
      · subst ownRun
        obtain ⟨request, pc, stands, -, rfl⟩ := runStep_eq_some moved
        have after : (state.afterRun .thread request pc).running .thread = some frame := inside
        have meets := requests.running stands
        rw [running_afterRun stands, Function.update_self] at after
        cases after
        exact meets
      · rw [step_thread moved own ownRun] at inside
        exact requests.thread frame inside

end State

end DxDsp
