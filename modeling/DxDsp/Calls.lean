/-
This file says once what a step of the driver can make of a call, and what it can
make of a run of `dx_v3_dsp_run`: what is in progress was begun at its first
program point, and only its own caller moves it on.
-/

import DxDsp.Work

namespace DxDsp

open Library

variable {Client : Type}

/-- What a step makes of a call. A run of its own moves only in a step of that run. -/
inductive CallStep (ownRun : Prop) : CallPc → CallPc → Prop
  | stays (call : CallPc) : CallStep ownRun call call
  | write (entry : DxrtRequestList) : CallStep ownRun .idle (.queue entry)
  | queued (entry : DxrtRequestList) : CallStep ownRun (.queue entry) (.wake entry.request.reqId)
  | written (reqId : UInt32) : CallStep ownRun (.wake reqId) .idle
  | writeInput (request : Object) : CallStep ownRun .idle (.input request .wait)
  | runs (request : Object) (pc next : RunPc) (own : ownRun) :
    CallStep ownRun (.input request pc) (.input request next)
  | ran (request : Object) : CallStep ownRun (.input request .done) .idle
  | program (steps : List Micro) (offered : State.Offered steps) :
    CallStep ownRun .idle (.program steps)
  | effect (effect : Micro) (rest : List Micro) :
    CallStep ownRun (.program (effect :: rest)) (.program rest)
  | finished : CallStep ownRun (.program []) .idle
  | readOutput : CallStep ownRun .idle (.output .test)
  | reads (pc next : OutputPc) : CallStep ownRun (.output pc) (.output next)
  | answered : CallStep ownRun (.output .take) .idle

namespace State

variable [DecidableEq Client]

omit [DecidableEq Client] in
theorem CallStep.of_calls {state next : State Client} {ownRun : Prop}
    (calls : next.calls = state.calls) (client : Client) :
    CallStep ownRun (state.calls client) (next.calls client) := by
  rw [calls]
  exact .stays _

theorem CallStep.update {state next : State Client} {client : Client} {call : CallPc}
    {ownRun : Client → Prop} (calls : next.calls = Function.update state.calls client call)
    (own : CallStep (ownRun client) (state.calls client) call) (other : Client) :
    CallStep (ownRun other) (state.calls other) (next.calls other) := by
  rw [calls]
  by_cases same : other = client
  · rw [same, Function.update_self]
    exact own
  · rw [Function.update_of_ne same]
    exact .stays _

/-- A call that begins where none is in progress. -/
theorem CallStep.begin {state next : State Client} {client : Client} {call : CallPc}
    {ownRun : Prop} (idle : state.calls client = .idle) (begins : CallStep ownRun .idle call)
    (calls : next.calls = Function.update state.calls client call) (other : Client) :
    CallStep ownRun (state.calls other) (next.calls other) :=
  @CallStep.update _ _ _ _ _ _ (fun _ => ownRun) calls (idle ▸ begins) other

theorem outputStep_call {state next : State Client} {client : Client} {disturbed : Bool}
    {pc : OutputPc} (moved : state.outputStep client disturbed pc = some next) :
    ∃ call, next.calls = Function.update state.calls client call ∧
      ∀ ownRun, CallStep ownRun (.output pc) call := by
  cases pc with
  | test | clear =>
    cases moved
    exact ⟨_, rfl, fun _ => .reads _ _⟩
  | wait =>
    rw [outputStep] at moved
    split at moved
    · cases moved
      exact ⟨_, rfl, fun _ => .reads _ _⟩
    · split at moved <;> cases moved
      exact ⟨_, rfl, fun _ => .reads _ _⟩
  | take =>
    rw [outputStep] at moved
    split at moved
    · cases moved
    · split at moved
      · cases moved
        exact ⟨_, rfl, fun _ => .answered⟩
      · split at moved <;> cases moved <;> exact ⟨_, rfl, fun _ => .answered⟩

theorem clientStep_call {state next : State Client} {client : Client} {disturbed : Bool}
    {call : CallPc} (moved : state.clientStep client disturbed call = some next) :
    ∃ after, next.calls = Function.update state.calls client after ∧
      ∀ ownRun, CallStep ownRun call after := by
  cases call with
  | idle => cases moved
  | queue entry =>
    cases moved
    exact ⟨_, rfl, fun _ => .queued entry⟩
  | wake reqId =>
    cases moved
    exact ⟨_, rfl, fun _ => .written reqId⟩
  | input request pc =>
    cases pc <;> cases moved
    exact ⟨_, rfl, fun _ => .ran request⟩
  | program steps =>
    cases steps with
    | nil =>
      cases moved
      exact ⟨_, rfl, fun _ => .finished⟩
    | cons effect rest =>
      rw [clientStep] at moved
      split at moved <;> cases moved
      exact ⟨_, rfl, fun _ => .effect effect rest⟩
  | output pc => exact outputStep_call moved

/-- What a step makes of each call. -/
theorem step_call {state next : State Client} {action : Action Client}
    (moved : state.step action = some next) (client : Client) :
    CallStep (action = .run (.input client)) (state.calls client) (next.calls client) := by
  cases action with
  | write own node len data =>
    obtain ⟨idle, rfl⟩ := whenIdle_eq_some moved
    rw [beginWrite]
    split
    · exact CallStep.begin idle (.write _) rfl client
    · exact CallStep.of_calls rfl client
  | writeInput own data =>
    obtain ⟨idle, rfl⟩ := whenIdle_eq_some moved
    cases data with
    | holds request => exact CallStep.begin idle (.writeInput request) rfl client
    | null | fault => exact CallStep.of_calls rfl client
  | readOutput own data =>
    obtain ⟨idle, rfl⟩ := whenIdle_eq_some moved
    cases data with
    | null => exact CallStep.of_calls rfl client
    | fault | writable => exact CallStep.begin idle .readOutput rfl client
  | program own steps =>
    rw [step] at moved
    split at moved
    · next offered =>
      obtain ⟨idle, rfl⟩ := whenIdle_eq_some moved
      exact CallStep.begin idle (.program steps offered) rfl client
    · cases moved
  | writeMem own | poll own =>
    obtain ⟨-, rfl⟩ := whenIdle_eq_some moved
    exact CallStep.of_calls rfl client
  | read own len fault =>
    obtain ⟨-, rfl⟩ := whenIdle_eq_some moved
    rw [readStep]
    split <;> exact CallStep.of_calls rfl client
  | client own disturbed =>
    obtain ⟨call, calls, moves⟩ := clientStep_call moved
    exact @CallStep.update _ _ _ _ _ _ (fun _ => _) calls (moves _) client
  | run caller =>
    obtain ⟨request, pc, inside, -, rfl⟩ := runStep_eq_some moved
    cases caller with
    | thread => exact CallStep.of_calls rfl client
    | input own =>
      have place := running_input inside
      refine @CallStep.update _ _ state _ own _
        (fun other => Action.run (.input own) = .run (.input other)) rfl ?_ client
      rw [place]
      exact .runs request pc _ rfl
  | thread =>
    obtain ⟨thread, requests, rfl⟩ := threadStep_eq_some moved
    exact CallStep.of_calls rfl client
  | stop =>
    cases moved
    exact CallStep.of_calls rfl client
  | complete job =>
    obtain ⟨-, rfl⟩ := complete_eq_some moved
    exact CallStep.of_calls rfl client
  | interrupt job =>
    obtain ⟨-, -, rfl⟩ := interrupt_eq_some moved
    exact CallStep.of_calls rfl client
  | irq => exact CallStep.of_calls (dspWork_irqStep moved).2.1 client

/-! ### What a step makes of a run -/

omit [DecidableEq Client] in
/-- The thread comes into a run at its wait. -/
theorem threadStep_frame {state next : State Client} {request : Object} {pc : RunPc}
    (moved : state.threadStep state.thread = some next)
    (inside : next.thread.frame = some { request, pc }) : pc = .wait := by
  cases place : state.thread with
  | head =>
    rw [place, threadStep] at moved
    split at moved <;> cases moved <;> cases inside
    rfl
  | loop | wait | waitStop | woken =>
    rw [place] at moved
    cases moved
    dsimp only at inside
    split at inside <;> cases inside
  | running entry own =>
    rw [place] at moved
    cases own <;> cases moved
    cases inside
  | unlink | free =>
    rw [place] at moved
    cases moved
    cases inside
  | exited | headOfEmpty =>
    rw [place] at moved
    cases moved

omit [DecidableEq Client] in
/-- The thread comes into a run with an entry of the list. -/
theorem threadStep_request {state next : State Client} {frame : Running}
    (moved : state.threadStep state.thread = some next) (inside : next.thread.frame = some frame) :
    ∃ entry ∈ state.dx.requests, frame.request = entry.request := by
  cases place : state.thread with
  | head =>
    rw [place, threadStep] at moved
    split at moved
    · cases moved
      cases inside
    · next entry rest list =>
      cases moved
      cases inside
      exact ⟨entry, list ▸ List.mem_cons_self, rfl⟩
  | loop | wait | waitStop | woken =>
    rw [place] at moved
    cases moved
    dsimp only at inside
    split at inside <;> cases inside
  | running entry pc =>
    rw [place] at moved
    cases pc <;> cases moved
    cases inside
  | unlink | free =>
    rw [place] at moved
    cases moved
    cases inside
  | exited | headOfEmpty =>
    rw [place] at moved
    cases moved

/-- Only its own steps move the thread. -/
theorem step_thread {state next : State Client} {action : Action Client}
    (moved : state.step action = some next) (own : action ≠ .thread)
    (ownRun : action ≠ .run .thread) : next.thread = state.thread := by
  cases action with
  | thread => exact absurd rfl own
  | run caller =>
    cases caller with
    | thread => exact absurd rfl ownRun
    | input client =>
      obtain ⟨request, pc, -, -, rfl⟩ := runStep_eq_some moved
      rfl
  | stop =>
    cases moved
    rfl
  | complete job =>
    obtain ⟨-, rfl⟩ := complete_eq_some moved
    rfl
  | interrupt job =>
    obtain ⟨-, -, rfl⟩ := interrupt_eq_some moved
    rfl
  | irq =>
    rw [step] at moved
    cases place : state.irq <;> rw [place] at moved <;> cases moved <;> rfl
  | _ =>
    obtain ⟨dx, calls, started, held, log, -, rfl⟩ := step_ofClient_eq_some rfl moved
    rfl

/-- A run that is in progress behind a step began with it, was there before, or was moved on by its
own caller. -/
theorem running_step {state next : State Client} {action : Action Client}
    (moved : state.step action = some next) {caller : Caller Client} {request : Object} {pc : RunPc}
    (inside : next.running caller = some { request, pc }) :
    pc = .wait ∨ (action ≠ .run caller ∧ state.running caller = some { request, pc }) ∨
      (action = .run caller ∧ ∃ own, state.running caller = some { request, pc := own } ∧
        pc = runNext request state.dx.dsp own) := by
  by_cases inRun : ∃ user, action = .run user
  · obtain ⟨user, rfl⟩ := inRun
    obtain ⟨own, stands, place, -, rfl⟩ := runStep_eq_some moved
    rw [running_afterRun place] at inside
    by_cases same : caller = user
    · subst same
      rw [Function.update_self] at inside
      cases inside
      exact Or.inr (Or.inr ⟨rfl, stands, place, rfl⟩)
    · rw [Function.update_of_ne same] at inside
      exact Or.inr (Or.inl ⟨fun own => same (Action.run.inj own).symm, inside⟩)
  · have other : action ≠ .run caller := fun own => inRun ⟨caller, own⟩
    cases caller with
    | thread =>
      by_cases own : action = .thread
      · subst own
        exact Or.inl (threadStep_frame moved inside)
      · have same := step_thread moved own fun run => inRun ⟨.thread, run⟩
        exact Or.inr (Or.inl ⟨other, (congrArg ThreadPc.frame same).symm.trans inside⟩)
    | input client =>
      have place := running_input inside
      have call := step_call moved client
      rw [place] at call
      cases before : state.calls client <;> rw [before] at call <;> cases call
      case stays => exact Or.inr (Or.inl ⟨other, congrArg CallPc.frame before⟩)
      case writeInput => exact Or.inl rfl
      case runs own => exact absurd ⟨_, own⟩ inRun

end State

end DxDsp
