/-
This file is about what becomes of the calls in progress once no new ones begin:
each of them comes to its end, each queued request is run, completed and answered,
and what is left is a driver at rest.

A reader blocked in READ_OUTPUT while the event flag is down stays blocked, and
the busy mark goes away only if it was not there from the start: the register
that carries the status is the one that a probe loads with the reset vector.
-/

import DxDsp.ReadOutput
import DxDsp.SignalledRead
import DxDsp.Work
import DxDsp.Library.Progress

namespace DxDsp

open Library

variable {Client : Type} [DecidableEq Client]

namespace State

/-! ### Which calls a step moves -/

theorem outputStep_calls {state next : State Client} {client : Client} {disturbed : Bool}
    {pc : OutputPc} (moved : state.outputStep client disturbed pc = some next) :
    ∃ call, next.calls = Function.update state.calls client call := by
  cases pc with
  | test | clear =>
    cases moved
    exact ⟨_, rfl⟩
  | wait =>
    rw [outputStep] at moved
    split at moved
    · cases moved
      exact ⟨_, rfl⟩
    · split at moved <;> cases moved
      exact ⟨_, rfl⟩
  | take =>
    rw [outputStep] at moved
    split at moved
    · cases moved
    · split at moved
      · cases moved
        exact ⟨_, rfl⟩
      · split at moved <;> cases moved <;> exact ⟨_, rfl⟩

theorem clientStep_calls {state next : State Client} {client : Client} {disturbed : Bool}
    {call : CallPc} (moved : state.clientStep client disturbed call = some next) :
    ∃ after, next.calls = Function.update state.calls client after := by
  cases call with
  | idle => cases moved
  | queue | wake =>
    cases moved
    exact ⟨_, rfl⟩
  | input request pc =>
    cases pc <;> cases moved
    exact ⟨_, rfl⟩
  | program steps =>
    cases steps with
    | nil =>
      cases moved
      exact ⟨_, rfl⟩
    | cons effect rest =>
      rw [clientStep] at moved
      split at moved <;> cases moved
      exact ⟨_, rfl⟩
  | output pc => exact outputStep_calls moved

/-- The client whose call a step may move. -/
def mover : Action Client → Option Client
  | .write client _ _ _ | .writeInput client _ | .program client _ | .readOutput client _
  | .client client _ | .run (.input client) => some client
  | _ => none

/-- A step moves one call at most, and an ongoing one only a call in progress. -/
theorem step_calls {state next : State Client} {action : Action Client}
    (moved : state.step action = some next) :
    next.calls = state.calls ∨ ∃ client call, mover action = some client ∧
      next.calls = Function.update state.calls client call ∧
        (Ongoing action → state.calls client ≠ .idle) := by
  cases action with
  | write client node len data =>
    obtain ⟨-, rfl⟩ := whenIdle_eq_some moved
    rw [beginWrite]
    split
    · exact Or.inr ⟨client, _, rfl, rfl, fun ongoing => ongoing.elim⟩
    · exact Or.inl rfl
  | writeInput client data | readOutput client data =>
    obtain ⟨-, rfl⟩ := whenIdle_eq_some moved
    cases data <;>
      first
      | exact Or.inl rfl
      | exact Or.inr ⟨client, _, rfl, rfl, fun ongoing => ongoing.elim⟩
  | program client steps =>
    rw [step] at moved
    split at moved
    · obtain ⟨-, rfl⟩ := whenIdle_eq_some moved
      exact Or.inr ⟨client, _, rfl, rfl, fun ongoing => ongoing.elim⟩
    · cases moved
  | writeMem client data source | poll client =>
    obtain ⟨-, rfl⟩ := whenIdle_eq_some moved
    exact Or.inl rfl
  | read client len fault =>
    obtain ⟨-, rfl⟩ := whenIdle_eq_some moved
    rw [readStep]
    split <;> exact Or.inl rfl
  | client client disturbed =>
    have busy : state.calls client ≠ .idle := by
      intro idle
      rw [step, idle] at moved
      cases moved
    obtain ⟨call, calls⟩ := clientStep_calls moved
    exact Or.inr ⟨client, call, rfl, calls, fun _ => busy⟩
  | run caller =>
    obtain ⟨request, pc, inside, -, rfl⟩ := runStep_eq_some moved
    cases caller with
    | thread => exact Or.inl rfl
    | input client =>
      refine Or.inr ⟨client, _, rfl, rfl, fun _ => ?_⟩
      rw [running_input inside]
      exact CallPc.noConfusion
  | thread =>
    obtain ⟨thread, requests, rfl⟩ := threadStep_eq_some moved
    exact Or.inl rfl
  | stop =>
    cases moved
    exact Or.inl rfl
  | complete job =>
    obtain ⟨-, rfl⟩ := complete_eq_some moved
    exact Or.inl rfl
  | interrupt job =>
    obtain ⟨-, -, rfl⟩ := interrupt_eq_some moved
    exact Or.inl rfl
  | irq => exact Or.inl (dspWork_irqStep moved).2.1

/-- Who moves a call begins one, or is in `dx_v3_dsp_run`, or takes a step of its own. -/
theorem mover_place {state next : State Client} {action : Action Client} {client : Client}
    (moved : state.step action = some next) (moves : mover action = some client) :
    state.calls client = .idle ∨ (∃ request pc, state.calls client = .input request pc) ∨
      ∃ disturbed, action = .client client disturbed := by
  cases action with
  | write other | writeInput other | readOutput other =>
    obtain rfl : other = client := Option.some.inj moves
    exact Or.inl (whenIdle_eq_some moved).1
  | program other steps =>
    obtain rfl : other = client := Option.some.inj moves
    rw [step] at moved
    split at moved
    · exact Or.inl (whenIdle_eq_some moved).1
    · cases moved
  | client other disturbed =>
    obtain rfl : other = client := Option.some.inj moves
    exact Or.inr (Or.inr ⟨disturbed, rfl⟩)
  | run caller =>
    cases caller with
    | thread => cases moves
    | input other =>
      obtain rfl : other = client := Option.some.inj moves
      obtain ⟨request, pc, inside, -⟩ := runStep_eq_some moved
      exact Or.inr (Or.inl ⟨request, pc, running_input inside⟩)
  | _ => cases moves

theorem Covered.update {clients : Finset Client} {state next : State Client}
    (covered : Covered clients state) {client : Client} {call : CallPc} (member : client ∈ clients)
    (calls : next.calls = Function.update state.calls client call) : Covered clients next := by
  intro other outside
  have apart : other ≠ client := fun same => outside (same ▸ member)
  rw [calls, Function.update_of_ne apart]
  exact covered other outside

/-- At any time finitely many clients are inside a call. -/
theorem Covered.step {clients : Finset Client} {state next : State Client} {action : Action Client}
    (covered : Covered clients state) (moved : state.step action = some next) :
    ∃ wider, Covered wider next := by
  rcases step_calls moved with calls | ⟨client, call, -, calls, -⟩
  · exact ⟨clients, fun other outside => by rw [calls, covered other outside]⟩
  · have wider : Covered (insert client clients) state :=
      fun other outside => covered other fun member => outside (Finset.mem_insert_of_mem member)
    exact ⟨_, wider.update (Finset.mem_insert_self _ _) calls⟩

/-- And an ongoing step adds none. -/
theorem Covered.ongoing {clients : Finset Client} {state next : State Client}
    {action : Action Client} (covered : Covered clients state) (ongoing : Ongoing action)
    (moved : state.step action = some next) : Covered clients next := by
  rcases step_calls moved with calls | ⟨client, call, -, calls, busy⟩
  · exact fun other outside => by rw [calls, covered other outside]
  · exact covered.update (covered.mem (busy ongoing)) calls

/-! ### The steps that test again -/

/-- The status read of a busy DSP changes nothing. -/
theorem retests_run {state next : State Client} {caller : Caller Client}
    (again : state.Retests (.run caller)) (moved : state.step (.run caller) = some next) :
    next = state := by
  obtain ⟨request, pc, inside, -, rfl⟩ := runStep_eq_some moved
  obtain ⟨waits, busy⟩ := again
  rw [inside, Option.map_some] at waits
  obtain rfl : pc = .wait := Option.some.inj waits
  have stays : runNext request state.dx.dsp .wait = .wait := by rw [runNext, if_pos busy]
  have thread : state.threadMoved .wait caller = state.thread := by
    cases caller with
    | input => rfl
    | thread =>
      obtain ⟨entry, place, -⟩ := running_thread inside
      rw [threadMoved, place]
      rfl
  have calls : state.callsMoved .wait caller = state.calls := by
    cases caller with
    | thread => rfl
    | input client =>
      have place := running_input inside
      rw [callsMoved, place]
      exact Function.update_eq_self_iff.mpr place.symm
  rw [afterRun, stays, thread, calls, leftBy, if_neg (by simp), startedBy, List.append_nil,
    List.append_nil]
  · rfl
  · simp

omit [DecidableEq Client] in
/-- The thread's test of an empty list moves the thread inside its wait. -/
theorem retests_thread {state next : State Client} (again : state.Retests .thread)
    (moved : state.threadStep state.thread = some next) :
    ∃ thread, next = { state with thread } ∧ next.waitsForRequest = true := by
  obtain ⟨waits, empty, stop⟩ := again
  rw [waitsForRequest] at waits
  cases place : state.thread with
  | wait =>
    rw [place] at moved
    cases moved
    rw [if_pos empty]
    exact ⟨_, rfl, rfl⟩
  | waitStop =>
    rw [place] at moved
    cases moved
    rw [stop]
    exact ⟨_, rfl, rfl⟩
  | _ =>
    rw [place] at waits
    cases waits

omit [DecidableEq Client] in
/-- A thread that waits for a request has its own work only where one is there. -/
theorem threadWork_of_waits {state : State Client} (waits : state.waitsForRequest = true)
    (empty : state.dx.requests = []) (stop : state.shouldStop = false) : state.threadWork = 2 := by
  rw [waitsForRequest] at waits
  cases place : state.thread with
  | wait | waitStop =>
    rw [threadWork, place, empty, stop]
    rfl
  | _ =>
    rw [place] at waits
    cases waits

/-! ### What a step that tests again leaves ready -/

omit [DecidableEq Client] in
theorem waitsForRequest_frame {state : State Client} (waits : state.waitsForRequest = true) :
    state.thread.frame = none := by
  rw [waitsForRequest] at waits
  cases place : state.thread with
  | wait | waitStop => rfl
  | _ =>
    rw [place] at waits
    cases waits

omit [DecidableEq Client] in
theorem running_withThread {state : State Client} {thread : ThreadPc}
    (frame : thread.frame = state.thread.frame) :
    ({ state with thread } : State Client).running = state.running := by
  funext caller
  cases caller with
  | thread => exact frame
  | input client => rfl

theorem outputStep_withThread (state : State Client) (thread : ThreadPc) (client : Client)
    (disturbed : Bool) (pc : OutputPc) :
    ({ state with thread } : State Client).outputStep client disturbed pc =
      (state.outputStep client disturbed pc).map fun next => { next with thread } := by
  cases pc with
  | test | clear => rfl
  | wait =>
    cases disturbed with
    | true => rfl
    | false =>
      rw [outputStep, outputStep]
      cases event : state.dx.dsp.irqEvent <;> rfl
  | take =>
    rw [outputStep, outputStep]
    by_cases held : state.responsesHeld = true
    · rw [if_pos held, if_pos held]
      rfl
    · rw [if_neg held, if_neg held]
      cases list : state.dx.responses with
      | nil => rfl
      | cons response rest => cases disturbed <;> rfl

theorem clientStep_withThread (state : State Client) (thread : ThreadPc) (client : Client)
    (disturbed : Bool) (call : CallPc) :
    ({ state with thread } : State Client).clientStep client disturbed call =
      (state.clientStep client disturbed call).map fun next => { next with thread } := by
  cases call with
  | idle | queue | wake => rfl
  | input request pc => cases pc <;> rfl
  | program steps =>
    cases steps with
    | nil => rfl
    | cons effect rest =>
      rw [clientStep, clientStep]
      by_cases held : effect = .responses ∧ state.responsesHeld = true
      · rw [if_pos held, if_pos held]
        rfl
      · rw [if_neg held, if_neg held]
        rfl
  | output pc => exact outputStep_withThread state thread client disturbed pc

theorem interrupt_enabled {state : State Client} {job : Job Client} (idle : state.irq = .idle)
    (member : job ∈ state.raised) :
    state.step (.interrupt job) =
      some { state with raised := state.raised.erase job, irq := .status0 job } := by
  rw [step, idle]
  exact if_pos member

/-- Where the thread stands in its wait decides no other step. -/
theorem enabled_withThread {state next : State Client} {thread : ThreadPc} {action : Action Client}
    (frame : thread.frame = state.thread.frame) (ongoing : Ongoing action)
    (other : action ≠ .thread) (moved : state.step action = some next) :
    ∃ after, ({ state with thread } : State Client).step action = some after := by
  cases action with
  | client client disturbed =>
    refine ⟨{ next with thread }, ?_⟩
    show clientStep _ client disturbed (state.calls client) = _
    rw [clientStep_withThread, show state.clientStep client disturbed (state.calls client) =
      some next from moved]
    rfl
  | run caller =>
    obtain ⟨request, pc, inside, unfinished, -⟩ := runStep_eq_some moved
    refine ⟨({ state with thread } : State Client).afterRun caller request pc, ?_⟩
    show runStep _ caller = _
    rw [runStep, running_withThread frame, inside]
    exact if_neg unfinished
  | complete job =>
    obtain ⟨member, -⟩ := complete_eq_some moved
    exact ⟨_, if_pos member⟩
  | interrupt job =>
    obtain ⟨idle, member, -⟩ := interrupt_eq_some moved
    exact ⟨_, @interrupt_enabled _ _ { state with thread } job idle member⟩
  | irq =>
    rw [step] at moved
    show ∃ after, irqStep _ state.irq = some after
    cases place : state.irq with
    | idle =>
      rw [place] at moved
      cases moved
    | _ => exact ⟨_, rfl⟩
  | thread => exact absurd rfl other
  | _ => cases ongoing

/-- The steps that the parties take of themselves. A signal comes from elsewhere. The DSP is taken
to complete what it was started with; one that has been reset need not. -/
def Urged : Action Client → Prop
  | .client _ disturbed => disturbed = false
  | .run _ | .thread | .complete _ | .interrupt _ | .irq => True
  | _ => False

omit [DecidableEq Client] in
theorem Urged.ongoing {action : Action Client} (urged : Urged action) : Ongoing action := by
  cases action <;> trivial

/-- An action of the driver that would get something done. -/
def Ready (state : State Client) (action : Action Client) : Prop :=
  (driver Client).Ready Urged Retests state action

theorem ready_persists {state next : State Client} {action other : Action Client}
    (again : state.Retests action) (moved : state.step action = some next)
    (ready : state.Ready other) : next.Ready other := by
  cases action with
  | run caller => exact retests_run again moved ▸ ready
  | thread =>
    obtain ⟨urged, does, after, goes⟩ := ready
    obtain ⟨thread, rfl, waits⟩ := retests_thread again moved
    have frame : thread.frame = state.thread.frame :=
      (waitsForRequest_frame waits).trans (waitsForRequest_frame again.1).symm
    have apart : other ≠ .thread := fun same => does (same ▸ again)
    refine ⟨urged, ?_, enabled_withThread frame urged.ongoing apart goes⟩
    cases other with
    | run caller =>
      rw [Retests, running_withThread frame]
      exact does
    | thread => exact absurd rfl apart
    | _ => exact does
  | _ => cases again

/-! ### The lock of the responses -/

/-- Only a response in the list can leave its lock behind, and none is ever there. -/
theorem outputStep_free {state next : State Client} {client : Client} {disturbed : Bool}
    {pc : OutputPc} (never : NeverFilled state) (free : state.responsesHeld = false)
    (moved : state.outputStep client disturbed pc = some next) : next.responsesHeld = false := by
  cases pc with
  | test | clear =>
    cases moved
    exact free
  | wait =>
    rw [outputStep] at moved
    split at moved
    · cases moved
      exact free
    · split at moved <;> cases moved
      exact free
  | take =>
    rw [outputStep, never.responses] at moved
    split at moved <;> cases moved
    exact free

theorem step_free {state next : State Client} {action : Action Client} (never : NeverFilled state)
    (free : state.responsesHeld = false) (moved : state.step action = some next) :
    next.responsesHeld = false := by
  cases action with
  | write client node len data =>
    obtain ⟨-, rfl⟩ := whenIdle_eq_some moved
    rw [beginWrite]
    split <;> exact free
  | writeInput client data | readOutput client data =>
    obtain ⟨-, rfl⟩ := whenIdle_eq_some moved
    cases data <;> exact free
  | program client steps =>
    rw [step] at moved
    split at moved
    · obtain ⟨-, rfl⟩ := whenIdle_eq_some moved
      exact free
    · cases moved
  | writeMem client data source | poll client =>
    obtain ⟨-, rfl⟩ := whenIdle_eq_some moved
    exact free
  | read client len fault =>
    obtain ⟨-, rfl⟩ := whenIdle_eq_some moved
    rw [readStep]
    split <;> exact free
  | client client disturbed =>
    rw [step] at moved
    cases place : state.calls client with
    | output pc =>
      rw [place] at moved
      exact outputStep_free never free moved
    | idle =>
      rw [place] at moved
      cases moved
    | queue | wake =>
      rw [place] at moved
      cases moved
      exact free
    | input request pc =>
      rw [place] at moved
      cases pc <;> cases moved
      exact free
    | program steps =>
      rw [place] at moved
      cases steps with
      | nil =>
        cases moved
        exact free
      | cons effect rest =>
        rw [clientStep] at moved
        split at moved <;> cases moved
        exact free
  | run caller =>
    obtain ⟨request, pc, -, -, rfl⟩ := runStep_eq_some moved
    exact free
  | thread =>
    obtain ⟨thread, requests, rfl⟩ := threadStep_eq_some moved
    exact free
  | stop =>
    cases moved
    exact free
  | complete job =>
    obtain ⟨-, rfl⟩ := complete_eq_some moved
    exact free
  | interrupt job =>
    obtain ⟨-, -, rfl⟩ := interrupt_eq_some moved
    exact free
  | irq =>
    rw [step] at moved
    cases place : state.irq <;> rw [place] at moved <;> cases moved <;> exact free

/-! ### What is left in the end -/

/-- A driver at rest: nothing is with the DSP, every call has returned, but for readers that wait
for an event, and the thread has exited or waits at an empty list. -/
structure Settled (state : State Client) : Prop where
  started : state.started = []
  raised : state.raised = []
  irq : state.irq = .idle
  calls : ∀ client, state.calls client = .idle ∨
    (state.calls client = .output .wait ∧ state.dx.dsp.irqEvent = false)
  thread : state.thread = .exited ∨
    (state.waitsForRequest = true ∧ state.dx.requests = [] ∧ state.shouldStop = false)

/-- What every run keeps that starts without the busy mark. -/
structure Alive (clients : Finset Client) (state : State Client) : Prop where
  covered : Covered clients state
  holds : ThreadHolds state
  owed : state.flag.Owed
  never : NeverFilled state
  free : state.responsesHeld = false

omit [DecidableEq Client] in
theorem alive_initial {dsp : Dxdsp} (vector : dsp.regDspBasePhyAddrRomRam ≠ dspBusy) :
    Alive ∅ (initial dsp : State Client) where
  covered _ _ := rfl
  holds := trivial
  owed busy := absurd (flag_busy.mp busy) vector
  never := neverFilled_initial dsp
  free := rfl

theorem Alive.step {clients : Finset Client} {state next : State Client} {action : Action Client}
    (alive : Alive clients state) (moved : state.step action = some next) :
    ∃ wider, Alive wider next := by
  obtain ⟨wider, covered⟩ := alive.covered.step moved
  exact ⟨wider, covered, alive.holds.step moved, owed_step alive.owed moved,
    step_neverFilled alive.never moved, step_free alive.never alive.free moved⟩

theorem Alive.ongoing {clients : Finset Client} {state next : State Client}
    {action : Action Client} (alive : Alive clients state) (ongoing : Ongoing action)
    (moved : state.step action = some next) : Alive clients next :=
  ⟨alive.covered.ongoing ongoing moved, alive.holds.step moved, owed_step alive.owed moved,
    step_neverFilled alive.never moved, step_free alive.never alive.free moved⟩

/-! ### Where nothing is ready -/

/-- No ongoing step would get anything done. -/
def Stuck (state : State Client) : Prop := ∀ action, ¬ state.Ready action

omit [DecidableEq Client] in
/-- A caller inside the busy section stands at a step that nothing delays. -/
theorem exists_running_of_phase {state : State Client} {caller : Caller Client}
    (inside : state.phase caller ≠ .outside) :
    ∃ request pc, state.running caller = some { request, pc } ∧ pc ≠ .wait ∧ pc ≠ .done := by
  rw [phase] at inside
  cases frame : state.running caller with
  | none =>
    rw [frame] at inside
    exact absurd rfl inside
  | some running =>
    obtain ⟨request, pc⟩ := running
    rw [frame] at inside
    refine ⟨request, pc, rfl, ?_, ?_⟩
    · rintro rfl
      exact inside rfl
    · rintro rfl
      exact inside rfl

theorem ready_run {state : State Client} {caller : Caller Client} {request : Object} {pc : RunPc}
    (inside : state.running caller = some { request, pc }) (unfinished : pc ≠ .done)
    (goes : ¬ (pc = .wait ∧ readDspStatus state.dx.dsp.regDspBase = dspBusy)) :
    state.Ready (.run caller) := by
  refine ⟨trivial, fun again => goes ?_, state.afterRun caller request pc, ?_⟩
  · rw [Retests, inside, Option.map_some, Option.some_inj] at again
    exact again
  · show state.runStep caller = _
    rw [runStep, inside]
    exact if_neg unfinished

/-- The DSP has nothing left to complete, and the handler nothing to handle. -/
theorem Stuck.dsp {state : State Client} (stuck : state.Stuck) :
    state.started = [] ∧ state.raised = [] ∧ state.irq = .idle := by
  have irq : state.irq = .idle := by
    by_contra handling
    refine stuck .irq ⟨trivial, id, ?_⟩
    show ∃ next, state.irqStep state.irq = some next
    cases place : state.irq with
    | idle => exact absurd place handling
    | _ => exact ⟨_, rfl⟩
  refine ⟨?_, ?_, irq⟩
  · by_contra some
    obtain ⟨job, member⟩ := List.exists_mem_of_ne_nil _ some
    exact stuck (.complete job) ⟨trivial, id, _, if_pos member⟩
  · by_contra some
    obtain ⟨job, member⟩ := List.exists_mem_of_ne_nil _ some
    exact stuck (.interrupt job) ⟨trivial, id, _, interrupt_enabled irq member⟩

/-- A run is at its end: the one that waits for the mark to go away would wait for a caller that is
ready, or for the DSP. -/
theorem Stuck.running {clients : Finset Client} {state : State Client} (alive : Alive clients state)
    (stuck : state.Stuck) {caller : Caller Client} {request : Object} {pc : RunPc}
    (inside : state.running caller = some { request, pc }) : pc = .done := by
  by_contra unfinished
  have waits : pc = .wait ∧ readDspStatus state.dx.dsp.regDspBase = dspBusy := by
    by_contra goes
    exact stuck _ (ready_run inside unfinished goes)
  obtain ⟨started, raised, irq⟩ := stuck.dsp
  rcases alive.owed (flag_busy.mpr waits.2) with ⟨user, job, stands⟩ | handed
  · have busy : state.phase user ≠ .outside := by
      intro outside
      rcases stands with marked | published
      · cases (show state.phase user = _ from marked).symm.trans outside
      · cases (show state.phase user = _ from published).symm.trans outside
    obtain ⟨own, stand, frame, notWait, notDone⟩ := exists_running_of_phase busy
    exact stuck _ (ready_run frame notDone fun waits => notWait waits.1)
  · refine handed ?_
    rw [flag, started, raised, irq]
    rfl

theorem Stuck.call {clients : Finset Client} {state : State Client} (alive : Alive clients state)
    (stuck : state.Stuck) (client : Client) : state.calls client = .idle ∨
      (state.calls client = .output .wait ∧ state.dx.dsp.irqEvent = false) := by
  have blocked : ∀ next, state.clientStep client false (state.calls client) ≠ some next :=
    fun next moved => stuck (.client client false) ⟨rfl, id, next, moved⟩
  cases place : state.calls client with
  | idle => exact Or.inl rfl
  | queue | wake =>
    rw [place] at blocked
    exact absurd rfl (blocked _)
  | input request pc =>
    have inside : state.running (.input client) = some { request, pc } := by
      rw [State.running, place]
      rfl
    obtain rfl := stuck.running alive inside
    rw [place] at blocked
    exact absurd rfl (blocked _)
  | program steps =>
    rw [place] at blocked
    cases steps with
    | nil => exact absurd rfl (blocked _)
    | cons effect rest =>
      refine absurd (if_neg ?_) (blocked _)
      rw [alive.free]
      simp
  | output pc =>
    rw [place] at blocked
    cases pc with
    | test | clear => exact absurd rfl (blocked _)
    | wait =>
      refine Or.inr ⟨rfl, ?_⟩
      by_contra raised
      exact absurd (if_pos (Bool.not_eq_false _ ▸ raised)) (blocked _)
    | take =>
      have returns : state.outputStep client false .take =
          some ((state.setCall client .idle).record (.output client (-1) none)) := by
        rw [outputStep, if_neg (by rw [alive.free]; simp), alive.never.responses]
      exact absurd returns (blocked _)

theorem Stuck.thread {clients : Finset Client} {state : State Client} (alive : Alive clients state)
    (stuck : state.Stuck) : state.thread = .exited ∨
      (state.waitsForRequest = true ∧ state.dx.requests = [] ∧ state.shouldStop = false) := by
  by_cases again : state.Retests .thread
  · exact Or.inr again
  · have blocked : ∀ next, state.threadStep state.thread ≠ some next :=
      fun next moved => stuck .thread ⟨trivial, again, next, moved⟩
    have holds := alive.holds
    rw [ThreadHolds] at holds
    cases place : state.thread with
    | exited => exact Or.inl rfl
    | headOfEmpty =>
      rw [place] at holds
      exact holds.elim
    | running entry pc =>
      have inside : state.running .thread = some { request := entry.request, pc } := by
        rw [State.running, place]
        rfl
      obtain rfl := stuck.running alive inside
      rw [place] at blocked
      exact absurd rfl (blocked _)
    | head =>
      rw [place] at blocked holds
      obtain ⟨entry, rest, list⟩ := List.exists_cons_of_ne_nil holds
      have takes : state.threadStep .head = some { state with thread := .running entry .wait } := by
        rw [threadStep, list]
      exact absurd takes (blocked _)
    | loop | wait | waitStop | woken | unlink | free =>
      rw [place] at blocked
      exact absurd rfl (blocked _)

/-- Where nothing is ready the driver is at rest. -/
theorem Stuck.settled {clients : Finset Client} {state : State Client} (alive : Alive clients state)
    (stuck : state.Stuck) : state.Settled :=
  ⟨stuck.dsp.1, stuck.dsp.2.1, stuck.dsp.2.2, stuck.call alive, stuck.thread alive⟩

/-! ### Progress -/

/-- What every run keeps, whatever the status register holds at its start. -/
structure Tended (clients : Finset Client) (state : State Client) : Prop where
  covered : Covered clients state
  holds : ThreadHolds state

/-- The driver makes progress by this measure of work. -/
theorem progress {clients : Finset Client} {Invariant : State Client → Prop}
    (tended : ∀ state, Invariant state → Tended clients state)
    (keeps : ∀ {state action next}, Invariant state → Ongoing action →
      state.step action = some next → Invariant next) :
    Progress (driver Client) Invariant Ongoing Urged Retests (work clients) where
  isInner urged := urged.ongoing
  keeps := keeps
  lowers {state action next} holds ongoing goes moved :=
    work_step (tended state holds).covered (tended state holds).holds ongoing goes moved
  rests {state action next} _ _ again moved := by
    cases action with
    | run caller => rw [retests_run again moved]
    | thread =>
      obtain ⟨thread, rfl, waits⟩ := retests_thread again moved
      rw [work, work, threadWork_of_waits again.1 again.2.1 again.2.2]
      exact congrArg (state.dspWork + · + _) (threadWork_of_waits waits again.2.1 again.2.2)
    | _ => cases again
  persists _ _ again moved ready := ready_persists again moved ready

theorem alive_progress (clients : Finset Client) :
    Progress (driver Client) (Alive clients) Ongoing Urged Retests (work clients) :=
  progress (fun _ alive => ⟨alive.covered, alive.holds⟩) fun alive ongoing moved =>
    alive.ongoing ongoing moved

theorem neverStuck (clients : Finset Client) :
    NeverStuck (driver Client) (Alive clients) Urged Retests Settled := by
  intro state alive unsettled
  by_contra stuck
  exact unsettled (Stuck.settled alive fun action ready => stuck ⟨action, ready⟩)

/-- Every state of every run without the busy mark at the start. -/
theorem Alive.of_reaches {dsp : Dxdsp} (vector : dsp.regDspBasePhyAddrRomRam ≠ dspBusy)
    {allowed : State Client → Action Client → Prop} {state : State Client}
    (reached : ((driver Client).startingAt (initial dsp)).Reaches allowed state) :
    ∃ clients, Alive clients state := by
  induction reached with
  | start begins =>
    rw [begins]
    exact ⟨∅, alive_initial vector⟩
  | step _ _ moved inductionHypothesis =>
    obtain ⟨clients, alive⟩ := inductionHypothesis
    exact alive.step moved

theorem ThreadHolds.of_reaches {state : State Client}
    (reached : (driver Client).Reaches (fun _ _ => True) state) : ThreadHolds state := by
  refine reached.invariant ?_ fun _ _ _ holds _ moved => holds.step moved
  rintro _ ⟨dsp, rfl⟩
  trivial

/-! ### A busy mark from the start -/

/-- A client in WRITE_INPUT and the thread in its wait, right behind the probe. -/
def waitsFromStart (client : Client) (dsp : Dxdsp) : State Client :=
  { (initial dsp).setCall client (.input (bareRequest 0) .wait) with thread := .wait }

theorem reaches_waitsFromStart (client : Client) (dsp : Dxdsp) :
    ((driver Client).startingAt (initial dsp)).Reaches Benign (waitsFromStart client dsp) := by
  have fits : Object.Fits (bareRequest 0) := by decide
  have begun : ((driver Client).startingAt (initial dsp)).Reaches Benign
      ((initial dsp).setCall client (.input (bareRequest 0) .wait)) :=
    @Machine.Reaches.step _ _ _ _ _ _ (.writeInput client (.holds (bareRequest 0))) (.start rfl)
      fits rfl
  exact @Machine.Reaches.step _ _ _ _ _ _ .thread begun trivial rfl

theorem waitsFromStart_calls (client : Client) (dsp : Dxdsp) :
    (waitsFromStart client dsp).calls client = .input (bareRequest 0) .wait :=
  Function.update_self _ _ _

/-- Where the reset vector is the busy mark, the client waits for it to go away. -/
theorem waitsFromStart_stuck {client : Client} {dsp : Dxdsp}
    (vector : dsp.regDspBasePhyAddrRomRam = dspBusy) : (waitsFromStart client dsp).Stuck := by
  rintro action ⟨urged, goes, next, moved⟩
  have others : ∀ other, (waitsFromStart client dsp).calls other = .idle ∨
      (waitsFromStart client dsp).calls other = .input (bareRequest 0) .wait := by
    intro other
    by_cases same : other = client
    · rw [same]
      exact Or.inr (waitsFromStart_calls client dsp)
    · exact Or.inl (Function.update_of_ne same _ _)
  cases action with
  | client other disturbed =>
    replace moved : (waitsFromStart client dsp).clientStep other disturbed
      ((waitsFromStart client dsp).calls other) = some next := moved
    rcases others other with idle | waits
    · rw [idle] at moved
      cases moved
    · rw [waits] at moved
      cases moved
  | run caller =>
    obtain ⟨request, pc, inside, -, -⟩ := runStep_eq_some moved
    cases caller with
    | thread => cases inside
    | input other =>
      have place := running_input inside
      rcases others other with idle | waits
      · rw [idle] at place
        cases place
      · rw [waits] at place
        cases place
        refine goes ⟨?_, vector⟩
        rw [inside]
        rfl
  | thread => exact goes ⟨rfl, rfl, rfl⟩
  | complete | interrupt | irq => cases moved
  | _ => cases urged

/-! ### At rest -/

omit [DecidableEq Client] in
/-- At rest no caller is in `dx_v3_dsp_run`. -/
theorem Settled.running {state : State Client} (settled : state.Settled)
    (caller : Caller Client) : state.running caller = none := by
  cases caller with
  | thread =>
    rcases settled.thread with exited | waits
    · rw [State.running, exited]
      rfl
    · exact waitsForRequest_frame waits.1
  | input client =>
    rcases settled.calls client with idle | waits
    · rw [State.running, idle]
      rfl
    · rw [State.running, waits.1]
      rfl

/-- At rest nothing is left to do. -/
theorem Settled.stuck {state : State Client} (settled : state.Settled) : state.Stuck := by
  rintro action ⟨urged, goes, next, moved⟩
  replace moved : state.step action = some next := moved
  cases action with
  | client client disturbed =>
    obtain rfl : disturbed = false := urged
    rw [step] at moved
    rcases settled.calls client with idle | ⟨waits, down⟩
    · rw [idle] at moved
      cases moved
    · rw [waits, clientStep, outputStep, if_neg (by simp), down] at moved
      cases moved
  | run caller =>
    obtain ⟨request, pc, inside, -, -⟩ := runStep_eq_some moved
    rw [settled.running] at inside
    cases inside
  | thread =>
    rcases settled.thread with exited | again
    · rw [step, exited] at moved
      cases moved
    · exact goes again
  | complete job =>
    obtain ⟨member, -⟩ := complete_eq_some moved
    rw [settled.started] at member
    cases member
  | interrupt job =>
    obtain ⟨-, member, -⟩ := interrupt_eq_some moved
    rw [settled.raised] at member
    cases member
  | irq =>
    rw [step, settled.irq] at moved
    cases moved
  | _ => cases urged

/-- Once no new call begins, a weakly fair run comes to rest, whatever was in progress. -/
theorem comes_to_rest {dsp : Dxdsp} (vector : dsp.regDspBasePhyAddrRomRam ≠ dspBusy)
    {allowed : State Client → Action Client → Prop} {endless : (driver Client).Endless Ongoing}
    (reached : ((driver Client).startingAt (initial dsp)).Reaches allowed (endless.state 0))
    (fair : endless.WeaklyFair Urged Retests) :
    ∃ time, ∀ later, time ≤ later → (endless.state later).Settled := by
  obtain ⟨clients, alive⟩ := Alive.of_reaches vector reached
  exact (alive_progress clients).eventually_settled (neverStuck clients) alive fair

end State

/-- With requests that fit and no reset, and a DSP that completes what it was started with, the
driver never deadlocks exactly if the reset vector is not the busy mark: then in every state of
every run that is not at rest, some step of a caller, the thread, the DSP or the handler gets
something done. -/
theorem driver_never_deadlocks_iff (client : Client) (dsp : Dxdsp) :
    (∀ state : State Client,
        ((driver Client).startingAt (State.initial dsp)).Reaches State.Benign state →
          ¬ state.Settled → ∃ action, state.Ready action) ↔
      dsp.regDspBasePhyAddrRomRam ≠ dspBusy := by
  constructor
  · intro live vector
    have unsettled : ¬ (State.waitsFromStart client dsp).Settled := by
      intro settled
      have place := State.waitsFromStart_calls client dsp
      rcases settled.calls client with idle | waits
      · rw [idle] at place
        cases place
      · rw [waits.1] at place
        cases place
    obtain ⟨action, ready⟩ := live _ (State.reaches_waitsFromStart client dsp) unsettled
    exact State.waitsFromStart_stuck vector action ready
  · intro vector state reached unsettled
    obtain ⟨clients, alive⟩ := State.Alive.of_reaches vector reached
    exact State.neverStuck clients state alive unsettled

/-- However they interleave, the steps that get something done are no more than the work there was
when the last call began. -/
theorem driver_work_bounds {clients : Finset Client} {state final : State Client}
    (reached : (driver Client).Reaches (fun _ _ => True) state)
    (covered : State.Covered clients state) {actions : List (Action Client)}
    (ran : (driver Client).run (fun _ action => State.Ongoing action) state actions = some final) :
    ((driver Client).notes (Machine.doing State.Retests) state actions).length +
      final.work clients ≤ state.work clients := by
  have keeps : ∀ {before : State Client} {action next}, State.Tended clients before →
      State.Ongoing action → before.step action = some next → State.Tended clients next :=
    fun tended ongoing moved => ⟨tended.covered.ongoing ongoing moved, tended.holds.step moved⟩
  exact (State.progress (fun _ tended => tended) keeps).length_doing_add_work_le
    ⟨covered, State.ThreadHolds.of_reaches reached⟩ ran

/-! ### A run on the board -/

/-- The client has submitted a request, which is about to enter the list. -/
def submitting : State (Fin 1) :=
  (State.initial boardDsp).setCall 0 (.queue { node := 1, request := bareRequest 1 })

/-- The request goes its way, and the thread comes back to its wait. -/
def wholeWay : List (Action (Fin 1)) := servesOne ++ [.thread]

omit [DecidableEq Client] in
theorem IrqPc.eq_idle {irq : IrqPc Client} (none : irq.work = 0) : irq = .idle := by
  cases irq <;> first | rfl | cases none

/-- What is left of the work, and what the thread finds in its wait. -/
def State.leftOnBoard (state : State (Fin 1)) : Nat × Bool × Bool × Bool × Bool :=
  (state.dspWork, (state.calls 0).isIdle, state.waitsForRequest, state.dx.requests.isEmpty,
    state.shouldStop)

theorem exists_wholeWay : ∃ final, (driver (Fin 1)).run (fun _ action => State.Ongoing action)
    submitting wholeWay = some final ∧ final.Settled := by
  obtain ⟨final, ran, seen⟩ := Option.map_eq_some_iff.mp
    (show ((driver (Fin 1)).run (fun _ action => State.Ongoing action) submitting wholeWay).map
        State.leftOnBoard = some (0, true, true, true, false) by decide +kernel)
  simp only [State.leftOnBoard, State.dspWork, Prod.mk.injEq] at seen
  obtain ⟨dsp, call, waits, empty, stop⟩ := seen
  have started : final.started = [] := List.eq_nil_of_length_eq_zero (by omega)
  have raised : final.raised = [] := List.eq_nil_of_length_eq_zero (by omega)
  have irq : final.irq = .idle := IrqPc.eq_idle (by omega)
  have idle := CallPc.eq_idle call
  refine ⟨final, ran, ⟨started, raised, irq, fun client => ?_, ?_⟩⟩
  · rw [Subsingleton.elim client 0]
    exact Or.inl idle
  · exact Or.inr ⟨waits, List.isEmpty_iff.mp empty, stop⟩

theorem driver_work_bounds_one :
    ∃ final, (driver (Fin 1)).run (fun _ action => State.Ongoing action) submitting wholeWay =
        some final ∧
      ((driver (Fin 1)).notes (Machine.doing State.Retests) submitting wholeWay).length +
        final.work {0} ≤ submitting.work {0} := by
  obtain ⟨final, ran, -⟩ := exists_wholeWay
  have begun : (driver (Fin 1)).run (fun _ _ => True) (State.initial boardDsp)
      [submitsOne] = some submitting := rfl
  have probed : (driver (Fin 1)).Reaches (fun _ _ => True) (State.initial boardDsp) :=
    .start ⟨boardDsp, rfl⟩
  have covered : State.Covered {0} submitting := by
    intro client outside
    rw [Subsingleton.elim client 0] at outside
    exact absurd (Finset.mem_singleton_self 0) outside
  exact ⟨final, ran, driver_work_bounds (probed.of_run _ begun) covered ran⟩

end DxDsp
