/-
This file measures the work that is left in the driver once no new call begins.
The steps of the callers, the thread, the DSP and the handler use it up, but for
the two that test in a loop: the status read of a busy DSP, and the thread's test
of an empty list. An entry in the list is worth its whole way from the head of
the list through the run, and a started request its completion and its interrupt.
-/

import DxDsp.WritePath
import Mathlib.Algebra.BigOperators.Group.Finset.Basic

namespace DxDsp

open Library

variable {Client : Type}

/-! ### Requests that the hardware can take -/

/-- The id names one of the sixteen slots of the mapped SRAM, and the message fits into
`msg_data`. -/
def Object.Fits (object : Object) : Prop :=
  object.reqId.toNat < 16 ∧ object.messageSize.toNat ≤ 116

instance (object : Object) : Decidable (Object.Fits object) :=
  inferInstanceAs (Decidable (_ ∧ _))

/-! ### The work that is left -/

/-- The steps of a run that are left, the completion of its request included. -/
def RunPc.work (request : Object) : RunPc → Nat
  | .wait => 19 + request.dataWords
  | .lock => 18 + request.dataWords
  | .setId => 17 + request.dataWords
  | .slot => 16 + request.dataWords
  | .data _ i => 15 + (request.dataWords - i)
  | .head _ i => if i < 2 then 14 - i else 1
  | .done => 0

/-- From the head of the list into the run, through it, and back to the loop. -/
def DxrtRequestList.work (entry : DxrtRequestList) : Nat := RunPc.wait.work entry.request + 7

def requestsWork (requests : List DxrtRequestList) : Nat :=
  (requests.map DxrtRequestList.work).sum

/-- The thread at the top of its loop. A thread that is to stop leaves the list as it is. -/
def loopWork (shouldStop : Bool) (requests : List DxrtRequestList) : Nat :=
  if shouldStop then 1 else requestsWork requests + 3

def ThreadPc.work (shouldStop : Bool) (requests : List DxrtRequestList) : ThreadPc → Nat
  | .loop => loopWork shouldStop requests
  | .wait => if shouldStop then 3 else requestsWork requests + 2
  | .waitStop =>
    if shouldStop then 2 else requestsWork requests + if requests = [] then 2 else 3
  | .woken => if shouldStop then 1 else requestsWork requests + 1
  | .head => requestsWork requests
  | .running entry pc => pc.work entry.request + loopWork shouldStop requests.tail + 3
  | .unlink _ => loopWork shouldStop requests.tail + 2
  | .free _ => loopWork shouldStop requests + 1
  | .exited | .headOfEmpty => 0

def OutputPc.work : OutputPc → Nat
  | .test => 4
  | .wait => 3
  | .clear => 2
  | .take => 1

def CallPc.work : CallPc → Nat
  | .idle => 0
  | .queue entry => entry.work + 3
  | .wake _ => 1
  | .input request pc => pc.work request + 1
  | .program rest => rest.length + 1
  | .output pc => pc.work

def IrqPc.work : IrqPc Client → Nat
  | .idle => 0
  | .status0 _ => 9
  | .status1 _ => 8
  | .load _ => 7
  | .store _ _ => 6
  | .clear0 _ => 5
  | .clear1 _ => 4
  | .status _ => 3
  | .event _ => 2
  | .wake _ => 1

/-- A step of a run uses up work, the start of its request included. -/
theorem RunPc.work_runNext {request : Object} {dsp : Dxdsp} {pc : RunPc} (unfinished : pc ≠ .done)
    (goes : ¬ (pc = .wait ∧ readDspStatus dsp.regDspBase = dspBusy)) (job : Job Client) :
    (runNext request dsp pc).work request + 11 * (State.startedBy job pc).length <
      pc.work request := by
  cases pc with
  | done => exact absurd rfl unfinished
  | wait =>
    have idle : readDspStatus dsp.regDspBase ≠ dspBusy := fun busy => goes ⟨rfl, busy⟩
    rw [runNext, if_neg idle]
    simp [work, State.startedBy]
  | lock | setId | slot => simp [runNext, work, State.startedBy]
  | data msgBufOffset4 i =>
    rw [runNext]
    split
    · simp only [work, State.startedBy, List.length_nil]
      omega
    · simp only [work, State.startedBy, List.length_nil, if_pos Nat.two_pos]
      omega
  | head msgBufOffset4 i =>
    rcases (by omega : i = 0 ∨ i = 1 ∨ ¬ i < 2) with rfl | rfl | behind
    · simp [runNext, work, State.startedBy]
    · simp [runNext, work, State.startedBy]
    · have second : i ≠ 1 := by omega
      simp [runNext, work, State.startedBy, behind, second]

theorem requestsWork_append (requests : List DxrtRequestList) (entry : DxrtRequestList) :
    requestsWork (requests ++ [entry]) = requestsWork requests + entry.work := by
  rw [requestsWork, List.map_append, List.sum_append, List.map_singleton, List.sum_singleton,
    requestsWork]

theorem loopWork_append_le (shouldStop : Bool) (requests : List DxrtRequestList)
    (entry : DxrtRequestList) :
    loopWork shouldStop (requests ++ [entry]) ≤ loopWork shouldStop requests + entry.work := by
  rw [loopWork, loopWork, requestsWork_append]
  split <;> omega

/-- An entry that is queued is work for the thread, if it is not to stop. -/
theorem ThreadPc.work_append_le (shouldStop : Bool) (requests : List DxrtRequestList)
    (entry : DxrtRequestList) (thread : ThreadPc) :
    thread.work shouldStop (requests ++ [entry]) ≤
      thread.work shouldStop requests + entry.work + 1 := by
  have loops := loopWork_append_le shouldStop requests entry
  have behind : loopWork shouldStop (requests ++ [entry]).tail ≤
      loopWork shouldStop requests.tail + entry.work := by
    cases requests with
    | nil => exact Nat.le_add_right _ _
    | cons first rest => exact loopWork_append_le shouldStop rest entry
  cases thread with
  | loop | running | unlink | free =>
    simp only [work]
    omega
  | wait | woken =>
    simp only [work, requestsWork_append]
    split <;> omega
  | head =>
    simp only [work, requestsWork_append]
    omega
  | waitStop =>
    simp only [work, requestsWork_append]
    split
    · omega
    · split <;> split <;> omega
  | exited | headOfEmpty => exact Nat.zero_le _

namespace State

/-- The requests that the DSP and the handler have in hand. -/
def dspWork (state : State Client) : Nat :=
  11 * state.started.length + 10 * state.raised.length + state.irq.work

def threadWork (state : State Client) : Nat :=
  state.thread.work state.shouldStop state.dx.requests

/-- The work left in a state in which these clients are the ones inside a call. -/
def work (clients : Finset Client) (state : State Client) : Nat :=
  state.dspWork + state.threadWork + ∑ client ∈ clients, (state.calls client).work

/-! ### Steps of interest -/

/-- The steps that go on with what has begun: no call begins, and no one asks the thread to stop. -/
def Ongoing : Action Client → Prop
  | .client _ _ | .run _ | .thread | .complete _ | .interrupt _ | .irq => True
  | _ => False

instance : DecidablePred (Ongoing : Action Client → Prop) := fun action =>
  match action with
  | .client .. | .run _ | .thread | .complete _ | .interrupt _ | .irq => isTrue trivial
  | .write .. | .writeInput .. | .program .. | .readOutput .. | .writeMem .. | .poll .. | .read ..
  | .stop => isFalse id

/-- The step keeps to what the model says of the hardware: it submits no request whose stores would
fault behind the mapped SRAM, copies nothing behind the DMA buffer, and begins no RESET or RECOVERY,
which takes a request from the DSP and has it restart without its firmware. -/
def Benign (state : State Client) : Action Client → Prop
  | .write _ _ _ (some request) | .writeInput _ (.holds request) => request.Fits
  | .program _ steps => steps ≠ dxrtResetDevice
  | .writeMem _ data _ => ∀ meminfo ∈ (transferCheck state.dx data).copied,
    meminfo.offset.toNat + meminfo.size.toNat ≤ state.dx.dsp.dmaBufSize.toNat
  | _ => True

instance (state : State Client) (action : Action Client) : Decidable (state.Benign action) :=
  match action with
  | .write _ _ _ (some request) | .writeInput _ (.holds request) =>
    inferInstanceAs (Decidable request.Fits)
  | .program _ steps => inferInstanceAs (Decidable (steps ≠ dxrtResetDevice))
  | .writeMem _ data _ =>
    inferInstanceAs (Decidable (∀ meminfo ∈ (transferCheck state.dx data).copied, _ ≤ _))
  | .write _ _ _ none | .writeInput _ .null | .writeInput _ .fault | .readOutput .. | .poll ..
  | .read .. | .client .. | .run _ | .thread | .stop | .complete _ | .interrupt _ | .irq =>
    isTrue trivial

/-- The thread is in the loop of its wait. -/
def waitsForRequest (state : State Client) : Bool :=
  match state.thread with
  | .wait | .waitStop => true
  | _ => false

/-- The step tests in a loop what it has tested before: a busy status, or an empty list. -/
def Retests (state : State Client) : Action Client → Prop
  | .run caller => (state.running caller).map Running.pc = some .wait ∧
      readDspStatus state.dx.dsp.regDspBase = dspBusy
  | .thread => state.waitsForRequest = true ∧ state.dx.requests = [] ∧ state.shouldStop = false
  | _ => False

instance (state : State Client) (action : Action Client) : Decidable (state.Retests action) :=
  match action with
  | .run _ => inferInstanceAs (Decidable (_ ∧ _))
  | .thread => inferInstanceAs (Decidable (_ ∧ _ ∧ _))
  | .client .. | .complete _ | .interrupt _ | .irq | .write .. | .writeInput .. | .program ..
  | .readOutput .. | .writeMem .. | .poll .. | .read .. | .stop => isFalse id

/-! ### A step of one caller -/

variable [DecidableEq Client]

/-- The work of the calls, where one of them moves. -/
theorem sum_work_update {clients : Finset Client} {client : Client} (member : client ∈ clients)
    (calls : Client → CallPc) (call : CallPc) :
    ∑ other ∈ clients, (Function.update calls client call other).work + (calls client).work =
      ∑ other ∈ clients, (calls other).work + call.work := by
  rw [← Finset.add_sum_erase clients _ member, ← Finset.add_sum_erase clients (fun other =>
    (calls other).work) member, Function.update_self]
  have others : ∑ other ∈ clients.erase client, (Function.update calls client call other).work =
      ∑ other ∈ clients.erase client, (calls other).work :=
    Finset.sum_congr rfl fun other other_mem => by
      rw [Function.update_of_ne (Finset.ne_of_mem_erase other_mem)]
  rw [others]
  omega

/-- The clients outside the finite set are in no call. -/
def Covered (clients : Finset Client) (state : State Client) : Prop :=
  ∀ client, client ∉ clients → state.calls client = .idle

omit [DecidableEq Client] in
theorem Covered.mem {clients : Finset Client} {state : State Client}
    (covered : Covered clients state) {client : Client} (busy : state.calls client ≠ .idle) :
    client ∈ clients := by
  by_contra outside
  exact busy (covered client outside)

/-- What is left to prove for a step that moves one call and nothing but that. -/
theorem work_setCall_lt {clients : Finset Client} {state next : State Client}
    (covered : Covered clients state) {client : Client} {before after : CallPc}
    (place : state.calls client = before) (busy : before ≠ .idle)
    (calls : next.calls = Function.update state.calls client after)
    (others : next.dspWork + next.threadWork + after.work <
      state.dspWork + state.threadWork + before.work) :
    next.work clients < state.work clients := by
  have sums := sum_work_update (covered.mem (by rw [place]; exact busy)) state.calls after
  rw [place] at sums
  rw [work, work, calls]
  omega

theorem work_outputStep {clients : Finset Client} {state next : State Client}
    (covered : Covered clients state) {client : Client} {disturbed : Bool} {pc : OutputPc}
    (place : state.calls client = .output pc)
    (moved : state.outputStep client disturbed pc = some next) :
    next.work clients < state.work clients := by
  have inside : CallPc.output pc ≠ .idle := by simp
  cases pc with
  | test =>
    cases moved
    refine work_setCall_lt covered place inside rfl ?_
    refine Nat.add_lt_add_left ?_ _
    split <;> decide
  | wait =>
    rw [outputStep] at moved
    split at moved
    · cases moved
      exact work_setCall_lt covered place inside rfl (Nat.lt_succ_self _)
    · split at moved
      · cases moved
        exact work_setCall_lt covered place inside rfl (Nat.lt_succ_self _)
      · cases moved
  | clear =>
    cases moved
    exact work_setCall_lt covered place inside rfl (Nat.lt_succ_self _)
  | take =>
    rw [outputStep] at moved
    split at moved
    · cases moved
    · split at moved
      · cases moved
        exact work_setCall_lt covered place inside rfl (Nat.lt_succ_self _)
      · split at moved <;> cases moved <;>
          exact work_setCall_lt covered place inside rfl (Nat.lt_succ_self _)

theorem work_clientStep {clients : Finset Client} {state next : State Client}
    (covered : Covered clients state) {client : Client} {disturbed : Bool}
    (moved : state.clientStep client disturbed (state.calls client) = some next) :
    next.work clients < state.work clients := by
  cases place : state.calls client with
  | idle =>
    rw [place] at moved
    cases moved
  | queue entry =>
    rw [place] at moved
    cases moved
    refine work_setCall_lt covered place (by simp) rfl ?_
    have grows := state.thread.work_append_le state.shouldStop state.dx.requests entry
    show state.dspWork + state.thread.work state.shouldStop (state.dx.requests ++ [entry]) + 1 <
      state.dspWork + state.thread.work state.shouldStop state.dx.requests + (entry.work + 3)
    omega
  | wake reqId =>
    rw [place] at moved
    cases moved
    exact work_setCall_lt covered place (by simp) rfl (Nat.lt_succ_self _)
  | input request pc =>
    rw [place] at moved
    cases pc with
    | done =>
      cases moved
      exact work_setCall_lt covered place (by simp) rfl (Nat.lt_succ_self _)
    | _ => cases moved
  | program steps =>
    rw [place] at moved
    cases steps with
    | nil =>
      cases moved
      exact work_setCall_lt covered place (by simp) rfl (Nat.lt_succ_self _)
    | cons effect rest =>
      rw [clientStep] at moved
      split at moved <;> cases moved
      refine work_setCall_lt covered place (by simp) rfl ?_
      show state.dspWork + state.thread.work state.shouldStop (effect.apply state.dx).requests +
        (rest.length + 1) < _
      rw [effect.apply_requests]
      exact Nat.lt_succ_self _
  | output pc =>
    rw [place] at moved
    exact work_outputStep covered place moved

/-! ### A step of a run -/

omit [DecidableEq Client] in
/-- A run of a client is its call of WRITE_INPUT. -/
theorem running_input {state : State Client} {client : Client} {request : Object} {pc : RunPc}
    (inside : state.running (.input client) = some { request, pc }) :
    state.calls client = .input request pc := by
  rw [running] at inside
  cases place : state.calls client with
  | input own stands =>
    rw [place] at inside
    cases inside
    rfl
  | _ =>
    rw [place] at inside
    cases inside

theorem work_afterRun {clients : Finset Client} {state : State Client}
    (covered : Covered clients state) {caller : Caller Client} {request : Object} {pc : RunPc}
    (inside : state.running caller = some { request, pc }) (unfinished : pc ≠ .done)
    (goes : ¬ (pc = .wait ∧ readDspStatus state.dx.dsp.regDspBase = dspBusy)) :
    (state.afterRun caller request pc).work clients < state.work clients := by
  have less : (runNext request state.dx.dsp pc).work request +
      11 * (startedBy ({ caller, reqId := request.reqId } : Job Client) pc).length <
        pc.work request := RunPc.work_runNext unfinished goes _
  have dsp : (state.afterRun caller request pc).dspWork = state.dspWork +
      11 * (startedBy ({ caller, reqId := request.reqId } : Job Client) pc).length := by
    show 11 * (state.started ++ _).length + 10 * state.raised.length + state.irq.work = _
    rw [List.length_append, dspWork]
    omega
  cases caller with
  | thread =>
    obtain ⟨entry, place, rfl⟩ := running_thread inside
    have before : state.threadWork =
        pc.work entry.request + loopWork state.shouldStop state.dx.requests.tail + 3 := by
      rw [threadWork, place]
      rfl
    have after : (state.afterRun .thread entry.request pc).threadWork =
        (runNext entry.request state.dx.dsp pc).work entry.request +
          loopWork state.shouldStop state.dx.requests.tail + 3 := by
      rw [threadWork, thread_afterRun place]
      rfl
    rw [work, work, dsp, before, after]
    show _ + ∑ client ∈ clients, (state.calls client).work < _
    omega
  | input client =>
    have place := running_input inside
    have calls : (state.afterRun (.input client) request pc).calls =
        Function.update state.calls client (.input request (runNext request state.dx.dsp pc)) := by
      show Function.update state.calls client ((state.calls client).moveRun _) = _
      rw [place]
      rfl
    have thread : (state.afterRun (.input client) request pc).threadWork = state.threadWork := rfl
    refine work_setCall_lt covered place (by simp) calls ?_
    rw [dsp, thread]
    simp only [CallPc.work]
    omega

/-! ### A step of the thread -/

omit [DecidableEq Client] in
theorem work_threadStep {clients : Finset Client} {state next : State Client}
    (holds : ThreadHolds state) (moved : state.threadStep state.thread = some next)
    (goes : ¬ state.Retests .thread) : next.work clients < state.work clients := by
  have calls : next.calls = state.calls := by
    obtain ⟨thread, requests, rfl⟩ := threadStep_eq_some moved
    rfl
  have dsp : next.dspWork = state.dspWork := by
    obtain ⟨thread, requests, rfl⟩ := threadStep_eq_some moved
    rfl
  suffices less : next.threadWork < state.threadWork by
    rw [work, work, dsp, calls]
    omega
  rw [ThreadHolds] at holds
  rw [Retests, waitsForRequest] at goes
  cases place : state.thread with
  | loop =>
    rw [place] at moved
    cases moved
    rw [threadWork, threadWork, place]
    cases stop : state.shouldStop <;> simp [ThreadPc.work, loopWork]
  | wait =>
    rw [place] at moved goes
    cases moved
    rw [threadWork, threadWork, place]
    cases stop : state.shouldStop with
    | true => split <;> simp [ThreadPc.work]
    | false =>
      have filled : state.dx.requests ≠ [] := fun empty => goes ⟨rfl, empty, stop⟩
      rw [if_neg filled]
      simp [ThreadPc.work]
  | waitStop =>
    rw [place] at moved goes
    cases moved
    rw [threadWork, threadWork, place]
    cases stop : state.shouldStop with
    | true => simp [ThreadPc.work]
    | false =>
      have filled : state.dx.requests ≠ [] := fun empty => goes ⟨rfl, empty, stop⟩
      simp [ThreadPc.work, filled]
  | woken =>
    rw [place] at moved
    cases moved
    rw [threadWork, threadWork, place]
    cases stop : state.shouldStop <;> simp [ThreadPc.work]
  | head =>
    rw [place] at moved holds
    rw [threadStep] at moved
    split at moved
    · next empty => exact absurd empty holds
    · next entry rest list =>
      cases moved
      rw [threadWork, threadWork, place]
      show RunPc.wait.work entry.request + loopWork state.shouldStop state.dx.requests.tail + 3 <
        requestsWork state.dx.requests
      have behind : loopWork state.shouldStop rest ≤ requestsWork rest + 3 := by
        rw [loopWork]
        split <;> omega
      have whole : requestsWork (entry :: rest) = entry.work + requestsWork rest := List.sum_cons
      rw [list, List.tail_cons, whole, DxrtRequestList.work]
      omega
  | running entry pc =>
    rw [place] at moved
    cases pc with
    | done =>
      cases moved
      rw [threadWork, threadWork, place]
      simp [ThreadPc.work, RunPc.work]
    | _ => cases moved
  | unlink entry =>
    rw [place] at moved holds
    cases moved
    rw [threadWork, threadWork, place]
    -- The entry that was run is still the head, so the list behind it is left.
    obtain ⟨rest, list⟩ := List.head?_eq_some_iff.mp holds
    have removed : state.dx.requests.eraseP (fun other => other.node = entry.node) = rest := by
      rw [list]
      exact List.eraseP_cons_of_pos (decide_eq_true rfl)
    show loopWork state.shouldStop (state.dx.requests.eraseP _) + 1 <
      loopWork state.shouldStop state.dx.requests.tail + 2
    rw [removed, list, List.tail_cons]
    exact Nat.lt_succ_self _
  | free entry =>
    rw [place] at moved
    cases moved
    rw [threadWork, threadWork, place]
    exact Nat.lt_succ_self _
  | exited | headOfEmpty =>
    rw [place] at moved
    cases moved

/-! ### A step of the DSP and of the handler -/

omit [DecidableEq Client] in
theorem work_lt_of_dspWork {clients : Finset Client} {state next : State Client}
    (thread : next.threadWork = state.threadWork) (calls : next.calls = state.calls)
    (less : next.dspWork < state.dspWork) : next.work clients < state.work clients := by
  rw [work, work, thread, calls]
  omega

omit [DecidableEq Client] in
theorem dspWork_irqStep {state next : State Client} (moved : state.irqStep state.irq = some next) :
    next.threadWork = state.threadWork ∧ next.calls = state.calls ∧
      next.dspWork < state.dspWork := by
  rw [dspWork, dspWork]
  cases place : state.irq with
  | idle =>
    rw [place] at moved
    cases moved
  | _ =>
    rw [place] at moved
    cases moved
    exact ⟨rfl, rfl, Nat.lt_succ_self _⟩

theorem dspWork_complete {state next : State Client} {job : Job Client}
    (moved : state.step (.complete job) = some next) :
    next.threadWork = state.threadWork ∧ next.calls = state.calls ∧
      next.dspWork < state.dspWork := by
  obtain ⟨member, rfl⟩ := complete_eq_some moved
  refine ⟨rfl, rfl, ?_⟩
  have some := List.length_pos_of_mem member
  show 11 * (state.started.erase job).length + 10 * (state.raised ++ [job]).length +
    state.irq.work < 11 * state.started.length + 10 * state.raised.length + state.irq.work
  rw [List.length_erase_of_mem member, List.length_append, List.length_singleton]
  omega

theorem dspWork_interrupt {state next : State Client} {job : Job Client}
    (moved : state.step (.interrupt job) = some next) :
    next.threadWork = state.threadWork ∧ next.calls = state.calls ∧
      next.dspWork < state.dspWork := by
  obtain ⟨idle, member, rfl⟩ := interrupt_eq_some moved
  refine ⟨rfl, rfl, ?_⟩
  have some := List.length_pos_of_mem member
  show 11 * state.started.length + 10 * (state.raised.erase job).length + 9 <
    11 * state.started.length + 10 * state.raised.length + state.irq.work
  rw [List.length_erase_of_mem member]
  omega

/-- Every ongoing step gets something done, but for the two that test again. -/
theorem work_step {clients : Finset Client} {state next : State Client} {action : Action Client}
    (covered : Covered clients state) (holds : ThreadHolds state) (ongoing : Ongoing action)
    (goes : ¬ state.Retests action) (moved : state.step action = some next) :
    next.work clients < state.work clients := by
  cases action with
  | client client disturbed => exact work_clientStep covered moved
  | run caller =>
    obtain ⟨request, pc, inside, unfinished, rfl⟩ := runStep_eq_some moved
    refine work_afterRun covered inside unfinished fun waits => goes ?_
    rw [Retests, inside, Option.map_some]
    exact ⟨congrArg some waits.1, waits.2⟩
  | thread => exact work_threadStep holds moved goes
  | complete job =>
    obtain ⟨thread, calls, less⟩ := dspWork_complete moved
    exact work_lt_of_dspWork thread calls less
  | interrupt job =>
    obtain ⟨thread, calls, less⟩ := dspWork_interrupt moved
    exact work_lt_of_dspWork thread calls less
  | irq =>
    obtain ⟨thread, calls, less⟩ := dspWork_irqStep moved
    exact work_lt_of_dspWork thread calls less
  | _ => cases ongoing

end State

end DxDsp
