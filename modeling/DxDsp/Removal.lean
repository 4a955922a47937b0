/-
This file puts the removal of the device beside the driver at work. The removal
stops the request thread, releases the interrupt, and only then frees what these
two use; against clients whose handles are still open it does nothing. `cdev_del`
keeps new clients out, but a client inside, or one that calls again, finds the
buffer freed, the registers unmapped, and in the end `dsp` and `dxdev` freed.
-/

import DxDsp.Overlap
import DxDsp.Library.Timeline

namespace DxDsp

open Library

variable {Client : Type} [DecidableEq Client]

/-! ### The thread that has returned and the handler that is not running -/

namespace State

/-- A step of a client leaves the thread and the handler where they are. -/
theorem step_parties {state next : State Client} {action : Action Client}
    (ofClient : action.ofClient = true) (moved : state.step action = some next) :
    next.thread = state.thread ∧ next.irq = state.irq := by
  obtain ⟨dx, calls, started, responsesHeld, log, -, rfl⟩ := step_ofClient_eq_some ofClient moved
  exact ⟨rfl, rfl⟩

omit [DecidableEq Client] in
theorem irqStep_thread {state next : State Client} {pc : IrqPc Client}
    (moved : state.irqStep pc = some next) : next.thread = state.thread := by
  cases pc with
  | idle => cases moved
  | _ =>
    cases moved
    rfl

/-- The thread does not come back. -/
theorem step_exited {state next : State Client} {action : Action Client}
    (exited : state.thread = .exited) (moved : state.step action = some next) :
    next.thread = .exited := by
  by_cases ofClient : action.ofClient = true
  · exact (step_parties ofClient moved).1.trans exited
  · cases action with
    | run caller =>
      cases caller with
      | thread =>
        obtain ⟨request, pc, inside, -, -⟩ := runStep_eq_some moved
        rw [running, exited] at inside
        cases inside
      | input client => exact absurd rfl ofClient
    | thread =>
      rw [step, exited] at moved
      cases moved
    | stop =>
      cases moved
      exact exited
    | complete job =>
      obtain ⟨-, rfl⟩ := complete_eq_some moved
      exact exited
    | interrupt job =>
      obtain ⟨-, -, rfl⟩ := interrupt_eq_some moved
      exact exited
    | irq => exact (irqStep_thread moved).trans exited
    | _ => exact absurd rfl ofClient

/-- Only an interrupt starts the handler. -/
theorem step_idle {state next : State Client} {action : Action Client} (idle : state.irq = .idle)
    (other : ∀ job, action ≠ .interrupt job) (moved : state.step action = some next) :
    next.irq = .idle := by
  by_cases ofClient : action.ofClient = true
  · exact (step_parties ofClient moved).2.trans idle
  · cases action with
    | run caller =>
      obtain ⟨request, pc, -, -, rfl⟩ := runStep_eq_some moved
      exact idle
    | thread =>
      obtain ⟨thread, requests, rfl⟩ := threadStep_eq_some moved
      exact idle
    | stop =>
      cases moved
      exact idle
    | complete job =>
      obtain ⟨-, rfl⟩ := complete_eq_some moved
      exact idle
    | interrupt job => exact absurd rfl (other job)
    | irq =>
      rw [step, idle] at moved
      cases moved
    | _ => exact absurd rfl ofClient

end State

namespace Files

/-- A client that enters an operation takes a step of the driver or none. -/
theorem enterHandler_driver {files next : Files Client} {client : Client} {msg : DxrtMessage}
    {handler : Handler} (moved : files.enterHandler client msg handler = some next) :
    next.driver = files.driver ∨
      ∃ action, action.ofClient = true ∧ files.driver.step action = some next.driver := by
  cases handler with
  | dxrtIdentifyDevice | dxrtWriteMem | dxrtWriteInput | dxrtReadOutput | dxrtTerminate
  | dxrtResetDevice | dxrtRecoveryDevice => exact .inr ⟨_, rfl, act_eq_some moved⟩
  | _ =>
    cases moved
    exact .inl rfl

theorem enter_driver {files next : Files Client} {client : Client} {op : FileOp}
    (moved : files.step (.enter client op) = some next) :
    next.driver = files.driver ∨
      ∃ action, action.ofClient = true ∧ files.driver.step action = some next.driver := by
  rw [step] at moved
  split at moved
  · cases op with
    | devOpen | devWrite => exact .inr ⟨_, rfl, act_eq_some moved⟩
    | devRelease | devMmap =>
      cases moved
      exact .inl rfl
    | devIoctl cmd arg =>
      rw [enter] at moved
      cases entry : dxrtDevIoctl cmd arg with
      | returns | oops =>
        rw [entry] at moved
        cases moved
        exact .inl rfl
      | handler handler msg =>
        rw [entry] at moved
        exact enterHandler_driver moved
  · cases moved

/-- So it leaves the thread and the handler where they are. -/
theorem enter_parties {files next : Files Client} {client : Client} {op : FileOp}
    (moved : files.step (.enter client op) = some next) :
    next.driver.thread = files.driver.thread ∧ next.driver.irq = files.driver.irq := by
  rcases enter_driver moved with same | ⟨action, ofClient, stepped⟩
  · rw [same]
    exact ⟨rfl, rfl⟩
  · exact State.step_parties ofClient stepped

end Files

namespace Removal

/-! ### The removal as a list of steps -/

/-- A statement of `dxrt_dsp_driver_cdev_deinit`, `remove_dxrt_device`, `dxrt_dsp_deinit` and
`dx_v3_dsp_deinit`. `kthread_stop` is its request and its return. -/
inductive RemovalStep
  | kthreadStop
  | kthreadStopped
  | dmaFreeCoherent
  | disableIrq
  | synchronizeIrq
  | freeIrq
  | iounmap (i : Fin 6)
  | bufInit
  | kfreeDsp
  | deviceDestroy
  | cdevDel
  | kfreeDxdev
  | classDestroy
  | unregisterChrdevRegion
deriving DecidableEq, Repr

/-- `dx_v3_dsp_deinit`. -/
def dxV3DspDeinit : List RemovalStep :=
  [.dmaFreeCoherent, .disableIrq, .synchronizeIrq, .freeIrq, .iounmap 0, .iounmap 1, .iounmap 2,
    .iounmap 3, .iounmap 4, .iounmap 5, .bufInit]

/-- `remove_dxrt_device`, with `dxrt_dsp_deinit` in it. -/
def removeDxrtDevice : List RemovalStep :=
  dxV3DspDeinit ++ [.kfreeDsp, .deviceDestroy, .cdevDel, .kfreeDxdev]

/-- `dxrt_dsp_driver_cdev_deinit`, for the one device there is. -/
def dxrtDspDriverCdevDeinit : List RemovalStep :=
  [.kthreadStop, .kthreadStopped] ++ removeDxrtDevice ++ [.classDestroy, .unregisterChrdevRegion]

/-! ### What is freed -/

/-- What the removal frees or unmaps. -/
inductive Part
  | dxdev
  | dsp
  | dmaBuf
  | mapping (i : Fin 6)
deriving DecidableEq, Repr

def frees : RemovalStep → Option Part
  | .dmaFreeCoherent => some .dmaBuf
  | .iounmap i => some (.mapping i)
  | .kfreeDsp => some .dsp
  | .kfreeDxdev => some .dxdev
  | _ => none

def endOf : Part → RemovalStep
  | .dmaBuf => .dmaFreeCoherent
  | .mapping i => .iounmap i
  | .dsp => .kfreeDsp
  | .dxdev => .kfreeDxdev

theorem frees_eq_some_iff (step : RemovalStep) (part : Part) :
    frees step = some part ↔ step = endOf part := by
  constructor
  · intro same
    cases step with
    | dmaFreeCoherent | iounmap | kfreeDsp | kfreeDxdev =>
      cases same
      rfl
    | _ => cases same
  · rintro rfl
    cases part <;> rfl

/-- The part is freed when the removal has taken so many of its steps. -/
def Freed (passed : Nat) (part : Part) : Prop :=
  Dealt frees dxrtDspDriverCdevDeinit passed part

theorem freed_iff {passed : Nat} {part : Part} :
    Freed passed part ↔ Taken dxrtDspDriverCdevDeinit passed (endOf part) :=
  dealt_iff_taken frees_eq_some_iff

instance (passed : Nat) (part : Part) : Decidable (Freed passed part) :=
  decidable_of_iff _ freed_iff.symm

theorem idxOf_kthreadStopped_le (part : Part) :
    dxrtDspDriverCdevDeinit.idxOf .kthreadStopped ≤ dxrtDspDriverCdevDeinit.idxOf (endOf part) := by
  cases part with
  | mapping i =>
    revert i
    decide
  | _ => decide

theorem idxOf_freeIrq_le {part : Part} (other : part ≠ .dmaBuf) :
    dxrtDspDriverCdevDeinit.idxOf .freeIrq ≤ dxrtDspDriverCdevDeinit.idxOf (endOf part) := by
  cases part with
  | mapping i =>
    clear other
    revert i
    decide
  | dmaBuf => exact absurd rfl other
  | _ => decide

/-- Nothing is freed before `kthread_stop` has returned. -/
theorem Freed.stopped {passed : Nat} {part : Part} (freed : Freed passed part) :
    Taken dxrtDspDriverCdevDeinit passed .kthreadStopped :=
  (freed_iff.mp freed).earlier (idxOf_kthreadStopped_le part)

/-- Nothing but the buffer is freed before `free_irq` has returned. -/
theorem Freed.irqFreed {passed : Nat} {part : Part} (freed : Freed passed part)
    (other : part ≠ .dmaBuf) : Taken dxrtDspDriverCdevDeinit passed .freeIrq :=
  (freed_iff.mp freed).earlier (idxOf_freeIrq_le other)

/-! ### What a step uses -/

/-- An access of `dx_v3_dsp_run`; `req` is no part of the device. -/
def accessUse : Access → Option Part
  | .readStatus | .writeStatus _ => some (.mapping 0)
  | .storeReqId _ | .loadReqId => some .dsp
  | .writeSram _ _ => some (.mapping 4)
  | .readObject _ => none

def runUses : Option Running → List Part
  | none => []
  | some { request, pc } => (runAccesses request pc).filterMap accessUse

/-- The last field that IDENTIFY_DEVICE sets stands for what follows it as well: the reply is filled
from `dsp`, and `dsp->prepare_inference` is called. -/
def microUses : Micro → List Part
  | .responseReqId | .response | .responses | .memSize | .error _ => [.dxdev]
  | .irqEvent _ | .memAddr | .numDmaCh => [.dxdev, .dsp]
  | .reset _ => [.mapping 2]

/-- The next step of a call in progress, outside `dx_v3_dsp_run`. -/
def callUses : CallPc → List Part
  | .queue _ | .wake _ | .output .test | .output .take => [.dxdev]
  | .output .wait | .output .clear => [.dsp]
  | .program (effect :: _) => microUses effect
  | .program [] | .input _ _ | .idle => []

/-- A transfer goes to the buffer if it passes the checks. -/
def transferUses (reply : TransferReply) : List Part :=
  match reply.copied with
  | none => [.dxdev]
  | some _ => [.dxdev, .dsp, .dmaBuf]

/-- What a handler uses in its first step, which for most is all of it. -/
def handlerUses (dx : Dxdev) (msg : DxrtMessage) : Handler → List Part
  | .dxrtWriteMem | .dxrtReadMem => transferUses (transferCheck dx msg.data.reqMeminfo)
  | .dxrtWriteInput =>
    match msg.data.request with
    | .null | .fault => [.dxdev]
    | .holds _ => [.dxdev, .dsp]
  | .dxrtResetDevice | .dxrtRecoveryDevice => [.dxdev, .dsp]
  | .dxrtAllocBuf => if msg.data.target = .null then [.dxdev] else [.dxdev, .dsp]
  | .dxrtFreeBuf =>
    match msg.data.bufferMetadata with
    | .null | .fault => [.dxdev]
    | .holds _ => [.dxdev, .dsp]
  | .dxrtSchedule => []
  | .dxrtIdentifyDevice | .dxrtCpuCacheFlush | .dxrtReadOutput | .dxrtTerminate | .dxrtSocCustom
  | .dxrtMsgGeneral | .dxrtGetLog | .dxrtHandleDrvInfo | .dxrtDspRunRequest
  | .dxrtDspRunResponse => [.dxdev]

def entryUses (dx : Dxdev) : Entry → List Part
  | .returns _ | .oops => []
  | .handler handler msg => handlerUses dx msg handler

/-- The first step of a file operation. `dxrt_dev_release` uses nothing. -/
def opUses (dx : Dxdev) : FileOp → List Part
  | .devOpen | .devWrite _ _ _ => [.dxdev]
  | .devRelease => []
  | .devMmap vmPgoff => if vmPgoff = 2 then [.dxdev, .dsp, .dmaBuf] else [.dxdev, .dsp]
  | .devIoctl cmd arg => entryUses dx (dxrtDevIoctl cmd arg)

def threadUses : ThreadPc → List Part
  | .loop | .wait | .waitStop | .woken | .unlink _ => [.dxdev]
  | .head => [.dxdev, .dsp]
  | .running _ _ | .free _ | .exited | .headOfEmpty => []

def irqUses : IrqPc Client → List Part
  | .status0 _ | .status1 _ | .clear0 _ | .clear1 _ => [.mapping 3]
  | .status _ => [.mapping 0]
  | .store _ _ => [.dxdev]
  | .load _ | .event _ | .wake _ => [.dsp]
  | .idle => []

/-! ### The machine -/

/-- `opened` are the clients that hold an open handle, and `due` is what a client that has begun an
operation is still to use of its first step. -/
structure State (Client : Type) where
  files : Files Client
  opened : Client → Bool
  due : Client → List Part
  passed : Nat

/-- `touch` is a use of a client's first step, after which the use goes on or is over; `inside` and
`runInput` are the later steps of its call, `runThread` those of the thread in `dx_v3_dsp_run`. -/
inductive Action (Client : Type)
  | remove
  | enter (client : Client) (op : FileOp)
  | poll (client : Client)
  | read (client : Client) (len : Nat) (fault : Bool)
  | touch (client : Client) (goesOn : Bool)
  | inside (client : Client) (disturbed : Bool)
  | runInput (client : Client)
  | thread
  | runThread
  | complete (job : Job Client)
  | interrupt (job : Job Client)
  | irq

/-- The step belongs to a file operation. -/
def Action.ofFile : Action Client → Bool
  | .enter _ _ | .poll _ | .read _ _ _ | .touch _ _ | .inside _ _ | .runInput _ => true
  | .remove | .thread | .runThread | .complete _ | .interrupt _ | .irq => false

/-- The removal waits for the thread to return and for the handler to have returned. -/
def ready (driver : DxDsp.State Client) : RemovalStep → Bool
  | .kthreadStopped =>
    match driver.thread with
    | .exited => true
    | _ => false
  | .synchronizeIrq | .freeIrq =>
    match driver.irq with
    | .idle => true
    | _ => false
  | _ => true

def effect (files : Files Client) : RemovalStep → Files Client
  | .kthreadStop => { files with driver := { files.driver with shouldStop := true } }
  | .bufInit => { files with pool := dxV3DspBufInit }
  | _ => files

/-- Whether the client holds a handle after it has entered an operation. -/
def keepsOpen : FileOp → Bool
  | .devRelease => false
  | _ => true

namespace State

/-- The device and the driver at any moment, when its removal begins. -/
def beforeRemoval (files : Files Client) (opened : Client → Bool) (due : Client → List Part) :
    State Client where
  files := files
  opened := opened
  due := due
  passed := 0

def takeStep (state : State Client) (step : RemovalStep) : Option (State Client) :=
  if ready state.files.driver step then
    some { state with files := effect state.files step, passed := state.passed + 1 }
  else none

/-- `open` works until `cdev_del`, every other operation on an open handle. -/
def mayEnter (state : State Client) (client : Client) : FileOp → Bool
  | .devOpen => ¬ Taken dxrtDspDriverCdevDeinit state.passed .cdevDel
  | _ => state.opened client

/-- A step of the driver. -/
def act (state : State Client) (action : DxDsp.Action Client) : Option (State Client) :=
  (state.files.act action).map fun files => { state with files }

/-- A client begins an operation. Its step takes effect at once and its uses follow one by one. -/
def begin (state : State Client) (client : Client) (parts : List Part)
    (files : Option (Files Client)) : Option (State Client) :=
  if state.due client = [] then
    files.map fun files =>
      { state with files, due := Function.update state.due client parts }
  else none

def touch (state : State Client) (client : Client) (goesOn : Bool) : Option (State Client) :=
  match state.due client with
  | [] => none
  | part :: rest =>
    some { state with
      due := Function.update state.due client (if goesOn then part :: rest else rest) }

/-- A later step of a call. -/
def goOn (state : State Client) (client : Client) (action : DxDsp.Action Client) :
    Option (State Client) :=
  if state.due client = [] then state.act action else none

/-- An interrupt may be taken until `free_irq`. -/
def step (state : State Client) : Action Client → Option (State Client)
  | .remove => dxrtDspDriverCdevDeinit[state.passed]?.bind state.takeStep
  | .enter client op =>
    if state.mayEnter client op then
      begin { state with opened := Function.update state.opened client (keepsOpen op) } client
        (opUses state.files.driver.dx op) (state.files.step (.enter client op))
    else none
  | .poll client =>
    if state.opened client then
      state.begin client [.dxdev, .dsp] (state.files.act (.poll client))
    else none
  | .read client len fault =>
    if state.opened client then
      state.begin client [.dxdev] (state.files.act (.read client len fault))
    else none
  | .touch client goesOn => state.touch client goesOn
  | .inside client disturbed => state.goOn client (.client client disturbed)
  | .runInput client => state.goOn client (.run (.input client))
  | .thread => state.act .thread
  | .runThread => state.act (.run .thread)
  | .complete job => state.act (.complete job)
  | .interrupt job =>
    if Taken dxrtDspDriverCdevDeinit state.passed .freeIrq then none
    else state.act (.interrupt job)
  | .irq => state.act .irq

/-- What the next step of a kind uses. -/
def uses (state : State Client) : Action Client → List Part
  | .touch client _ => (state.due client).head?.toList
  | .inside client _ => callUses (state.files.driver.calls client)
  | .runInput client => runUses (state.files.driver.running (.input client))
  | .thread => threadUses state.files.driver.thread
  | .runThread => runUses (state.files.driver.running .thread)
  | .interrupt _ => [.dsp]
  | .irq => irqUses state.files.driver.irq
  | .remove | .enter _ _ | .poll _ | .read _ _ _ | .complete _ => []

/-- The step uses nothing that the removal has freed or unmapped. -/
def Live (state : State Client) (action : Action Client) : Prop :=
  ∀ part ∈ state.uses action, ¬ Freed state.passed part

end State

/-- The driver and its removal. -/
def removing (Client : Type) [DecidableEq Client] : Machine (State Client) (Action Client) where
  start state := state.passed = 0
  step := State.step

/-! ### When it is early enough for a step -/

/-- The statement in front of which a run inside WRITE_INPUT takes its next step. -/
def runReady (request : Object) : RunPc → Option RemovalStep
  | .wait | .lock => some (.iounmap 0)
  | .setId | .slot => some .kfreeDsp
  | .data _ i => if i < request.dataWords then some (.iounmap 4) else none
  | .head _ i => if i < 2 then some (.iounmap 4) else none
  | .done => none

def microReady : Micro → RemovalStep
  | .responseReqId | .response | .responses | .memSize | .error _ => .kfreeDxdev
  | .irqEvent _ | .memAddr | .numDmaCh => .kfreeDsp
  | .reset _ => .iounmap 2

/-- The statement in front of which a call takes its next step, outside `dx_v3_dsp_run`. -/
def callReady : CallPc → Option RemovalStep
  | .queue _ | .wake _ | .output .test | .output .take => some .kfreeDxdev
  | .output .wait | .output .clear => some .kfreeDsp
  | .program (effect :: _) => some (microReady effect)
  | .program [] | .input _ _ | .idle => none

/-- The removal has not come to the statement. -/
def InFront (passed : Nat) (last : Option RemovalStep) : Prop :=
  ∀ step, last = some step → ¬ Taken dxrtDspDriverCdevDeinit passed step

theorem inFront_some {passed : Nat} {step : RemovalStep} :
    InFront passed (some step) ↔ ¬ Taken dxrtDspDriverCdevDeinit passed step :=
  ⟨fun early => early step rfl, fun early _ same => Option.some.inj same ▸ early⟩

/-- Several parts are there in front of the statement that frees the first of them. -/
theorem notFreed_iff {passed : Nat} (parts : List Part) (first : RemovalStep)
    (listed : first ∈ parts.map endOf)
    (order : ∀ step ∈ parts.map endOf,
      dxrtDspDriverCdevDeinit.idxOf first ≤ dxrtDspDriverCdevDeinit.idxOf step) :
    (∀ part ∈ parts, ¬ Freed passed part) ↔ InFront passed (some first) := by
  rw [inFront_some, ← forall_not_taken_iff listed order, List.forall_mem_map]
  simp only [freed_iff]

theorem notFreed_single_iff (passed : Nat) (part : Part) :
    (∀ own ∈ [part], ¬ Freed passed own) ↔ InFront passed (some (endOf part)) :=
  notFreed_iff [part] (endOf part) (List.mem_singleton_self _) fun _ listed =>
    List.mem_singleton.mp listed ▸ le_rfl

theorem notFreed_nil_iff (passed : Nat) :
    (∀ own ∈ [], ¬ Freed passed own) ↔ InFront passed none :=
  iff_of_true (fun _ member => absurd member List.not_mem_nil) fun _ same => by cases same

theorem runReady_iff (passed : Nat) (request : Object) (pc : RunPc) :
    (∀ part ∈ runUses (some { request, pc }), ¬ Freed passed part) ↔
      InFront passed (runReady request pc) := by
  cases pc with
  | wait | lock => exact notFreed_single_iff passed (.mapping 0)
  | setId | slot => exact notFreed_single_iff passed .dsp
  | data msgBufOffset4 i =>
    rw [runUses, runAccesses, runReady]
    split
    · exact notFreed_single_iff passed (.mapping 4)
    · exact notFreed_nil_iff passed
  | head msgBufOffset4 i =>
    rw [runUses, runAccesses, runReady]
    split
    · exact notFreed_single_iff passed (.mapping 4)
    · exact notFreed_nil_iff passed
  | done => exact notFreed_nil_iff passed

theorem microReady_iff (passed : Nat) (effect : Micro) :
    (∀ part ∈ microUses effect, ¬ Freed passed part) ↔
      InFront passed (some (microReady effect)) := by
  cases effect with
  | responseReqId | response | responses | memSize | error =>
    exact notFreed_single_iff passed .dxdev
  | irqEvent | memAddr | numDmaCh =>
    exact notFreed_iff [.dxdev, .dsp] .kfreeDsp (by decide) (by decide)
  | reset => exact notFreed_single_iff passed (.mapping 2)

theorem callReady_iff (passed : Nat) (call : CallPc) :
    (∀ part ∈ callUses call, ¬ Freed passed part) ↔ InFront passed (callReady call) := by
  cases call with
  | queue | wake => exact notFreed_single_iff passed .dxdev
  | output pc =>
    cases pc with
    | test | take => exact notFreed_single_iff passed .dxdev
    | wait | clear => exact notFreed_single_iff passed .dsp
  | program steps =>
    cases steps with
    | nil => exact notFreed_nil_iff passed
    | cons effect rest => exact microReady_iff passed effect
  | input | idle => exact notFreed_nil_iff passed

namespace State

/-- Each use of a first step comes in front of the statement that frees its part, and each later
step of a call in front of the statement of its program point. Nothing is asked of the thread, the
handler and the DSP. -/
def Timely (state : State Client) : Action Client → Prop
  | .touch client _ => InFront state.passed ((state.due client).head?.map endOf)
  | .inside client _ => InFront state.passed (callReady (state.files.driver.calls client))
  | .runInput client => ∀ request pc, state.files.driver.calls client = .input request pc →
    InFront state.passed (runReady request pc)
  | .remove | .enter _ _ | .poll _ | .read _ _ _ | .thread | .runThread | .complete _
  | .interrupt _ | .irq => True

/-! ### The thread and the handler are out of the way -/

/-- What the removal has waited for. -/
structure Quiet (state : State Client) : Prop where
  thread : Taken dxrtDspDriverCdevDeinit state.passed .kthreadStopped →
    state.files.driver.thread = .exited
  irq : Taken dxrtDspDriverCdevDeinit state.passed .freeIrq → state.files.driver.irq = .idle

omit [DecidableEq Client] in
theorem quiet_beforeRemoval (files : Files Client) (opened : Client → Bool)
    (due : Client → List Part) : (beforeRemoval files opened due).Quiet where
  thread := fun taken => absurd taken List.not_mem_nil
  irq := fun taken => absurd taken List.not_mem_nil

omit [DecidableEq Client] in
theorem exited_of_ready {driver : DxDsp.State Client}
    (isReady : ready driver .kthreadStopped = true) : driver.thread = .exited := by
  rw [ready] at isReady
  split at isReady
  · assumption
  · cases isReady

omit [DecidableEq Client] in
theorem idle_of_ready {driver : DxDsp.State Client} (isReady : ready driver .freeIrq = true) :
    driver.irq = .idle := by
  rw [ready] at isReady
  split at isReady
  · assumption
  · cases isReady

omit [DecidableEq Client] in
/-- The removal goes on, over a return it has waited for or over another statement. -/
theorem Quiet.takeStep {state next : State Client} {step : RemovalStep} (quiet : state.Quiet)
    (here : dxrtDspDriverCdevDeinit[state.passed]? = some step)
    (moved : state.takeStep step = some next) : next.Quiet := by
  have parties : (effect state.files step).driver.thread = state.files.driver.thread ∧
      (effect state.files step).driver.irq = state.files.driver.irq := by
    cases step <;> exact ⟨rfl, rfl⟩
  rw [State.takeStep] at moved
  split at moved
  · next isReady =>
    cases moved
    constructor
    · intro taken
      refine parties.1.trans ?_
      rcases taken_succ_iff.mp taken with before | now
      · exact quiet.thread before
      · cases here.symm.trans now
        exact exited_of_ready isReady
    · intro taken
      refine parties.2.trans ?_
      rcases taken_succ_iff.mp taken with before | now
      · exact quiet.irq before
      · cases here.symm.trans now
        exact idle_of_ready isReady
  · cases moved

/-- A step of the driver other than an interrupt keeps the two out of the way. -/
theorem Quiet.act {state next : State Client} {action : DxDsp.Action Client} (quiet : state.Quiet)
    (allowed : (∀ job, action ≠ .interrupt job) ∨
      ¬ Taken dxrtDspDriverCdevDeinit state.passed .freeIrq)
    (moved : state.act action = some next) : next.Quiet := by
  obtain ⟨files, acted, rfl⟩ := Option.map_eq_some_iff.mp moved
  have stepped := Files.act_eq_some acted
  refine ⟨fun taken => DxDsp.State.step_exited (quiet.thread taken) stepped, fun taken => ?_⟩
  rcases allowed with other | early
  · exact DxDsp.State.step_idle (quiet.irq taken) other stepped
  · exact absurd taken early

omit [DecidableEq Client] in
/-- A step that leaves the two where they are, and the removal too. -/
theorem Quiet.of_parties {state next : State Client} (quiet : state.Quiet)
    (passed : next.passed = state.passed)
    (parties : next.files.driver.thread = state.files.driver.thread ∧
      next.files.driver.irq = state.files.driver.irq) : next.Quiet := by
  constructor
  · rw [passed, parties.1]
    exact quiet.thread
  · rw [passed, parties.2]
    exact quiet.irq

theorem begin_eq_some {state next : State Client} {client : Client} {parts : List Part}
    {files : Option (Files Client)} (moved : state.begin client parts files = some next) :
    files = some next.files ∧ next.passed = state.passed := by
  rw [begin] at moved
  split at moved
  · obtain ⟨own, begun, rfl⟩ := Option.map_eq_some_iff.mp moved
    exact ⟨begun, rfl⟩
  · cases moved

/-- Nor does a file operation move them. -/
theorem fileStep_parties {state next : State Client} {action : Action Client}
    (ofFile : action.ofFile = true) (moved : state.step action = some next) :
    next.passed = state.passed ∧
      next.files.driver.thread = state.files.driver.thread ∧
      next.files.driver.irq = state.files.driver.irq := by
  cases action with
  | enter client op =>
    rw [step] at moved
    split at moved
    · obtain ⟨entered, passed⟩ := begin_eq_some moved
      exact ⟨passed, Files.enter_parties entered⟩
    · cases moved
  | poll | read =>
    rw [step] at moved
    split at moved
    · obtain ⟨acted, passed⟩ := begin_eq_some moved
      exact ⟨passed, DxDsp.State.step_parties rfl (Files.act_eq_some acted)⟩
    · cases moved
  | touch client goesOn =>
    rw [step, touch] at moved
    split at moved <;> cases moved
    exact ⟨rfl, rfl, rfl⟩
  | inside | runInput =>
    rw [step, goOn] at moved
    split at moved
    · obtain ⟨files, acted, rfl⟩ := Option.map_eq_some_iff.mp moved
      exact ⟨rfl, DxDsp.State.step_parties rfl (Files.act_eq_some acted)⟩
    · cases moved
  | remove | thread | runThread | complete | interrupt | irq => cases ofFile

theorem Quiet.step {state next : State Client} {action : Action Client} (quiet : state.Quiet)
    (moved : state.step action = some next) : next.Quiet := by
  by_cases ofFile : action.ofFile = true
  · obtain ⟨passed, parties⟩ := fileStep_parties ofFile moved
    exact quiet.of_parties passed parties
  · cases action with
    | remove =>
      obtain ⟨step, here, stepped⟩ := Option.bind_eq_some_iff.mp moved
      exact quiet.takeStep here stepped
    | thread | runThread | complete | irq => exact quiet.act (.inl fun _ => by simp) moved
    | interrupt job =>
      rw [State.step] at moved
      split at moved
      · cases moved
      · next early => exact quiet.act (.inr early) moved
    | _ => exact absurd rfl ofFile

omit [DecidableEq Client] in
/-- The thread takes no step once `kthread_stop` has returned. -/
theorem Quiet.running {state : State Client} (quiet : state.Quiet)
    (moves : state.files.driver.thread ≠ .exited) (part : Part) : ¬ Freed state.passed part :=
  fun freed => moves (quiet.thread freed.stopped)

omit [DecidableEq Client] in
/-- The handler takes no step once `free_irq` has returned, and it does not use the buffer. -/
theorem Quiet.handling {state : State Client} (quiet : state.Quiet)
    (moves : state.files.driver.irq ≠ .idle) {part : Part} (other : part ≠ .dmaBuf) :
    ¬ Freed state.passed part :=
  fun freed => moves (quiet.irq (freed.irqFreed other))

omit [DecidableEq Client] in
theorem irqUses_ne_dmaBuf {pc : IrqPc Client} {part : Part} (used : part ∈ irqUses pc) :
    part ≠ .dmaBuf := by
  rintro rfl
  cases pc <;> simp [irqUses] at used

/-- A step of the thread, the handler, the DSP or the removal is live. -/
theorem Quiet.live {state next : State Client} {action : Action Client} (quiet : state.Quiet)
    (other : action.ofFile = false) (moved : state.step action = some next) :
    state.Live action := by
  intro part used
  cases action with
  | enter | poll | read | touch | inside | runInput => cases other
  | remove | complete => cases used
  | thread =>
    refine quiet.running (fun exited => ?_) part
    obtain ⟨files, acted, -⟩ := Option.map_eq_some_iff.mp moved
    have stepped := Files.act_eq_some acted
    rw [DxDsp.State.step, exited] at stepped
    cases stepped
  | runThread =>
    refine quiet.running (fun exited => ?_) part
    rw [uses, DxDsp.State.running, exited] at used
    cases used
  | interrupt job =>
    rw [State.step] at moved
    split at moved
    · cases moved
    · next early =>
      intro freed
      refine early (freed.irqFreed ?_)
      rintro rfl
      simp [uses] at used
  | irq =>
    refine quiet.handling (fun idle => ?_) (irqUses_ne_dmaBuf used)
    rw [uses, idle] at used
    cases used

theorem live_iff_timely {state next : State Client} {action : Action Client} (quiet : state.Quiet)
    (moved : state.step action = some next) : state.Live action ↔ state.Timely action := by
  cases action with
  | touch client goesOn =>
    rw [Live, uses, Timely]
    cases state.due client with
    | nil => exact notFreed_nil_iff state.passed
    | cons part rest => exact notFreed_single_iff state.passed part
  | inside client disturbed => exact callReady_iff state.passed (state.files.driver.calls client)
  | runInput client =>
    rw [Live, uses, Timely, DxDsp.State.running]
    cases state.files.driver.calls client with
    | input own pc =>
      refine (runReady_iff state.passed own pc).trans ⟨fun early request next same => ?_,
        fun early => early own pc rfl⟩
      cases same
      exact early
    | _ => exact iff_of_true (fun _ used => by cases used) fun _ _ same => by cases same
  | enter | poll | read => exact iff_of_true (fun _ used => by cases used) trivial
  | remove | thread | runThread | complete | interrupt | irq =>
    exact iff_of_true (quiet.live rfl moved) trivial

end State

/-- All along a run of the removal with the driver no step uses anything freed exactly if every
step of a file operation comes in front of the statement that the table names for it. -/
theorem removal_live_iff (files : Files Client) (opened : Client → Bool)
    (due : Client → List Part) (actions : List (Action Client)) :
    (removing Client).StepsMeet State.Live (State.beforeRemoval files opened due) actions ↔
      (removing Client).StepsMeet State.Timely (State.beforeRemoval files opened due) actions := by
  have keeps : ∀ state action next, state.Quiet →
      (removing Client).step state action = some next → next.Quiet :=
    fun _ _ _ quiet moved => quiet.step moved
  have agree : ∀ state action next, state.Quiet →
      (removing Client).step state action = some next →
        (state.Live action ↔ state.Timely action) :=
    fun _ _ _ quiet moved => State.live_iff_timely quiet moved
  exact Machine.stepsMeet_congr keeps agree (State.quiet_beforeRemoval files opened due) actions

/-- The thread, the handler and the DSP use nothing freed, whatever the clients do. -/
theorem removal_others_live (files : Files Client) (opened : Client → Bool)
    (due : Client → List Part) (actions : List (Action Client)) :
    (removing Client).StepsMeet (fun state action => action.ofFile = false → state.Live action)
      (State.beforeRemoval files opened due) actions := by
  have keeps : ∀ state action next, state.Quiet →
      (removing Client).step state action = some next → next.Quiet :=
    fun _ _ _ quiet moved => quiet.step moved
  exact Machine.stepsMeet_of_invariant keeps (fun _ _ _ quiet moved other => quiet.live other moved)
    (State.quiet_beforeRemoval files opened due) actions

/-! ### A client that calls again -/

/-- The removal up to and including a statement, with the step in which the thread returns. -/
def removeThrough (last : RemovalStep) : List (Action (Fin 1)) :=
  .remove :: .thread :: List.replicate (dxrtDspDriverCdevDeinit.idxOf last) .remove

/-- The idle board with an open handle, about to be removed. -/
def boardOpened : State (Fin 1) :=
  State.beforeRemoval (Files.initial boardDsp) (fun _ => true) fun _ => []

/-- A client that polls on its handle behind `kfree(dsp)` uses the freed structure, and one that
reads behind `kfree(dxdev)` uses the device. -/
theorem removal_uses_freed :
    (∃ state, (removing (Fin 1)).run (fun _ _ => True) boardOpened
        (removeThrough .kfreeDsp ++ [.poll 0, .touch 0 false]) = some state ∧
      (state.step (.touch 0 false)).isSome = true ∧ .dsp ∈ state.uses (.touch 0 false) ∧
        Freed state.passed .dsp) ∧
    (∃ state, (removing (Fin 1)).run (fun _ _ => True) boardOpened
        (removeThrough .kfreeDxdev ++ [.read 0 sizeofDxrtResponse false]) = some state ∧
      (state.step (.touch 0 false)).isSome = true ∧ .dxdev ∈ state.uses (.touch 0 false) ∧
        Freed state.passed .dxdev) ∧
    ¬ ∀ (files : Files (Fin 1)) opened due actions,
      (removing (Fin 1)).StepsMeet State.Live (State.beforeRemoval files opened due) actions := by
  have polls : ∃ state, (removing (Fin 1)).run (fun _ _ => True) boardOpened
      (removeThrough .kfreeDsp ++ [.poll 0, .touch 0 false]) = some state ∧
        (state.step (.touch 0 false)).isSome = true ∧ .dsp ∈ state.uses (.touch 0 false) ∧
          Freed state.passed .dsp :=
    ⟨_, rfl, rfl, by decide, by decide⟩
  refine ⟨polls, ⟨_, rfl, rfl, by decide, by decide⟩, fun live => ?_⟩
  obtain ⟨state, ran, enabled, used, freed⟩ := polls
  obtain ⟨next, moved⟩ := Option.isSome_iff_exists.mp enabled
  have stepped : (removing (Fin 1)).step state (.touch 0 false) = some next := moved
  have along := live (Files.initial boardDsp) (fun _ => true) (fun _ => [])
    ((removeThrough .kfreeDsp ++ [.poll 0, .touch 0 false]) ++ [.touch 0 false])
  exact along.at ran stepped _ used freed

end Removal

end DxDsp
