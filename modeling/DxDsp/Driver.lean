/-
This file is the driver at work: any number of clients inside its file
operations, the one request thread, the DSP, and the interrupt handler, each
advancing by its own atomic steps. An atomic step is one register access, one
access to a shared field, or one section under a spinlock.

A client makes one call at a time, so two calls that overlap are two clients.
`dx_v3_dsp_run` has no state of its own here: its program point lives in the
frame of whoever called it, the thread or a client inside WRITE_INPUT.

Of what lies outside: `kmalloc` may return any address or fail, a user copy may
fault, a waiter may re-test its condition at any time, a signal may end the wait
of a client but not of the thread, and the DSP completes a started request once,
at any time after its second header word.
-/

import DxDsp.Run
import DxDsp.Transfer
import DxDsp.Library.Machine

namespace DxDsp

open Library

/-! ### Callers and jobs -/

/-- Who runs `dx_v3_dsp_run`: the request thread, or a client inside WRITE_INPUT. -/
inductive Caller (Client : Type)
  | thread
  | input (client : Client)
deriving DecidableEq

/-- A request on its way through the DSP: who submitted it, under which id. -/
structure Job (Client : Type) where
  caller : Caller Client
  reqId : UInt32
deriving DecidableEq

/-- A call of `dx_v3_dsp_run` in progress. -/
structure Running where
  request : Object
  pc : RunPc

/-! ### Short programs of atomic effects -/

/-- An atomic effect of a file operation that neither submits nor transfers. -/
inductive Micro
  | responseReqId
  | irqEvent (value : Bool)
  | response
  | responses
  | memAddr
  | memSize
  | numDmaCh
  | error (value : Nat)
  | reset (value : UInt32)
deriving DecidableEq

def Micro.apply (dx : Dxdev) : Micro → Dxdev
  | .responseReqId => { dx with response := { dx.response with reqId := 0 } }
  | .irqEvent value => { dx with dsp := { dx.dsp with irqEvent := value } }
  | .response => identifyResponse dx
  | .responses => identifyResponses dx
  | .memAddr => { dx with memAddr := dx.dsp.regDspBasePhyAddrDram.toUInt64 }
  | .memSize => { dx with memSize := dspDramSize }
  | .numDmaCh => { dx with numDmaCh := 1 }
  | .error value => { dx with error := value }
  | .reset value =>
    { dx with dsp := { dx.dsp with
      regDspBaseDebug := dspRegWrite dx.dsp.regDspBaseDebug regDspReset value } }

/-- No such effect touches the status register or `dsp->req_id`. -/
theorem Micro.apply_dsp (effect : Micro) (dx : Dxdev) :
    (effect.apply dx).dsp.regDspBase = dx.dsp.regDspBase ∧
      (effect.apply dx).dsp.reqId = dx.dsp.reqId := by
  cases effect <;> exact ⟨rfl, rfl⟩

theorem Micro.apply_requests (effect : Micro) (dx : Dxdev) :
    (effect.apply dx).requests = dx.requests := by
  cases effect <;> rfl

def dxrtDevOpen : List Micro := [.responseReqId, .irqEvent false]
def dxrtIdentify : List Micro := [.response, .responses, .memAddr, .memSize, .numDmaCh]
def dxrtTerminate : List Micro := [.irqEvent true, .error 99]

/-- `dxrt_reset_device` and `dxrt_recovery_device`: both are `dx_v3_dsp_reset_and_start`. -/
def dxrtResetDevice : List Micro := [.reset 0x10000, .reset 0x0]

/-- The steps of IDENTIFY_DEVICE add up to the handler as a whole. -/
theorem dxrtIdentify_foldl (dx : Dxdev) :
    dxrtIdentify.foldl Micro.apply dx = dxrtIdentifyDevice dx := rfl

/-! ### `dxrt_dev_write` and `dxrt_dev_read` as far as they are local to the caller -/

/-- `dxrt_dev_write` up to its lock: what it returns early, or the entry it goes on to queue. `node`
is the address `kmalloc` returns, `data` the user buffer, and `behind` what follows the request in
kernel memory. -/
def dxrtDevWritePrepare (dx : Dxdev) (node : Option Nat) (len : Nat) (data : Option Object) :
    Except Int DxrtRequestList :=
  if dx.requestHandler then
    match node with
    | none => .error (-enomem)
    | some node =>
      if len ≠ sizeofDxrtDspRequest then .error (-einval)
      else
        match data with
        | none => .error (-efault)
        | some request => .ok { node, request }
  else .error 0

/-- `dxrt_dev_read`: an error, or the response copied to the user. -/
def dxrtDevRead (dx : Dxdev) (len : Nat) (fault : Bool) : Except Int DxrtResponse :=
  if len < sizeofDxrtResponse then .error (-einval)
  else if fault then .error (-efault)
  else .ok dx.response

/-! ### Program points -/

/-- The request thread. `headOfEmpty` is the thread holding `list_first_entry` of an empty list. -/
inductive ThreadPc
  | loop
  | wait
  | waitStop
  | woken
  | head
  | running (entry : DxrtRequestList) (pc : RunPc)
  | unlink (entry : DxrtRequestList)
  | free (entry : DxrtRequestList)
  | exited
  | headOfEmpty

/-- READ_OUTPUT: the unlocked test, the wait, the clearing of the event, and the locked section. -/
inductive OutputPc
  | test
  | wait
  | clear
  | take

/-- A client between and inside its calls. -/
inductive CallPc
  | idle
  | queue (entry : DxrtRequestList)
  | wake (reqId : UInt32)
  | input (request : Object) (pc : RunPc)
  | program (rest : List Micro)
  | output (pc : OutputPc)

def ThreadPc.frame : ThreadPc → Option Running
  | .running entry pc => some { request := entry.request, pc }
  | _ => none

def CallPc.frame : CallPc → Option Running
  | .input request pc => some { request, pc }
  | _ => none

/-- The same frame at another program point. -/
def ThreadPc.moveRun (next : RunPc) : ThreadPc → ThreadPc
  | .running entry _ => .running entry next
  | other => other

def CallPc.moveRun (next : RunPc) : CallPc → CallPc
  | .input request _ => .input request next
  | other => other

/-- The interrupt handler, with the request it was raised for. `load` reads `dsp->req_id` and
`store` writes it to the response. -/
inductive IrqPc (Client : Type)
  | idle
  | status0 (job : Job Client)
  | status1 (job : Job Client)
  | load (job : Job Client)
  | store (job : Job Client) (value : UInt32)
  | clear0 (job : Job Client)
  | clear1 (job : Job Client)
  | status (job : Job Client)
  | event (job : Job Client)
  | wake (job : Job Client)

/-! ### States and actions -/

/-- What has happened. `left` is a caller leaving the busy wait, `released` the handler's write of
status 0, `finished` its return. -/
inductive Event (Client : Type)
  | accepted (client : Client) (reqId : UInt32)
  | writeReturned (client : Client) (reqId : UInt32)
  | writeRefused (client : Client) (ret : Int)
  | left (job : Job Client)
  | completed (job : Job Client)
  | stored (job : Job Client) (value : UInt32)
  | released (job : Job Client)
  | finished (job : Job Client)
  | polled (client : Client) (pollin : Bool)
  | read (client : Client) (reqId : UInt32)
  | output (client : Client) (ret : Int) (copied : Option DxrtResponse)
deriving DecidableEq

/-- `started` are the requests whose second header word is stored and that the DSP has not
completed, `raised` those completed whose interrupt has not been taken. `responsesHeld` says that
`responses_lock` was left locked. -/
structure State (Client : Type) where
  dx : Dxdev
  thread : ThreadPc
  shouldStop : Bool
  calls : Client → CallPc
  irq : IrqPc Client
  started : List (Job Client)
  raised : List (Job Client)
  responsesHeld : Bool
  log : List (Event Client)

inductive Action (Client : Type)
  | write (client : Client) (node : Option Nat) (len : Nat) (data : Option Object)
  | writeInput (client : Client) (data : UserSource Object)
  | program (client : Client) (steps : List Micro)
  | readOutput (client : Client) (data : UserTarget)
  | writeMem (client : Client) (data : UserSource DxrtReqMeminfo) (source : UserCopy)
  | poll (client : Client)
  | read (client : Client) (len : Nat) (fault : Bool)
  | client (client : Client) (disturbed : Bool)
  | run (caller : Caller Client)
  | thread
  | stop
  | complete (job : Job Client)
  | interrupt (job : Job Client)
  | irq

variable {Client : Type} [DecidableEq Client]

namespace State

/-- The device as a successful probe leaves it, the thread about to enter its loop. -/
def initial (dsp : Dxdsp) : State Client where
  dx := createDxrtDevice dsp
  thread := .loop
  shouldStop := false
  calls := fun _ => .idle
  irq := .idle
  started := []
  raised := []
  responsesHeld := false
  log := []

def setCall (state : State Client) (client : Client) (call : CallPc) : State Client :=
  { state with calls := Function.update state.calls client call }

def record (state : State Client) (event : Event Client) : State Client :=
  { state with log := state.log ++ [event] }

/-! ### `dx_v3_dsp_run` -/

/-- The frame of `dx_v3_dsp_run` under a caller, if it is in one. -/
def running (state : State Client) : Caller Client → Option Running
  | .thread => state.thread.frame
  | .input client => (state.calls client).frame

/-- The thread and the calls once the run under a caller has moved to a program point. -/
def threadMoved (state : State Client) (next : RunPc) : Caller Client → ThreadPc
  | .thread => state.thread.moveRun next
  | .input _ => state.thread

def callsMoved (state : State Client) (next : RunPc) : Caller Client → Client → CallPc
  | .thread => state.calls
  | .input client => Function.update state.calls client ((state.calls client).moveRun next)

/-- The DSP knows of the request once the second header word is stored. -/
def startedBy (job : Job Client) : RunPc → List (Job Client)
  | .head _ 1 => [job]
  | _ => []

/-- The status read that leaves the wait. -/
def leftBy (job : Job Client) (pc next : RunPc) : List (Event Client) :=
  if pc = .wait ∧ next = .lock then [.left job] else []

/-- The state after the next step of the run under `caller`, which stands at `pc`. -/
def afterRun (state : State Client) (caller : Caller Client) (request : Object) (pc : RunPc) :
    State Client :=
  let job := { caller, reqId := request.reqId }
  let next := runNext request state.dx.dsp pc
  { state with
    thread := state.threadMoved next caller
    calls := state.callsMoved next caller
    dx := { state.dx with dsp := runEffect request state.dx.dsp pc }
    started := state.started ++ startedBy job pc
    log := state.log ++ leftBy job pc next }

def runStep (state : State Client) (caller : Caller Client) : Option (State Client) :=
  match state.running caller with
  | none => none
  | some { request, pc } =>
    if pc = .done then none else some (state.afterRun caller request pc)

/-! ### The request thread -/

/-- The next step of `dxrt_request_handler` outside `dx_v3_dsp_run`. -/
def threadStep (state : State Client) : ThreadPc → Option (State Client)
  | .loop => some { state with thread := if state.shouldStop then .exited else .wait }
  | .wait => some { state with thread := if state.dx.requests = [] then .waitStop else .woken }
  | .waitStop => some { state with thread := if state.shouldStop then .woken else .wait }
  | .woken => some { state with thread := if state.shouldStop then .exited else .head }
  | .head =>
    match state.dx.requests with
    | [] => some { state with thread := .headOfEmpty }
    | entry :: _ => some { state with thread := .running entry .wait }
  | .running entry .done => some { state with thread := .unlink entry }
  | .unlink entry =>
    some { state with
      thread := .free entry
      dx := { state.dx with
        requests := state.dx.requests.eraseP fun other => other.node = entry.node } }
  | .free _ => some { state with thread := .loop }
  | .running _ _ | .exited | .headOfEmpty => none

/-! ### The interrupt handler -/

/-- The next step of `dsp_irq_handler`. -/
def irqStep (state : State Client) : IrqPc Client → Option (State Client)
  | .idle => none
  | .status0 job => some { state with irq := .status1 job }
  | .status1 job => some { state with irq := .load job }
  | .load job => some { state with irq := .store job state.dx.dsp.reqId }
  | .store job value =>
    some { state with
      irq := .clear0 job
      dx := { state.dx with response := { state.dx.response with reqId := value } }
      log := state.log ++ [.stored job value] }
  | .clear0 job =>
    some { state with
      irq := .clear1 job
      dx := { state.dx with dsp := { state.dx.dsp with
        regDspBaseMailbox := dspRegWrite state.dx.dsp.regDspBaseMailbox regDspIrqClrCh0 1 } } }
  | .clear1 job =>
    some { state with
      irq := .status job
      dx := { state.dx with dsp := { state.dx.dsp with
        regDspBaseMailbox := dspRegWrite state.dx.dsp.regDspBaseMailbox regDspIrqClrCh1 1 } } }
  | .status job =>
    some { state with
      irq := .event job
      dx := { state.dx with dsp := { state.dx.dsp with
        regDspBase := writeDspStatus state.dx.dsp.regDspBase 0x0 } }
      log := state.log ++ [.released job] }
  | .event job =>
    some { state with
      irq := .wake job
      dx := { state.dx with dsp := { state.dx.dsp with irqEvent := true } } }
  | .wake job => some { state with irq := .idle, log := state.log ++ [.finished job] }

/-! ### The file operations -/

/-- A client enters `dxrt_dev_write`. -/
def beginWrite (state : State Client) (client : Client) (node : Option Nat) (len : Nat)
    (data : Option Object) : State Client :=
  match dxrtDevWritePrepare state.dx node len data with
  | .ok entry => state.setCall client (.queue entry)
  | .error ret => state.record (.writeRefused client ret)

/-- A client enters WRITE_INPUT. -/
def beginInput (state : State Client) (client : Client) : UserSource Object → State Client
  | .holds request => state.setCall client (.input request .wait)
  | .null | .fault => state

/-- A client enters READ_OUTPUT. -/
def beginOutput (state : State Client) (client : Client) : UserTarget → State Client
  | .null => state.record (.output client (-1) none)
  | .fault | .writable => state.setCall client (.output .test)

def pollStep (state : State Client) (client : Client) : State Client :=
  { state with
    dx := { state.dx with dsp := { state.dx.dsp with irqEvent := false } }
    log := state.log ++ [.polled client state.dx.dsp.irqEvent] }

def readStep (state : State Client) (client : Client) (len : Nat) (fault : Bool) : State Client :=
  match dxrtDevRead state.dx len fault with
  | .ok response => state.record (.read client response.reqId)
  | .error _ => state

/-- The next step of READ_OUTPUT. `disturbed` is a signal in the wait, which leaves the wait but
not the call, and a fault of the copy, which returns without unlocking. What the wait returned is
overwritten on every path. -/
def outputStep (state : State Client) (client : Client) (disturbed : Bool) :
    OutputPc → Option (State Client)
  | .test =>
    some (state.setCall client (.output (if state.dx.responses = [] then .wait else .take)))
  | .wait =>
    if disturbed then some (state.setCall client (.output .clear))
    else if state.dx.dsp.irqEvent then some (state.setCall client (.output .clear))
    else none
  | .clear =>
    some { state.setCall client (.output .take) with
      dx := { state.dx with dsp := { state.dx.dsp with irqEvent := false } } }
  | .take =>
    if state.responsesHeld then none
    else
      match state.dx.responses with
      | [] => some ((state.setCall client .idle).record (.output client (-1) none))
      | response :: rest =>
        if disturbed then
          some { (state.setCall client .idle).record (.output client (-efault) none) with
            responsesHeld := true }
        else
          some { (state.setCall client .idle).record (.output client 0 (some response)) with
            dx := { state.dx with responses := rest } }

/-- The next step of a client's call in progress, outside `dx_v3_dsp_run`. -/
def clientStep (state : State Client) (client : Client) (disturbed : Bool) :
    CallPc → Option (State Client)
  | .queue entry =>
    some { state.setCall client (.wake entry.request.reqId) with
      dx := { state.dx with requests := state.dx.requests ++ [entry] }
      log := state.log ++ [.accepted client entry.request.reqId] }
  | .wake reqId => some ((state.setCall client .idle).record (.writeReturned client reqId))
  | .input _ .done => some (state.setCall client .idle)
  | .program [] => some (state.setCall client .idle)
  | .program (effect :: rest) =>
    if effect = .responses ∧ state.responsesHeld then none
    else some { state.setCall client (.program rest) with dx := effect.apply state.dx }
  | .output pc => state.outputStep client disturbed pc
  | .idle | .input _ _ => none

/-! ### The machine -/

/-- A call may begin where none is in progress. -/
def whenIdle (state : State Client) (client : Client) (next : State Client) :
    Option (State Client) :=
  match state.calls client with
  | .idle => some next
  | _ => none

/-- The programs of atomic effects that a file operation consists of. -/
def Offered (steps : List Micro) : Prop :=
  steps = dxrtDevOpen ∨ steps = dxrtIdentify ∨ steps = dxrtTerminate ∨ steps = dxrtResetDevice

instance (steps : List Micro) : Decidable (Offered steps) :=
  inferInstanceAs (Decidable (_ ∨ _ ∨ _ ∨ _))

def step (state : State Client) : Action Client → Option (State Client)
  | .write client node len data => state.whenIdle client (state.beginWrite client node len data)
  | .writeInput client data => state.whenIdle client (state.beginInput client data)
  | .program client steps =>
    if Offered steps then state.whenIdle client (state.setCall client (.program steps)) else none
  | .readOutput client data => state.whenIdle client (state.beginOutput client data)
  | .writeMem client data source =>
    state.whenIdle client { state with dx := (dxrtWriteMem state.dx data source).1 }
  | .poll client => state.whenIdle client (state.pollStep client)
  | .read client len fault => state.whenIdle client (state.readStep client len fault)
  | .client client disturbed => state.clientStep client disturbed (state.calls client)
  | .run caller => state.runStep caller
  | .thread => state.threadStep state.thread
  | .stop => some { state with shouldStop := true }
  | .complete job =>
    if job ∈ state.started then
      some { state with
        started := state.started.erase job
        raised := state.raised ++ [job]
        log := state.log ++ [.completed job] }
    else none
  | .interrupt job =>
    match state.irq with
    | .idle =>
      if job ∈ state.raised then
        some { state with raised := state.raised.erase job, irq := .status0 job }
      else none
    | _ => none
  | .irq => state.irqStep state.irq

/-! ### What a step does to the runs -/

theorem running_eq_update {state next : State Client} {client : Client} {call : CallPc}
    (thread : next.thread = state.thread)
    (calls : next.calls = Function.update state.calls client call) :
    next.running = Function.update state.running (.input client) call.frame := by
  funext caller
  cases caller with
  | thread => exact congrArg ThreadPc.frame thread
  | input other =>
    rw [running, calls]
    by_cases same : other = client
    · subst same
      rw [Function.update_self, Function.update_self]
    · have apart : (Caller.input other : Caller Client) ≠ .input client :=
        fun equal => same (Caller.input.inj equal)
      rw [Function.update_of_ne same, Function.update_of_ne apart, running]

theorem running_setCall (state : State Client) (client : Client) (call : CallPc) :
    (state.setCall client call).running =
      Function.update state.running (.input client) call.frame := by
  have calls : (state.setCall client call).calls = Function.update state.calls client call := rfl
  exact running_eq_update rfl calls

theorem running_afterRun {state : State Client} {caller : Caller Client} {request : Object}
    {pc : RunPc} (inside : state.running caller = some { request, pc }) :
    (state.afterRun caller request pc).running =
      Function.update state.running caller
        (some { request, pc := runNext request state.dx.dsp pc }) := by
  cases caller with
  | thread =>
    funext other
    cases other with
    | thread =>
      rw [Function.update_self]
      show (state.thread.moveRun _).frame = _
      rw [running] at inside
      cases place : state.thread with
      | running entry own =>
        rw [place] at inside
        cases inside
        rfl
      | _ =>
        rw [place] at inside
        cases inside
    | input client =>
      rw [Function.update_of_ne (by simp)]
      rfl
  | input client =>
    have thread : (state.afterRun (.input client) request pc).thread = state.thread := rfl
    have calls : (state.afterRun (.input client) request pc).calls =
        Function.update state.calls client
          ((state.calls client).moveRun (runNext request state.dx.dsp pc)) := rfl
    rw [running_eq_update thread calls]
    refine congrArg (Function.update state.running (.input client)) ?_
    rw [running] at inside
    cases place : state.calls client with
    | input own stands =>
      rw [place] at inside
      cases inside
      rfl
    | _ =>
      rw [place] at inside
      cases inside

/-- A step of a run, by the run it is a step of. -/
theorem runStep_eq_some {state next : State Client} {caller : Caller Client}
    (moved : state.runStep caller = some next) :
    ∃ request pc, state.running caller = some { request, pc } ∧ pc ≠ .done ∧
      next = state.afterRun caller request pc := by
  rw [runStep] at moved
  split at moved
  · cases moved
  · next request pc inside =>
    split at moved
    · cases moved
    · next unfinished =>
      injection moved with moved
      exact ⟨request, pc, inside, unfinished, moved.symm⟩

omit [DecidableEq Client] in
theorem whenIdle_eq_some {state next after : State Client} {client : Client}
    (moved : state.whenIdle client next = some after) :
    state.calls client = .idle ∧ after = next := by
  rw [whenIdle] at moved
  split at moved
  · next idle =>
    injection moved with moved
    exact ⟨idle, moved.symm⟩
  · cases moved

omit [DecidableEq Client] in
/-- Outside `dx_v3_dsp_run` the thread changes its program point and the list, nothing else. -/
theorem threadStep_eq_some {state next : State Client} {pc : ThreadPc}
    (moved : state.threadStep pc = some next) :
    ∃ thread requests, next = { state with thread, dx := { state.dx with requests } } := by
  cases pc with
  | loop | wait | waitStop | woken | unlink | free =>
    cases moved
    exact ⟨_, _, rfl⟩
  | head =>
    rw [threadStep] at moved
    split at moved <;> cases moved <;> exact ⟨_, _, rfl⟩
  | running entry pc =>
    cases pc with
    | done =>
      cases moved
      exact ⟨_, _, rfl⟩
    | _ => cases moved
  | exited | headOfEmpty => cases moved

theorem complete_eq_some {state next : State Client} {job : Job Client}
    (moved : state.step (.complete job) = some next) :
    job ∈ state.started ∧
      next = { state with
        started := state.started.erase job
        raised := state.raised ++ [job]
        log := state.log ++ [.completed job] } := by
  rw [step] at moved
  split at moved
  · next member =>
    injection moved with moved
    exact ⟨member, moved.symm⟩
  · cases moved

theorem interrupt_eq_some {state next : State Client} {job : Job Client}
    (moved : state.step (.interrupt job) = some next) :
    state.irq = .idle ∧ job ∈ state.raised ∧
      next = { state with raised := state.raised.erase job, irq := .status0 job } := by
  rw [step] at moved
  split at moved
  · next idle =>
    split at moved
    · next member =>
      injection moved with moved
      exact ⟨idle, member, moved.symm⟩
    · cases moved
  · cases moved

end State

/-! ### What a step of a client can do -/

/-- The action is a step of a client. -/
def Action.ofClient : Action Client → Bool
  | .write _ _ _ _ | .writeInput _ _ | .program _ _ | .readOutput _ _ | .writeMem _ _ _ | .poll _
  | .read _ _ _ | .client _ _ | .run (.input _) => true
  | .run .thread | .thread | .stop | .complete _ | .interrupt _ | .irq => false

/-- What a step of a client may do to the device. -/
inductive ClientEffect (dx : Dxdev) : Dxdev → Prop
  | none : ClientEffect dx dx
  | queue (entry : DxrtRequestList) :
    ClientEffect dx { dx with requests := dx.requests ++ [entry] }
  | event : ClientEffect dx { dx with dsp := { dx.dsp with irqEvent := false } }
  | pop (response : DxrtResponse) (rest : List DxrtResponse)
    (head : dx.responses = response :: rest) : ClientEffect dx { dx with responses := rest }
  | micro (effect : Micro) : ClientEffect dx (effect.apply dx)
  | writeMem (data : UserSource DxrtReqMeminfo) (source : UserCopy) :
    ClientEffect dx (dxrtWriteMem dx data source).1
  | run (request : Object) (pc : RunPc) :
    ClientEffect dx { dx with dsp := runEffect request dx.dsp pc }

namespace State

/-- The states that a step of a client may lead to. -/
def ClientMoves (state next : State Client) : Prop :=
  ∃ dx calls started responsesHeld log, ClientEffect state.dx dx ∧
    next = { state with dx, calls, started, responsesHeld, log }

omit [DecidableEq Client] in
theorem ClientMoves.of_effect {state next : State Client} (effect : ClientEffect state.dx next.dx)
    (same : next = { state with
      dx := next.dx
      calls := next.calls
      started := next.started
      responsesHeld := next.responsesHeld
      log := next.log }) : state.ClientMoves next :=
  ⟨_, _, _, _, _, effect, same⟩

theorem outputStep_moves {state next : State Client} {client : Client} {disturbed : Bool}
    {pc : OutputPc} (moved : state.outputStep client disturbed pc = some next) :
    state.ClientMoves next := by
  cases pc with
  | test =>
    cases moved
    exact .of_effect .none rfl
  | clear =>
    cases moved
    exact .of_effect .event rfl
  | wait =>
    rw [outputStep] at moved
    split at moved
    · cases moved
      exact .of_effect .none rfl
    · split at moved <;> cases moved
      exact .of_effect .none rfl
  | take =>
    rw [outputStep] at moved
    split at moved
    · cases moved
    · split at moved
      · cases moved
        exact .of_effect .none rfl
      · next response rest head =>
        split at moved <;> cases moved
        · exact .of_effect .none rfl
        · exact .of_effect (.pop response rest head) rfl

theorem clientStep_moves {state next : State Client} {client : Client} {disturbed : Bool}
    {call : CallPc} (moved : state.clientStep client disturbed call = some next) :
    state.ClientMoves next := by
  cases call with
  | idle => cases moved
  | queue entry =>
    cases moved
    exact .of_effect (.queue entry) rfl
  | wake =>
    cases moved
    exact .of_effect .none rfl
  | input request pc =>
    cases pc <;> cases moved
    exact .of_effect .none rfl
  | program steps =>
    cases steps with
    | nil =>
      cases moved
      exact .of_effect .none rfl
    | cons effect rest =>
      rw [clientStep] at moved
      split at moved <;> cases moved
      exact .of_effect (.micro effect) rfl
  | output pc => exact outputStep_moves moved

theorem step_ofClient_eq_some {state next : State Client} {action : Action Client}
    (ofClient : action.ofClient = true) (moved : state.step action = some next) :
    state.ClientMoves next := by
  cases action with
  | write client node len data =>
    obtain ⟨-, rfl⟩ := whenIdle_eq_some moved
    rw [beginWrite]
    split <;> exact .of_effect .none rfl
  | writeInput client data | readOutput client data =>
    obtain ⟨-, rfl⟩ := whenIdle_eq_some moved
    cases data <;> exact .of_effect .none rfl
  | program client steps =>
    rw [step] at moved
    split at moved
    · obtain ⟨-, rfl⟩ := whenIdle_eq_some moved
      exact .of_effect .none rfl
    · cases moved
  | writeMem client data source =>
    obtain ⟨-, rfl⟩ := whenIdle_eq_some moved
    exact .of_effect (.writeMem data source) rfl
  | poll client =>
    obtain ⟨-, rfl⟩ := whenIdle_eq_some moved
    exact .of_effect .event rfl
  | read client len fault =>
    obtain ⟨-, rfl⟩ := whenIdle_eq_some moved
    rw [readStep]
    split <;> exact .of_effect .none rfl
  | client client disturbed => exact clientStep_moves moved
  | run caller =>
    obtain ⟨request, pc, -, -, rfl⟩ := runStep_eq_some moved
    cases caller with
    | thread => cases ofClient
    | input client => exact .of_effect (.run request pc) rfl
  | thread | stop | complete | interrupt | irq => cases ofClient

end State

/-- The driver from a successful probe on. -/
def driver (Client : Type) [DecidableEq Client] : Machine (State Client) (Action Client) where
  start state := ∃ dsp, state = State.initial dsp
  step := State.step

/-! ### Runs on the board -/

/-- A request with this id and nothing else. -/
def bareRequest (reqId : UInt8) : Object := fun index => if index = 0 then reqId else 0

/-- A whole call of `write()` with a bare request. -/
def submit (client : Client) (node : Nat) (reqId : UInt8) : List (Action Client) :=
  [.write client (some node) sizeofDxrtDspRequest (some (bareRequest reqId)), .client client false,
    .client client false]

/-- One caller's whole run of a bare request on an idle DSP. -/
def runToEnd (caller : Caller Client) : List (Action Client) := List.replicate 8 (.run caller)

/-- The completion of a request and its whole interrupt. -/
def completeAndHandle (job : Job Client) : List (Action Client) :=
  [.complete job, .interrupt job] ++ List.replicate 9 .irq

/-- A state of the board that a list of actions reaches, by what is seen of it. -/
theorem exists_reached {allowed : State Client → Action Client → Prop}
    [∀ state action, Decidable (allowed state action)] (actions : List (Action Client))
    {Value : Type} {view : State Client → Value} {value : Value}
    (ran : ((driver Client).run allowed (State.initial boardDsp) actions).map view = some value) :
    ∃ state, (driver Client).Reaches allowed state ∧ view state = value := by
  obtain ⟨state, ran, same⟩ := Option.map_eq_some_iff.mp ran
  have begins : (driver Client).Reaches allowed (State.initial boardDsp) := .start ⟨boardDsp, rfl⟩
  exact ⟨state, begins.of_run actions ran, same⟩

end DxDsp
