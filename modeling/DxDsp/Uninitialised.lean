/-
This file forgets what in the driver's state may stem from uninitialised kernel
memory: what lies behind the front of a submitted object, the SRAM it is copied
to, `dsp->req_id`, and what is computed or copied from it. No step depends on any
of it, so that a step, with the same forgotten afterwards, is the step of the
state in which it was forgotten before.
-/

import DxDsp.Overlap
import DxDsp.Submissions

namespace DxDsp

open Library

/-! ### What is forgotten -/

/-- Keep the front of a request up to its payload. -/
def Object.blur (object : Object) : Object := ByteMemory.store (fun _ => 0) 0 msgDataOffset object

def RunPc.blur : RunPc → RunPc
  | .data _ i => .data 0 i
  | .head _ i => .head 0 i
  | pc => pc

def DxrtRequestList.blur (entry : DxrtRequestList) : DxrtRequestList :=
  { entry with request := Object.blur entry.request }

def Dxdsp.blur (dsp : Dxdsp) : Dxdsp := { dsp with regDspBaseSram := fun _ => 0, reqId := 0 }

def Dxdev.blur (dx : Dxdev) : Dxdev :=
  { dx with
    dsp := dx.dsp.blur
    requests := dx.requests.map DxrtRequestList.blur
    response := { dx.response with reqId := 0 } }

def ThreadPc.blur : ThreadPc → ThreadPc
  | .running entry pc => .running entry.blur pc.blur
  | .unlink entry => .unlink entry.blur
  | .free entry => .free entry.blur
  | pc => pc

def CallPc.blur : CallPc → CallPc
  | .queue entry => .queue entry.blur
  | .input request pc => .input (Object.blur request) pc.blur
  | call => call

def Running.blur (running : Running) : Running where
  request := Object.blur running.request
  pc := running.pc.blur

variable {Client : Type}

def IrqPc.blur : IrqPc Client → IrqPc Client
  | .store job _ => .store job 0
  | pc => pc

/-- Forget also the log, which no step reads. -/
def State.blur (state : State Client) : State Client :=
  { state with
    dx := state.dx.blur
    thread := state.thread.blur
    calls := fun client => (state.calls client).blur
    irq := state.irq.blur
    log := [] }

def UserSource.map {Value Other : Type} (change : Value → Other) :
    UserSource Value → UserSource Other
  | .null => .null
  | .fault => .fault
  | .holds value => .holds (change value)

def Action.blur : Action Client → Action Client
  | .write own node len data => .write own node len (data.map Object.blur)
  | .writeInput own data => .writeInput own (data.map Object.blur)
  | action => action

/-! ### Objects -/

theorem Object.blur_store {memory user : ByteMemory} {size : Nat} (front : msgDataOffset ≤ size) :
    Object.blur (memory.store 0 size user) = Object.blur user := by
  funext address
  rw [Object.blur, Object.blur]
  by_cases inside : address < msgDataOffset
  · rw [ByteMemory.store_of_lt inside, ByteMemory.store_of_lt inside,
      ByteMemory.store_of_lt (Nat.lt_of_lt_of_le inside front)]
  · have behind := Nat.not_lt.mp inside
    rw [ByteMemory.store_of_le behind, ByteMemory.store_of_le behind]

@[simp] theorem Object.blur_blur (object : Object) :
    Object.blur (Object.blur object) = Object.blur object :=
  Object.blur_store (Nat.le_refl _)

@[simp] theorem Object.reqId_blur (object : Object) :
    Object.reqId (Object.blur object) = object.reqId :=
  reqId_store (Nat.le_refl _)

@[simp] theorem Object.dataWords_blur (object : Object) :
    Object.dataWords (Object.blur object) = object.dataWords :=
  dataWords_store (Nat.le_refl _)

/-! ### Forgetting twice -/

@[simp] theorem RunPc.blur_blur (pc : RunPc) : pc.blur.blur = pc.blur := by
  cases pc <;> rfl

@[simp] theorem DxrtRequestList.blur_blur (entry : DxrtRequestList) :
    entry.blur.blur = entry.blur := by
  simp [DxrtRequestList.blur]

@[simp] theorem Dxdsp.blur_blur (dsp : Dxdsp) : dsp.blur.blur = dsp.blur := by
  simp [Dxdsp.blur]

@[simp] theorem Dxdev.blur_blur (dx : Dxdev) : dx.blur.blur = dx.blur := by
  simp [Dxdev.blur]

@[simp] theorem ThreadPc.blur_blur (pc : ThreadPc) : pc.blur.blur = pc.blur := by
  cases pc <;> simp [ThreadPc.blur]

@[simp] theorem CallPc.blur_blur (call : CallPc) : call.blur.blur = call.blur := by
  cases call <;> simp [CallPc.blur]

@[simp] theorem IrqPc.blur_blur (pc : IrqPc Client) : pc.blur.blur = pc.blur := by
  cases pc <;> rfl

@[simp] theorem State.blur_blur (state : State Client) : state.blur.blur = state.blur := by
  simp [State.blur]

/-! ### Effects -/

theorem Micro.blur_apply (effect : Micro) (dx : Dxdev) :
    (effect.apply dx).blur = (effect.apply dx.blur).blur := by
  cases effect <;> simp [Micro.apply, Dxdev.blur, Dxdsp.blur, identifyResponse, identifyResponses]

theorem blur_dxrtWriteMem (dx : Dxdev) (data : UserSource DxrtReqMeminfo) (source : UserCopy) :
    (dxrtWriteMem dx data source).1.blur = (dxrtWriteMem dx.blur data source).1.blur := by
  have reply : transferCheck dx.blur data = transferCheck dx data := rfl
  rw [dxrtWriteMem, dxrtWriteMem, reply]
  split <;> simp [copyToBuffer, Dxdev.blur, Dxdsp.blur]

theorem dxrtDevWritePrepare_blur (dx : Dxdev) (node : Option Nat) (len : Nat)
    (data : Option Object) :
    dxrtDevWritePrepare dx.blur node len (data.map Object.blur) =
      (dxrtDevWritePrepare dx node len data).map DxrtRequestList.blur := by
  have handler : dx.blur.requestHandler = dx.requestHandler := rfl
  cases node with
  | none =>
    simp only [dxrtDevWritePrepare, handler]
    split <;> rfl
  | some node =>
    cases data <;> simp only [dxrtDevWritePrepare, handler, Option.map_none, Option.map_some] <;>
    · split
      · split <;> rfl
      · rfl

/-! ### A run of `dx_v3_dsp_run` -/

theorem runEffect_blur (object : Object) (dsp : Dxdsp) (pc : RunPc) :
    (runEffect object dsp pc).blur = (runEffect (Object.blur object) dsp.blur pc.blur).blur := by
  cases pc with
  | data msgBufOffset4 i =>
    rw [RunPc.blur, runEffect, runEffect, runAccesses, runAccesses, Object.dataWords_blur]
    split <;> rfl
  | head msgBufOffset4 i =>
    rw [RunPc.blur, runEffect, runEffect, runAccesses, runAccesses]
    split <;> rfl
  | _ => rfl

theorem runNext_blur (object : Object) (dsp : Dxdsp) (pc : RunPc) :
    (runNext object dsp pc).blur = (runNext (Object.blur object) dsp.blur pc.blur).blur := by
  cases pc with
  | data msgBufOffset4 i =>
    rw [RunPc.blur, runNext, runNext, Object.dataWords_blur]
    split <;> rfl
  | head msgBufOffset4 i =>
    rw [RunPc.blur, runNext, runNext]
    split <;> rfl
  | _ => rfl

theorem RunPc.blur_eq_done_iff {pc : RunPc} : pc.blur = .done ↔ pc = .done := by
  cases pc <;> simp [RunPc.blur]

theorem ThreadPc.frame_blur (pc : ThreadPc) : pc.blur.frame = pc.frame.map Running.blur := by
  cases pc <;> rfl

theorem CallPc.frame_blur (call : CallPc) : call.blur.frame = call.frame.map Running.blur := by
  cases call <;> rfl

theorem ThreadPc.blur_moveRun (pc : ThreadPc) (next : RunPc) :
    (pc.moveRun next).blur = pc.blur.moveRun next.blur := by
  cases pc <;> rfl

theorem CallPc.blur_moveRun (call : CallPc) (next : RunPc) :
    (call.moveRun next).blur = call.blur.moveRun next.blur := by
  cases call <;> rfl

theorem State.startedBy_blur (job : Job Client) (pc : RunPc) :
    startedBy job pc.blur = startedBy job pc := by
  cases pc with
  | head msgBufOffset4 i => rcases i with _ | _ | _ <;> rfl
  | _ => rfl

theorem State.running_blur (state : State Client) (caller : Caller Client) :
    state.blur.running caller = (state.running caller).map Running.blur := by
  cases caller with
  | thread => exact state.thread.frame_blur
  | input client => exact (state.calls client).frame_blur

/-! ### The parts of a step -/

variable [DecidableEq Client]

namespace State

/-- The call of one client forgotten among those of the others. -/
theorem blur_update (calls : Client → CallPc) (client : Client) (call : CallPc) :
    (fun own => (Function.update calls client call own).blur) =
      Function.update (fun own => (calls own).blur) client call.blur :=
  funext fun own => Function.apply_update (fun _ => CallPc.blur) calls client call own

theorem blur_setCall (state : State Client) (client : Client) {call other : CallPc}
    (same : call.blur = other.blur) :
    (state.setCall client call).blur = (state.blur.setCall client other).blur := by
  simp [State.blur, setCall, blur_update, same]

theorem blur_callsMoved (state : State Client) (next : RunPc) (caller : Caller Client) :
    (fun own => (state.callsMoved next caller own).blur) =
      state.blur.callsMoved next.blur caller := by
  cases caller with
  | thread => rfl
  | input client =>
    funext own
    rw [callsMoved, callsMoved, Function.apply_update (fun _ => CallPc.blur),
      CallPc.blur_moveRun]
    rfl

omit [DecidableEq Client] in
theorem blur_threadMoved (state : State Client) (next : RunPc) (caller : Caller Client) :
    (state.threadMoved next caller).blur = state.blur.threadMoved next.blur caller := by
  cases caller with
  | thread => exact state.thread.blur_moveRun next
  | input client => rfl

theorem blur_afterRun (state : State Client) (caller : Caller Client) (request : Object)
    (pc : RunPc) :
    (state.afterRun caller request pc).blur =
      (state.blur.afterRun caller (Object.blur request) pc.blur).blur := by
  have effect : { state.dx with dsp := runEffect request state.dx.dsp pc }.blur =
      { state.blur.dx with
        dsp := runEffect (Object.blur request) state.blur.dx.dsp pc.blur }.blur := by
    simp only [Dxdev.blur, runEffect_blur request state.dx.dsp pc, State.blur, List.map_map]
    simp
  have irq : state.blur.irq.blur = state.irq.blur := state.irq.blur_blur
  rw [State.blur, State.blur, afterRun, afterRun]
  simp only [blur_threadMoved, blur_callsMoved, runNext_blur request, startedBy_blur, effect,
    blur_blur, Object.reqId_blur, irq]
  rfl

theorem blur_runStep (state : State Client) (caller : Caller Client) :
    (state.runStep caller).map blur = (state.blur.runStep caller).map blur := by
  rw [runStep, runStep, running_blur]
  cases state.running caller with
  | none => rfl
  | some running =>
    obtain ⟨request, pc⟩ := running
    simp only [Option.map_some, Running.blur, RunPc.blur_eq_done_iff]
    split
    · rfl
    · exact congrArg some (blur_afterRun state caller request pc)

omit [DecidableEq Client] in
theorem blur_threadStep (state : State Client) (pc : ThreadPc) :
    (state.threadStep pc).map blur = (state.blur.threadStep pc.blur).map blur := by
  cases pc with
  | loop | waitStop | woken =>
    cases stop : state.shouldStop <;> simp [threadStep, State.blur, ThreadPc.blur, stop]
  | wait | head =>
    cases queued : state.dx.requests <;>
      simp [threadStep, State.blur, ThreadPc.blur, Dxdev.blur, RunPc.blur, queued]
  | running entry pc => cases pc <;> simp [threadStep, State.blur, ThreadPc.blur, RunPc.blur]
  | unlink entry =>
    have sameNode : (fun other => decide (other.node = entry.blur.node)) ∘ DxrtRequestList.blur =
        fun other => decide (other.node = entry.node) := rfl
    simp [threadStep, State.blur, ThreadPc.blur, Dxdev.blur, List.eraseP_map, sameNode]
  | free | exited | headOfEmpty => simp [threadStep, State.blur, ThreadPc.blur]

omit [DecidableEq Client] in
theorem blur_irqStep (state : State Client) (pc : IrqPc Client) :
    (state.irqStep pc).map blur = (state.blur.irqStep pc.blur).map blur := by
  cases pc <;> simp [irqStep, State.blur, IrqPc.blur, Dxdev.blur, Dxdsp.blur]

/-! ### The file operations -/

theorem blur_outputStep (state : State Client) (client : Client) (disturbed : Bool)
    (pc : OutputPc) :
    (state.outputStep client disturbed pc).map blur =
      (state.blur.outputStep client disturbed pc).map blur := by
  cases pc with
  | test => exact congrArg some (blur_setCall state client rfl)
  | wait =>
    have raised : state.blur.dx.dsp.irqEvent = state.dx.dsp.irqEvent := rfl
    rw [outputStep, outputStep, raised]
    split
    · exact congrArg some (blur_setCall state client rfl)
    · split
      · exact congrArg some (blur_setCall state client rfl)
      · rfl
  | clear => simp [outputStep, State.blur, setCall, blur_update, Dxdev.blur, Dxdsp.blur]
  | take =>
    have held : state.blur.responsesHeld = state.responsesHeld := rfl
    have responses : state.blur.dx.responses = state.dx.responses := rfl
    rw [outputStep, outputStep, held, responses]
    split
    · rfl
    · split
      · simp [State.blur, setCall, blur_update, record]
      · split <;> simp [State.blur, setCall, blur_update, record, Dxdev.blur]

theorem blur_clientStep (state : State Client) (client : Client) (disturbed : Bool)
    (call : CallPc) :
    (state.clientStep client disturbed call).map blur =
      (state.blur.clientStep client disturbed call.blur).map blur := by
  cases call with
  | idle => rfl
  | queue entry =>
    have reqId : entry.blur.request.reqId = entry.request.reqId := Object.reqId_blur _
    rw [CallPc.blur]
    simp [clientStep, State.blur, setCall, blur_update, Dxdev.blur, reqId]
  | wake reqId => exact congrArg some (blur_setCall state client rfl)
  | input request pc =>
    cases pc with
    | done => exact congrArg some (blur_setCall state client rfl)
    | _ => rfl
  | program steps =>
    cases steps with
    | nil => exact congrArg some (blur_setCall state client rfl)
    | cons effect rest =>
      have held : state.blur.responsesHeld = state.responsesHeld := rfl
      have kept : (CallPc.program (effect :: rest)).blur = .program (effect :: rest) := rfl
      rw [kept, clientStep, clientStep, held]
      split
      · rfl
      · simpa [State.blur, setCall, blur_update] using effect.blur_apply state.dx
  | output pc => exact blur_outputStep state client disturbed pc

omit [DecidableEq Client] in
theorem blur_whenIdle (state : State Client) (client : Client) {next other : State Client}
    (same : next.blur = other.blur) :
    (state.whenIdle client next).map blur = (state.blur.whenIdle client other).map blur := by
  have call : state.blur.calls client = (state.calls client).blur := rfl
  rw [whenIdle, whenIdle, call]
  cases state.calls client with
  | idle => exact congrArg some same
  | _ => rfl

theorem blur_beginWrite (state : State Client) (client : Client) (node : Option Nat) (len : Nat)
    (data : Option Object) :
    (state.beginWrite client node len data).blur =
      (state.blur.beginWrite client node len (data.map Object.blur)).blur := by
  rw [beginWrite, beginWrite, show state.blur.dx = state.dx.blur from rfl, dxrtDevWritePrepare_blur]
  cases dxrtDevWritePrepare state.dx node len data with
  | error ret => exact state.blur_blur.symm
  | ok entry => exact blur_setCall state client (by simp [CallPc.blur])

theorem blur_beginInput (state : State Client) (client : Client) (data : UserSource Object) :
    (state.beginInput client data).blur =
      (state.blur.beginInput client (data.map Object.blur)).blur := by
  cases data with
  | null | fault => exact state.blur_blur.symm
  | holds request => exact blur_setCall state client (by simp [CallPc.blur])

theorem blur_beginOutput (state : State Client) (client : Client) (data : UserTarget) :
    (state.beginOutput client data).blur = (state.blur.beginOutput client data).blur := by
  cases data with
  | null => exact state.blur_blur.symm
  | fault | writable => exact blur_setCall state client rfl

omit [DecidableEq Client] in
theorem blur_readStep (state : State Client) (client : Client) (len : Nat) (fault : Bool) :
    (state.readStep client len fault).blur = (state.blur.readStep client len fault).blur := by
  have quiet : ∀ own : State Client, (own.readStep client len fault).blur = own.blur := by
    intro own
    rw [readStep]
    split <;> rfl
  rw [quiet, quiet, blur_blur]

theorem blur_step (state : State Client) (action : Action Client) :
    (state.step action).map blur = (state.blur.step action.blur).map blur := by
  cases action with
  | write client node len data =>
    exact blur_whenIdle state client (blur_beginWrite state client node len data)
  | writeInput client data => exact blur_whenIdle state client (blur_beginInput state client data)
  | program client steps =>
    have kept : (Action.program client steps).blur = .program client steps := rfl
    rw [kept, step, step]
    split
    · exact blur_whenIdle state client (blur_setCall state client rfl)
    · rfl
  | readOutput client data => exact blur_whenIdle state client (blur_beginOutput state client data)
  | writeMem client data source =>
    refine blur_whenIdle state client ?_
    simpa [State.blur] using blur_dxrtWriteMem state.dx data source
  | poll client =>
    refine blur_whenIdle state client ?_
    simp [pollStep, State.blur, Dxdev.blur, Dxdsp.blur]
  | read client len fault => exact blur_whenIdle state client (blur_readStep state client len fault)
  | client client disturbed => exact blur_clientStep state client disturbed (state.calls client)
  | run caller => exact blur_runStep state caller
  | thread => exact blur_threadStep state state.thread
  | stop => simp [Action.blur, step, State.blur]
  | complete job =>
    have started : state.blur.started = state.started := rfl
    have kept : (Action.complete job : Action Client).blur = .complete job := rfl
    rw [kept, step, step, started]
    split
    · simp [State.blur]
    · rfl
  | interrupt job =>
    have irq : state.blur.irq = state.irq.blur := rfl
    have raised : state.blur.raised = state.raised := rfl
    have kept : (Action.interrupt job : Action Client).blur = .interrupt job := rfl
    rw [kept, step, step, irq, raised]
    cases state.irq with
    | idle =>
      simp only [IrqPc.blur]
      split
      · simp [State.blur, IrqPc.blur]
      · rfl
    | _ => rfl
  | irq => exact blur_irqStep state state.irq

end State

/-! ### The files -/

def DxrtMessage.mapRequest (change : Object → Object) (msg : DxrtMessage) : DxrtMessage :=
  { msg with data := { msg.data with request := msg.data.request.map change } }

def Entry.mapRequest (change : Object → Object) : Entry → Entry
  | .handler named msg => .handler named (msg.mapRequest change)
  | entry => entry

/-- Another content of the objects that `write()` and WRITE_INPUT are given. -/
def FileOp.mapObjects (write input : Object → Object) : FileOp → FileOp
  | .devWrite node len data => .devWrite node len (data.map write)
  | .devIoctl cmd arg => .devIoctl cmd (arg.map (DxrtMessage.mapRequest input))
  | op => op

def FileOp.blur : FileOp → FileOp := FileOp.mapObjects Object.blur Object.blur

def Files.blur (files : Files Client) : Files Client := { files with driver := files.driver.blur }

theorem UserSource.map_map {Value Other Last : Type} (first : Value → Other) (second : Other → Last)
    (source : UserSource Value) : (source.map first).map second = source.map (second ∘ first) := by
  cases source <;> rfl

/-- What an ioctl comes to does not depend on the object of its message. -/
theorem dxrtDevIoctl_mapRequest (change : Object → Object) (cmd : UInt32)
    (arg : UserSource DxrtMessage) :
    dxrtDevIoctl cmd (arg.map (DxrtMessage.mapRequest change)) =
      (dxrtDevIoctl cmd arg).mapRequest change := by
  have message : ioctlMessage (arg.map (DxrtMessage.mapRequest change)) =
      (ioctlMessage arg).mapRequest change := by
    cases arg with
    | null | fault => rfl
    | holds msg =>
      have same : (msg.mapRequest change).cmd = msg.cmd := rfl
      have general : messageHandlerGeneral (msg.mapRequest change) =
          (messageHandlerGeneral msg).mapRequest change := by
        rw [messageHandlerGeneral, messageHandlerGeneral, same]
        split <;> rfl
      rw [UserSource.map, ioctlMessage, ioctlMessage, general, same]
      split <;> rfl
  rw [dxrtDevIoctl, dxrtDevIoctl, message]
  split
  · rfl
  · split <;> rfl

namespace Files

omit [DecidableEq Client] in
@[simp] theorem blur_blur (files : Files Client) : files.blur.blur = files.blur := by
  simp [blur]

theorem blur_act (files : Files Client) (action : Action Client) :
    (files.act action).map blur = (files.blur.act action.blur).map blur := by
  have stepped := State.blur_step files.driver action
  rw [act, act, show files.blur.driver = files.driver.blur from rfl]
  cases own : files.driver.step action with
  | none =>
    rw [own] at stepped
    rw [Option.map_eq_none_iff.mp stepped.symm]
    rfl
  | some next =>
    rw [own] at stepped
    obtain ⟨other, blurred, same⟩ := Option.map_eq_some_iff.mp stepped.symm
    rw [blurred]
    simp [blur, same]

theorem blur_enterHandler (files : Files Client) (client : Client) (msg : DxrtMessage)
    (handler : Handler) :
    (files.enterHandler client msg handler).map blur =
      (files.blur.enterHandler client (msg.mapRequest Object.blur) handler).map blur := by
  cases handler with
  | dxrtIdentifyDevice | dxrtWriteMem | dxrtWriteInput | dxrtReadOutput | dxrtTerminate
  | dxrtResetDevice | dxrtRecoveryDevice => exact blur_act files _
  | _ => simp [enterHandler, blur, DxrtMessage.mapRequest]

theorem blur_enter (files : Files Client) (client : Client) (op : FileOp) :
    (files.enter client op).map blur = (files.blur.enter client op.blur).map blur := by
  cases op with
  | devOpen | devWrite => exact blur_act files _
  | devRelease | devMmap => simp [enter, FileOp.blur, FileOp.mapObjects, blur]
  | devIoctl cmd arg =>
    rw [FileOp.blur, FileOp.mapObjects, enter, enter, dxrtDevIoctl_mapRequest]
    cases dxrtDevIoctl cmd arg with
    | returns | oops => simp [enterEntry, Entry.mapRequest, blur]
    | handler handler msg => exact blur_enterHandler files client msg handler

theorem blur_step_enter (files : Files Client) (client : Client) (op : FileOp) :
    (files.step (.enter client op)).map blur =
      (files.blur.step (.enter client op.blur)).map blur := by
  have call : files.blur.driver.calls client = (files.driver.calls client).blur := rfl
  rw [step, step, call]
  cases files.driver.calls client with
  | idle => exact blur_enter files client op
  | _ => rfl

end Files

end DxDsp
