/-
This file is about what reaches user space. The replies of IDENTIFY_DEVICE,
DRV_INFO, ALLOC_DSP_BUF, READ_OUTPUT and `read()` are copied byte by byte from
structures that stand in memory with a prior content. IDENTIFY_DEVICE assigns six
of the eleven members of its structure and copies them all; `read()` copies the
id that the interrupt handler took from `dsp->req_id`, which nothing stores
before the first run. In all other replies every byte is assigned.

A copy that faults fails, but the user has got the bytes in front of the fault.
-/

import DxDsp.Uninitialised
import DxDsp.Library.Lockstep

namespace DxDsp

open Library

/-! ### The structures that are copied to the user -/

/-- `DEVICE_TYPE`, `DEVICE_VARIANT`, and the firmware version that is reported. -/
def deviceType : Nat := 1
def deviceVariant : Nat := 104
def fwVer : Nat := 100

/-- The version in `release.ver`. -/
def rtVersionMajor : Nat := 0
def rtVersionMinor : Nat := 0
def rtVersionPatch : Nat := 0
def dxrtModVersionNumber : Nat := rtVersionMajor * 1000 + rtVersionMinor * 100 + rtVersionPatch

/-- `dxrt_device_info_t`: type, variant, mem_addr, mem_size, num_dma_ch, fw_ver, bd_rev, bd_type,
ddr_freq, ddr_type, interface. -/
def dxrtDeviceInfoMembers : List Member :=
  [uint32Member, uint32Member, uint64Member, uint64Member, uint32Member, uint16Member,
    uint16Member, uint16Member, uint16Member, uint16Member, uint16Member]

/-- `struct dxrt_drv_info`: driver_version. -/
def dxrtDrvInfoMembers : List Member := [uint32Member]

/-- `dxrt_dsp_buffer_metadata_t`: dsp_buf_offset, alloc_size. -/
def dxrtDspBufferMetadataMembers : List Member := [uint32Member, uint32Member]

/-- `dxrt_response_t`. -/
def dxrtResponseMembers : List Member :=
  [uint32Member, uint32Member, uint16Member, uint16Member, uint32Member, uint32Member,
    uint32Member, uint32Member, uint32Member, uint32Member, uint32Member]

example : structSize dxrtDeviceInfoMembers = 40 ∧ structSize dxrtResponseMembers = 40 := ⟨rfl, rfl⟩

/-- `info` of `dxrt_identify_device` at its copy. `stack` is kernel memory from `info` on, as it
was; the members after `fw_ver` are not assigned. -/
def deviceInfoBytes (dx : Dxdev) (stack : ByteMemory) : List UInt8 :=
  structBytes dxrtDeviceInfoMembers
    [deviceType, deviceVariant, dx.dsp.regDspBasePhyAddrDram.toNat, identifiedMemSize.toNat, 1,
      fwVer]
    stack

/-- `info` of `dxrt_handle_rt_drv_info_sub` at its copy. -/
def drvInfoBytes (stack : ByteMemory) : List UInt8 :=
  structBytes dxrtDrvInfoMembers [dxrtModVersionNumber] stack

/-- `dsp_buf_meta` of `dxrt_alloc_buf` at its copy. -/
def bufferMetadataBytes (dspBufMeta : DxrtDspBufferMetadata) (stack : ByteMemory) : List UInt8 :=
  structBytes dxrtDspBufferMetadataMembers
    [dspBufMeta.dspBufOffset.toNat, dspBufMeta.allocSize.toNat] stack

/-- A response, in `dx->response` or in the list of responses. -/
def responseBytes (response : DxrtResponse) : List UInt8 :=
  structBytes dxrtResponseMembers
    [response.reqId.toNat, response.infTime.toNat, response.argmax.toNat,
      response.modelType.toNat, response.status.toUInt32.toNat, response.ppuFilterNum.toNat,
      response.procId.toNat, response.queue.toNat, response.dmaCh.toUInt32.toNat,
      response.ddrWrBw.toNat, response.ddrRdBw.toNat]
    fun _ => 0

/-- Which bytes of `info` are assigned. -/
theorem deviceInfo_covered : ∀ address < 40,
    Covered ((memberPlaces dxrtDeviceInfoMembers).take 6) address ↔ address < 30 := by decide

/-- The first thirty bytes of `info` are assigned. -/
theorem deviceInfoBytes_take_eq {dx : Dxdev} {count : Nat} (front : count ≤ 30)
    (first second : ByteMemory) :
    (deviceInfoBytes dx first).take count = (deviceInfoBytes dx second).take count := by
  refine (structBytes_take_eq_iff first second).mpr fun address inside reached => Or.inl ?_
  exact (deviceInfo_covered address inside).mpr (Nat.lt_of_lt_of_le reached front)

/-- The next byte is the stack's. -/
theorem deviceInfoBytes_take_stack {dx : Dxdev} {count : Nat} (behind : 30 < count)
    {first second : ByteMemory}
    (same : (deviceInfoBytes dx first).take count = (deviceInfoBytes dx second).take count) :
    first 30 = second 30 := by
  have inside : 30 < structSize dxrtDeviceInfoMembers := by decide
  refine ((structBytes_take_eq_iff first second).mp same 30 inside behind).resolve_left ?_
  exact fun assigned => absurd ((deviceInfo_covered 30 inside).mp assigned) (Nat.lt_irrefl 30)

theorem drvInfoBytes_eq (first second : ByteMemory) : drvInfoBytes first = drvInfoBytes second :=
  structBytes_eq (by decide) first second

theorem bufferMetadataBytes_eq (dspBufMeta : DxrtDspBufferMetadata) (first second : ByteMemory) :
    bufferMetadataBytes dspBufMeta first = bufferMetadataBytes dspBufMeta second := by
  have covered : ∀ address < 8,
      Covered ((memberPlaces dxrtDspBufferMetadataMembers).take 2) address := by decide
  refine structBytes_eq ?_ first second
  exact covered

/-- The first byte of a response is the lowest of its id. -/
theorem responseBytes_head (response : DxrtResponse) {count : Nat} (reaches : 0 < count) :
    ((responseBytes response).take count).head? =
      some (UInt8.ofNat response.reqId.toNat) := by
  have first : (responseBytes response).head? =
      some (UInt8.ofNat (response.reqId.toNat / 256 ^ 0)) := rfl
  rw [List.head?_take, if_neg (Nat.ne_of_gt reaches), first, Nat.pow_zero, Nat.div_one]

/-! ### What the ioctls copy -/

/-- How many bytes of a structure a `copy_to_user` delivers. One that faults delivers the bytes in
front of the fault: `reached` of them, but not all. -/
def delivered (size reached : Nat) (fault : Bool) : Nat :=
  if fault then min reached (size - 1) else size

/-- The same by the target; `none` where the copy is not made. -/
def UserTarget.delivers (size reached : Nat) : UserTarget → Option Nat
  | .null => none
  | .fault => some (delivered size reached true)
  | .writable => some (delivered size reached false)

/-- `dxrt_handle_rt_drv_info_sub`; its first sub-command copies, its second does not. -/
def drvInfoReply (msg : DxrtMessage) (reached : Nat) (stack : ByteMemory) : Option (List UInt8) :=
  if msg.subCmd = drvinfoCmdGetRtInfo then
    (msg.data.target.delivers (structSize dxrtDrvInfoMembers) reached).map fun count =>
      (drvInfoBytes stack).take count
  else none

/-- `dxrt_alloc_buf`, whose `dsp_buf_meta` describes the slot it has reserved, whatever becomes of
the copy. -/
def allocReply (pool : DxrtDspBufferManager) (msg : DxrtMessage) (reached : Nat)
    (stack : ByteMemory) : Option (List UInt8) :=
  (dxrtAllocBuf pool .writable).2.copied.bind fun dspBufMeta =>
    (msg.data.target.delivers (structSize dxrtDspBufferMetadataMembers) reached).map fun count =>
      (bufferMetadataBytes dspBufMeta stack).take count

def Entry.reply (pool : DxrtDspBufferManager) (reached : Nat) (stack : ByteMemory) :
    Entry → Option (List UInt8)
  | .handler .dxrtAllocBuf msg => allocReply pool msg reached stack
  | .handler .dxrtHandleDrvInfo msg => drvInfoReply msg reached stack
  | _ => none

/-- The reply of an operation that is taken as a whole. -/
def FileOp.reply (pool : DxrtDspBufferManager) (reached : Nat) (stack : ByteMemory) :
    FileOp → Option (List UInt8)
  | .devIoctl cmd arg => (dxrtDevIoctl cmd arg).reply pool reached stack
  | _ => none

/-- How many bytes of its structure the operation will copy out, if it is an IDENTIFY_DEVICE with
a target. -/
def FileOp.identifies (reached : Nat) : FileOp → Option Nat
  | .devIoctl cmd arg =>
    match dxrtDevIoctl cmd arg with
    | .handler .dxrtIdentifyDevice msg =>
      msg.data.target.delivers (structSize dxrtDeviceInfoMembers) reached
    | _ => none
  | _ => none

theorem Entry.reply_eq (pool : DxrtDspBufferManager) (reached : Nat) (first second : ByteMemory)
    (entry : Entry) : entry.reply pool reached first = entry.reply pool reached second := by
  cases entry with
  | returns | oops => rfl
  | handler handler msg =>
    cases handler with
    | dxrtAllocBuf =>
      simp only [Entry.reply, allocReply, bufferMetadataBytes_eq _ first second]
    | dxrtHandleDrvInfo =>
      simp only [Entry.reply, drvInfoReply, drvInfoBytes_eq first second]
    | _ => rfl

theorem FileOp.reply_eq (pool : DxrtDspBufferManager) (reached : Nat) (first second : ByteMemory)
    (op : FileOp) : op.reply pool reached first = op.reply pool reached second := by
  cases op with
  | devIoctl cmd arg => exact Entry.reply_eq pool reached first second (dxrtDevIoctl cmd arg)
  | _ => rfl

/-! ### Uninitialised memory in a run -/

/-- The operation with the user's bytes copied into kernel memory that was as it was. -/
def FileOp.onto (memory : ByteMemory) : FileOp → FileOp :=
  FileOp.mapObjects (dxrtDevWriteRequest memory) (dxrtWriteInputRequest memory)

theorem FileOp.blur_onto (memory : ByteMemory) (op : FileOp) : (op.onto memory).blur = op.blur := by
  have write : Object.blur ∘ dxrtDevWriteRequest memory = Object.blur :=
    funext fun _ => Object.blur_store (by decide)
  have input : Object.blur ∘ dxrtWriteInputRequest memory = Object.blur :=
    funext fun _ => Object.blur_store (by decide)
  have mapped : DxrtMessage.mapRequest Object.blur ∘
      DxrtMessage.mapRequest (dxrtWriteInputRequest memory) =
        DxrtMessage.mapRequest Object.blur := by
    funext msg
    simp only [Function.comp, DxrtMessage.mapRequest, UserSource.map_map, input]
  cases op with
  | devWrite node len data =>
    simp only [FileOp.onto, FileOp.blur, FileOp.mapObjects, Option.map_map, write]
  | devIoctl cmd arg =>
    simp only [FileOp.onto, FileOp.blur, FileOp.mapObjects, UserSource.map_map, mapped]
  | _ => rfl

/-- What the cells that lead from `dsp->req_id` to `dx->response` hold, as far as the driver has put
it there: the id itself, what the handler has loaded of it, and the id in the response. -/
structure Known where
  dspReqId : Option UInt32
  loaded : Option UInt32
  response : Option UInt32
deriving DecidableEq, Repr

variable {Client : Type}

def Known.afterMicro (known : Known) : Micro → Known
  | .responseReqId | .response => { known with response := some 0 }
  | _ => known

def Known.afterRun (known : Known) (request : Object) : RunPc → Known
  | .setId => { known with dspReqId := some request.reqId }
  | _ => known

def Known.afterIrq (known : Known) : IrqPc Client → Known
  | .load _ => { known with loaded := known.dspReqId }
  | .store _ _ => { known with response := known.loaded }
  | _ => known

def Known.afterClient (known : Known) : CallPc → Known
  | .program (effect :: _) => known.afterMicro effect
  | _ => known

def Known.after (known : Known) (state : State Client) : Action Client → Known
  | .client own _ => known.afterClient (state.calls own)
  | .run caller => (state.running caller).elim known fun running =>
    known.afterRun running.request running.pc
  | .irq => known.afterIrq state.irq
  | _ => known

theorem Known.after_blur (known : Known) (state : State Client) (action : Action Client) :
    known.after state.blur action = known.after state action := by
  cases action with
  | client client disturbed =>
    show known.afterClient (state.calls client).blur = known.afterClient (state.calls client)
    cases state.calls client <;> rfl
  | run caller =>
    rw [Known.after, Known.after, State.running_blur]
    cases state.running caller with
    | none => rfl
    | some running =>
      obtain ⟨request, pc⟩ := running
      cases pc with
      | setId => simp [Running.blur, RunPc.blur, Known.afterRun]
      | _ => rfl
  | irq =>
    show known.afterIrq state.irq.blur = known.afterIrq state.irq
    cases state.irq <;> rfl
  | _ => rfl

/-- The cells hold what is known of them, and the prior content of `dsp->req_id` otherwise. -/
structure Known.Describes (known : Known) (prior : UInt32) (state : State Client) : Prop where
  dspReqId : state.dx.dsp.reqId = known.dspReqId.getD prior
  loaded : ∀ job value, state.irq = .store job value → value = known.loaded.getD prior
  response : state.dx.response.reqId = known.response.getD prior

namespace Known.Describes

variable {known : Known} {prior : UInt32} {state next : State Client}
  (describes : known.Describes prior state)

include describes

theorem of_same (reqId : next.dx.dsp.reqId = state.dx.dsp.reqId)
    (response : next.dx.response = state.dx.response) (irq : next.irq = state.irq) :
    known.Describes prior next where
  dspReqId := reqId.trans describes.dspReqId
  loaded job value place := describes.loaded job value (irq.symm.trans place)
  response := (congrArg DxrtResponse.reqId response).trans describes.response

theorem irqStep {pc : IrqPc Client} (place : state.irq = pc)
    (moved : state.irqStep pc = some next) : (known.afterIrq pc).Describes prior next := by
  cases pc with
  | idle => cases moved
  | load job =>
    cases moved
    refine ⟨describes.dspReqId, fun _ _ place => ?_, describes.response⟩
    cases place
    exact describes.dspReqId
  | store job value =>
    cases moved
    exact ⟨describes.dspReqId, fun _ _ place => (by cases place), describes.loaded job value place⟩
  | _ =>
    cases moved
    exact ⟨describes.dspReqId, fun _ _ place => (by cases place), describes.response⟩

theorem runStep [DecidableEq Client] {caller : Caller Client}
    (moved : state.runStep caller = some next) :
    (known.after state (.run caller)).Describes prior next := by
  obtain ⟨request, pc, inside, -, rfl⟩ := State.runStep_eq_some moved
  rw [Known.after, inside]
  by_cases setId : pc = .setId
  · subst setId
    exact ⟨rfl, describes.loaded, describes.response⟩
  · have effect : (runEffect request state.dx.dsp pc).reqId = state.dx.dsp.reqId := by
      by_cases lock : pc = .lock
      · rw [lock]
        rfl
      · obtain ⟨sram, effect⟩ := runEffect_sram request state.dx.dsp lock setId
        rw [effect]
    have kept : known.afterRun request pc = known := by
      cases pc with
      | setId => exact absurd rfl setId
      | _ => rfl
    show (known.afterRun request pc).Describes prior _
    rw [kept]
    exact describes.of_same effect rfl rfl

theorem outputStep [DecidableEq Client] {client : Client} {disturbed : Bool} {pc : OutputPc}
    (moved : state.outputStep client disturbed pc = some next) : known.Describes prior next := by
  cases pc with
  | test | clear =>
    cases moved
    exact describes.of_same rfl rfl rfl
  | wait =>
    rw [State.outputStep] at moved
    split at moved
    · cases moved
      exact describes.of_same rfl rfl rfl
    · split at moved <;> cases moved
      exact describes.of_same rfl rfl rfl
  | take =>
    rw [State.outputStep] at moved
    split at moved
    · cases moved
    · split at moved
      · cases moved
        exact describes.of_same rfl rfl rfl
      · split at moved <;> cases moved <;> exact describes.of_same rfl rfl rfl

theorem clientStep [DecidableEq Client] {client : Client} {disturbed : Bool} {call : CallPc}
    (moved : state.clientStep client disturbed call = some next) :
    (known.afterClient call).Describes prior next := by
  cases call with
  | idle => cases moved
  | queue | wake =>
    cases moved
    exact describes.of_same rfl rfl rfl
  | input request pc =>
    cases pc <;> cases moved
    exact describes.of_same rfl rfl rfl
  | program steps =>
    cases steps with
    | nil =>
      cases moved
      exact describes.of_same rfl rfl rfl
    | cons effect rest =>
      rw [State.clientStep] at moved
      split at moved <;> cases moved
      cases effect with
      | responseReqId | response => exact ⟨describes.dspReqId, describes.loaded, rfl⟩
      | _ => exact describes.of_same rfl rfl rfl
  | output pc => exact describes.outputStep moved

/-- What is known is carried along by every step. -/
theorem step [DecidableEq Client] {action : Action Client}
    (moved : state.step action = some next) : (known.after state action).Describes prior next := by
  cases action with
  | write client node len data =>
    obtain ⟨-, rfl⟩ := State.whenIdle_eq_some moved
    rw [State.beginWrite]
    split <;> exact describes.of_same rfl rfl rfl
  | writeInput client data | readOutput client data =>
    obtain ⟨-, rfl⟩ := State.whenIdle_eq_some moved
    cases data <;> exact describes.of_same rfl rfl rfl
  | program client steps =>
    rw [State.step] at moved
    split at moved
    · obtain ⟨-, rfl⟩ := State.whenIdle_eq_some moved
      exact describes.of_same rfl rfl rfl
    · cases moved
  | writeMem client data source =>
    obtain ⟨-, rfl⟩ := State.whenIdle_eq_some moved
    exact describes.of_same (dxrtWriteMem_registers state.dx data source).2
      (dxrtWriteMem_mailbox state.dx data source).2 rfl
  | poll client =>
    obtain ⟨-, rfl⟩ := State.whenIdle_eq_some moved
    exact describes.of_same rfl rfl rfl
  | read client len fault =>
    obtain ⟨-, rfl⟩ := State.whenIdle_eq_some moved
    rw [State.readStep]
    split <;> exact describes.of_same rfl rfl rfl
  | client client disturbed => exact describes.clientStep moved
  | run caller => exact describes.runStep moved
  | thread =>
    obtain ⟨thread, requests, rfl⟩ := State.threadStep_eq_some moved
    exact describes.of_same rfl rfl rfl
  | stop =>
    cases moved
    exact describes.of_same rfl rfl rfl
  | complete job =>
    obtain ⟨-, rfl⟩ := State.complete_eq_some moved
    exact describes.of_same rfl rfl rfl
  | interrupt job =>
    obtain ⟨-, -, rfl⟩ := State.interrupt_eq_some moved
    exact ⟨describes.dspReqId, fun _ _ place => (by cases place), describes.response⟩
  | irq => exact describes.irqStep rfl moved

end Known.Describes

/-! ### The kernel -/

/-- The driver's files with how much of its structure each client inside an IDENTIFY_DEVICE will
copy out, and with what is known of the cells. -/
structure Kernel (Client : Type) where
  files : Files Client
  identifying : Client → Option Nat
  known : Known

/-- An operation that a client enters, a step of the driver, or an interrupt that no request has
caused. `reached` is how many bytes a copy to the user delivers before it faults, if it does. -/
inductive KernelAction (Client : Type)
  | enter (client : Client) (op : FileOp) (reached : Nat)
  | driver (action : Action Client) (reached : Nat)
  | spurious (job : Job Client)

/-- The action begins a call. -/
def Action.enters : Action Client → Bool
  | .write .. | .writeInput .. | .program .. | .readOutput .. | .writeMem .. => true
  | .poll _ | .read .. | .client .. | .run _ | .thread | .stop | .complete _ | .interrupt _
  | .irq => false

namespace Kernel

variable [DecidableEq Client]

def enter (kernel : Kernel Client) (client : Client) (op : FileOp) (reached : Nat)
    (memory : ByteMemory) : Option (Kernel Client) :=
  (kernel.files.step (.enter client (op.onto memory))).map fun files =>
    { kernel with
      files
      identifying := Function.update kernel.identifying client (op.identifies reached) }

/-- A step of the driver; calls are begun by `enter` only. -/
def drive (kernel : Kernel Client) (action : Action Client) : Option (Kernel Client) :=
  if action.enters then none
  else (kernel.files.act action).map fun files =>
    { kernel with files, known := kernel.known.after kernel.files.driver action }

/-- The handler is entered without a request. -/
def spurious (kernel : Kernel Client) (job : Job Client) : Option (Kernel Client) :=
  match kernel.files.driver.irq with
  | .idle =>
    some { kernel with files := { kernel.files with
      driver := { kernel.files.driver with irq := .status0 job } } }
  | _ => none

/-- A step, with the uninitialised memory it finds on the stack or is given by `kmalloc`. -/
def step (kernel : Kernel Client) : KernelAction Client × ByteMemory → Option (Kernel Client)
  | (.enter client op reached, memory) => kernel.enter client op reached memory
  | (.driver action _, _) => kernel.drive action
  | (.spurious job, _) => kernel.spurious job

/-- The structure a client's next step copies to the user, at its program point. -/
def clientReply (kernel : Kernel Client) (client : Client) (disturbed : Bool) (reached : Nat)
    (stack : ByteMemory) : CallPc → Option (List UInt8)
  | .program [] =>
    (kernel.identifying client).map fun count =>
      (deviceInfoBytes kernel.files.driver.dx stack).take count
  | .output .take =>
    kernel.files.driver.dx.responses.head?.map fun response =>
      (responseBytes response).take (delivered sizeofDxrtResponse reached disturbed)
  | _ => none

/-- `dxrt_dev_read` comes to its copy, whatever becomes of it, if the buffer is said to be long
enough. -/
def readReply (kernel : Kernel Client) (len : Nat) (fault : Bool) (reached : Nat) :
    Option (List UInt8) :=
  (dxrtDevRead kernel.files.driver.dx len false).toOption.map fun response =>
    (responseBytes response).take (delivered sizeofDxrtResponse reached fault)

/-- The bytes that an enabled step copies to the user. -/
def copied (kernel : Kernel Client) : KernelAction Client × ByteMemory → Option (List UInt8)
  | (.enter _ op reached, stack) => op.reply kernel.files.pool reached stack
  | (.driver (.client client disturbed) reached, stack) =>
    kernel.clientReply client disturbed reached stack (kernel.files.driver.calls client)
  | (.driver (.read _ len fault) reached, _) => kernel.readReply len fault reached
  | _ => none

def reply (kernel : Kernel Client) (action : KernelAction Client × ByteMemory) :
    Option (List UInt8) :=
  (kernel.step action).bind fun _ => kernel.copied action

/-- The step is neither the copy of an IDENTIFY_DEVICE beyond the bytes that are assigned, nor the
copy of a byte of an id of unknown origin by a `read()`. -/
def Clean (kernel : Kernel Client) : KernelAction Client × ByteMemory → Prop
  | (.driver (.client client _) _, _) =>
    kernel.files.driver.calls client = .program [] →
      ∀ count, kernel.identifying client = some count → count ≤ 30
  | (.driver (.read _ len fault) reached, _) =>
    sizeofDxrtResponse ≤ len → 0 < delivered sizeofDxrtResponse reached fault →
      kernel.known.response ≠ none
  | _ => True

end Kernel

/-- The prior contents of `struct dxdsp` and of the memory that each step finds. -/
structure Prior where
  reqId : UInt32
  irqEvent : Bool
  memory : Nat → ByteMemory

def Prior.onto (prior : Prior) (actions : List (KernelAction Client)) :
    List (KernelAction Client × ByteMemory) :=
  actions.zipIdx.map fun (action, i) => (action, prior.memory i)

variable [DecidableEq Client]

/-- The kernel behind a successful probe. -/
def Kernel.initial (dsp : Dxdsp) (prior : Prior) : Kernel Client where
  files := Files.initial { dsp with reqId := prior.reqId, irqEvent := prior.irqEvent }
  identifying := fun _ => none
  known := { dspReqId := none, loaded := none, response := some 0 }

def kernel (Client : Type) [DecidableEq Client] :
    Machine (Kernel Client) (KernelAction Client × ByteMemory) where
  start kernel := ∃ dsp prior, kernel = Kernel.initial dsp prior
  step := Kernel.step

/-- Everything that a list of actions copies to the user, in order. -/
def replies (dsp : Dxdsp) (prior : Prior) (actions : List (KernelAction Client)) :
    List (List UInt8) :=
  (kernel Client).notes Kernel.reply (Kernel.initial dsp prior) (prior.onto actions)

/-! ### Two runs -/

namespace Kernel

def blur (kernel : Kernel Client) : Kernel Client := { kernel with files := kernel.files.blur }

omit [DecidableEq Client] in
theorem map_blur (moved : Option (Files Client)) (identifying : Client → Option Nat)
    (known : Known) :
    (moved.map fun files => ({ files, identifying, known } : Kernel Client)).map blur =
      (moved.map Files.blur).map fun files => { files, identifying, known } := by
  cases moved <;> rfl

theorem blur_enter (kernel : Kernel Client) (client : Client) (op : FileOp) (reached : Nat)
    (memory other : ByteMemory) :
    (kernel.enter client op reached memory).map blur =
      (kernel.blur.enter client op reached other).map blur := by
  have own := Files.blur_step_enter kernel.files client (op.onto memory)
  have blurred := Files.blur_step_enter kernel.files.blur client (op.onto other)
  rw [FileOp.blur_onto] at own blurred
  rw [Files.blur_blur] at blurred
  rw [enter, enter, map_blur, map_blur, own, ← blurred]
  rfl

theorem blur_drive (kernel : Kernel Client) (action : Action Client) :
    (kernel.drive action).map blur = (kernel.blur.drive action).map blur := by
  rw [drive, drive]
  split
  · rfl
  · next inside =>
    have plain : action.blur = action := by
      cases action with
      | write | writeInput => exact absurd rfl inside
      | _ => rfl
    have known : kernel.blur.known.after kernel.blur.files.driver action =
        kernel.known.after kernel.files.driver action :=
      kernel.known.after_blur kernel.files.driver action
    have stepped := Files.blur_act kernel.files action
    rw [plain] at stepped
    rw [map_blur, map_blur, known, stepped]
    rfl

omit [DecidableEq Client] in
theorem blur_spurious (kernel : Kernel Client) (job : Job Client) :
    (kernel.spurious job).map blur = (kernel.blur.spurious job).map blur := by
  have irq : kernel.blur.files.driver.irq = kernel.files.driver.irq.blur := rfl
  rw [spurious, spurious, irq]
  cases kernel.files.driver.irq with
  | idle => simp [IrqPc.blur, blur, Files.blur, State.blur]
  | _ => rfl

/-- A step of the blurred kernel is the blurred step, whatever memory either of them finds. -/
theorem blur_step (kernel : Kernel Client) (action : KernelAction Client)
    (memory other : ByteMemory) :
    (kernel.step (action, memory)).map blur = (kernel.blur.step (action, other)).map blur := by
  cases action with
  | enter client op reached => exact blur_enter kernel client op reached memory other
  | driver action => exact blur_drive kernel action
  | spurious job => exact blur_spurious kernel job

/-! ### What is known in a run -/

/-- The cells of the kernel hold what is known of them, and this prior content otherwise. -/
def Described (prior : UInt32) (kernel : Kernel Client) : Prop :=
  kernel.known.Describes prior kernel.files.driver

section Steps

variable {prior : UInt32} {kernel next : Kernel Client} (described : kernel.Described prior)

include described

theorem described_act {action : Action Client} {files : Files Client}
    (moved : kernel.files.act action = some files) :
    (kernel.known.after kernel.files.driver action).Describes prior files.driver :=
  Known.Describes.step described (Files.act_eq_some moved)

theorem described_enterHandler {client : Client} {msg : DxrtMessage} {handler : Handler}
    {files : Files Client} (moved : kernel.files.enterHandler client msg handler = some files) :
    kernel.known.Describes prior files.driver := by
  cases handler with
  | dxrtIdentifyDevice | dxrtWriteMem | dxrtWriteInput | dxrtReadOutput | dxrtTerminate
  | dxrtResetDevice | dxrtRecoveryDevice => exact described_act described moved
  | _ =>
    cases moved
    exact described

theorem described_enterFiles {client : Client} {op : FileOp} {files : Files Client}
    (moved : kernel.files.step (.enter client op) = some files) :
    kernel.known.Describes prior files.driver := by
  rw [Files.step] at moved
  split at moved
  · cases op with
    | devOpen | devWrite => exact described_act described moved
    | devRelease | devMmap =>
      cases moved
      exact described
    | devIoctl cmd arg =>
      rw [Files.enter] at moved
      cases entry : dxrtDevIoctl cmd arg with
      | returns | oops =>
        rw [entry] at moved
        cases moved
        exact described
      | handler handler msg =>
        rw [entry] at moved
        exact described_enterHandler described moved
  · cases moved

theorem described_step {action : KernelAction Client × ByteMemory}
    (moved : kernel.step action = some next) : next.Described prior := by
  obtain ⟨action, memory⟩ := action
  cases action with
  | enter client op =>
    obtain ⟨files, entered, rfl⟩ := Option.map_eq_some_iff.mp moved
    exact described_enterFiles described entered
  | driver action =>
    have driven : kernel.drive action = some next := moved
    rw [drive] at driven
    split at driven
    · cases driven
    · obtain ⟨files, stepped, rfl⟩ := Option.map_eq_some_iff.mp driven
      exact described_act described stepped
  | spurious job =>
    have raised : kernel.spurious job = some next := moved
    rw [spurious] at raised
    split at raised
    · cases raised
      exact ⟨described.dspReqId, fun _ _ place => (by cases place), described.response⟩
    · cases raised

end Steps

/-! ### Two runs side by side -/

/-- Two kernels that agree up to uninitialised memory, each with its own prior content. -/
structure Related (prior other : UInt32) (first second : Kernel Client) : Prop where
  blurred : first.blur = second.blur
  first : first.Described prior
  second : second.Described other

/-- Steps of one action that find memory related in some way. -/
def Alike (Finds : ByteMemory → ByteMemory → Prop)
    (own other : KernelAction Client × ByteMemory) : Prop :=
  own.1 = other.1 ∧ Finds own.2 other.2

theorem lockstep (prior other : UInt32) (Finds : ByteMemory → ByteMemory → Prop) :
    (kernel Client).Lockstep (Related prior other) (Alike Finds) := by
  rintro first second ⟨action, memory⟩ ⟨_, found⟩ related ⟨rfl, -⟩
  have own := blur_step first action memory memory
  have others := blur_step second action found memory
  rw [related.blurred, ← others] at own
  show Option.Rel _ (first.step (action, memory)) (second.step (action, found))
  cases moved : first.step (action, memory) with
  | none =>
    rw [moved] at own
    rw [Option.map_eq_none_iff.mp own.symm]
    exact .none
  | some next =>
    rw [moved] at own
    obtain ⟨last, stepped, same⟩ := Option.map_eq_some_iff.mp own.symm
    rw [stepped]
    exact .some ⟨same.symm, described_step related.first moved,
      described_step related.second stepped⟩

omit [DecidableEq Client] in
/-- What a client's step copies is seen on the blurred kernel. -/
theorem clientReply_blur (kernel : Kernel Client) (client : Client) (disturbed : Bool)
    (reached : Nat) (stack : ByteMemory) :
    kernel.clientReply client disturbed reached stack (kernel.files.driver.calls client) =
      kernel.blur.clientReply client disturbed reached stack
        (kernel.blur.files.driver.calls client) := by
  show _ = kernel.blur.clientReply client disturbed reached stack
    (kernel.files.driver.calls client).blur
  cases kernel.files.driver.calls client <;> rfl

omit [DecidableEq Client] in
theorem clientReply_identify {kernel : Kernel Client} {client : Client} {count : Nat}
    (identifying : kernel.identifying client = some count) (disturbed : Bool) (reached : Nat)
    (stack : ByteMemory) :
    kernel.clientReply client disturbed reached stack (.program []) =
      some ((deviceInfoBytes kernel.files.driver.dx stack).take count) := by
  rw [clientReply, identifying]
  rfl

omit [DecidableEq Client] in
/-- Only the copy of an IDENTIFY_DEVICE shows the stack. -/
theorem clientReply_stack (kernel : Kernel Client) (client : Client) (disturbed : Bool)
    (reached : Nat) (memory other : ByteMemory) (call : CallPc) :
    kernel.clientReply client disturbed reached memory call =
        kernel.clientReply client disturbed reached other call ∨
      call = .program [] ∧ ∃ count, kernel.identifying client = some count := by
  cases call with
  | program steps =>
    cases steps with
    | nil =>
      cases identifying : kernel.identifying client with
      | none => exact Or.inl (by simp [clientReply, identifying])
      | some count => exact Or.inr ⟨rfl, count, rfl⟩
    | cons => exact Or.inl rfl
  | output pc => cases pc <;> exact Or.inl rfl
  | _ => exact Or.inl rfl

omit [DecidableEq Client] in
theorem clientReply_isSome (kernel : Kernel Client) (client : Client) (disturbed : Bool)
    (reached : Nat) (memory other : ByteMemory) (call : CallPc) :
    (kernel.clientReply client disturbed reached memory call).isSome =
      (kernel.clientReply client disturbed reached other call).isSome := by
  rcases clientReply_stack kernel client disturbed reached memory other call with
    same | ⟨rfl, count, identifying⟩
  · rw [same]
  · rw [clientReply_identify identifying, clientReply_identify identifying]
    rfl

omit [DecidableEq Client] in
theorem readReply_eq (kernel : Kernel Client) (len : Nat) (fault : Bool) (reached : Nat) :
    kernel.readReply len fault reached =
      if sizeofDxrtResponse ≤ len then
        some ((responseBytes kernel.files.driver.dx.response).take
          (delivered sizeofDxrtResponse reached fault))
      else none := by
  by_cases small : len < sizeofDxrtResponse
  · rw [readReply, dxrtDevRead, if_pos small, if_neg (Nat.not_le.mpr small)]
    rfl
  · rw [readReply, dxrtDevRead, if_neg small, if_pos (Nat.not_lt.mp small)]
    rfl

section Replies

variable {prior other : UInt32} {first second : Kernel Client}
  (related : Related prior other first second)

include related

omit [DecidableEq Client] in
theorem Related.known_eq : second.known = first.known :=
  (congrArg Kernel.known related.blurred).symm

omit [DecidableEq Client] in
theorem Related.response_eq (known : first.known.response ≠ none) :
    first.files.driver.dx.response = second.files.driver.dx.response := by
  have rest : ({ first.files.driver.dx.response with reqId := 0 } : DxrtResponse) =
      { second.files.driver.dx.response with reqId := 0 } :=
    congrArg (fun kernel => kernel.files.driver.dx.response) related.blurred
  have reqId : first.files.driver.dx.response.reqId = second.files.driver.dx.response.reqId := by
    rw [related.first.response, related.second.response, related.known_eq]
    obtain ⟨value, same⟩ := Option.ne_none_iff_exists'.mp known
    rw [same]
    rfl
  have whole := congrArg (fun response : DxrtResponse =>
    { response with reqId := first.files.driver.dx.response.reqId }) rest
  exact whole.trans (by rw [reqId])

omit [DecidableEq Client] in
theorem Related.clientReply_eq (client : Client) (disturbed : Bool) (reached : Nat)
    (stack : ByteMemory) :
    first.clientReply client disturbed reached stack (first.files.driver.calls client) =
      second.clientReply client disturbed reached stack (second.files.driver.calls client) := by
  rw [clientReply_blur first, related.blurred, ← clientReply_blur second]

omit [DecidableEq Client] in
/-- A clean step copies the same bytes in both runs. -/
theorem copied_eq {action : KernelAction Client} {memory found : ByteMemory}
    (clean : first.Clean (action, memory)) :
    first.copied (action, memory) = second.copied (action, found) := by
  cases action with
  | enter client op reached =>
    have pool : first.files.pool = second.files.pool :=
      congrArg (fun kernel => kernel.files.pool) related.blurred
    rw [copied, copied, pool]
    exact FileOp.reply_eq second.files.pool reached memory found op
  | spurious job => rfl
  | driver action reached =>
    cases action with
    | client client disturbed =>
      rw [copied, copied, ← related.clientReply_eq]
      rcases clientReply_stack first client disturbed reached memory found
        (first.files.driver.calls client) with same | ⟨atCopy, count, identifying⟩
      · exact same
      · rw [atCopy, clientReply_identify identifying, clientReply_identify identifying,
          deviceInfoBytes_take_eq (clean atCopy count identifying) memory found]
    | read client len fault =>
      rw [copied, copied, readReply_eq, readReply_eq]
      split
      · next large =>
        rcases Nat.eq_zero_or_pos (delivered sizeofDxrtResponse reached fault) with none | reaches
        · rw [none, List.take_zero, List.take_zero]
        · rw [related.response_eq (clean large reaches)]
      · rfl
    | _ => rfl

omit [DecidableEq Client] in
/-- Both runs copy something or nothing. -/
theorem copied_isSome (action : KernelAction Client) (memory found : ByteMemory) :
    (first.copied (action, memory)).isSome = (second.copied (action, found)).isSome := by
  cases action with
  | enter client op reached =>
    have clean : first.Clean (.enter client op reached, memory) := trivial
    rw [copied_eq related clean]
  | spurious job => rfl
  | driver action reached =>
    cases action with
    | client client disturbed =>
      rw [copied, copied, ← related.clientReply_eq]
      exact clientReply_isSome first client disturbed reached memory found _
    | read client len fault =>
      rw [copied, copied, readReply_eq, readReply_eq]
      split <;> rfl
    | _ => rfl

omit [DecidableEq Client] in
/-- A step that is not clean copies different bytes, where the prior contents differ. -/
theorem clean_of_copied_eq {action : KernelAction Client} {memory found : ByteMemory}
    (apartId : UInt8.ofNat prior.toNat ≠ UInt8.ofNat other.toNat)
    (apart : memory 30 ≠ found 30)
    (same : first.copied (action, memory) = second.copied (action, found)) :
    first.Clean (action, memory) := by
  cases action with
  | enter | spurious => exact trivial
  | driver action reached =>
    cases action with
    | client client disturbed =>
      intro atCopy count identifying
      by_contra behind
      rw [copied, copied, ← related.clientReply_eq, atCopy, clientReply_identify identifying,
        clientReply_identify identifying, Option.some_inj] at same
      exact apart (deviceInfoBytes_take_stack (Nat.not_le.mp behind) same)
    | read client len fault =>
      intro large reaches unknown
      rw [copied, copied, readReply_eq, readReply_eq, if_pos large, if_pos large,
        Option.some_inj] at same
      have head := congrArg List.head? same
      rw [responseBytes_head _ reaches, responseBytes_head _ reaches, related.first.response,
        related.second.response, related.known_eq, unknown] at head
      exact apartId (Option.some_inj.mp head)
    | _ => exact trivial

end Replies

/-! ### Replies -/

section Notes

variable {prior other : UInt32} {Finds : ByteMemory → ByteMemory → Prop}
  {first second : Kernel Client} (related : Related prior other first second)
  {own found : KernelAction Client × ByteMemory} (alike : Alike Finds own found)

include related alike

/-- The step is enabled in both runs or in neither. -/
theorem reply_cases :
    ((kernel Client).step first own = none ∧ first.reply own = none ∧ second.reply found = none) ∨
      ∃ next, (kernel Client).step first own = some next ∧
        first.reply own = first.copied own ∧ second.reply found = second.copied found := by
  have together := lockstep prior other Finds related alike
  rw [reply, reply]
  show _ ∧ ((kernel Client).step first own).bind _ = _ ∧
      ((kernel Client).step second found).bind _ = _ ∨ ∃ _, _ ∧
        ((kernel Client).step first own).bind _ = _ ∧ ((kernel Client).step second found).bind _ = _
  generalize (kernel Client).step first own = next at together ⊢
  generalize (kernel Client).step second found = last at together ⊢
  cases together with
  | none => exact Or.inl ⟨rfl, rfl, rfl⟩
  | some => exact Or.inr ⟨_, rfl, rfl, rfl⟩

theorem reply_eq (clean : ∀ next, (kernel Client).step first own = some next → first.Clean own) :
    first.reply own = second.reply found := by
  obtain ⟨action, memory⟩ := own
  obtain ⟨_, behind⟩ := found
  rcases reply_cases related alike with ⟨-, none, others⟩ | ⟨next, moved, copies, others⟩
  · rw [none, others]
  · obtain ⟨rfl, -⟩ := alike
    rw [copies, others, copied_eq related (clean next moved)]

theorem reply_isSome : (first.reply own).isSome = (second.reply found).isSome := by
  obtain ⟨action, memory⟩ := own
  obtain ⟨_, behind⟩ := found
  rcases reply_cases related alike with ⟨-, none, others⟩ | ⟨next, moved, copies, others⟩
  · rw [none, others]
  · obtain ⟨rfl, -⟩ := alike
    rw [copies, others, copied_isSome related]

theorem clean_of_reply_eq {next : Kernel Client}
    (apartId : UInt8.ofNat prior.toNat ≠ UInt8.ofNat other.toNat)
    (apart : ∀ memory found, Finds memory found → memory 30 ≠ found 30)
    (moved : (kernel Client).step first own = some next)
    (same : first.reply own = second.reply found) : first.Clean own := by
  obtain ⟨action, memory⟩ := own
  obtain ⟨_, behind⟩ := found
  rcases reply_cases related alike with ⟨stuck, -⟩ | ⟨next, -, copies, others⟩
  · exact absurd (stuck.symm.trans moved) (by simp)
  · obtain ⟨rfl, finds⟩ := alike
    rw [copies, others] at same
    exact clean_of_copied_eq related apartId (apart _ _ finds) same

end Notes

end Kernel

/-! ### Runs -/

/-- Whatever the prior contents are, the same operations get the same replies. -/
def RepliesAgree (dsp : Dxdsp) (actions : List (KernelAction Client)) : Prop :=
  ∀ first second : Prior, replies dsp first actions = replies dsp second actions

omit [DecidableEq Client] in
theorem described_initial (dsp : Dxdsp) (prior : Prior) :
    (Kernel.initial dsp prior : Kernel Client).Described prior.reqId :=
  ⟨rfl, fun _ _ place => (by cases place), rfl⟩

omit [DecidableEq Client] in
theorem alike_onto {Finds : ByteMemory → ByteMemory → Prop} {first second : Prior}
    (finds : ∀ i, Finds (first.memory i) (second.memory i))
    (actions : List (KernelAction Client)) :
    List.Forall₂ (Kernel.Alike Finds) (first.onto actions) (second.onto actions) := by
  rw [Prior.onto, Prior.onto, List.forall₂_map_left_iff, List.forall₂_map_right_iff,
    List.forall₂_same]
  exact fun (action, i) _ => ⟨rfl, finds i⟩

omit [DecidableEq Client] in
theorem related_initial (dsp : Dxdsp) (first second : Prior) :
    Kernel.Related first.reqId second.reqId (Kernel.initial dsp first : Kernel Client)
      (Kernel.initial dsp second) where
  blurred := rfl
  first := described_initial dsp first
  second := described_initial dsp second

/-- Other prior contents, byte by byte. -/
def Prior.another (prior : Prior) : Prior where
  reqId := prior.reqId + 1
  irqEvent := prior.irqEvent
  memory := fun i address => prior.memory i address + 1

/-- The replies of a run do not depend on uninitialised memory exactly when none of its steps is
the copy of an IDENTIFY_DEVICE that reaches byte 30 of its structure, or a `read()` that delivers a
byte of an id that the handler loaded from `dsp->req_id` before any run had stored one there. -/
theorem replies_agree_iff (dsp : Dxdsp) (actions : List (KernelAction Client)) :
    RepliesAgree dsp actions ↔
      ∀ prior : Prior, (kernel Client).StepsMeet Kernel.Clean (Kernel.initial dsp prior)
        (prior.onto actions) := by
  constructor
  · intro agree prior
    have apartId : UInt8.ofNat prior.reqId.toNat ≠ UInt8.ofNat prior.another.reqId.toNat := by
      intro same
      have low := congrArg UInt8.toNat same
      rw [Prior.another, UInt32.toNat_add, UInt8.toNat_ofNat', UInt8.toNat_ofNat'] at low
      have one : (1 : UInt32).toNat = 1 := rfl
      omega
    have apart : ∀ i address, prior.memory i address ≠ prior.another.memory i address := by
      intro i address same
      have low := congrArg UInt8.toNat same
      rw [Prior.another, UInt8.toNat_add] at low
      have one : (1 : UInt8).toNat = 1 := rfl
      have bound := (prior.memory i address).toNat_lt
      omega
    have tells := @Kernel.lockstep Client _ prior.reqId prior.another.reqId
      fun memory found => memory 30 ≠ found 30
    exact tells.stepsMeet_of_notes_eq
      (fun _ _ _ _ related alike => Kernel.reply_isSome related alike)
      (fun _ _ _ _ _ related alike => Kernel.clean_of_reply_eq related alike apartId fun _ _ => id)
      (related_initial dsp prior prior.another) (alike_onto (fun i => apart i 30) actions)
      (agree prior prior.another)
  · intro clean first second
    have together := @Kernel.lockstep Client _ first.reqId second.reqId fun _ _ => True
    exact together.notes_eq
      (fun _ _ _ _ related alike clean => Kernel.reply_eq related alike clean)
      (related_initial dsp first second) (alike_onto (fun _ => trivial) actions) (clean first)

/-! ### Runs on the board -/

/-- Memory that held one byte everywhere. -/
def Prior.filled (byte : UInt8) : Prior where
  reqId := byte.toUInt32
  irqEvent := false
  memory := fun _ _ => byte

/-- An IDENTIFY_DEVICE, up to its copy. -/
def identifiesOnce (target : UserTarget) (reached : Nat) : List (KernelAction (Fin 1)) :=
  .enter 0 (.devIoctl dxrtIoctlMessage (.holds
    { cmd := 0
      subCmd := 0
      data :=
        { request := .null
          reqMeminfo := .null
          meminfo := .null
          bufferMetadata := .null
          target
          transfer := {} } })) reached ::
    List.replicate 6 (.driver (.client 0 false) 0)

/-- An interrupt before the first request, handled up to the end, and a `read()`. -/
def readsEarly (fault : Bool) (reached : Nat) : List (KernelAction (Fin 1)) :=
  .spurious ⟨.thread, 0⟩ :: List.replicate 9 (.driver .irq 0) ++
    [.driver (.read 0 40 fault) reached]

/-- Two fillings of the memory that are seen in the replies. -/
theorem not_repliesAgree {actions : List (KernelAction (Fin 1))} {view : List UInt8 → List UInt8}
    {zeroes sevens : List (List UInt8)}
    (first : (replies boardDsp (.filled 0) actions).map view = zeroes)
    (second : (replies boardDsp (.filled 7) actions).map view = sevens) (apart : zeroes ≠ sevens) :
    ¬ RepliesAgree boardDsp actions := by
  intro agree
  rw [agree (.filled 0) (.filled 7), second] at first
  exact apart first.symm

/-- IDENTIFY_DEVICE shows ten bytes of the stack, or four of them where its copy faults behind byte
33, and an early `read()` what `kmalloc` returned, or the lowest byte of it. -/
theorem replies_differ :
    (¬ RepliesAgree boardDsp (identifiesOnce .writable 0) ∧
      (replies boardDsp (.filled 7) (identifiesOnce .writable 0)).map (List.drop 30) =
        [List.replicate 10 7]) ∧
    (¬ RepliesAgree boardDsp (identifiesOnce .fault 34) ∧
      (replies boardDsp (.filled 7) (identifiesOnce .fault 34)).map (List.drop 30) =
        [List.replicate 4 7]) ∧
    (¬ RepliesAgree boardDsp (readsEarly false 0) ∧
      (replies boardDsp (.filled 7) (readsEarly false 0)).map (List.take 4) = [[7, 0, 0, 0]]) ∧
    (¬ RepliesAgree boardDsp (readsEarly true 1) ∧
      (replies boardDsp (.filled 7) (readsEarly true 1)).map id = [[7]]) := by
  have whole : (replies boardDsp (.filled 7) (identifiesOnce .writable 0)).map (List.drop 30) =
      [List.replicate 10 7] := by decide +kernel
  have part : (replies boardDsp (.filled 7) (identifiesOnce .fault 34)).map (List.drop 30) =
      [List.replicate 4 7] := by decide +kernel
  have read : (replies boardDsp (.filled 7) (readsEarly false 0)).map (List.take 4) =
      [[7, 0, 0, 0]] := by decide +kernel
  have lowest : (replies boardDsp (.filled 7) (readsEarly true 1)).map id = [[7]] := by
    decide +kernel
  refine ⟨⟨?_, whole⟩, ⟨?_, part⟩, ⟨?_, read⟩, ?_, lowest⟩
  · have zeroes : (replies boardDsp (.filled 0) (identifiesOnce .writable 0)).map (List.drop 30) =
        [List.replicate 10 0] := by decide +kernel
    exact not_repliesAgree zeroes whole (by decide)
  · have zeroes : (replies boardDsp (.filled 0) (identifiesOnce .fault 34)).map (List.drop 30) =
        [List.replicate 4 0] := by decide +kernel
    exact not_repliesAgree zeroes part (by decide)
  · have zeroes : (replies boardDsp (.filled 0) (readsEarly false 0)).map (List.take 4) =
        [[0, 0, 0, 0]] := by decide +kernel
    exact not_repliesAgree zeroes read (by decide)
  · have zeroes : (replies boardDsp (.filled 0) (readsEarly true 1)).map id = [[0]] := by
      decide +kernel
    exact not_repliesAgree zeroes lowest (by decide)

end DxDsp
