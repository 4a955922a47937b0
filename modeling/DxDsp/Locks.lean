/-
This file is about the four spinlocks of the driver. The operations appear here
with their locks and their user copies in the order of the source. What an
operation finds in each section is given to it from outside, so nothing is assumed
about what other contexts do between its sections.

Every operation leaves its locks and the interrupt flag as it found them, except
READ_OUTPUT when it finds an entry in `dx->responses`: it copies the entry to the
user inside the section of `responses_lock`, and a copy that faults returns from
inside that section.
-/

import DxDsp.Driver
import DxDsp.Ioctl
import DxDsp.Library.LockRecord

namespace DxDsp.Locks

open Library

/-- `requests_lock`, `responses_lock`, `irq_event_lock` and `error_lock`. -/
inductive Spinlock
  | requestsLock
  | responsesLock
  | irqEventLock
  | errorLock
deriving DecidableEq, Repr

abbrev Op := Locking Spinlock

/-! ### User copies -/

/-- `copy_from_user`: the value, unless the copy fails. -/
def copyFromUser {Value : Type} (source : UserSource Value) : Op (Option Value) := do
  userCopy
  match source with
  | .holds value => pure (some value)
  | .null | .fault => pure none

/-- `copy_to_user`: whether the copy fails. -/
def copyToUser (target : UserTarget) : Op Bool := do
  userCopy
  pure (decide (target ≠ .writable))

/-- The first copy of a handler, and the return if it fails. -/
def withCopied {Value : Type} (source : UserSource Value) (next : Value → Op Int) : Op Int := do
  match ← copyFromUser source with
  | none => pure (-efault)
  | some value => next value

/-- A copy of as many bytes as the request asks for: whether it fails. -/
def copyBytes (transfer : UserCopy) : Op Bool := do
  userCopy
  pure transfer.fault

/-! ### Handlers -/

/-- What an operation finds in the device and the pool: the address window, the responses at the
unlocked test of READ_OUTPUT and in its section, the pool in the section of ALLOC and FREE. -/
structure Found where
  dx : Dxdev
  responsesAtTest : List DxrtResponse
  responses : List DxrtResponse
  pool : DxrtDspBufferManager

/-- `dx_v3_dsp_run`, which takes no lock and copies nothing. -/
def dxV3DspRun : Op Int := pure 0

def dxrtIdentifyDevice (target : UserTarget) : Op Int := do
  spinLock .responsesLock
  -- the entries are freed in the section
  spinUnlock .responsesLock
  if target = .null then pure 0
  else
    if ← copyToUser target then pure (-efault)
    else pure 0

/-- The checks and the copy behind the first copy of WRITE_MEM and READ_MEM. -/
def transfer (dx : Dxdev) (meminfo : DxrtReqMeminfo) (transfer : UserCopy) : Op Int :=
  if 2 < meminfo.ch then pure (-einval)
  else if invalidAddress dx meminfo then pure (-einval)
  else do
    if ← copyBytes transfer then pure (-efault)
    else pure 0

def transferHandler (dx : Dxdev) (data : UserSource DxrtReqMeminfo) (user : UserCopy) : Op Int :=
  match data with
  | .null => pure 0
  | .fault | .holds _ => withCopied data fun meminfo => transfer dx meminfo user

def dxrtWriteMem (dx : Dxdev) (data : UserSource DxrtReqMeminfo) (source : UserCopy) : Op Int :=
  transferHandler dx data source

def dxrtReadMem (dx : Dxdev) (data : UserSource DxrtReqMeminfo) (target : UserCopy) : Op Int :=
  transferHandler dx data target

def dxrtCpuCacheFlush (dx : Dxdev) (data : UserSource DxrtMeminfo) : Op Int :=
  match data with
  | .null => pure 0
  | .fault | .holds _ => withCopied data fun meminfo =>
    if flushInvalidAddress dx meminfo then pure (-einval) else pure 0

def dxrtWriteInput (data : UserSource Object) : Op Int :=
  match data with
  | .null => pure 0
  | .fault | .holds _ => withCopied data fun _ => do
    let _ ← dxV3DspRun
    pure 0

/-- The wait of READ_OUTPUT, with the clearing of the event. -/
def waitOutput (responsesAtTest : List DxrtResponse) : Op Unit :=
  if responsesAtTest = [] then do
    let flags ← spinLockIrqsave .irqEventLock
    spinUnlockIrqrestore .irqEventLock flags
  else pure ()

/-- The section of READ_OUTPUT. -/
def takeResponse (responses : List DxrtResponse) (target : UserTarget) : Op Int := do
  let flags ← spinLockIrqsave .responsesLock
  match responses with
  | [] => do
    spinUnlockIrqrestore .responsesLock flags
    pure (-1)
  | _ :: _ => do
    if ← copyToUser target then
      -- the section is not closed
      pure (-efault)
    else do
      spinUnlockIrqrestore .responsesLock flags
      pure 0

def dxrtReadOutput (found : Found) (target : UserTarget) : Op Int :=
  match target with
  | .null => pure (-1)
  | .fault | .writable => do
    waitOutput found.responsesAtTest
    takeResponse found.responses target

def dxrtTerminate : Op Int := do
  let flags ← spinLockIrqsave .irqEventLock
  spinUnlockIrqrestore .irqEventLock flags
  let flags ← spinLockIrqsave .errorLock
  spinUnlockIrqrestore .errorLock flags
  pure 0

def dxrtHandleRtDrvInfoSub (subCmd : Int32) (target : UserTarget) : Op Int :=
  if subCmd = drvinfoCmdGetRtInfo then
    match target with
    | .null => pure 0
    | .fault | .writable => do
      if ← copyToUser target then pure (-efault)
      else pure 0
  else if subCmd = drvinfoCmdGetPcieInfo then pure 0
  else pure (-einval)

/-- The copy of ALLOC, and the section in which a failed copy gives the slot back. -/
def allocReply (target : UserTarget) : Op Int := do
  if ← copyToUser target then do
    let flags ← spinLockIrqsave .irqEventLock
    spinUnlockIrqrestore .irqEventLock flags
    pure (-efault)
  else pure 0

def dxrtAllocBuf (pool : DxrtDspBufferManager) (target : UserTarget) : Op Int :=
  match target with
  | .null => pure (-einval)
  | .fault | .writable => do
    let flags ← spinLockIrqsave .irqEventLock
    match allocReserve pool with
    | none => do
      spinUnlockIrqrestore .irqEventLock flags
      pure (-enomem)
    | some _ => do
      spinUnlockIrqrestore .irqEventLock flags
      allocReply target

/-- The section of FREE. -/
def freeSection (pool : DxrtDspBufferManager) (dspBufMeta : DxrtDspBufferMetadata) : Op Int := do
  let flags ← spinLockIrqsave .irqEventLock
  match freeFind pool dspBufMeta.dspBufOffset with
  | none => do
    spinUnlockIrqrestore .irqEventLock flags
    pure (-einval)
  | some _ => do
    spinUnlockIrqrestore .irqEventLock flags
    pure 0

def dxrtFreeBuf (pool : DxrtDspBufferManager) (data : UserSource DxrtDspBufferMetadata) : Op Int :=
  match data with
  | .null => pure (-einval)
  | .fault | .holds _ => withCopied data fun dspBufMeta => freeSection pool dspBufMeta

/-- The handlers behind the table. -/
def handle (found : Found) (msg : DxrtMessage) : Handler → Op Int
  | .dxrtIdentifyDevice => dxrtIdentifyDevice msg.data.target
  | .dxrtWriteMem => dxrtWriteMem found.dx msg.data.reqMeminfo msg.data.transfer
  | .dxrtReadMem => dxrtReadMem found.dx msg.data.reqMeminfo msg.data.transfer
  | .dxrtCpuCacheFlush => dxrtCpuCacheFlush found.dx msg.data.meminfo
  | .dxrtWriteInput => dxrtWriteInput msg.data.request
  | .dxrtReadOutput => dxrtReadOutput found msg.data.target
  | .dxrtTerminate => dxrtTerminate
  | .dxrtHandleDrvInfo => dxrtHandleRtDrvInfoSub msg.subCmd msg.data.target
  | .dxrtAllocBuf => dxrtAllocBuf found.pool msg.data.target
  | .dxrtFreeBuf => dxrtFreeBuf found.pool msg.data.bufferMetadata
  | .dxrtResetDevice | .dxrtRecoveryDevice => pure 0
  | .dxrtSocCustom | .dxrtMsgGeneral | .dxrtGetLog | .dxrtSchedule => pure 0
  | .dxrtDspRunRequest | .dxrtDspRunResponse => pure (-1)

/-! ### The other operations -/

/-- What an ioctl comes to; `none` is the call through a NULL entry, which does not return. -/
def enterEntry (found : Found) : Entry → Op (Option Int)
  | .returns ret => pure (some ret)
  | .oops => pure none
  | .handler handler msg => some <$> handle found msg handler

def dxrtDevIoctl (cmd : UInt32) (arg : UserSource DxrtMessage) (found : Found) :
    Op (Option Int) :=
  if cmd = dxrtIoctlMessage then do
    let _ ← copyFromUser arg
    enterEntry found (DxDsp.dxrtDevIoctl cmd arg)
  else enterEntry found (DxDsp.dxrtDevIoctl cmd arg)

def dxrtDevRead (len : Nat) (fault : Bool) : Op Int :=
  if len < sizeofDxrtResponse then pure (-einval)
  else do
    userCopy
    if fault then pure (-efault) else pure sizeofDxrtResponse

def dxrtDevWrite (dx : Dxdev) (node : Option Nat) (len : Nat) (data : Option Object) : Op Int :=
  if dx.requestHandler then
    match node with
    | none => pure (-enomem)
    | some _ =>
      if len ≠ sizeofDxrtDspRequest then pure (-einval)
      else do
        userCopy
        match data with
        | none => pure (-efault)
        | some _ => do
          spinLock .requestsLock
          spinUnlock .requestsLock
          pure len
  else pure 0

/-- `dxrt_dev_poll`: whether it reports POLLIN. -/
def dxrtDevPoll (irqEvent : Bool) : Op Bool := do
  let flags ← spinLockIrqsave .irqEventLock
  spinUnlockIrqrestore .irqEventLock flags
  pure irqEvent

def dspIrqHandler : Op Unit := do
  let flags ← spinLockIrqsave .irqEventLock
  spinUnlockIrqrestore .irqEventLock flags

def dxrtIsRequestListEmpty (requests : List DxrtRequestList) : Op Bool := do
  spinLock .requestsLock
  let empty := requests.isEmpty
  spinUnlock .requestsLock
  pure empty

/-- The wait of the request thread, by what each of its tests finds: the requests, and whether the
thread should stop. -/
def waitRequest : List (List DxrtRequestList × Bool) → Op Unit
  | [] => pure ()
  | (requests, shouldStop) :: tests => do
    let empty ← dxrtIsRequestListEmpty requests
    if !empty || shouldStop then pure () else waitRequest tests

/-- What one iteration of the request thread finds. -/
structure Iteration where
  shouldStop : Bool
  tests : List (List DxrtRequestList × Bool)
  shouldStopWoken : Bool
  requests : List DxrtRequestList

/-- One iteration of `dxrt_request_handler`: the entry it has run and freed. -/
def requestIteration (found : Iteration) : Op (Option DxrtRequestList) :=
  if found.shouldStop then pure none
  else do
    waitRequest found.tests
    if found.shouldStopWoken then pure none
    else do
      spinLock .requestsLock
      let entry := found.requests.head?
      spinUnlock .requestsLock
      let _ ← dxV3DspRun
      spinLock .requestsLock
      spinUnlock .requestsLock
      pure entry

/-! ### Operations -/

/-- An operation with all it is given and finds. `open`, `release` and `mmap` are not here: they
take no lock and copy nothing. -/
inductive Operation
  | devIoctl (cmd : UInt32) (arg : UserSource DxrtMessage) (found : Found)
  | devRead (len : Nat) (fault : Bool)
  | devWrite (dx : Dxdev) (node : Option Nat) (len : Nat) (data : Option Object)
  | devPoll (irqEvent : Bool)
  | irqHandler
  | requestIteration (found : Iteration)

namespace Operation

/-- The record in which an operation begun in a record returns. -/
def exit (record : LockRecord Spinlock) : Operation → LockRecord Spinlock
  | .devIoctl cmd arg found => (dxrtDevIoctl cmd arg found record).2
  | .devRead len fault => (dxrtDevRead len fault record).2
  | .devWrite dx node len data => (dxrtDevWrite dx node len data record).2
  | .devPoll irqEvent => (dxrtDevPoll irqEvent record).2
  | .irqHandler => (dspIrqHandler record).2
  | .requestIteration found => (Locks.requestIteration found record).2

/-- The record of a context that has just entered the driver. -/
def entry (irqsEnabled : Bool) : LockRecord Spinlock where
  held := []
  irqsEnabled := irqsEnabled
  orderly := true

/-- The operation returns with its locks and the interrupt flag as on entry, and has on the way
taken no lock while it held another and made no user copy while it held one. -/
structure Disciplined (operation : Operation) (irqsEnabled : Bool) : Prop where
  held : (operation.exit (entry irqsEnabled)).held = (entry irqsEnabled).held
  irqs : (operation.exit (entry irqsEnabled)).irqsEnabled = (entry irqsEnabled).irqsEnabled
  orderly : (operation.exit (entry irqsEnabled)).orderly = true

/-- A READ_OUTPUT with a buffer that finds an entry in the section of `responses_lock`. -/
def PopsResponse : Operation → Prop
  | .devIoctl cmd arg found =>
    ∃ msg, DxDsp.dxrtDevIoctl cmd arg = .handler .dxrtReadOutput msg ∧
      msg.data.target ≠ .null ∧ found.responses ≠ []
  | _ => False

end Operation

/-! ### What leaves the record as it is -/

theorem restores_copyFromUser {Value : Type} (source : UserSource Value) :
    Restores (copyFromUser source) := by
  refine restores_userCopy.bind fun _ => ?_
  cases source <;> exact restores_pure _

theorem restores_copyToUser (target : UserTarget) : Restores (copyToUser target) :=
  restores_userCopy.bind fun _ => restores_pure _

theorem restores_copyBytes (transfer : UserCopy) : Restores (copyBytes transfer) :=
  restores_userCopy.bind fun _ => restores_pure _

/-- A copy to the user whose failure is one error and whose success is another result. -/
theorem restores_reply (target : UserTarget) {failed done : Op Int} (onFailure : Restores failed)
    (onSuccess : Restores done) :
    Restores (copyToUser target >>= fun fault => if fault then failed else done) :=
  (restores_copyToUser target).bind fun _ => restores_ite onFailure onSuccess

theorem restores_dxrtIdentifyDevice (target : UserTarget) :
    Restores (dxrtIdentifyDevice target) :=
  restores_section (restores_ite (restores_pure _)
    (restores_reply target (restores_pure _) (restores_pure _)))

theorem restores_transfer (dx : Dxdev) (meminfo : DxrtReqMeminfo) (user : UserCopy) :
    Restores (transfer dx meminfo user) := by
  refine restores_ite (restores_pure _) (restores_ite (restores_pure _) ?_)
  exact (restores_copyBytes user).bind fun _ => restores_ite (restores_pure _) (restores_pure _)

theorem restores_withCopied {Value : Type} (source : UserSource Value) {next : Value → Op Int}
    (restores : ∀ value, Restores (next value)) : Restores (withCopied source next) := by
  refine (restores_copyFromUser source).bind fun copied => ?_
  cases copied with
  | none => exact restores_pure (-efault)
  | some value => exact restores value

theorem restores_transferHandler (dx : Dxdev) (data : UserSource DxrtReqMeminfo)
    (user : UserCopy) : Restores (transferHandler dx data user) := by
  cases data with
  | null => exact restores_pure 0
  | fault | holds => exact restores_withCopied _ fun meminfo => restores_transfer dx meminfo user

theorem restores_dxrtCpuCacheFlush (dx : Dxdev) (data : UserSource DxrtMeminfo) :
    Restores (dxrtCpuCacheFlush dx data) := by
  cases data with
  | null => exact restores_pure 0
  | fault | holds =>
    exact restores_withCopied _ fun _ => restores_ite (restores_pure _) (restores_pure _)

theorem restores_dxrtWriteInput (data : UserSource Object) : Restores (dxrtWriteInput data) := by
  cases data with
  | null => exact restores_pure 0
  | fault | holds =>
    exact restores_withCopied _ fun _ => (restores_pure 0).bind fun _ => restores_pure 0

theorem restores_waitOutput (responsesAtTest : List DxrtResponse) :
    Restores (waitOutput responsesAtTest) :=
  restores_ite (restores_sectionIrq (restores_pure ())) (restores_pure ())

theorem restores_takeResponse_nil (target : UserTarget) : Restores (takeResponse [] target) :=
  restores_sectionIrq (restores_pure (-1))

theorem restores_dxrtReadOutput {found : Found} {target : UserTarget}
    (safe : target = .null ∨ found.responses = []) : Restores (dxrtReadOutput found target) := by
  cases target with
  | null => exact restores_pure (-1)
  | fault | writable =>
    rcases safe with null | empty
    · cases null
    · refine (restores_waitOutput found.responsesAtTest).bind fun _ => ?_
      rw [empty]
      exact restores_takeResponse_nil _

theorem restores_dxrtTerminate : Restores dxrtTerminate :=
  restores_sectionIrq (restores_sectionIrq (restores_pure 0))

theorem restores_dxrtHandleRtDrvInfoSub (subCmd : Int32) (target : UserTarget) :
    Restores (dxrtHandleRtDrvInfoSub subCmd target) := by
  refine restores_ite ?_ (restores_ite (restores_pure _) (restores_pure _))
  cases target with
  | null => exact restores_pure 0
  | fault | writable => exact restores_reply _ (restores_pure _) (restores_pure _)

theorem restores_allocReply (target : UserTarget) : Restores (allocReply target) :=
  restores_reply target (restores_sectionIrq (restores_pure _)) (restores_pure _)

/-- Both exits of the scan release the lock in front of the copy. -/
theorem restores_dxrtAllocBuf (pool : DxrtDspBufferManager) (target : UserTarget) :
    Restores (dxrtAllocBuf pool target) := by
  cases target with
  | null => exact restores_pure (-einval)
  | fault | writable =>
    unfold dxrtAllocBuf
    cases allocReserve pool with
    | none => exact restores_sectionIrq (restores_pure _)
    | some _ => exact restores_sectionIrq (restores_allocReply _)

theorem restores_freeSection (pool : DxrtDspBufferManager) (dspBufMeta : DxrtDspBufferMetadata) :
    Restores (freeSection pool dspBufMeta) := by
  unfold freeSection
  cases freeFind pool dspBufMeta.dspBufOffset <;> exact restores_sectionIrq (restores_pure _)

theorem restores_dxrtFreeBuf (pool : DxrtDspBufferManager)
    (data : UserSource DxrtDspBufferMetadata) : Restores (dxrtFreeBuf pool data) := by
  cases data with
  | null => exact restores_pure (-einval)
  | fault | holds =>
    exact restores_withCopied _ fun dspBufMeta => restores_freeSection pool dspBufMeta

/-- Every handler but READ_OUTPUT restores the record, and READ_OUTPUT does when it pops nothing. -/
theorem restores_handle {found : Found} {msg : DxrtMessage} {handler : Handler}
    (safe : handler = .dxrtReadOutput → msg.data.target = .null ∨ found.responses = []) :
    Restores (handle found msg handler) := by
  cases handler with
  | dxrtIdentifyDevice => exact restores_dxrtIdentifyDevice _
  | dxrtWriteMem | dxrtReadMem => exact restores_transferHandler _ _ _
  | dxrtCpuCacheFlush => exact restores_dxrtCpuCacheFlush _ _
  | dxrtWriteInput => exact restores_dxrtWriteInput _
  | dxrtReadOutput => exact restores_dxrtReadOutput (safe rfl)
  | dxrtTerminate => exact restores_dxrtTerminate
  | dxrtHandleDrvInfo => exact restores_dxrtHandleRtDrvInfoSub _ _
  | dxrtAllocBuf => exact restores_dxrtAllocBuf _ _
  | dxrtFreeBuf => exact restores_dxrtFreeBuf _ _
  | dxrtResetDevice | dxrtRecoveryDevice | dxrtSocCustom | dxrtMsgGeneral | dxrtGetLog
  | dxrtSchedule | dxrtDspRunRequest | dxrtDspRunResponse => exact restores_pure _

theorem restores_enterEntry {found : Found} {entry : Entry}
    (safe : ∀ msg, entry = .handler .dxrtReadOutput msg →
      msg.data.target = .null ∨ found.responses = []) : Restores (enterEntry found entry) := by
  cases entry with
  | returns ret => exact restores_pure _
  | oops => exact restores_pure _
  | handler handler msg =>
    have handled : Restores (handle found msg handler) := by
      refine restores_handle fun readOutput => safe msg ?_
      rw [readOutput]
    exact handled.bind fun _ => restores_pure _

theorem restores_dxrtDevIoctl {cmd : UInt32} {arg : UserSource DxrtMessage} {found : Found}
    (safe : ∀ msg, DxDsp.dxrtDevIoctl cmd arg = .handler .dxrtReadOutput msg →
      msg.data.target = .null ∨ found.responses = []) :
    Restores (dxrtDevIoctl cmd arg found) :=
  restores_ite ((restores_copyFromUser arg).bind fun _ => restores_enterEntry safe)
    (restores_enterEntry safe)

theorem restores_dxrtDevRead (len : Nat) (fault : Bool) : Restores (dxrtDevRead len fault) :=
  restores_ite (restores_pure _)
    (restores_userCopy.bind fun _ => restores_ite (restores_pure _) (restores_pure _))

theorem restores_dxrtDevWrite (dx : Dxdev) (node : Option Nat) (len : Nat)
    (data : Option Object) : Restores (dxrtDevWrite dx node len data) := by
  refine restores_ite ?_ (restores_pure 0)
  cases node with
  | none => exact restores_pure _
  | some node =>
    refine restores_ite (restores_pure _) (restores_userCopy.bind fun _ => ?_)
    cases data with
    | none => exact restores_pure _
    | some request => exact restores_section (restores_pure _)

theorem restores_dxrtIsRequestListEmpty (requests : List DxrtRequestList) :
    Restores (dxrtIsRequestListEmpty requests) :=
  restores_section (restores_pure _)

theorem restores_waitRequest (tests : List (List DxrtRequestList × Bool)) :
    Restores (waitRequest tests) := by
  induction tests with
  | nil => exact restores_pure ()
  | cons test tests inductionHypothesis =>
    refine (restores_dxrtIsRequestListEmpty test.1).bind fun _ => ?_
    exact restores_ite (restores_pure ()) inductionHypothesis

theorem restores_requestIteration (found : Iteration) : Restores (requestIteration found) := by
  refine restores_ite (restores_pure none) ?_
  refine (restores_waitRequest found.tests).bind fun _ => restores_ite (restores_pure none) ?_
  refine restores_section ((restores_pure 0).bind fun _ => ?_)
  exact restores_section (restores_pure _)

/-! ### The exit that pops -/

/-- The copy in the section is on record when the operation returns. -/
theorem takeResponse_cons_orderly {response : DxrtResponse} {rest : List DxrtResponse}
    {target : UserTarget} (record : LockRecord Spinlock) :
    (takeResponse (response :: rest) target record).2.orderly = false := by
  have inside : ∀ before : Bool,
      (before && (Spinlock.responsesLock :: record.held).isEmpty) = false :=
    fun before => Bool.and_false before
  cases target with
  | null | fault => exact inside _
  | writable =>
    have copied := inside (record.orderly && record.held.isEmpty)
    show (_ && _) = false
    rw [Bool.and_eq_false_iff]
    exact .inl copied

/-- If it faults, READ_OUTPUT returns with `responses_lock` held and interrupts disabled. -/
theorem takeResponse_cons_fault {response : DxrtResponse} {rest : List DxrtResponse}
    {record : LockRecord Spinlock} (none : record.held = []) :
    (takeResponse (response :: rest) .fault record).2 =
      { held := [.responsesLock], irqsEnabled := false, orderly := false } := by
  obtain ⟨held, irqsEnabled, orderly⟩ := record
  subst none
  cases orderly <;> rfl

theorem dxrtReadOutput_orderly {found : Found} {target : UserTarget} (buffer : target ≠ .null)
    (pending : found.responses ≠ []) (record : LockRecord Spinlock) :
    (dxrtReadOutput found target record).2.orderly = false := by
  obtain ⟨response, rest, responses⟩ := List.exists_cons_of_ne_nil pending
  have taken := @takeResponse_cons_orderly response rest target
    (waitOutput found.responsesAtTest record).2
  rw [← responses] at taken
  cases target with
  | null => exact absurd rfl buffer
  | fault | writable => exact taken

theorem dxrtDevIoctl_orderly {cmd : UInt32} {arg : UserSource DxrtMessage} {found : Found}
    {msg : DxrtMessage} (called : DxDsp.dxrtDevIoctl cmd arg = .handler .dxrtReadOutput msg)
    (buffer : msg.data.target ≠ .null) (pending : found.responses ≠ [])
    (record : LockRecord Spinlock) : (dxrtDevIoctl cmd arg found record).2.orderly = false := by
  have message : cmd = dxrtIoctlMessage := (dxrtDevIoctl_handler_iff.mp called).1
  rw [dxrtDevIoctl, if_pos message, called]
  exact dxrtReadOutput_orderly buffer pending (copyFromUser arg record).2

namespace Operation

theorem restores_of_not_popsResponse {operation : Operation} (none : ¬ operation.PopsResponse)
    {record : LockRecord Spinlock} (unheld : record.held = []) :
    operation.exit record = record := by
  cases operation with
  | devIoctl cmd arg found =>
    refine restores_dxrtDevIoctl (fun msg called => ?_) record unheld
    by_contra unsafeCall
    rw [not_or] at unsafeCall
    exact none ⟨msg, called, unsafeCall⟩
  | devRead len fault => exact restores_dxrtDevRead len fault record unheld
  | devWrite dx node len data => exact restores_dxrtDevWrite dx node len data record unheld
  | devPoll irqEvent => exact restores_sectionIrq (restores_pure irqEvent) record unheld
  | irqHandler => exact restores_sectionIrq (restores_pure ()) record unheld
  | requestIteration found => exact restores_requestIteration found record unheld

theorem orderly_of_popsResponse {operation : Operation} (pops : operation.PopsResponse)
    (record : LockRecord Spinlock) : (operation.exit record).orderly = false := by
  cases operation with
  | devIoctl cmd arg found =>
    obtain ⟨msg, called, buffer, pending⟩ := pops
    exact dxrtDevIoctl_orderly called buffer pending record
  | devRead | devWrite | devPoll | irqHandler | requestIteration => exact pops.elim

end Operation

/-- An operation keeps the lock discipline exactly if it is no READ_OUTPUT that finds an entry. -/
theorem operation_disciplined_iff (operation : Operation) (irqsEnabled : Bool) :
    operation.Disciplined irqsEnabled ↔ ¬ operation.PopsResponse := by
  constructor
  · intro disciplined pops
    have disorderly := Operation.orderly_of_popsResponse pops (Operation.entry irqsEnabled)
    rw [disciplined.orderly] at disorderly
    cases disorderly
  · intro none
    have unheld : (Operation.entry irqsEnabled).held = [] := rfl
    have restored := Operation.restores_of_not_popsResponse none unheld
    refine ⟨?_, ?_, ?_⟩ <;> rw [restored]
    rfl

/-- READ_OUTPUT on channel 0, with user memory that faults. -/
def readOutputIntoFault : UserSource DxrtMessage := .holds
  { cmd := 14
    subCmd := 0
    data :=
      { request := .null
        reqMeminfo := .null
        meminfo := .null
        bufferMetadata := .null
        target := .fault
        transfer := {} } }

/-- A single entry in `dx->responses`. -/
def oneResponse : Found where
  dx := createDxrtDevice boardDsp
  responsesAtTest := [{ reqId := 1 }]
  responses := [{ reqId := 1 }]
  pool := dxV3DspBufInit

/-- The fault returns from the section: `responses_lock` stays held and interrupts disabled. -/
theorem read_output_keeps_lock :
    (dxrtDevIoctl dxrtIoctlMessage readOutputIntoFault oneResponse (Operation.entry true)).1 =
        some (-efault) ∧
      (dxrtDevIoctl dxrtIoctlMessage readOutputIntoFault oneResponse (Operation.entry true)).2 =
        { held := [.responsesLock], irqsEnabled := false, orderly := false } ∧
      ¬ ∀ operation irqsEnabled, Operation.Disciplined operation irqsEnabled := by
  refine ⟨by decide, by decide, fun disciplined => ?_⟩
  have released := (disciplined (.devIoctl dxrtIoctlMessage readOutputIntoFault oneResponse)
    true).held
  revert released
  decide

/-! ### The results are those of the unlocked models -/

theorem transferHandler_ret (dx : Dxdev) (data : UserSource DxrtReqMeminfo) (user : UserCopy)
    (record : LockRecord Spinlock) :
    (transferHandler dx data user record).1 = (DxDsp.dxrtWriteMem dx data user).2.ret ∧
      (transferHandler dx data user record).1 = (DxDsp.dxrtReadMem dx data user).1.ret := by
  cases data with
  | null | fault => exact ⟨rfl, rfl⟩
  | holds meminfo =>
    have behind : (transferHandler dx (.holds meminfo) user record).1 =
        (transfer dx meminfo user (userCopy record).2).1 := rfl
    rw [behind, transfer, DxDsp.dxrtWriteMem, DxDsp.dxrtReadMem, transferCheck]
    by_cases channel : 2 < meminfo.ch
    · rw [if_pos channel, if_pos channel]
      exact ⟨rfl, rfl⟩
    · rw [if_neg channel, if_neg channel]
      cases invalidAddress dx meminfo with
      | true => exact ⟨rfl, rfl⟩
      | false =>
        obtain ⟨bytes, fault⟩ := user
        cases fault <;> exact ⟨rfl, rfl⟩

theorem dxrtCpuCacheFlush_ret (dx : Dxdev) (data : UserSource DxrtMeminfo)
    (record : LockRecord Spinlock) :
    (dxrtCpuCacheFlush dx data record).1 = (DxDsp.dxrtCpuCacheFlush dx data).ret := by
  cases data with
  | null | fault => rfl
  | holds meminfo =>
    have behind : (dxrtCpuCacheFlush dx (.holds meminfo) record).1 =
        ((if flushInvalidAddress dx meminfo then pure (-einval) else pure 0 : Op Int)
          (userCopy record).2).1 := rfl
    rw [behind, DxDsp.dxrtCpuCacheFlush]
    cases flushInvalidAddress dx meminfo <;> rfl

theorem dxrtAllocBuf_ret (pool : DxrtDspBufferManager) (target : UserTarget)
    (record : LockRecord Spinlock) :
    (dxrtAllocBuf pool target record).1 = (DxDsp.dxrtAllocBuf pool target).2.ret := by
  unfold dxrtAllocBuf DxDsp.dxrtAllocBuf
  cases allocReserve pool <;> cases target <;> rfl

theorem dxrtFreeBuf_ret (pool : DxrtDspBufferManager) (data : UserSource DxrtDspBufferMetadata)
    (record : LockRecord Spinlock) :
    (dxrtFreeBuf pool data record).1 = (DxDsp.dxrtFreeBuf pool data).2.ret := by
  cases data with
  | null | fault => rfl
  | holds dspBufMeta =>
    have behind : (dxrtFreeBuf pool (.holds dspBufMeta) record).1 =
        (freeSection pool dspBufMeta (userCopy record).2).1 := rfl
    rw [behind, freeSection, DxDsp.dxrtFreeBuf, freeNamed]
    cases freeFind pool dspBufMeta.dspBufOffset <;> rfl

theorem dxrtDevRead_ret (dx : Dxdev) (len : Nat) (fault : Bool) (record : LockRecord Spinlock) :
    (dxrtDevRead len fault record).1 =
      match DxDsp.dxrtDevRead dx len fault with
      | .error ret => ret
      | .ok _ => sizeofDxrtResponse := by
  rw [dxrtDevRead, DxDsp.dxrtDevRead]
  by_cases short : len < sizeofDxrtResponse
  · rw [if_pos short, if_pos short]
    rfl
  · rw [if_neg short, if_neg short]
    cases fault <;> rfl

theorem dxrtDevWrite_ret (dx : Dxdev) (node : Option Nat) (len : Nat) (data : Option Object)
    (record : LockRecord Spinlock) :
    (dxrtDevWrite dx node len data record).1 =
      match dxrtDevWritePrepare dx node len data with
      | .error ret => ret
      | .ok _ => len := by
  unfold dxrtDevWrite dxrtDevWritePrepare
  cases dx.requestHandler with
  | false => rfl
  | true =>
    cases node with
    | none => rfl
    | some node =>
      by_cases size : len ≠ sizeofDxrtDspRequest
      · simp only [if_pos size]
        rfl
      · simp only [if_neg size]
        cases data <;> rfl

/-- The handlers that leave the device as it is. -/
theorem handle_ret {found : Found} {msg : DxrtMessage} {handler : Handler} {ret : Int}
    (isLocal : localHandler found.dx msg handler = some ret) (record : LockRecord Spinlock) :
    (handle found msg handler record).1 = ret := by
  cases handler with
  | dxrtReadMem =>
    have same := (transferHandler_ret found.dx msg.data.reqMeminfo msg.data.transfer record).2
    exact same.trans (Option.some.inj isLocal)
  | dxrtCpuCacheFlush =>
    exact (dxrtCpuCacheFlush_ret found.dx msg.data.meminfo record).trans (Option.some.inj isLocal)
  | dxrtHandleDrvInfo =>
    refine Eq.trans ?_ (Option.some.inj isLocal)
    unfold handle dxrtHandleRtDrvInfoSub DxDsp.dxrtHandleRtDrvInfoSub
    by_cases version : msg.subCmd = drvinfoCmdGetRtInfo
    · rw [if_pos version, if_pos version]
      cases msg.data.target <;> rfl
    · rw [if_neg version, if_neg version]
      by_cases pcie : msg.subCmd = drvinfoCmdGetPcieInfo
      · rw [if_pos pcie, if_pos pcie]
        rfl
      · rw [if_neg pcie, if_neg pcie]
        rfl
  | dxrtSocCustom | dxrtMsgGeneral | dxrtGetLog | dxrtSchedule | dxrtDspRunRequest
  | dxrtDspRunResponse => exact Option.some.inj isLocal
  | dxrtIdentifyDevice | dxrtWriteMem | dxrtWriteInput | dxrtReadOutput | dxrtTerminate
  | dxrtResetDevice | dxrtRecoveryDevice | dxrtAllocBuf | dxrtFreeBuf => cases isLocal

end DxDsp.Locks
