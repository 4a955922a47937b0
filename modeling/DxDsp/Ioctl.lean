/-
This file embeds the entry of the ioctl path: what `dxrt_dev_ioctl` checks before
it calls a handler, the numbers of the commands, the table `message_handler`,
and the handlers that leave the device as it is. Three entries of the table are
missing; a message with such a command calls a NULL pointer.
-/

import DxDsp.AddressWindow
import DxDsp.Pool

namespace DxDsp

open Library

/-! ### Commands and handlers -/

/-- `dxrt_cmd_t`, in the order of its numbers. -/
inductive DxrtCmd
  | identifyDevice
  | getStatus
  | reset
  | updateConfig
  | updateFirmware
  | getLog
  | dump
  | writeMem
  | readMem
  | cpuCacheFlush
  | socCustom
  | writeInputDmaCh0
  | writeInputDmaCh1
  | writeInputDmaCh2
  | readOutputDmaCh0
  | readOutputDmaCh1
  | readOutputDmaCh2
  | terminate
  | event
  | drvInfo
  | schedule
  | uploadFirmware
  | dspRunReq
  | dspRunResp
  | updateConfigJson
  | recovery
  | setDdrFreq
  | allocDspBuf
  | freeDspBuf
deriving DecidableEq, Repr

def dxrtCmds : List DxrtCmd :=
  [.identifyDevice, .getStatus, .reset, .updateConfig, .updateFirmware, .getLog, .dump, .writeMem,
    .readMem, .cpuCacheFlush, .socCustom, .writeInputDmaCh0, .writeInputDmaCh1, .writeInputDmaCh2,
    .readOutputDmaCh0, .readOutputDmaCh1, .readOutputDmaCh2, .terminate, .event, .drvInfo,
    .schedule, .uploadFirmware, .dspRunReq, .dspRunResp, .updateConfigJson, .recovery, .setDdrFreq,
    .allocDspBuf, .freeDspBuf]

/-- `DXRT_CMD_MAX`. -/
def dxrtCmdMax : Nat := dxrtCmds.length

/-- The functions that `message_handler` points to. -/
inductive Handler
  | dxrtIdentifyDevice
  | dxrtWriteMem
  | dxrtReadMem
  | dxrtCpuCacheFlush
  | dxrtWriteInput
  | dxrtReadOutput
  | dxrtTerminate
  | dxrtSocCustom
  | dxrtMsgGeneral
  | dxrtResetDevice
  | dxrtGetLog
  | dxrtHandleDrvInfo
  | dxrtSchedule
  | dxrtDspRunRequest
  | dxrtDspRunResponse
  | dxrtRecoveryDevice
  | dxrtAllocBuf
  | dxrtFreeBuf
deriving DecidableEq, Repr

/-- The table `message_handler`; `none` is a NULL entry. -/
def messageHandler : DxrtCmd → Option Handler
  | .identifyDevice => some .dxrtIdentifyDevice
  | .writeMem => some .dxrtWriteMem
  | .readMem => some .dxrtReadMem
  | .cpuCacheFlush => some .dxrtCpuCacheFlush
  | .writeInputDmaCh0 | .writeInputDmaCh1 | .writeInputDmaCh2 => some .dxrtWriteInput
  | .readOutputDmaCh0 | .readOutputDmaCh1 | .readOutputDmaCh2 => some .dxrtReadOutput
  | .terminate => some .dxrtTerminate
  | .socCustom => some .dxrtSocCustom
  | .getStatus | .updateConfig | .updateConfigJson | .dump | .setDdrFreq => some .dxrtMsgGeneral
  | .reset => some .dxrtResetDevice
  | .getLog => some .dxrtGetLog
  | .drvInfo => some .dxrtHandleDrvInfo
  | .schedule => some .dxrtSchedule
  | .dspRunReq => some .dxrtDspRunRequest
  | .dspRunResp => some .dxrtDspRunResponse
  | .recovery => some .dxrtRecoveryDevice
  | .allocDspBuf => some .dxrtAllocBuf
  | .freeDspBuf => some .dxrtFreeBuf
  | .updateFirmware | .event | .uploadFirmware => none

/-! ### The ioctl entry -/

/-- The memory behind `msg->data`, as each handler would copy it. -/
structure UserData where
  request : UserSource Object
  reqMeminfo : UserSource DxrtReqMeminfo
  meminfo : UserSource DxrtMeminfo
  bufferMetadata : UserSource DxrtDspBufferMetadata
  target : UserTarget
  transfer : UserCopy

/-- `dxrt_message_t` without its size, which no handler reads. -/
structure DxrtMessage where
  cmd : Int32
  subCmd : Int32
  data : UserData

/-- `sizeof(dxrt_message_t)`: cmd, sub_cmd, data, size. -/
def sizeofDxrtMessage : Nat := structSize [uint32Member, uint32Member, uint64Member, uint32Member]

def dxrtIoctlMagic : UInt32 := 0x44

def iow (type nr : UInt32) (size : Nat) : UInt32 :=
  ((1 : UInt32) <<< 30) ||| (UInt32.ofNat size <<< 16) ||| (type <<< 8) ||| nr

def iocType (cmd : UInt32) : UInt32 := (cmd >>> 8) &&& 0xFF
def iocNr (cmd : UInt32) : UInt32 := cmd &&& 0xFF

def dxrtIoctlMessage : UInt32 := iow dxrtIoctlMagic 0 sizeofDxrtMessage
def dxrtIoctlDummy : UInt32 := iow dxrtIoctlMagic 1 sizeofDxrtMessage

/-- The enumerator behind `DXRT_IOCTL_DUMMY`: a whole command and one, not a number of commands. -/
def dxrtIoctlMax : UInt32 := dxrtIoctlDummy + 1

example : dxrtIoctlMessage = 0x40184400 ∧ dxrtIoctlMax = 0x40184402 := by decide

/-- What comes of an ioctl: a return, a call through a NULL entry, or a handler. -/
inductive Entry
  | returns (ret : Int)
  | oops
  | handler (handler : Handler) (msg : DxrtMessage)

/-- `message_handler_general`, behind the range check of its caller. -/
def messageHandlerGeneral (msg : DxrtMessage) : Entry :=
  match dxrtCmds[msg.cmd.toInt.toNat]?.bind messageHandler with
  | some handler => .handler handler msg
  | none => .oops

/-- The case `DXRT_IOCTL_MESSAGE` of `dxrt_dev_ioctl`. -/
def ioctlMessage : UserSource DxrtMessage → Entry
  | .null | .fault => .returns (-efault)
  | .holds msg =>
    if 0 ≤ msg.cmd.toInt ∧ msg.cmd.toInt < dxrtCmdMax then messageHandlerGeneral msg
    else .returns (-einval)

/-- `dxrt_dev_ioctl`, up to the handler it calls. -/
def dxrtDevIoctl (cmd : UInt32) (arg : UserSource DxrtMessage) : Entry :=
  if iocType cmd ≠ dxrtIoctlMagic ∨ dxrtIoctlMax ≤ iocNr cmd then .returns (-einval)
  else if cmd = dxrtIoctlMessage then ioctlMessage arg
  else .returns 0

/-- `DXRT_IOCTL_MAX` is larger than every command number, so its check refuses nothing. -/
theorem iocNr_lt_dxrtIoctlMax (cmd : UInt32) : iocNr cmd < dxrtIoctlMax := by
  have small : iocNr cmd ≤ 0xFF := by
    rw [iocNr, UInt32.le_iff_toNat_le, UInt32.toNat_and]
    exact Nat.and_le_right
  have large : (0xFF : UInt32) < dxrtIoctlMax := by decide
  rw [UInt32.lt_iff_toNat_lt] at large ⊢
  exact Nat.lt_of_le_of_lt (UInt32.le_iff_toNat_le.mp small) large

theorem messageHandlerGeneral_handler_iff {msg own : DxrtMessage} {handler : Handler} :
    messageHandlerGeneral msg = .handler handler own ↔
      msg = own ∧
        ∃ cmd, dxrtCmds[msg.cmd.toInt.toNat]? = some cmd ∧ messageHandler cmd = some handler := by
  rw [messageHandlerGeneral, ← Option.bind_eq_some_iff]
  cases dxrtCmds[msg.cmd.toInt.toNat]?.bind messageHandler with
  | none => exact iff_of_false (fun same => by cases same) fun found => by cases found.2
  | some entry =>
    constructor
    · intro same
      injection same with entry msg
      exact ⟨msg, congrArg some entry⟩
    · rintro ⟨rfl, entry⟩
      exact congrArg (Entry.handler · msg) (Option.some.inj entry)

theorem ioctlMessage_handler_iff {arg : UserSource DxrtMessage} {handler : Handler}
    {msg : DxrtMessage} :
    ioctlMessage arg = .handler handler msg ↔
      arg = .holds msg ∧ 0 ≤ msg.cmd.toInt ∧
        ∃ own, dxrtCmds[msg.cmd.toInt.toNat]? = some own ∧ messageHandler own = some handler := by
  constructor
  · intro called
    cases arg with
    | null | fault => cases called
    | holds asked =>
      rw [ioctlMessage] at called
      split at called
      · next range =>
        obtain ⟨rfl, entry⟩ := messageHandlerGeneral_handler_iff.mp called
        exact ⟨rfl, range.1, entry⟩
      · cases called
  · rintro ⟨rfl, nonnegative, own, listed, entry⟩
    have small := (List.getElem?_eq_some_iff.mp listed).1
    have range : 0 ≤ msg.cmd.toInt ∧ msg.cmd.toInt < dxrtCmdMax := by
      refine ⟨nonnegative, ?_⟩
      rw [dxrtCmdMax]
      omega
    rw [ioctlMessage, if_pos range]
    exact messageHandlerGeneral_handler_iff.mpr ⟨rfl, own, listed, entry⟩

/-- A handler is called exactly for a message whose command is in range and has an entry. -/
theorem dxrtDevIoctl_handler_iff {cmd : UInt32} {arg : UserSource DxrtMessage} {handler : Handler}
    {msg : DxrtMessage} :
    dxrtDevIoctl cmd arg = .handler handler msg ↔
      cmd = dxrtIoctlMessage ∧ arg = .holds msg ∧ 0 ≤ msg.cmd.toInt ∧
        ∃ own, dxrtCmds[msg.cmd.toInt.toNat]? = some own ∧ messageHandler own = some handler := by
  rw [← ioctlMessage_handler_iff, dxrtDevIoctl]
  by_cases message : cmd = dxrtIoctlMessage
  · rw [message, if_neg (by decide), if_pos rfl]
    exact (and_iff_right rfl).symm
  · refine iff_of_false (fun called => ?_) fun called => message called.1
    split at called <;> cases called

/-! ### Handlers that leave the device as it is -/

/-- `DRVINFO_CMD_GET_RT_INFO` and `DRVINFO_CMD_GET_PCIE_INFO`. -/
def drvinfoCmdGetRtInfo : Int32 := 0
def drvinfoCmdGetPcieInfo : Int32 := 1

/-- `dxrt_handle_rt_drv_info_sub`. -/
def dxrtHandleRtDrvInfoSub (msg : DxrtMessage) : Int :=
  if msg.subCmd = drvinfoCmdGetRtInfo then
    if msg.data.target = .fault then -efault else 0
  else if msg.subCmd = drvinfoCmdGetPcieInfo then 0
  else -einval

/-- What a handler returns that changes nothing in the device; `none` for the others. -/
def localHandler (dx : Dxdev) (msg : DxrtMessage) : Handler → Option Int
  | .dxrtReadMem => some (dxrtReadMem dx msg.data.reqMeminfo msg.data.transfer).1.ret
  | .dxrtCpuCacheFlush => some (dxrtCpuCacheFlush dx msg.data.meminfo).ret
  | .dxrtSocCustom | .dxrtMsgGeneral | .dxrtGetLog | .dxrtSchedule => some 0
  | .dxrtDspRunRequest | .dxrtDspRunResponse => some (-1)
  | .dxrtHandleDrvInfo => some (dxrtHandleRtDrvInfoSub msg)
  | .dxrtIdentifyDevice | .dxrtWriteMem | .dxrtWriteInput | .dxrtReadOutput | .dxrtTerminate
  | .dxrtResetDevice | .dxrtRecoveryDevice | .dxrtAllocBuf | .dxrtFreeBuf => none

end DxDsp
