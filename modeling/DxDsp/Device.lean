/-
This file holds the data the driver works on: the constants and register names
of the headers, the structures that cross the user boundary, `struct dxdsp` and
`struct dxdev` as far as the request, completion and transfer paths use them,
and the state a successful probe leaves behind.

Integers keep their C width. A register block is a function from offsets to
words; the SRAM is one more such block. `regDspStatus` and `regDspResetCtrl`
are two names of one offset, as in the header.
-/

import DxDsp.Library.Memory
import Mathlib.Logic.Function.Basic

namespace DxDsp

open Library

/-! ### Counts -/

/-- The counts of clients and of mappings, named so that their numerals share one proof. -/
instance neZeroOne : NeZero 1 := ⟨by decide⟩
instance neZeroTwo : NeZero 2 := ⟨by decide⟩
instance neZeroThree : NeZero 3 := ⟨by decide⟩
instance neZeroSix : NeZero 6 := ⟨by decide⟩
instance neZeroSeven : NeZero 7 := ⟨by decide⟩

/-! ### Constants -/

def efault : Int := 14
def einval : Int := 22
def enomem : Int := 12

def messageMaxSize : UInt32 := 256

/-- The bytes of the SRAM that `dx_v3_dsp_init` maps. -/
def sramMappedSize : Nat := 0x40000

def dspDramSize : UInt64 := 0x1EE00000
def dspBufferUnitSize : UInt32 := 4096 * 2048 * 3
def dspBufferMaxNum : Nat := 8

/-- The mark of a running request in the status register. -/
def dspBusy : UInt32 := 0xFFAA

/-! ### Registers -/

abbrev Registers := UInt32 → UInt32

/-- The offset is taken to lie inside the mapping of the region. In the machine a store behind it
faults; what a driver that goes on promises is stated for requests whose stores lie inside. -/
def dspRegWrite (base : Registers) (addr val : UInt32) : Registers := Function.update base addr val

def dspRegRead (base : Registers) (addr : UInt32) : UInt32 := base addr

def regDspRunstall : UInt32 := 0x00
def regDspClock : UInt32 := 0x04
def regDspResetCtrl : UInt32 := 0x0C
def regDspStatus : UInt32 := 0x0C
def regDspReset : UInt32 := 0x20
def regDspMsg : UInt32 := 0x3F000
def regDspIrqIntEn : UInt32 := 0xF98
def regDspIrqEnCh0 : UInt32 := 0x18
def regDspIrqEnCh1 : UInt32 := 0x38
def regDspIrqClrCh0 : UInt32 := 0x14
def regDspIrqClrCh1 : UInt32 := 0x34

def writeDspStatus (base : Registers) (val : UInt32) : Registers :=
  dspRegWrite base regDspStatus val

def readDspStatus (base : Registers) : UInt32 := dspRegRead base regDspStatus

@[simp] theorem readDspStatus_writeDspStatus (base : Registers) (val : UInt32) :
    readDspStatus (writeDspStatus base val) = val := by
  rw [readDspStatus, dspRegRead, writeDspStatus, dspRegWrite, Function.update_self]

/-! ### Structures that cross the user boundary -/

def uint16Member : Member := ⟨2, 2⟩
def uint32Member : Member := ⟨4, 4⟩
def uint64Member : Member := ⟨8, 8⟩
def ucharMember : Member := ⟨1, 1⟩

/-- `dxrt_meminfo_t`: data, base, offset, size. -/
def dxrtMeminfoMembers : List Member := [uint64Member, uint64Member, uint32Member, uint32Member]

/-- `dxrt_request_t`: req_id, input, output, model_type, model_format, model_cmds, cmd_offset,
weight_offset, last_output_offset. -/
def dxrtRequestMembers : List Member :=
  [uint32Member, structMember dxrtMeminfoMembers, structMember dxrtMeminfoMembers, uint32Member,
    uint32Member, uint32Member, uint32Member, uint32Member, uint32Member]

/-- `dxrt_dsp_message_header_t`: req_id, message_size, func_id, data_valid, reserved. -/
def dxrtDspMessageHeaderMembers : List Member :=
  [uint16Member, uint16Member, uint16Member, ucharMember, ucharMember]

/-- `dxrt_dsp_request_t`: req_id, msg_header, msg_data. -/
def dxrtDspRequestMembers : List Member :=
  [uint32Member, structMember dxrtDspMessageHeaderMembers, arrayMember uint32Member 29]

def sizeofDxrtRequest : Nat := structSize dxrtRequestMembers
def sizeofDxrtDspRequest : Nat := structSize dxrtDspRequestMembers

example : sizeofDxrtRequest = 80 ∧ sizeofDxrtDspRequest = 128 := ⟨rfl, rfl⟩

/-- `msg->data` as the source of a `copy_from_user`: NULL, faulting, or holding a value. -/
inductive UserSource (Value : Type)
  | null
  | fault
  | holds (value : Value)
deriving DecidableEq, Repr

/-- `msg->data` as the target of a `copy_to_user`. -/
inductive UserTarget
  | null
  | fault
  | writable
deriving DecidableEq, Repr

/-- `dxrt_req_meminfo_t`. -/
structure DxrtReqMeminfo where
  data : UInt64
  base : UInt64
  offset : UInt32
  size : UInt32
  ch : UInt32
deriving DecidableEq, Repr

/-- `dxrt_response_t`. -/
structure DxrtResponse where
  reqId : UInt32 := 0
  infTime : UInt32 := 0
  argmax : UInt16 := 0
  modelType : UInt16 := 0
  status : Int32 := 0
  ppuFilterNum : UInt32 := 0
  procId : UInt32 := 0
  queue : UInt32 := 0
  dmaCh : Int32 := 0
  ddrWrBw : UInt32 := 0
  ddrRdBw : UInt32 := 0
deriving DecidableEq, Repr

def sizeofDxrtResponse : Nat :=
  structSize [uint32Member, uint32Member, uint16Member, uint16Member, uint32Member, uint32Member,
    uint32Member, uint32Member, uint32Member, uint32Member, uint32Member]

/-! ### `dxrt_dsp_request_t` as `dx_v3_dsp_run` reads it -/

/-- The memory behind the pointer that a run is given. The submitted object is its front; what
lies behind the object is other kernel memory. -/
abbrev Object := ByteMemory

/-- Where the members of the request start: req_id, msg_header, msg_data. -/
def reqIdOffset : Nat := (memberOffsets 0 dxrtDspRequestMembers).getD 0 0
def msgHeaderOffset : Nat := (memberOffsets 0 dxrtDspRequestMembers).getD 1 0
def msgDataOffset : Nat := (memberOffsets 0 dxrtDspRequestMembers).getD 2 0
def messageSizeOffset : Nat :=
  msgHeaderOffset + (memberOffsets 0 dxrtDspMessageHeaderMembers).getD 1 0

def Object.reqId (object : Object) : UInt32 := ByteMemory.word object reqIdOffset
def Object.messageSize (object : Object) : UInt16 := ByteMemory.halfword object messageSizeOffset
def Object.headWord (object : Object) (i : Nat) : UInt32 :=
  ByteMemory.word object (msgHeaderOffset + 4 * i)
def Object.dataWord (object : Object) (i : Nat) : UInt32 :=
  ByteMemory.word object (msgDataOffset + 4 * i)

/-- The iterations of the payload loop, `message_size / 4`. -/
def Object.dataWords (object : Object) : Nat := object.messageSize.toNat / 4

/-! ### The device -/

/-- `dxrt_request_list_t`: the list node, by its address, and the request. -/
structure DxrtRequestList where
  node : Nat
  request : Object

/-- `struct dxdsp`. `dmaBuf` is kernel memory from `dma_buf` on, of which the first `dmaBufSize`
bytes are the buffer; `irqEvent` only ever holds 0 and 1. -/
structure Dxdsp where
  regDspBasePhyAddrRomRam : UInt32
  regDspBasePhyAddrDram : UInt32
  regDspBase : Registers
  regDspBaseDebug : Registers
  regDspBaseMailbox : Registers
  regDspBaseSram : Registers
  dmaBufSize : UInt32
  dmaBuf : ByteMemory
  reqId : UInt32
  irqEvent : Bool

/-- `struct dxdev`. `requestHandler` says whether the thread pointer is non-NULL. -/
structure Dxdev where
  memAddr : UInt64
  memSize : UInt64
  numDmaCh : UInt32
  dsp : Dxdsp
  requestHandler : Bool
  requests : List DxrtRequestList
  responses : List DxrtResponse
  response : DxrtResponse
  error : Nat

/-! ### What a successful probe leaves -/

def dxV3DspIrqInit (dsp : Dxdsp) : Dxdsp :=
  let mailbox := dspRegWrite dsp.regDspBaseMailbox regDspIrqIntEn ((1 : UInt32) <<< 2)
  let mailbox := dspRegWrite mailbox regDspIrqEnCh0 1
  { dsp with regDspBaseMailbox := dspRegWrite mailbox regDspIrqEnCh1 1 }

def dxV3DspClockEnableAndReady (dsp : Dxdsp) : Dxdsp :=
  let base := dspRegWrite dsp.regDspBase regDspClock 0x07
  { dsp with regDspBase := dspRegWrite base regDspRunstall 0x3C }

def dxV3DspResetAndStart (dsp : Dxdsp) : Dxdsp :=
  let debug := dspRegWrite dsp.regDspBaseDebug regDspReset 0x10000
  { dsp with regDspBaseDebug := dspRegWrite debug regDspReset 0x0 }

def dxV3DspStart (dsp : Dxdsp) : Dxdsp :=
  let base := dspRegWrite dsp.regDspBase regDspResetCtrl dsp.regDspBasePhyAddrRomRam
  let base := dspRegWrite base regDspRunstall 0x7C
  let base := dspRegWrite base regDspRunstall 0x5C
  dxV3DspResetAndStart { dsp with regDspBase := base }

/-- The register part of `dx_v3_dsp_init`, after its acquisitions have succeeded. -/
def dxV3DspInit (dsp : Dxdsp) : Dxdsp :=
  let dsp := dxV3DspIrqInit { dsp with irqEvent := false }
  let dsp := { dsp with regDspBase := writeDspStatus dsp.regDspBase 0x0 }
  dxV3DspStart (dxV3DspClockEnableAndReady dsp)

/-- The device that `create_dxrt_device` returns. `dsp` carries the device-tree values, the
registers as found, and whatever the unzeroed allocation held. -/
def createDxrtDevice (dsp : Dxdsp) : Dxdev where
  memAddr := 0
  memSize := 0
  numDmaCh := 0
  dsp := dxV3DspInit dsp
  requestHandler := true
  requests := []
  responses := []
  response := {}
  error := 0

/-! ### `dxrt_identify_device` -/

/-- `memset(&dev->response, 0, ...)`. -/
def identifyResponse (dx : Dxdev) : Dxdev := { dx with response := {} }

/-- Free every entry of the responses list. -/
def identifyResponses (dx : Dxdev) : Dxdev := { dx with responses := [] }

/-- Open the address window of the transfers. -/
def identifyWindow (dx : Dxdev) : Dxdev :=
  { dx with
    memAddr := dx.dsp.regDspBasePhyAddrDram.toUInt64
    memSize := dspDramSize
    numDmaCh := 1 }

/-- What `dxrt_identify_device` does to the device, whether or not its copy to the user succeeds. -/
def dxrtIdentifyDevice (dx : Dxdev) : Dxdev :=
  identifyWindow (identifyResponses (identifyResponse dx))

/-- The board of the register header, with a buffer as large as the region reported to users. -/
def boardDsp : Dxdsp where
  regDspBasePhyAddrRomRam := 0xC0000000
  regDspBasePhyAddrDram := 0xC0200000
  regDspBase := fun _ => 0
  regDspBaseDebug := fun _ => 0
  regDspBaseMailbox := fun _ => 0
  regDspBaseSram := fun _ => 0
  dmaBufSize := 0x0C000000
  dmaBuf := fun _ => 0
  reqId := 0
  irqEvent := false

end DxDsp
