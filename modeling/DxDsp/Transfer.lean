/-
This file embeds `dxrt_write_mem` and `dxrt_read_mem`. Both validate the device
address `base + offset` against the window the device was identified with, in
64-bit arithmetic, and both place their copy at `dma_buf + offset`. So the
handlers are one memory indexed by the offset, and one memory indexed by the
device address only as far as equal addresses come with equal bases.
-/

import DxDsp.Device
import DxDsp.Library.LatestWrite
import Mathlib.Order.Interval.Set.Basic

namespace DxDsp

open Library

/-! ### The handlers -/

/-- The range test of the handlers; it holds when the request is refused. -/
def invalidAddress (dx : Dxdev) (meminfo : DxrtReqMeminfo) : Bool :=
  decide (meminfo.base + meminfo.offset.toUInt64 < dx.memAddr) ||
    decide (dx.memAddr + dx.memSize <
      meminfo.base + meminfo.offset.toUInt64 + meminfo.size.toUInt64)

/-- What a handler returns, and the request whose copy to or from the buffer was reached. -/
structure TransferReply where
  ret : Int
  copied : Option DxrtReqMeminfo := none
deriving DecidableEq, Repr

/-- The checks both handlers make before their copy. -/
def transferCheck (dx : Dxdev) : UserSource DxrtReqMeminfo → TransferReply
  | .null => { ret := 0 }
  | .fault => { ret := -efault }
  | .holds meminfo =>
    if 2 < meminfo.ch then { ret := -einval }
    else if invalidAddress dx meminfo then { ret := -einval }
    else { ret := 0, copied := some meminfo }

/-- The user side of a copy: the bytes, and whether the copy faults. A copy from the user that
faults still leaves `bytes` in the kernel range. -/
structure UserCopy where
  bytes : Nat → UInt8 := fun _ => 0
  fault : Bool := false

/-- `copy_from_user(dma_buf + offset, data, size)`. -/
def copyToBuffer (dx : Dxdev) (meminfo : DxrtReqMeminfo) (bytes : Nat → UInt8) : Dxdev :=
  { dx with dsp := { dx.dsp with
    dmaBuf := dx.dsp.dmaBuf.store meminfo.offset.toNat meminfo.size.toNat bytes } }

def dxrtWriteMem (dx : Dxdev) (data : UserSource DxrtReqMeminfo) (source : UserCopy) :
    Dxdev × TransferReply :=
  let reply := transferCheck dx data
  match reply.copied with
  | none => (dx, reply)
  | some meminfo =>
    (copyToBuffer dx meminfo source.bytes,
      if source.fault then { reply with ret := -efault } else reply)

theorem dxrtWriteMem_requests (dx : Dxdev) (data : UserSource DxrtReqMeminfo) (source : UserCopy) :
    (dxrtWriteMem dx data source).1.requests = dx.requests := by
  rw [dxrtWriteMem]
  split <;> rfl

/-- A WRITE_MEM touches neither the status register nor `dsp->req_id`. -/
theorem dxrtWriteMem_registers (dx : Dxdev) (data : UserSource DxrtReqMeminfo) (source : UserCopy) :
    (dxrtWriteMem dx data source).1.dsp.regDspBase = dx.dsp.regDspBase ∧
      (dxrtWriteMem dx data source).1.dsp.reqId = dx.dsp.reqId := by
  rw [dxrtWriteMem]
  split <;> exact ⟨rfl, rfl⟩

/-- The reply and the bytes that reach the user. -/
def dxrtReadMem (dx : Dxdev) (data : UserSource DxrtReqMeminfo) (target : UserCopy) :
    TransferReply × (Nat → UInt8) :=
  let reply := transferCheck dx data
  match reply.copied with
  | none => (reply, target.bytes)
  | some meminfo =>
    if target.fault then ({ reply with ret := -efault }, target.bytes)
    else (reply, fun index => dx.dsp.dmaBuf (meminfo.offset.toNat + index))

/-! ### What the checks let through -/

/-- The request passes the checks of the handlers. -/
def Passes (dx : Dxdev) (meminfo : DxrtReqMeminfo) : Prop :=
  meminfo.ch ≤ 2 ∧ invalidAddress dx meminfo = false

theorem transferCheck_of_passes {dx : Dxdev} {meminfo : DxrtReqMeminfo}
    (passes : Passes dx meminfo) :
    transferCheck dx (.holds meminfo) = { ret := 0, copied := some meminfo } := by
  rw [transferCheck, if_neg (UInt32.not_lt.mpr passes.1), passes.2]
  rfl

theorem transferCheck_copied_iff {dx : Dxdev} {data : UserSource DxrtReqMeminfo}
    {meminfo : DxrtReqMeminfo} :
    (transferCheck dx data).copied = some meminfo ↔ data = .holds meminfo ∧ Passes dx meminfo := by
  constructor
  · intro copied
    cases data with
    | null => cases copied
    | fault => cases copied
    | holds asked =>
      rw [transferCheck] at copied
      split at copied
      · cases copied
      · next channel =>
        split at copied
        · cases copied
        · next valid =>
          have same : asked = meminfo := Option.some.inj copied
          subst same
          exact ⟨rfl, UInt32.not_lt.mp channel, Bool.eq_false_of_not_eq_true valid⟩
  · rintro ⟨rfl, passes⟩
    rw [transferCheck_of_passes passes]

/-- The range test in terms of the two sums, each modulo `2 ^ 64`. -/
theorem invalidAddress_eq_false_iff {dx : Dxdev} {meminfo : DxrtReqMeminfo} :
    invalidAddress dx meminfo = false ↔
      dx.memAddr.toNat ≤ (meminfo.base.toNat + meminfo.offset.toNat) % 2 ^ 64 ∧
        (meminfo.base.toNat + meminfo.offset.toNat + meminfo.size.toNat) % 2 ^ 64 ≤
          (dx.memAddr.toNat + dx.memSize.toNat) % 2 ^ 64 := by
  rw [invalidAddress, Bool.or_eq_false_iff, decide_eq_false_iff_not, decide_eq_false_iff_not,
    UInt64.not_lt, UInt64.not_lt, UInt64.le_iff_toNat_le, UInt64.le_iff_toNat_le]
  simp only [UInt64.toNat_add, UInt32.toNat_toUInt64, Nat.mod_add_mod]

theorem dxrtWriteMem_passes {dx : Dxdev} {meminfo : DxrtReqMeminfo} (passes : Passes dx meminfo)
    (bytes : Nat → UInt8) :
    dxrtWriteMem dx (.holds meminfo) { bytes } =
      (copyToBuffer dx meminfo bytes, { ret := 0, copied := some meminfo }) := by
  rw [dxrtWriteMem, transferCheck_of_passes passes]
  rfl

theorem transferCheck_of_not_passes {dx : Dxdev} {meminfo : DxrtReqMeminfo}
    (refused : ¬ Passes dx meminfo) : transferCheck dx (.holds meminfo) = { ret := -einval } := by
  rw [transferCheck]
  by_cases channel : 2 < meminfo.ch
  · rw [if_pos channel]
  · have invalid : invalidAddress dx meminfo = true := by
      by_contra valid
      exact refused ⟨UInt32.not_lt.mp channel, Bool.eq_false_of_not_eq_true valid⟩
    rw [if_neg channel, if_pos invalid]

theorem dxrtWriteMem_refused {dx : Dxdev} {meminfo : DxrtReqMeminfo} (refused : ¬ Passes dx meminfo)
    (source : UserCopy) : dxrtWriteMem dx (.holds meminfo) source = (dx, { ret := -einval }) := by
  rw [dxrtWriteMem, transferCheck_of_not_passes refused]

theorem dxrtReadMem_passes {dx : Dxdev} {meminfo : DxrtReqMeminfo} (passes : Passes dx meminfo) :
    dxrtReadMem dx (.holds meminfo) {} =
      ({ ret := 0, copied := some meminfo },
        fun index => dx.dsp.dmaBuf (meminfo.offset.toNat + index)) := by
  rw [dxrtReadMem, transferCheck_of_passes passes]
  rfl

end DxDsp
