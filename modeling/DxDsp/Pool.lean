/-
This file embeds the DSP buffer pool: `dxrt_alloc_buf`, `dxrt_free_buf` and
`dx_v3_dsp_buf_init` on the eight slots of `g_dsp_memory_manager`, cut into the
critical sections between which other callers may run. Run one call at a time,
the pool is a set of outstanding slots. Free slots keep stale offsets; what
makes the scan of a free right is that a slot marked allocated carries its own
offset.
-/

import DxDsp.Device
import DxDsp.Library.Allocator

namespace DxDsp

open Library

/-! ### The slots -/

/-- `dxrt_dsp_buffer_metadata_t`. A slot whose `alloc_size` is 0 is free. -/
structure DxrtDspBufferMetadata where
  dspBufOffset : UInt32
  allocSize : UInt32
deriving DecidableEq, Repr

/-- `dxrt_dsp_buffer_manager_t`. -/
abbrev DxrtDspBufferManager := Fin dspBufferMaxNum → DxrtDspBufferMetadata

/-- The zeroed pool. -/
def dxV3DspBufInit : DxrtDspBufferManager := fun _ => ⟨0, 0⟩

/-- `found * DSP_BUFFER_UNIT_SIZE`. -/
def slotOffset (slot : Fin dspBufferMaxNum) : UInt32 :=
  UInt32.ofNat slot * dspBufferUnitSize

theorem slotOffset_toNat (slot : Fin dspBufferMaxNum) :
    (slotOffset slot).toNat = slot * dspBufferUnitSize.toNat := by
  have bound : (slot : Nat) < 8 := slot.isLt
  have unit : dspBufferUnitSize.toNat = 25165824 := rfl
  rw [slotOffset, UInt32.toNat_mul, UInt32.toNat_ofNat', unit]
  omega

/-- The `mem_size` that `dxrt_identify_device` reports to the user. -/
def identifiedMemSize : UInt64 := dspBufferUnitSize.toUInt64 * UInt64.ofNat dspBufferMaxNum

/-- The bytes of the buffer at an offset, relative to the start of the region. -/
def bufferBytes (offset : UInt32) : Set Nat :=
  Set.Ico offset.toNat (offset.toNat + dspBufferUnitSize.toNat)

theorem bufferBytes_slotOffset (slot : Fin dspBufferMaxNum) :
    bufferBytes (slotOffset slot) = cell 0 dspBufferUnitSize.toNat slot := by
  rw [bufferBytes, slotOffset_toNat, cell, Nat.zero_add]

theorem slotOffset_injective : Function.Injective slotOffset := by
  intro first second same
  have equal := congrArg UInt32.toNat same
  rw [slotOffset_toNat, slotOffset_toNat] at equal
  exact Fin.ext (Nat.eq_of_mul_eq_mul_right (by decide) equal)

/-! ### Critical sections -/

/-- The first critical section of `dxrt_alloc_buf`: find a free slot and mark it. -/
def allocReserve (pool : DxrtDspBufferManager) :
    Option (Fin dspBufferMaxNum × DxrtDspBufferManager) :=
  (Fin.find? fun i => decide ((pool i).allocSize = 0)).map fun found =>
    (found, Function.update pool found ⟨slotOffset found, dspBufferUnitSize⟩)

/-- Clear the mark of one slot, as the rollback of `dxrt_alloc_buf` and `dxrt_free_buf` do. -/
def clearSlot (pool : DxrtDspBufferManager) (found : Fin dspBufferMaxNum) :
    DxrtDspBufferManager :=
  Function.update pool found { pool found with allocSize := 0 }

/-- The slot that `dxrt_free_buf` finds for an offset. -/
def freeFind (pool : DxrtDspBufferManager) (offset : UInt32) : Option (Fin dspBufferMaxNum) :=
  Fin.find? fun i => decide ((pool i).allocSize ≠ 0) && decide ((pool i).dspBufOffset = offset)

/-! ### Whole calls -/

/-- What a call returns: its value, and the metadata it copied out. -/
structure PoolReply where
  ret : Int
  copied : Option DxrtDspBufferMetadata := none
deriving DecidableEq, Repr

def dxrtAllocBuf (pool : DxrtDspBufferManager) (data : UserTarget) :
    DxrtDspBufferManager × PoolReply :=
  if data = .null then (pool, { ret := -einval })
  else
    match allocReserve pool with
    | none => (pool, { ret := -enomem })
    | some (found, reserved) =>
      if data = .fault then (clearSlot reserved found, { ret := -efault })
      else (reserved, { ret := 0, copied := some (reserved found) })

/-- The critical section of `dxrt_free_buf`: find the slot and clear its mark. -/
def freeNamed (pool : DxrtDspBufferManager) (dspBufMeta : DxrtDspBufferMetadata) :
    DxrtDspBufferManager × PoolReply :=
  (freeFind pool dspBufMeta.dspBufOffset).elim (pool, { ret := -einval }) fun found =>
    (clearSlot pool found, { ret := 0 })

def dxrtFreeBuf (pool : DxrtDspBufferManager) :
    UserSource DxrtDspBufferMetadata → DxrtDspBufferManager × PoolReply
  | .null => (pool, { ret := -einval })
  | .fault => (pool, { ret := -efault })
  | .holds dspBufMeta => freeNamed pool dspBufMeta

/-! ### The marked slots -/

/-- The slots marked allocated. -/
def marked (pool : DxrtDspBufferManager) : Finset (Fin dspBufferMaxNum) :=
  Finset.univ.filter fun slot => (pool slot).allocSize ≠ 0

@[simp] theorem mem_marked {pool : DxrtDspBufferManager} {slot : Fin dspBufferMaxNum} :
    slot ∈ marked pool ↔ (pool slot).allocSize ≠ 0 := by
  simp [marked]

theorem marked_dxV3DspBufInit : marked dxV3DspBufInit = ∅ := by
  ext slot
  simp [dxV3DspBufInit]

theorem marked_reserve (pool : DxrtDspBufferManager) (found : Fin dspBufferMaxNum) :
    marked (Function.update pool found ⟨slotOffset found, dspBufferUnitSize⟩) =
      insert found (marked pool) := by
  ext slot
  by_cases same : slot = found
  · subst same
    simp [dspBufferUnitSize]
  · simp [same]

theorem marked_clearSlot (pool : DxrtDspBufferManager) (found : Fin dspBufferMaxNum) :
    marked (clearSlot pool found) = (marked pool).erase found := by
  ext slot
  by_cases same : slot = found
  · subst same
    simp [clearSlot]
  · simp [clearSlot, same]

/-- A slot marked allocated carries its own offset and the unit size. -/
def Placed (pool : DxrtDspBufferManager) : Prop :=
  ∀ slot ∈ marked pool, pool slot = ⟨slotOffset slot, dspBufferUnitSize⟩

theorem placed_dxV3DspBufInit : Placed dxV3DspBufInit := by
  intro slot member
  rw [marked_dxV3DspBufInit] at member
  exact absurd member (Finset.notMem_empty slot)

theorem Placed.reserve {pool : DxrtDspBufferManager} (placed : Placed pool)
    (found : Fin dspBufferMaxNum) :
    Placed (Function.update pool found ⟨slotOffset found, dspBufferUnitSize⟩) := by
  intro slot member
  by_cases same : slot = found
  · subst same
    rw [Function.update_self]
  · rw [marked_reserve, Finset.mem_insert] at member
    rw [Function.update_of_ne same]
    exact placed slot (member.resolve_left same)

theorem Placed.clearSlot {pool : DxrtDspBufferManager} (placed : Placed pool)
    (found : Fin dspBufferMaxNum) : Placed (clearSlot pool found) := by
  intro slot member
  rw [marked_clearSlot, Finset.mem_erase] at member
  rw [DxDsp.clearSlot, Function.update_of_ne member.1]
  exact placed slot member.2

/-! ### What a section does to the marked slots -/

theorem allocReserve_eq (pool : DxrtDspBufferManager) :
    allocReserve pool = (Allocator.grant (marked pool)).map fun found =>
      (found, Function.update pool found ⟨slotOffset found, dspBufferUnitSize⟩) := by
  have same : (fun slot => decide (slot ∉ marked pool)) =
      fun slot => decide ((pool slot).allocSize = 0) := by
    funext slot
    simp
  rw [allocReserve, Allocator.grant, same]

/-- A free finds the one marked slot of the offset it names, whatever free slots still hold. -/
theorem freeFind_eq_some_iff {pool : DxrtDspBufferManager} (placed : Placed pool)
    {offset : UInt32} {slot : Fin dspBufferMaxNum} :
    freeFind pool offset = some slot ↔ slot ∈ marked pool ∧ slotOffset slot = offset := by
  have own (other : Fin dspBufferMaxNum) (member : (pool other).allocSize ≠ 0) :
      (pool other).dspBufOffset = slotOffset other :=
    congrArg DxrtDspBufferMetadata.dspBufOffset (placed other (mem_marked.mpr member))
  rw [freeFind, Fin.find?_eq_some_iff, mem_marked]
  constructor
  · rintro ⟨found, _⟩
    rw [Bool.and_eq_true, decide_eq_true_eq, decide_eq_true_eq] at found
    exact ⟨found.1, (own slot found.1).symm.trans found.2⟩
  · rintro ⟨allocated, rfl⟩
    refine ⟨by simp [allocated, own slot allocated], fun lower below => ?_⟩
    by_contra found
    rw [Bool.not_eq_false, Bool.and_eq_true, decide_eq_true_eq, decide_eq_true_eq] at found
    exact below.ne (slotOffset_injective ((own lower found.1).symm.trans found.2))

theorem freeFind_eq_none_iff {pool : DxrtDspBufferManager} (placed : Placed pool)
    {offset : UInt32} :
    freeFind pool offset = none ↔ ∀ slot ∈ marked pool, slotOffset slot ≠ offset := by
  rw [Option.eq_none_iff_forall_ne_some]
  constructor
  · intro none slot member same
    exact none slot ((freeFind_eq_some_iff placed).mpr ⟨member, same⟩)
  · intro absent slot found
    obtain ⟨member, same⟩ := (freeFind_eq_some_iff placed).mp found
    exact absent slot member same

end DxDsp
