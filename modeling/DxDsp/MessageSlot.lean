/-
This file bounds what one run of `dx_v3_dsp_run` touches: the SRAM bytes it
writes, against the slot of the request and the SRAM mapping, and the words it
reads through `req`, against the object its caller submitted. Neither bound is
checked by the code, so each holds exactly for the ids and sizes stated here.
-/

import DxDsp.Run
import DxDsp.Library.Cells

namespace DxDsp

open Library

/-! ### The addresses of a run -/

/-- The front of a submitted request with the given id and message size. -/
def requestBytes (reqId : UInt32) (messageSize : UInt16) : Object := fun index =>
  if index < 4 then UInt8.ofNat (reqId.toNat / 256 ^ index)
  else if index = 6 then UInt8.ofNat messageSize.toNat
  else if index = 7 then UInt8.ofNat (messageSize.toNat / 256)
  else 0

theorem messageMaxSize_quarter : messageMaxSize / 4 = 64 := rfl

/-- The 32-bit arithmetic of the slot addresses, as one sum modulo `2 ^ 32`. -/
theorem msgAddr_toNat (reqId : UInt32) (i : Nat) (gap : UInt32) :
    (regDspMsg + (messageMaxSize / 4 * reqId + UInt32.ofNat i) * 4 + gap).toNat =
      (0x3F000 + 256 * reqId.toNat + 4 * i + gap.toNat) % 2 ^ 32 := by
  simp only [messageMaxSize_quarter, regDspMsg, UInt32.toNat_add, UInt32.toNat_mul,
    UInt32.toNat_ofNat, UInt32.toNat_ofNat']
  omega

theorem writeSram_mem_dxV3DspRun {object : Object} {addr val : UInt32} :
    .writeSram addr val ∈ dxV3DspRun object ↔
      (∃ i < object.dataWords, .writeSram addr val =
        writeDspMsgData (object.dataWord i) (messageMaxSize / 4 * object.reqId + UInt32.ofNat i)) ∨
      ∃ i < 2, .writeSram addr val =
        writeDspMsgHead (object.headWord i)
          (messageMaxSize / 4 * object.reqId + UInt32.ofNat i) := by
  simp [dxV3DspRun, dataAccesses, headAccesses, writeDspMsgData, writeDspMsgHead]

theorem readObject_mem_dxV3DspRun {object : Object} {offset : Nat} :
    .readObject offset ∈ dxV3DspRun object ↔
      offset = reqIdOffset ∨ (∃ i < object.dataWords, offset = msgDataOffset + 4 * i) ∨
        ∃ i < 2, offset = msgHeaderOffset + 4 * i := by
  simp [dxV3DspRun, dataAccesses, headAccesses, writeDspMsgData, writeDspMsgHead]

/-! ### Slots -/

/-- The 256 bytes of the SRAM that belong to a request id. -/
def messageSlot (reqId : UInt32) : Set Nat := cell 0x3F000 messageMaxSize.toNat reqId.toNat

/-- The SRAM bytes a run writes. -/
def writtenBytes (object : Object) : Set Nat :=
  {byte | ∃ addr val, .writeSram addr val ∈ dxV3DspRun object ∧
    byte ∈ Set.Ico addr.toNat (addr.toNat + 4)}

/-- A run stays in its slot, and the slot is part of the mapped SRAM. -/
def SlotConfined (object : Object) : Prop :=
  writtenBytes object ⊆ messageSlot object.reqId ∧
    messageSlot object.reqId ⊆ Set.Ico 0 sramMappedSize

theorem messageSlot_subset_iff (reqId : UInt32) :
    messageSlot reqId ⊆ Set.Ico 0 sramMappedSize ↔ reqId.toNat < 16 := by
  have unit : messageMaxSize.toNat = 256 := rfl
  constructor
  · intro subset
    have last : 0x3F000 + reqId.toNat * 256 + 255 ∈ messageSlot reqId := by
      rw [messageSlot, mem_cell, unit]
      omega
    have bounded := (subset last).2
    rw [sramMappedSize] at bounded
    omega
  · intro small
    refine (cell_subset small).trans (Set.Ico_subset_Ico (Nat.zero_le _) ?_)
    rw [unit, sramMappedSize]

/-- A word that ends before its slot does is part of the slot. -/
theorem word_subset_messageSlot {reqId : UInt32} (mapped : reqId.toNat < 16) {i : Nat}
    {gap : UInt32} (inside : 4 * i + gap.toNat + 4 ≤ 256) {addr : UInt32}
    (address : addr = regDspMsg + (messageMaxSize / 4 * reqId + UInt32.ofNat i) * 4 + gap) :
    Set.Ico addr.toNat (addr.toNat + 4) ⊆ messageSlot reqId := by
  have unit : messageMaxSize.toNat = 256 := rfl
  intro byte inWord
  rw [address, msgAddr_toNat, Set.mem_Ico] at inWord
  rw [messageSlot, mem_cell, unit]
  omega

/-- A request that names one of the sixteen mapped slots stays in its slot exactly when its
payload loop ends before the slot does. -/
theorem writtenBytes_subset_iff (object : Object) (mapped : object.reqId.toNat < 16) :
    writtenBytes object ⊆ messageSlot object.reqId ↔ object.messageSize.toNat < 252 := by
  have unit : messageMaxSize.toNat = 256 := rfl
  have words : object.dataWords = object.messageSize.toNat / 4 := rfl
  have gap : (8 : UInt32).toNat = 8 := rfl
  constructor
  · intro subset
    by_contra large
    have overrun : .writeSram (regDspMsg +
        (messageMaxSize / 4 * object.reqId + UInt32.ofNat 62) * 4 + 8) (object.dataWord 62) ∈
          dxV3DspRun object :=
      writeSram_mem_dxV3DspRun.mpr (Or.inl ⟨62, by omega, rfl⟩)
    have inside := subset ⟨_, _, overrun, ⟨le_rfl, Nat.lt_add_of_pos_right (by decide)⟩⟩
    rw [messageSlot, mem_cell, unit, msgAddr_toNat] at inside
    omega
  · rintro small byte ⟨addr, val, member, inWord⟩
    rcases writeSram_mem_dxV3DspRun.mp member with ⟨i, bound, written⟩ | ⟨i, bound, written⟩
    · injection written with address _
      exact word_subset_messageSlot mapped (by omega) address inWord
    · injection written with address _
      have none : (0 : UInt32).toNat = 0 := rfl
      have unshifted := address.trans (UInt32.add_zero _).symm
      exact word_subset_messageSlot mapped (by omega) unshifted inWord

theorem slotConfined_iff (object : Object) :
    SlotConfined object ↔ object.reqId.toNat < 16 ∧ object.messageSize.toNat < 252 := by
  rw [SlotConfined, messageSlot_subset_iff, and_comm]
  exact and_congr_right fun mapped => writtenBytes_subset_iff object mapped

/-- In a run that nothing disturbs a message is confined to its slot for exactly the requests that
name one of the sixteen slots of the mapping and whose payload ends before the slot does; between
two such requests of different ids no SRAM byte is shared. -/
theorem messageSlots_confined_iff (object : Object) :
    (SlotConfined object ↔ object.reqId.toNat < 16 ∧ object.messageSize.toNat < 252) ∧
    ∀ other : Object, object.reqId ≠ other.reqId →
      (object.reqId.toNat < 16 ∧ object.messageSize.toNat < 252) →
      (other.reqId.toNat < 16 ∧ other.messageSize.toNat < 252) →
      Disjoint (writtenBytes object) (writtenBytes other) := by
  refine ⟨slotConfined_iff object, fun other different fits otherFits => ?_⟩
  have slot := ((slotConfined_iff object).mpr fits).1
  have otherSlot := ((slotConfined_iff other).mpr otherFits).1
  refine Set.disjoint_of_subset slot otherSlot (cell_disjoint fun same => different ?_)
  exact UInt32.toNat_inj.mp same

/-- A request with id 0 and 256 payload bytes stores a zero over the header of request 1. -/
theorem messageSlots_overrun :
    .writeSram 0x3F100 0 ∈ dxV3DspRun (requestBytes 0 256) ∧
      .writeSram 0x3F100 0 ∈ dxV3DspRun (requestBytes 1 0) ∧
      ¬ SlotConfined (requestBytes 0 256) ∧
      ¬ Disjoint (writtenBytes (requestBytes 0 256)) (writtenBytes (requestBytes 1 0)) := by
  have word : .writeSram 0x3F100 0 ∈ dxV3DspRun (requestBytes 0 256) :=
    writeSram_mem_dxV3DspRun.mpr (Or.inl ⟨62, by decide, rfl⟩)
  have header : .writeSram 0x3F100 0 ∈ dxV3DspRun (requestBytes 1 0) :=
    writeSram_mem_dxV3DspRun.mpr (Or.inr ⟨0, by decide, rfl⟩)
  have first : 0x3F100 ∈ Set.Ico 0x3F100 (0x3F100 + 4) := ⟨le_rfl, by decide⟩
  refine ⟨word, header, fun confined => ?_, fun disjoint => ?_⟩
  · exact absurd ((slotConfined_iff _).mp confined).2 (by decide)
  · exact Set.disjoint_left.mp disjoint ⟨_, _, word, first⟩ ⟨_, _, header, first⟩

/-! ### The submitted object -/

/-- The two ways a request reaches `dx_v3_dsp_run`: `write()` passes the `dxrt_dsp_request_t` of a
list entry, `WRITE_INPUT_DMA_CHx` the `dxrt_request_t` on its stack. -/
inductive Submission
  | write
  | writeInput
deriving DecidableEq, Repr

def Submission.objectSize : Submission → Nat
  | .write => sizeofDxrtDspRequest
  | .writeInput => sizeofDxrtRequest

/-- Every word a run reads through `req` lies in the object. -/
def ReadsInside (object : Object) (size : Nat) : Prop :=
  ∀ offset, .readObject offset ∈ dxV3DspRun object → offset + 4 ≤ size

/-- The header is inside both objects, so the reads are inside exactly when the last payload word
is. -/
theorem readsInside_iff (object : Object) (size : Nat) (header : msgDataOffset ≤ size) :
    ReadsInside object size ↔ msgDataOffset + 4 * object.dataWords ≤ size := by
  have data : msgDataOffset = 12 := rfl
  have head : msgHeaderOffset = 4 := rfl
  have first : reqIdOffset = 0 := rfl
  constructor
  · intro inside
    by_cases empty : object.dataWords = 0
    · omega
    · have last := inside (msgDataOffset + 4 * (object.dataWords - 1))
        (readObject_mem_dxV3DspRun.mpr (Or.inr (Or.inl ⟨_, by omega, rfl⟩)))
      omega
  · intro bounded offset member
    rcases readObject_mem_dxV3DspRun.mp member with rfl | ⟨i, bound, rfl⟩ | ⟨i, bound, rfl⟩
    · omega
    · omega
    · omega

theorem readsInside_submission_iff (path : Submission) (object : Object) :
    ReadsInside object path.objectSize ↔
      object.messageSize.toNat < path.objectSize - msgDataOffset + 4 := by
  have words : object.dataWords = object.messageSize.toNat / 4 := rfl
  have data : msgDataOffset = 12 := rfl
  cases path with
  | write =>
    have size : Submission.write.objectSize = 128 := rfl
    rw [readsInside_iff object _ (by decide)]
    omega
  | writeInput =>
    have size : Submission.writeInput.objectSize = 80 := rfl
    rw [readsInside_iff object _ (by decide)]
    omega

/-- A run reads only the submitted request for exactly the message sizes below 120 on the
`write()` path and below 72 on the `WRITE_INPUT_DMA_CHx` path. -/
theorem submission_reads_inside_iff (object : Object) :
    (ReadsInside object Submission.write.objectSize ↔ object.messageSize.toNat < 120) ∧
      (ReadsInside object Submission.writeInput.objectSize ↔ object.messageSize.toNat < 72) :=
  ⟨readsInside_submission_iff .write object, readsInside_submission_iff .writeInput object⟩

/-- A message size of 256 has a run read the first word behind the object on either path. -/
theorem submission_reads_behind :
    .readObject Submission.write.objectSize ∈ dxV3DspRun (requestBytes 0 256) ∧
      .readObject Submission.writeInput.objectSize ∈ dxV3DspRun (requestBytes 0 256) ∧
      ∀ path : Submission, ¬ ReadsInside (requestBytes 0 256) path.objectSize := by
  have reads : ∀ path : Submission,
      .readObject path.objectSize ∈ dxV3DspRun (requestBytes 0 256) := by
    intro path
    refine readObject_mem_dxV3DspRun.mpr (Or.inr (Or.inl ?_))
    cases path with
    | write => exact ⟨29, by decide, rfl⟩
    | writeInput => exact ⟨17, by decide, rfl⟩
  refine ⟨reads .write, reads .writeInput, fun path inside => ?_⟩
  have word := inside _ (reads path)
  omega

end DxDsp
