/-
This file is about what the DSP finds when it is started. The store of the
second header word starts it; by then the busy mark, `dsp->req_id`, the payload
loop and the first header word are behind the run. The payload loop counts whole
words, so a message whose size is no multiple of four arrives without its last
bytes, and the DSP finds in their place what the slot held before.
-/

import DxDsp.MessageSlot

namespace DxDsp

open Library

/-! ### A run that nothing disturbs -/

/-- The device with the busy mark and the id of the request. -/
def locked (object : Object) (before : Dxdsp) : Dxdsp :=
  { before with
    regDspBase := writeDspStatus before.regDspBase dspBusy
    reqId := object.reqId }

/-- The SRAM once `count` payload words are stored. -/
def payloadStored (object : Object) (sram : Registers) (count : Nat) : Registers :=
  storeEach sram
    (fun i => regDspMsg + (messageMaxSize / 4 * object.reqId + UInt32.ofNat i) * 4 + 0x8)
    object.dataWord count

/-- The SRAM once the payload and `count` header words are stored. -/
def headerStored (object : Object) (sram : Registers) (count : Nat) : Registers :=
  storeEach (payloadStored object sram object.dataWords)
    (fun i => regDspMsg + (messageMaxSize / 4 * object.reqId + UInt32.ofNat i) * 4)
    object.headWord count

/-- The device at each program point of a run from `before`. -/
inductive OnCourse (object : Object) (before : Dxdsp) : RunPc → Dxdsp → Prop
  | wait : OnCourse object before .wait before
  | lock : OnCourse object before .lock before
  | setId :
    OnCourse object before .setId
      { before with regDspBase := writeDspStatus before.regDspBase dspBusy }
  | slot : OnCourse object before .slot (locked object before)
  | data {i : Nat} (bound : i ≤ object.dataWords) :
    OnCourse object before (.data (messageMaxSize / 4 * object.reqId) i)
      { locked object before with
        regDspBaseSram := payloadStored object before.regDspBaseSram i }
  | head {i : Nat} (bound : i ≤ 2) :
    OnCourse object before (.head (messageMaxSize / 4 * object.reqId) i)
      { locked object before with
        regDspBaseSram := headerStored object before.regDspBaseSram i }
  | done :
    OnCourse object before .done
      { locked object before with
        regDspBaseSram := headerStored object before.regDspBaseSram 2 }

theorem OnCourse.step {object : Object} {before dsp : Dxdsp} {pc : RunPc}
    (course : OnCourse object before pc dsp) :
    OnCourse object before (runNext object dsp pc) (runEffect object dsp pc) := by
  cases course with
  | wait =>
    rw [runNext]
    split
    · exact .wait
    · exact .lock
  | lock => exact .setId
  | setId => exact .slot
  | slot => exact .data (Nat.zero_le _)
  | @data i bound =>
    by_cases inside : i < object.dataWords
    · have next := @OnCourse.data object before (i + 1) inside
      rw [payloadStored, storeEach_succ] at next
      rw [runNext, if_pos inside, runEffect, runAccesses, if_pos inside]
      exact next
    · have finished : i = object.dataWords := by omega
      rw [runNext, if_neg inside, runEffect, runAccesses, if_neg inside, finished]
      exact .head (Nat.zero_le _)
  | @head i bound =>
    by_cases inside : i < 2
    · have next := @OnCourse.head object before (i + 1) inside
      rw [headerStored, storeEach_succ] at next
      rw [runNext, if_pos inside, runEffect, runAccesses, if_pos inside]
      exact next
    · have finished : i = 2 := by omega
      rw [runNext, if_neg inside, runEffect, runAccesses, if_neg inside, finished]
      exact .done
  | done => exact .done

theorem OnCourse.run {object : Object} {before dsp after : Dxdsp} {pc final : RunPc}
    {accesses : List Access} (course : OnCourse object before pc dsp)
    (alone : RunsAlone object pc dsp accesses final after) :
    OnCourse object before final after := by
  induction alone with
  | refl => exact course
  | step _ inductionHypothesis => exact inductionHypothesis course.step

/-- The device as the second header store of a run from `dsp` leaves it. -/
def StartsDsp (object : Object) (dsp after : Dxdsp) : Prop :=
  ∃ accesses msgBufOffset4, RunsAlone object .wait dsp accesses (.head msgBufOffset4 2) after

theorem StartsDsp.eq {object : Object} {dsp after : Dxdsp} (starts : StartsDsp object dsp after) :
    after = { locked object dsp with
      regDspBaseSram := headerStored object dsp.regDspBaseSram 2 } := by
  obtain ⟨accesses, msgBufOffset4, alone⟩ := starts
  cases OnCourse.run .wait alone with
  | head => rfl

/-- On an idle DSP a run comes to its second header store. -/
theorem exists_startsDsp (object : Object) (dsp : Dxdsp)
    (idle : readDspStatus dsp.regDspBase ≠ dspBusy) : ∃ after, StartsDsp object dsp after := by
  obtain ⟨after, alone⟩ := exists_runsAlone_head object dsp idle
  exact ⟨after, _, _, alone⟩

/-! ### The slot in bytes -/

/-- The bytes of the SRAM. -/
def sramBytes (sram : Registers) : ByteMemory :=
  ByteMemory.ofWords fun i => sram (UInt32.ofNat (4 * i))

/-- The first byte of the slot of a request id. -/
def slotStart (reqId : UInt32) : Nat := 0x3F000 + messageMaxSize.toNat * reqId.toNat

theorem slotStart_eq (reqId : UInt32) : slotStart reqId = 0x3F000 + 256 * reqId.toNat := rfl

/-- The address of a payload word, in the 32-bit arithmetic of the macro. -/
theorem dataAddr_eq (reqId : UInt32) (i : Nat) :
    regDspMsg + (messageMaxSize / 4 * reqId + UInt32.ofNat i) * 4 + 0x8 =
      UInt32.ofNat (slotStart reqId + 8 + 4 * i) := by
  have gap : (8 : UInt32).toNat = 8 := rfl
  refine UInt32.toNat_inj.mp ?_
  rw [msgAddr_toNat, UInt32.toNat_ofNat', slotStart_eq]
  omega

theorem headAddr_eq (reqId : UInt32) (i : Nat) :
    regDspMsg + (messageMaxSize / 4 * reqId + UInt32.ofNat i) * 4 =
      UInt32.ofNat (slotStart reqId + 4 * i) := by
  have gap : (0 : UInt32).toNat = 0 := rfl
  have address := msgAddr_toNat reqId i 0
  rw [UInt32.add_zero] at address
  refine UInt32.toNat_inj.mp ?_
  rw [address, UInt32.toNat_ofNat', slotStart_eq]
  omega

theorem ofNat_inj_of_lt {first second : Nat} (firstSmall : first < 2 ^ 32)
    (secondSmall : second < 2 ^ 32) (same : UInt32.ofNat first = UInt32.ofNat second) :
    first = second := by
  have values := congrArg UInt32.toNat same
  rwa [UInt32.toNat_ofNat', UInt32.toNat_ofNat', Nat.mod_eq_of_lt firstSmall,
    Nat.mod_eq_of_lt secondSmall] at values

section Slot

variable {object : Object} (mapped : object.reqId.toNat < 16)
  (fits : object.messageSize.toNat ≤ 116) (sram : Registers)

include mapped fits

/-- Every word of the slot that the two loops store lies in the SRAM. -/
theorem slotEnd_le : slotStart object.reqId + 8 + 4 * object.dataWords ≤ sramMappedSize := by
  have words : object.dataWords = object.messageSize.toNat / 4 := rfl
  rw [slotStart_eq, sramMappedSize]
  omega

theorem headerStored_header {i : Nat} (inside : i < 2) :
    headerStored object sram 2 (UInt32.ofNat (slotStart object.reqId + 4 * i)) =
      object.headWord i := by
  have small := slotEnd_le mapped fits
  rw [sramMappedSize] at small
  rw [← headAddr_eq, headerStored]
  refine storeEach_of_unique inside fun j other same => ?_
  rw [headAddr_eq, headAddr_eq] at same
  have positions := ofNat_inj_of_lt (by omega) (by omega) same
  omega

theorem headerStored_payload {i : Nat} (inside : i < object.dataWords) :
    headerStored object sram 2 (UInt32.ofNat (slotStart object.reqId + 8 + 4 * i)) =
      object.dataWord i := by
  have small := slotEnd_le mapped fits
  rw [sramMappedSize] at small
  rw [headerStored, storeEach_of_ne, ← dataAddr_eq, payloadStored]
  · refine storeEach_of_unique inside fun j other same => ?_
    rw [dataAddr_eq, dataAddr_eq] at same
    have positions := ofNat_inj_of_lt (by omega) (by omega) same
    omega
  · intro j other same
    rw [headAddr_eq] at same
    have positions := ofNat_inj_of_lt (by omega) (by omega) same
    omega

theorem headerStored_outside {address : Nat} (inSram : address < 2 ^ 32)
    (outside : address + 4 ≤ slotStart object.reqId ∨
      slotStart object.reqId + 8 + 4 * object.dataWords ≤ address) :
    headerStored object sram 2 (UInt32.ofNat address) = sram (UInt32.ofNat address) := by
  have small := slotEnd_le mapped fits
  rw [sramMappedSize] at small
  rw [headerStored, storeEach_of_ne, payloadStored, storeEach_of_ne]
  · intro j other same
    rw [dataAddr_eq] at same
    have positions := ofNat_inj_of_lt (by omega) inSram same
    omega
  · intro j other same
    rw [headAddr_eq] at same
    have positions := ofNat_inj_of_lt (by omega) inSram same
    omega

theorem sramBytes_header {i : Nat} (inside : i < 8) :
    sramBytes (headerStored object sram 2) (slotStart object.reqId + i) =
      object (msgHeaderOffset + i) := by
  have start := slotStart_eq object.reqId
  have word : 4 * ((slotStart object.reqId + i) / 4) = slotStart object.reqId + 4 * (i / 4) := by
    omega
  have place : (slotStart object.reqId + i) % 4 = i % 4 := by omega
  rw [sramBytes, ByteMemory.ofWords, word, place, headerStored_header mapped fits sram (by omega)]
  exact ByteMemory.ofWords_word object msgHeaderOffset i

theorem sramBytes_payload {i : Nat} (inside : i < 4 * object.dataWords) :
    sramBytes (headerStored object sram 2) (slotStart object.reqId + 8 + i) =
      object (msgDataOffset + i) := by
  have start := slotStart_eq object.reqId
  have word : 4 * ((slotStart object.reqId + 8 + i) / 4) =
      slotStart object.reqId + 8 + 4 * (i / 4) := by omega
  have place : (slotStart object.reqId + 8 + i) % 4 = i % 4 := by omega
  rw [sramBytes, ByteMemory.ofWords, word, place,
    headerStored_payload mapped fits sram (by omega)]
  exact ByteMemory.ofWords_word object msgDataOffset i

theorem sramBytes_outside {byte : Nat} (inSram : byte < sramMappedSize)
    (outside : byte < slotStart object.reqId ∨
      slotStart object.reqId + 8 + 4 * object.dataWords ≤ byte) :
    sramBytes (headerStored object sram 2) byte = sramBytes sram byte := by
  have start := slotStart_eq object.reqId
  rw [sramMappedSize] at inSram
  rw [sramBytes, sramBytes, ByteMemory.ofWords, ByteMemory.ofWords,
    headerStored_outside mapped fits sram (by omega) (by omega)]

end Slot

/-! ### The whole message -/

/-- The SRAM bytes that the header and the whole payload take up. -/
def messageBytes (object : Object) : Set Nat :=
  Set.Ico (slotStart object.reqId) (slotStart object.reqId + 8 + object.messageSize.toNat)

/-- The DSP, started by a run from `before`, finds the whole message. -/
structure Delivered (object : Object) (before after : Dxdsp) : Prop where
  header : ∀ i < 8, sramBytes after.regDspBaseSram (slotStart object.reqId + i) =
    object (msgHeaderOffset + i)
  payload : ∀ i < object.messageSize.toNat,
    sramBytes after.regDspBaseSram (slotStart object.reqId + 8 + i) = object (msgDataOffset + i)
  busy : readDspStatus after.regDspBase = dspBusy
  reqId : after.reqId = object.reqId
  frame : ∀ byte < sramMappedSize, (∀ own ∈ messageBytes object, own / 4 ≠ byte / 4) →
    sramBytes after.regDspBaseSram byte = sramBytes before.regDspBaseSram byte

/-- The slot already holds the bytes of the message behind its last whole word. -/
def TailInSlot (object : Object) (before : Dxdsp) : Prop :=
  ∀ i, 4 * object.dataWords ≤ i → i < object.messageSize.toNat →
    sramBytes before.regDspBaseSram (slotStart object.reqId + 8 + i) = object (msgDataOffset + i)

/-- A message of whole words has no such bytes. -/
theorem tailInSlot_of_dvd {object : Object} (whole : 4 ∣ object.messageSize.toNat)
    (before : Dxdsp) : TailInSlot object before := by
  have words : object.dataWords = object.messageSize.toNat / 4 := rfl
  intro i behind inside
  omega

theorem delivered_iff_tailInSlot {object : Object} {dsp after : Dxdsp}
    (mapped : object.reqId.toNat < 16) (fits : object.messageSize.toNat ≤ 116)
    (starts : StartsDsp object dsp after) :
    Delivered object dsp after ↔ TailInSlot object dsp := by
  have words : object.dataWords = object.messageSize.toNat / 4 := rfl
  have start := slotStart_eq object.reqId
  have stored : after.regDspBaseSram = headerStored object dsp.regDspBaseSram 2 :=
    congrArg Dxdsp.regDspBaseSram starts.eq
  have behindLoop : ∀ i, 4 * object.dataWords ≤ i → i < object.messageSize.toNat →
      sramBytes after.regDspBaseSram (slotStart object.reqId + 8 + i) =
        sramBytes dsp.regDspBaseSram (slotStart object.reqId + 8 + i) := by
    intro i behind inside
    rw [stored]
    refine sramBytes_outside mapped fits _ ?_ (Or.inr (by omega))
    rw [sramMappedSize]
    omega
  constructor
  · intro delivered i behind inside
    rw [← behindLoop i behind inside]
    exact delivered.payload i inside
  · intro tail
    constructor
    · intro i inside
      rw [stored]
      exact sramBytes_header mapped fits _ inside
    · intro i inside
      by_cases copied : i < 4 * object.dataWords
      · rw [stored]
        exact sramBytes_payload mapped fits _ copied
      · rw [behindLoop i (by omega) inside]
        exact tail i (by omega) inside
    · rw [starts.eq]
      exact readDspStatus_writeDspStatus _ _
    · rw [starts.eq]
      rfl
    · intro byte inSram apart
      rw [stored]
      refine sramBytes_outside mapped fits _ inSram ?_
      by_contra covered
      exact apart byte ⟨by omega, by omega⟩ rfl

/-- A run on an idle DSP comes to the store that starts the DSP, and the DSP then finds the whole
message exactly when the bytes behind the last whole word are in the slot already. -/
theorem message_delivered_iff (object : Object) (dsp : Dxdsp) (mapped : object.reqId.toNat < 16)
    (fits : object.messageSize.toNat ≤ 116) :
    (readDspStatus dsp.regDspBase ≠ dspBusy → ∃ after, StartsDsp object dsp after) ∧
      ∀ after, StartsDsp object dsp after →
        (Delivered object dsp after ↔ TailInSlot object dsp) :=
  ⟨exists_startsDsp object dsp, fun _ starts => delivered_iff_tailInSlot mapped fits starts⟩

theorem message_delivered_eight :
    ∃ after, StartsDsp (requestBytes 3 8) boardDsp after ∧
      Delivered (requestBytes 3 8) boardDsp after := by
  obtain ⟨starts, decided⟩ :=
    message_delivered_iff (requestBytes 3 8) boardDsp (by decide) (by decide)
  obtain ⟨after, started⟩ := starts (by decide)
  exact ⟨after, started, (decided after started).mpr (tailInSlot_of_dvd (by decide) _)⟩

/-- The board with ones all over its SRAM. -/
def filledBoard : Dxdsp := { boardDsp with regDspBaseSram := fun _ => 0x01010101 }

/-- A message of one zero byte on that board: the DSP finds a one. -/
theorem message_tail_missing :
    ∃ after, StartsDsp (requestBytes 0 1) filledBoard after ∧
      requestBytes 0 1 msgDataOffset = 0 ∧
      sramBytes after.regDspBaseSram (slotStart 0 + 8) = 1 ∧
      ¬ Delivered (requestBytes 0 1) filledBoard after := by
  obtain ⟨after, started⟩ := exists_startsDsp (requestBytes 0 1) filledBoard (by decide)
  have found : sramBytes after.regDspBaseSram (slotStart 0 + 8) = 1 := by
    rw [started.eq]
    decide
  refine ⟨after, started, by decide, found, fun delivered => ?_⟩
  have tail := (delivered_iff_tailInSlot (by decide) (by decide) started).mp delivered
  exact absurd (tail 0 (by decide) (by decide)) (by decide)

end DxDsp
