/-
This file embeds `dx_v3_dsp_run`, twice: as the steps between which other
callers, the DSP and the interrupt handler may act, and as the whole list of
its accesses when nothing acts in between. Both name the same accesses, and the
second is what the steps add up to.
-/

import DxDsp.Device
import Mathlib.Data.List.Range

namespace DxDsp

open Library

/-! ### Accesses -/

/-- One access of a run: to the status register, to `dsp->req_id`, to the SRAM, or a 32-bit word
read through `req`. -/
inductive Access
  | readStatus
  | writeStatus (val : UInt32)
  | storeReqId (val : UInt32)
  | loadReqId
  | readObject (offset : Nat)
  | writeSram (addr val : UInt32)
deriving DecidableEq, Repr

/-- What an access changes in the device. -/
def Dxdsp.access (dsp : Dxdsp) : Access → Dxdsp
  | .writeStatus val => { dsp with regDspBase := writeDspStatus dsp.regDspBase val }
  | .storeReqId val => { dsp with reqId := val }
  | .writeSram addr val => { dsp with regDspBaseSram := dspRegWrite dsp.regDspBaseSram addr val }
  | .readStatus | .loadReqId | .readObject _ => dsp

/-- `WRITE_DSP_MSG_HEAD`. -/
def writeDspMsgHead (val idx : UInt32) : Access := .writeSram (regDspMsg + idx * 4) val

/-- `WRITE_DSP_MSG_DATA`: the payload of a slot follows the eight bytes of its header. -/
def writeDspMsgData (val idx : UInt32) : Access := .writeSram (regDspMsg + idx * 4 + 0x8) val

/-- One iteration of the payload loop. -/
def dataAccesses (object : Object) (msgBufOffset4 : UInt32) (i : Nat) : List Access :=
  [.readObject (msgDataOffset + 4 * i),
    writeDspMsgData (object.dataWord i) (msgBufOffset4 + UInt32.ofNat i)]

/-- One iteration of the header loop. -/
def headAccesses (object : Object) (msgBufOffset4 : UInt32) (i : Nat) : List Access :=
  [.readObject (msgHeaderOffset + 4 * i),
    writeDspMsgHead (object.headWord i) (msgBufOffset4 + UInt32.ofNat i)]

/-! ### Step by step -/

/-- Where a caller stands in `dx_v3_dsp_run`. The two loops carry `msg_buf_offset_4`. -/
inductive RunPc
  | wait
  | lock
  | setId
  | slot
  | data (msgBufOffset4 : UInt32) (i : Nat)
  | head (msgBufOffset4 : UInt32) (i : Nat)
  | done
deriving DecidableEq, Repr

/-- The accesses of the next step. -/
def runAccesses (object : Object) : RunPc → List Access
  | .wait => [.readStatus]
  | .lock => [.writeStatus dspBusy]
  | .setId => [.readObject reqIdOffset, .storeReqId object.reqId]
  | .slot => [.loadReqId]
  | .data msgBufOffset4 i =>
    if i < object.dataWords then dataAccesses object msgBufOffset4 i else []
  | .head msgBufOffset4 i => if i < 2 then headAccesses object msgBufOffset4 i else []
  | .done => []

/-- Where the next step leads. The slot is computed from `dsp->req_id` as read back, which is the
caller's own id only while no other caller has stored one. -/
def runNext (object : Object) (dsp : Dxdsp) : RunPc → RunPc
  | .wait => if readDspStatus dsp.regDspBase = dspBusy then .wait else .lock
  | .lock => .setId
  | .setId => .slot
  | .slot => .data (messageMaxSize / 4 * dsp.reqId) 0
  | .data msgBufOffset4 i =>
    if i < object.dataWords then .data msgBufOffset4 (i + 1) else .head msgBufOffset4 0
  | .head msgBufOffset4 i => if i < 2 then .head msgBufOffset4 (i + 1) else .done
  | .done => .done

/-- The device after the next step. -/
def runEffect (object : Object) (dsp : Dxdsp) (pc : RunPc) : Dxdsp :=
  (runAccesses object pc).foldl Dxdsp.access dsp

/-- Outside the two assignments of the lock section a step changes at most the SRAM. -/
theorem runEffect_sram (object : Object) (dsp : Dxdsp) {pc : RunPc} (notLock : pc ≠ .lock)
    (notSetId : pc ≠ .setId) :
    ∃ sram, runEffect object dsp pc = { dsp with regDspBaseSram := sram } := by
  cases pc with
  | lock => exact absurd rfl notLock
  | setId => exact absurd rfl notSetId
  | wait | slot | done => exact ⟨_, rfl⟩
  | data msgBufOffset4 i =>
    rw [runEffect, runAccesses]
    split
    · exact ⟨_, rfl⟩
    · exact ⟨_, rfl⟩
  | head msgBufOffset4 i =>
    rw [runEffect, runAccesses]
    split
    · exact ⟨_, rfl⟩
    · exact ⟨_, rfl⟩

/-- No step of a run touches the event flag. -/
theorem runEffect_irqEvent (object : Object) (dsp : Dxdsp) (pc : RunPc) :
    (runEffect object dsp pc).irqEvent = dsp.irqEvent := by
  by_cases lock : pc = .lock
  · rw [lock]
    rfl
  · by_cases setId : pc = .setId
    · rw [setId]
      rfl
    · obtain ⟨sram, effect⟩ := runEffect_sram object dsp lock setId
      rw [effect]

/-! ### As a whole -/

/-- The accesses of `dx_v3_dsp_run` from the status read that ends its wait to its return. -/
def dxV3DspRun (object : Object) : List Access :=
  let msgBufOffset4 := messageMaxSize / 4 * object.reqId
  [.readStatus, .writeStatus dspBusy, .readObject reqIdOffset, .storeReqId object.reqId,
    .loadReqId] ++
    (List.range object.dataWords).flatMap (dataAccesses object msgBufOffset4) ++
    (List.range 2).flatMap (headAccesses object msgBufOffset4)

/-- Steps of one caller with nothing in between, and the accesses they made. -/
inductive RunsAlone (object : Object) : RunPc → Dxdsp → List Access → RunPc → Dxdsp → Prop
  | refl (pc : RunPc) (dsp : Dxdsp) : RunsAlone object pc dsp [] pc dsp
  | step {pc final : RunPc} {dsp after : Dxdsp} {accesses : List Access}
      (rest : RunsAlone object (runNext object dsp pc) (runEffect object dsp pc) accesses final
        after) :
      RunsAlone object pc dsp (runAccesses object pc ++ accesses) final after

theorem RunsAlone.effect {object : Object} {pc final : RunPc} {dsp after : Dxdsp}
    {accesses : List Access} (alone : RunsAlone object pc dsp accesses final after) :
    after = accesses.foldl Dxdsp.access dsp := by
  induction alone with
  | refl => rfl
  | step _ inductionHypothesis => rw [inductionHypothesis, List.foldl_append, runEffect]

theorem RunsAlone.trans {object : Object} {pc middle final : RunPc} {dsp between after : Dxdsp}
    {first second : List Access} (alone : RunsAlone object pc dsp first middle between)
    (later : RunsAlone object middle between second final after) :
    RunsAlone object pc dsp (first ++ second) final after := by
  induction alone with
  | refl => exact later
  | step _ inductionHypothesis =>
    rw [List.append_assoc]
    exact .step (inductionHypothesis later)

theorem runsAlone_head (object : Object) (dsp : Dxdsp) (msgBufOffset4 : UInt32) :
    ∃ after, RunsAlone object (.head msgBufOffset4 0) dsp
      ((List.range 2).flatMap (headAccesses object msgBufOffset4)) (.head msgBufOffset4 2) after :=
  ⟨_, .step (.step (.refl _ _))⟩

theorem runsAlone_data (object : Object) (msgBufOffset4 : UInt32) (count i : Nat)
    (remaining : i + count = object.dataWords) (dsp : Dxdsp) :
    ∃ after, RunsAlone object (.data msgBufOffset4 i) dsp
      ((List.range' i count).flatMap (dataAccesses object msgBufOffset4)) (.head msgBufOffset4 0)
      after := by
  induction count generalizing i dsp with
  | zero =>
    have finished : ¬ i < object.dataWords := by omega
    have last := @RunsAlone.step object (.data msgBufOffset4 i) (.head msgBufOffset4 0) dsp dsp []
    simp only [runNext, runEffect, runAccesses, if_neg finished, List.foldl_nil,
      List.nil_append] at last
    exact ⟨dsp, last (.refl _ _)⟩
  | succ count inductionHypothesis =>
    have unfinished : i < object.dataWords := by omega
    obtain ⟨after, rest⟩ := inductionHypothesis (i + 1) (by omega)
      (runEffect object dsp (.data msgBufOffset4 i))
    have first := @RunsAlone.step object (.data msgBufOffset4 i) (.head msgBufOffset4 0) dsp after
      ((List.range' (i + 1) count).flatMap (dataAccesses object msgBufOffset4))
    rw [runNext, if_pos unfinished] at first
    have accesses := first rest
    rw [runAccesses, if_pos unfinished, ← List.flatMap_cons, ← List.range'_succ] at accesses
    exact ⟨after, accesses⟩

/-- On an idle DSP a caller that nothing disturbs comes to the end of its second loop. -/
theorem exists_runsAlone_head (object : Object) (dsp : Dxdsp)
    (idle : readDspStatus dsp.regDspBase ≠ dspBusy) :
    ∃ after, RunsAlone object .wait dsp (dxV3DspRun object)
      (.head (messageMaxSize / 4 * object.reqId) 2) after := by
  have leaves : runNext object dsp .wait = .lock := by rw [runNext, if_neg idle]
  obtain ⟨between, data⟩ := runsAlone_data object (messageMaxSize / 4 * object.reqId)
    object.dataWords 0 (Nat.zero_add _)
    { dsp with regDspBase := writeDspStatus dsp.regDspBase dspBusy, reqId := object.reqId }
  obtain ⟨after, head⟩ := runsAlone_head object between (messageMaxSize / 4 * object.reqId)
  rw [← List.range_eq_range'] at data
  refine ⟨after, ?_⟩
  rw [dxV3DspRun, List.append_assoc]
  refine @RunsAlone.step object .wait _ _ _ _ ?_
  rw [leaves]
  exact @RunsAlone.step object .lock _ _ _ _
    (@RunsAlone.step object .setId _ _ _ _
      (@RunsAlone.step object .slot _ _ _ _ (data.trans head)))

/-- On an idle DSP the steps of a caller that nothing disturbs are the run as a whole. -/
theorem runsAlone_dxV3DspRun (object : Object) (dsp : Dxdsp)
    (idle : readDspStatus dsp.regDspBase ≠ dspBusy) :
    RunsAlone object .wait dsp (dxV3DspRun object) .done
      ((dxV3DspRun object).foldl Dxdsp.access dsp) := by
  obtain ⟨after, stored⟩ := exists_runsAlone_head object dsp idle
  have whole := stored.trans (.step (.refl .done _))
  rw [runAccesses, if_neg (by decide), List.append_nil, List.append_nil] at whole
  exact whole.effect ▸ whole

end DxDsp
