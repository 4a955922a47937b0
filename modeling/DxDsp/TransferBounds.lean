/-
This file is about where the copies of WRITE_MEM and READ_MEM land. The address
test compares `base + offset` with the window of the device, the copy is placed
at `dma_buf + offset`, and `dma_buf_size` is compared with nothing. The base is
the user's, and 64-bit sums wrap, so in every reachable state every offset and
size passes the test with some base.
-/

import DxDsp.Driver

namespace DxDsp

open Library

variable {Client : Type}

/-! ### The window of a reachable state -/

/-- The window as the steps of IDENTIFY_DEVICE set it, one field at a time. -/
structure WindowShape (dx : Dxdev) : Prop where
  memAddr : dx.memAddr = 0 ∨ dx.memAddr = dx.dsp.regDspBasePhyAddrDram.toUInt64
  memSize : dx.memSize = 0 ∨ dx.memSize = dspDramSize

theorem WindowShape.of_same {dx next : Dxdev} (shape : WindowShape dx)
    (memAddr : next.memAddr = dx.memAddr) (memSize : next.memSize = dx.memSize)
    (dram : next.dsp.regDspBasePhyAddrDram = dx.dsp.regDspBasePhyAddrDram) :
    WindowShape next := by
  refine ⟨?_, ?_⟩
  · rw [memAddr, dram]
    exact shape.memAddr
  · rw [memSize]
    exact shape.memSize

theorem WindowShape.apply {dx : Dxdev} (shape : WindowShape dx) (effect : Micro) :
    WindowShape (effect.apply dx) := by
  cases effect with
  | memAddr => exact ⟨Or.inr rfl, shape.memSize⟩
  | memSize => exact ⟨shape.memAddr, Or.inr rfl⟩
  | _ => exact shape.of_same rfl rfl rfl

theorem dxrtWriteMem_shape {dx : Dxdev} (shape : WindowShape dx)
    (data : UserSource DxrtReqMeminfo) (source : UserCopy) :
    WindowShape (dxrtWriteMem dx data source).1 := by
  rw [dxrtWriteMem]
  split
  · exact shape
  · exact shape.of_same rfl rfl rfl

theorem runEffect_dram (object : Object) (dsp : Dxdsp) (pc : RunPc) :
    (runEffect object dsp pc).regDspBasePhyAddrDram = dsp.regDspBasePhyAddrDram := by
  by_cases lock : pc = .lock
  · rw [lock]
    rfl
  · by_cases setId : pc = .setId
    · rw [setId]
      rfl
    · obtain ⟨sram, effect⟩ := runEffect_sram object dsp lock setId
      rw [effect]

theorem WindowShape.of_effect {dx next : Dxdev} (shape : WindowShape dx)
    (effect : ClientEffect dx next) : WindowShape next := by
  cases effect with
  | none => exact shape
  | queue | event | pop => exact shape.of_same rfl rfl rfl
  | micro effect => exact shape.apply effect
  | writeMem data source => exact dxrtWriteMem_shape shape data source
  | run request pc => exact shape.of_same rfl rfl (runEffect_dram request dx.dsp pc)

variable [DecidableEq Client]

namespace State

theorem step_shape {state next : State Client} {action : Action Client}
    (shape : WindowShape state.dx) (moved : state.step action = some next) :
    WindowShape next.dx := by
  by_cases ofClient : action.ofClient = true
  · obtain ⟨dx, calls, started, responsesHeld, log, effect, rfl⟩ :=
      step_ofClient_eq_some ofClient moved
    exact shape.of_effect effect
  · cases action with
    | run caller =>
      obtain ⟨request, pc, inside, unfinished, rfl⟩ := runStep_eq_some moved
      exact shape.of_effect (.run request pc)
    | thread =>
      obtain ⟨thread, requests, rfl⟩ := threadStep_eq_some moved
      exact shape.of_same rfl rfl rfl
    | stop =>
      cases moved
      exact shape
    | complete job =>
      obtain ⟨member, rfl⟩ := complete_eq_some moved
      exact shape
    | interrupt job =>
      obtain ⟨idle, member, rfl⟩ := interrupt_eq_some moved
      exact shape
    | irq =>
      rw [step] at moved
      cases place : state.irq <;> rw [place] at moved <;> cases moved <;>
        exact shape.of_same rfl rfl rfl
    | _ => exact absurd rfl ofClient

theorem shape_of_reaches {allowed : State Client → Action Client → Prop} {state : State Client}
    (reached : (driver Client).Reaches allowed state) : WindowShape state.dx := by
  induction reached with
  | start begins =>
    obtain ⟨dsp, rfl⟩ := begins
    exact ⟨Or.inl rfl, Or.inl rfl⟩
  | step _ _ moved inductionHypothesis => exact step_shape inductionHypothesis moved

end State

/-! ### Where the copies land -/

/-- The copy a handler reached lies inside the buffer. -/
def CopyInside (dx : Dxdev) (reply : TransferReply) : Prop :=
  ∀ meminfo, reply.copied = some meminfo →
    Set.Ico meminfo.offset.toNat (meminfo.offset.toNat + meminfo.size.toNat) ⊆
      Set.Ico 0 dx.dsp.dmaBufSize.toNat

/-- Whatever the user side of the copies does, WRITE_MEM and READ_MEM copy inside the buffer. -/
def TransfersInside (dx : Dxdev) (meminfo : DxrtReqMeminfo) : Prop :=
  ∀ user : UserCopy, CopyInside dx (dxrtWriteMem dx (.holds meminfo) user).2 ∧
    CopyInside dx (dxrtReadMem dx (.holds meminfo) user).1

theorem dxrtWriteMem_copied (dx : Dxdev) (data : UserSource DxrtReqMeminfo) (source : UserCopy) :
    (dxrtWriteMem dx data source).2.copied = (transferCheck dx data).copied := by
  rw [dxrtWriteMem]
  split
  · rfl
  · split <;> rfl

theorem dxrtReadMem_copied (dx : Dxdev) (data : UserSource DxrtReqMeminfo) (target : UserCopy) :
    (dxrtReadMem dx data target).1.copied = (transferCheck dx data).copied := by
  rw [dxrtReadMem]
  split
  · rfl
  · split <;> rfl

/-- A request that passes is copied where its offset says, whatever its base. -/
theorem transfersInside_iff_of_passes {dx : Dxdev} {meminfo : DxrtReqMeminfo}
    (passes : Passes dx meminfo) :
    TransfersInside dx meminfo ↔
      meminfo.size = 0 ∨ meminfo.offset.toNat + meminfo.size.toNat ≤ dx.dsp.dmaBufSize.toNat := by
  have copied := congrArg TransferReply.copied (transferCheck_of_passes passes)
  constructor
  · intro inside
    by_cases empty : meminfo.size = 0
    · exact Or.inl empty
    · right
      have positive : 0 < meminfo.size.toNat :=
        Nat.pos_of_ne_zero fun zero => empty (UInt32.toNat_inj.mp zero)
      have range := (inside {}).1 meminfo (by rw [dxrtWriteMem_copied, copied])
      have last := (range (a := meminfo.offset.toNat + meminfo.size.toNat - 1)
        ⟨by omega, by omega⟩).2
      omega
  · intro fits
    have range : Set.Ico meminfo.offset.toNat (meminfo.offset.toNat + meminfo.size.toNat) ⊆
        Set.Ico 0 dx.dsp.dmaBufSize.toNat := by
      rcases fits with empty | fits
      · rw [empty]
        simp
      · exact Set.Ico_subset_Ico (Nat.zero_le _) fits
    intro user
    refine ⟨fun own same => ?_, fun own same => ?_⟩
    · rw [dxrtWriteMem_copied, copied] at same
      cases same
      exact range
    · rw [dxrtReadMem_copied, copied] at same
      cases same
      exact range

/-- A request that is refused copies nothing. -/
theorem transfersInside_of_refused {dx : Dxdev} {meminfo : DxrtReqMeminfo}
    (refused : ¬ Passes dx meminfo) : TransfersInside dx meminfo := by
  have nothing : ∀ own, (transferCheck dx (.holds meminfo)).copied ≠ some own := by
    intro own same
    obtain ⟨asked, passes⟩ := transferCheck_copied_iff.mp same
    cases asked
    exact refused passes
  intro user
  refine ⟨fun own same => ?_, fun own same => ?_⟩
  · rw [dxrtWriteMem_copied] at same
    exact absurd same (nothing own)
  · rw [dxrtReadMem_copied] at same
    exact absurd same (nothing own)

/-- In a window that starts below 4 GiB every range of offsets passes the address test with some
base: the one that makes the end of the range wrap to zero. -/
theorem exists_base_passes {dx : Dxdev} (low : dx.memAddr.toNat < 2 ^ 32) (data : UInt64)
    (offset size ch : UInt32) (channel : ch ≤ 2) (nonempty : size ≠ 0) :
    ∃ base, Passes dx { data, base, offset, size, ch } := by
  have positive : 0 < size.toNat :=
    Nat.pos_of_ne_zero fun zero => nonempty (UInt32.toNat_inj.mp zero)
  have offsetBound := offset.toNat_lt
  have sizeBound := size.toNat_lt
  refine ⟨UInt64.ofNat (2 ^ 64 - (offset.toNat + size.toNat)), channel,
    invalidAddress_eq_false_iff.mpr ?_⟩
  have base : (UInt64.ofNat (2 ^ 64 - (offset.toNat + size.toNat))).toNat =
      2 ^ 64 - (offset.toNat + size.toNat) := by
    rw [UInt64.toNat_ofNat', Nat.mod_eq_of_lt (by omega)]
  refine ⟨?_, ?_⟩
  · show _ ≤ ((UInt64.ofNat _).toNat + offset.toNat) % 2 ^ 64
    rw [base]
    omega
  · show ((UInt64.ofNat _).toNat + offset.toNat + size.toNat) % 2 ^ 64 ≤ _
    have wraps : 2 ^ 64 - (offset.toNat + size.toNat) + offset.toNat + size.toNat = 2 ^ 64 := by
      omega
    rw [base, wraps, Nat.mod_self]
    exact Nat.zero_le _

theorem WindowShape.low {dx : Dxdev} (shape : WindowShape dx) : dx.memAddr.toNat < 2 ^ 32 := by
  rcases shape.memAddr with zero | dram
  · rw [zero]
    decide
  · rw [dram, UInt32.toNat_toUInt64]
    exact UInt32.toNat_lt _

/-- In every reachable state the copies of a request lie in the buffer exactly when the checks
refuse it or its range of offsets fits; and for a range that does not fit there is always a base
that the checks let through. -/
theorem transfers_inside_iff {allowed : State Client → Action Client → Prop} {state : State Client}
    (reached : (driver Client).Reaches allowed state) :
    (∀ meminfo, TransfersInside state.dx meminfo ↔
      2 < meminfo.ch ∨ invalidAddress state.dx meminfo = true ∨ meminfo.size = 0 ∨
        meminfo.offset.toNat + meminfo.size.toNat ≤ state.dx.dsp.dmaBufSize.toNat) ∧
    ∀ data offset size ch,
      (∀ base, TransfersInside state.dx { data, base, offset, size, ch }) ↔
        2 < ch ∨ size = 0 ∨ offset.toNat + size.toNat ≤ state.dx.dsp.dmaBufSize.toNat := by
  have perRequest : ∀ meminfo, TransfersInside state.dx meminfo ↔
      2 < meminfo.ch ∨ invalidAddress state.dx meminfo = true ∨ meminfo.size = 0 ∨
        meminfo.offset.toNat + meminfo.size.toNat ≤ state.dx.dsp.dmaBufSize.toNat := by
    intro meminfo
    by_cases passes : Passes state.dx meminfo
    · rw [transfersInside_iff_of_passes passes, passes.2]
      have channel : ¬ 2 < meminfo.ch := UInt32.not_lt.mpr passes.1
      simp [channel]
    · refine iff_of_true (transfersInside_of_refused passes) ?_
      rw [Passes, not_and_or, UInt32.not_le, Bool.not_eq_false] at passes
      exact passes.imp_right Or.inl
  refine ⟨perRequest, fun data offset size ch => ?_⟩
  constructor
  · intro inside
    by_cases channel : 2 < ch
    · exact Or.inl channel
    · by_cases empty : size = 0
      · exact Or.inr (Or.inl empty)
      · have low := (State.shape_of_reaches reached).low
        obtain ⟨base, passes⟩ :=
          exists_base_passes low data offset size ch (UInt32.not_lt.mp channel) empty
        exact Or.inr ((transfersInside_iff_of_passes passes).mp (inside base))
  · intro fits base
    exact (perRequest _).mpr (fits.imp_right Or.inr)

/-- IDENTIFY_DEVICE by one client. -/
def identifies : List (Action (Fin 1)) :=
  .program 0 dxrtIdentify :: List.replicate 6 (.client 0 false)

/-- On the identified board a page at the start of the region stays inside the buffer. -/
theorem transfers_inside_page :
    ∃ state, (driver (Fin 1)).Reaches (fun _ _ => True) state ∧ state.dx.memSize = dspDramSize ∧
      TransfersInside state.dx
        { data := 0, base := 0xC0200000, offset := 0, size := 4096, ch := 0 } := by
  obtain ⟨state, reached, seen⟩ := exists_reached identifies
    (show ((driver (Fin 1)).run (fun _ _ => True) _ _).map
        (fun state => (state.dx.memSize, state.dx.dsp.dmaBufSize)) =
      some (dspDramSize, 0x0C000000) by decide +kernel)
  obtain ⟨memSize, dmaBufSize⟩ := Prod.mk.inj seen
  refine ⟨state, reached, memSize, ((transfers_inside_iff reached).1 _).mpr ?_⟩
  rw [dmaBufSize]
  exact Or.inr (Or.inr (Or.inr (by decide)))

/-- On the identified board a byte of the window behind the buffer is copied. -/
theorem transfers_outside :
    ∃ state, (driver (Fin 1)).Reaches (fun _ _ => True) state ∧
      ¬ TransfersInside state.dx
        { data := 0, base := 0xC0200000, offset := 0x10000000, size := 1, ch := 0 } := by
  obtain ⟨state, reached, seen⟩ := exists_reached identifies
    (show ((driver (Fin 1)).run (fun _ _ => True) _ _).map
        (fun state => (state.dx.memAddr, state.dx.memSize, state.dx.dsp.dmaBufSize)) =
      some (0xC0200000, dspDramSize, 0x0C000000) by decide +kernel)
  obtain ⟨memAddr, window⟩ := Prod.mk.inj seen
  obtain ⟨memSize, dmaBufSize⟩ := Prod.mk.inj window
  have passes : Passes state.dx
      { data := 0, base := 0xC0200000, offset := 0x10000000, size := 1, ch := 0 } := by
    refine ⟨UInt32.le_iff_toNat_le.mpr (Nat.zero_le _), invalidAddress_eq_false_iff.mpr ?_⟩
    rw [memAddr, memSize]
    decide
  refine ⟨state, reached, fun inside => ?_⟩
  rcases (transfersInside_iff_of_passes passes).mp inside with empty | fits
  · cases empty
  · rw [dmaBufSize] at fits
    exact absurd fits (by decide)

end DxDsp
