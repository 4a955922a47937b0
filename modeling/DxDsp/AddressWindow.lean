/-
This file is about the range test that WRITE_MEM, READ_MEM and CPU_CACHE_FLUSH
share. It compares the two sums `base + offset` and `base + offset + size`, each
taken modulo `2 ^ 64`, with the window of the device, and notices no wrap. A
range whose end wraps to the bottom of the address space is accepted although
it lies far behind the window.
-/

import DxDsp.TransferBounds
import DxDsp.Library.Window

namespace DxDsp

open Library

/-! ### CPU_CACHE_FLUSH -/

/-- `dxrt_meminfo_t`, the request of CPU_CACHE_FLUSH; it has no channel. -/
structure DxrtMeminfo where
  data : UInt64
  base : UInt64
  offset : UInt32
  size : UInt32
deriving DecidableEq, Repr

/-- The range test of CPU_CACHE_FLUSH; it holds when the request is refused. -/
def flushInvalidAddress (dx : Dxdev) (meminfo : DxrtMeminfo) : Bool :=
  decide (meminfo.base + meminfo.offset.toUInt64 < dx.memAddr) ||
    decide (dx.memAddr + dx.memSize <
      meminfo.base + meminfo.offset.toUInt64 + meminfo.size.toUInt64)

/-- What CPU_CACHE_FLUSH returns, and the virtual range it cleans and invalidates. -/
structure FlushReply where
  ret : Int
  flushed : Option (UInt64 × UInt64) := none
deriving DecidableEq, Repr

def dxrtCpuCacheFlush (dx : Dxdev) : UserSource DxrtMeminfo → FlushReply
  | .null => { ret := 0 }
  | .fault => { ret := -efault }
  | .holds meminfo =>
    if flushInvalidAddress dx meminfo then { ret := -einval }
    else
      { ret := 0
        flushed := some (meminfo.data + meminfo.offset.toUInt64,
          meminfo.data + meminfo.offset.toUInt64 + meminfo.size.toUInt64) }

/-- The same range as a request of a transfer. -/
def DxrtMeminfo.onChannel (meminfo : DxrtMeminfo) (ch : UInt32) : DxrtReqMeminfo where
  data := meminfo.data
  base := meminfo.base
  offset := meminfo.offset
  size := meminfo.size
  ch := ch

/-- It is the test of the transfers, on a request of any channel. -/
theorem flushInvalidAddress_eq (dx : Dxdev) (meminfo : DxrtMeminfo) (ch : UInt32) :
    flushInvalidAddress dx meminfo = invalidAddress dx (meminfo.onChannel ch) := rfl

/-! ### The window in exact integers -/

/-- The window of the device in exact integers. -/
def Dxdev.window (dx : Dxdev) : Window where
  lower := dx.memAddr.toNat
  upper := dx.memAddr.toNat + dx.memSize.toNat

/-- The test of each handler accepts exactly the ranges inside the window. -/
def CheckExact (dx : Dxdev) (base : UInt64) (offset size : UInt32) : Prop :=
  let inside := dx.window.Contains (base.toNat + offset.toNat)
    (base.toNat + offset.toNat + size.toNat)
  (∀ data ch, invalidAddress dx { data, base, offset, size, ch } = false ↔ inside) ∧
    ∀ data, flushInvalidAddress dx { data, base, offset, size } = false ↔ inside

/-- On a window that ends below `2 ^ 64` the test compares the wrapped ends with the window. -/
theorem invalidAddress_eq_false_iff_accepts {dx : Dxdev} {meminfo : DxrtReqMeminfo}
    (upper : dx.window.upper < 2 ^ 64) :
    invalidAddress dx meminfo = false ↔
      dx.window.Accepts (2 ^ 64) (meminfo.base.toNat + meminfo.offset.toNat)
        (meminfo.base.toNat + meminfo.offset.toNat + meminfo.size.toNat) := by
  have whole : (dx.memAddr.toNat + dx.memSize.toNat) % 2 ^ 64 = dx.window.upper :=
    Nat.mod_eq_of_lt upper
  rw [invalidAddress_eq_false_iff, whole]
  rfl

theorem WindowShape.upper {dx : Dxdev} (shape : WindowShape dx) : dx.window.upper < 2 ^ 33 := by
  have size : dx.memSize.toNat < 2 ^ 32 := by
    rcases shape.memSize with zero | dram
    · rw [zero]
      decide
    · rw [dram]
      decide
  have low := shape.low
  show dx.memAddr.toNat + dx.memSize.toNat < 2 ^ 33
  omega

/-- The three tests are exact together, as the wrapped comparison is. -/
theorem checkExact_iff {dx : Dxdev} (shape : WindowShape dx) (base : UInt64)
    (offset size : UInt32) :
    CheckExact dx base offset size ↔
      ¬ dx.window.WrapsInto (2 ^ 64) (base.toNat + offset.toNat)
        (base.toNat + offset.toNat + size.toNat) := by
  have upper : dx.window.upper < 2 ^ 64 := shape.upper.trans (by decide)
  have lower : dx.window.lower < 2 ^ 32 := shape.low
  have baseBound := base.toNat_lt
  have offsetBound := offset.toNat_lt
  have sizeBound := size.toNat_lt
  rw [← Window.accepts_iff_contains_iff upper (Nat.le_add_right _ _) (by omega) (by omega)]
  constructor
  · intro exact
    have tested := exact.1 0 0
    rwa [invalidAddress_eq_false_iff_accepts upper] at tested
  · intro same
    refine ⟨fun data ch => ?_, fun data => ?_⟩
    · rw [invalidAddress_eq_false_iff_accepts upper]
      exact same
    · rw [flushInvalidAddress_eq dx _ 0, invalidAddress_eq_false_iff_accepts upper]
      exact same

variable {Client : Type} [DecidableEq Client]

/-- In every reachable state the range test is exact on exactly the requests whose end stays below
`2 ^ 64`, or wraps to a value behind the window, or whose start wraps too, to a value before it. -/
theorem window_check_exact_iff {allowed : State Client → Action Client → Prop}
    {state : State Client} (reached : (driver Client).Reaches allowed state) (base : UInt64)
    (offset size : UInt32) :
    CheckExact state.dx base offset size ↔
      base.toNat + offset.toNat + size.toNat < 2 ^ 64 ∨
        state.dx.memAddr.toNat + state.dx.memSize.toNat <
          base.toNat + offset.toNat + size.toNat - 2 ^ 64 ∨
        (2 ^ 64 ≤ base.toNat + offset.toNat ∧
          base.toNat + offset.toNat - 2 ^ 64 < state.dx.memAddr.toNat) := by
  rw [checkExact_iff (State.shape_of_reaches reached), Window.WrapsInto, not_and_or, not_and_or,
    not_or, Nat.not_le, Nat.not_le, Nat.not_lt, Nat.not_le]
  rfl

/-- On the identified board the test is exact on the whole window. -/
theorem window_check_exact_board :
    ∃ state, (driver (Fin 1)).Reaches (fun _ _ => True) state ∧ state.dx.memSize = dspDramSize ∧
      CheckExact state.dx 0xC0200000 0 0x1EE00000 := by
  obtain ⟨state, reached, seen⟩ := exists_reached identifies
    (show ((driver (Fin 1)).run (fun _ _ => True) _ _).map (fun state => state.dx.memSize) =
      some dspDramSize by decide +kernel)
  exact ⟨state, reached, seen,
    (window_check_exact_iff reached _ _ _).mpr (Or.inl (by decide))⟩

/-- On the identified board one byte at the last address is accepted: its end wraps to zero. -/
theorem window_check_wraps :
    ∃ state, (driver (Fin 1)).Reaches (fun _ _ => True) state ∧ state.dx.memAddr = 0xC0200000 ∧
      state.dx.memSize = dspDramSize ∧ ¬ CheckExact state.dx 0xFFFFFFFFFFFFFFFF 0 1 := by
  obtain ⟨state, reached, seen⟩ := exists_reached identifies
    (show ((driver (Fin 1)).run (fun _ _ => True) _ _).map
        (fun state => (state.dx.memAddr, state.dx.memSize)) = some (0xC0200000, dspDramSize) by
      decide +kernel)
  obtain ⟨memAddr, memSize⟩ := Prod.mk.inj seen
  refine ⟨state, reached, memAddr, memSize, fun exact => ?_⟩
  have accepted : flushInvalidAddress state.dx
      { data := 0, base := 0xFFFFFFFFFFFFFFFF, offset := 0, size := 1 } = false := by
    rw [flushInvalidAddress, memAddr, memSize]
    decide
  have inside := ((exact.2 0).mp accepted).2
  rw [Dxdev.window, memAddr, memSize] at inside
  exact absurd inside (by decide)

end DxDsp
