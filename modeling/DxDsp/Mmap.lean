/-
This file is about `dxrt_dev_mmap`. The page offset of the VMA selects what is
mapped: the DRAM window, the SRAM, or the DMA buffer. The length is the VMA's
own and is compared with nothing, so the first two selectors map as far behind
their region as the caller asks. The third hands the VMA to a helper that reads
the same page offset as a position in the buffer, and never succeeds.
-/

import DxDsp.Device
import Mathlib.Order.Interval.Set.LinearOrder

namespace DxDsp

/-! ### The kernel's side -/

def pageShift : UInt32 := 12
def pageSize : Nat := 4096

/-- The pages that this many bytes take up. -/
def pagesOf (bytes : Nat) : Nat := (bytes + pageSize - 1) / pageSize

/-- `struct vm_area_struct`. -/
structure VmAreaStruct where
  vmStart : UInt64
  vmEnd : UInt64
  vmPgoff : UInt64
  vmPageProt : UInt64

/-- What a page of a VMA shows: a page frame, or a page of the DMA buffer. -/
inductive Page
  | frame (pfn : Nat)
  | dmaBuf (index : Nat)
deriving DecidableEq, Repr

/-- What comes of a mapping: the return value, and what the pages of the VMA show. -/
structure Mapping where
  ret : Int
  pages : Nat → Option Page

/-- The kernel's mapping functions, by their arguments. -/
structure MmapHelpers where
  pgprotNoncached : UInt64 → UInt64
  remapPfnRange : (vma : VmAreaStruct) → (addr pfn size prot : UInt64) → Mapping
  dmaMmapCoherent : (vma : VmAreaStruct) → (cpuAddr dmaAddr size : UInt64) → Mapping

/-- `remap_pfn_range` maps the given number of bytes from the given page frame, or nothing. -/
structure MmapHelpers.RemapsExactly (helpers : MmapHelpers) : Prop where
  success : ∀ vma addr pfn size prot,
    (helpers.remapPfnRange vma addr pfn size prot).ret = 0 →
      ∀ k, (helpers.remapPfnRange vma addr pfn size prot).pages k =
        if k < pagesOf size.toNat then some (.frame (pfn.toNat + k)) else none
  failure : ∀ vma addr pfn size prot,
    (helpers.remapPfnRange vma addr pfn size prot).ret ≠ 0 →
      ∀ k, (helpers.remapPfnRange vma addr pfn size prot).pages k = none

/-- The pages of the VMA fit into `size` bytes of the buffer, from page `vm_pgoff` of it on. -/
def FitsFromPgoff (vma : VmAreaStruct) (size : UInt64) : Prop :=
  vma.vmPgoff.toNat < pagesOf size.toNat ∧
    pagesOf (vma.vmEnd - vma.vmStart).toNat ≤ pagesOf size.toNat - vma.vmPgoff.toNat

instance (vma : VmAreaStruct) (size : UInt64) : Decidable (FitsFromPgoff vma size) :=
  inferInstanceAs (Decidable (_ ∧ _))

/-- `dma_mmap_coherent` takes `vm_pgoff` as a page offset into the buffer, and fails unless the
pages of the VMA fit behind it in `size` bytes. -/
structure MmapHelpers.DmaMapsFromPgoff (helpers : MmapHelpers) : Prop where
  fits : ∀ vma cpuAddr dmaAddr size,
    (helpers.dmaMmapCoherent vma cpuAddr dmaAddr size).ret = 0 → FitsFromPgoff vma size
  success : ∀ vma cpuAddr dmaAddr size,
    (helpers.dmaMmapCoherent vma cpuAddr dmaAddr size).ret = 0 →
      ∀ k < pagesOf (vma.vmEnd - vma.vmStart).toNat,
        (helpers.dmaMmapCoherent vma cpuAddr dmaAddr size).pages k =
          some (.dmaBuf (vma.vmPgoff.toNat + k))

/-! ### `dxrt_dev_mmap` -/

/-- The members of `struct dxdsp` that `dxrt_dev_mmap` reads, and the size of the buffer. -/
structure DspAddresses where
  regDspBasePhyAddrDram : UInt32
  regDspBasePhyAddrSram : UInt32
  dmaBuf : UInt64
  dmaBufAddr : UInt64
  dmaBufSize : UInt64

/-- The two selectors that map page frames. -/
def mapFrames (helpers : MmapHelpers) (vma : VmAreaStruct) (base : UInt32) : Mapping :=
  let size := vma.vmEnd - vma.vmStart
  let pfn := (base >>> pageShift).toUInt64
  let vma := { vma with vmPageProt := helpers.pgprotNoncached vma.vmPageProt }
  helpers.remapPfnRange vma vma.vmStart pfn size vma.vmPageProt

def dxrtDevMmap (helpers : MmapHelpers) (dsp : DspAddresses) (vma : VmAreaStruct) : Mapping :=
  if vma.vmPgoff = 0 then mapFrames helpers vma dsp.regDspBasePhyAddrDram
  else if vma.vmPgoff = 1 then mapFrames helpers vma dsp.regDspBasePhyAddrSram
  else if vma.vmPgoff = 2 then
    let size := vma.vmEnd - vma.vmStart
    helpers.dmaMmapCoherent vma dsp.dmaBuf dsp.dmaBufAddr size
  else { ret := -1, pages := fun _ => none }

/-! ### The page frames of a region -/

/-- The selectors of a region of page frames. -/
inductive FrameSelector
  | dram
  | sram
deriving DecidableEq, Repr

namespace FrameSelector

def pgoff : FrameSelector → UInt64
  | dram => 0
  | sram => 1

def base (dsp : DspAddresses) : FrameSelector → UInt32
  | dram => dsp.regDspBasePhyAddrDram
  | sram => dsp.regDspBasePhyAddrSram

/-- The bytes that `dx_v3_dsp_init` maps of the region. -/
def size : FrameSelector → Nat
  | dram => dspDramSize.toNat
  | sram => sramMappedSize

/-- The physical addresses of the region. -/
def region (dsp : DspAddresses) (selector : FrameSelector) : Set Nat :=
  Set.Ico (selector.base dsp).toNat ((selector.base dsp).toNat + selector.size)

end FrameSelector

/-- The physical addresses of a page frame. -/
def frameBytes (pfn : Nat) : Set Nat := Set.Ico (pfn * pageSize) ((pfn + 1) * pageSize)

/-- A mapping of a VMA of this length exposes the selected region and nothing else. -/
structure ExposesOnly (dsp : DspAddresses) (selector : FrameSelector) (length : Nat)
    (mapping : Mapping) : Prop where
  inside : mapping.ret = 0 → ∀ k pfn, mapping.pages k = some (.frame pfn) →
    frameBytes pfn ⊆ selector.region dsp
  refuses : selector.size < length → mapping.ret ≠ 0 ∧ ∀ k, mapping.pages k = none

theorem dxrtDevMmap_frames (helpers : MmapHelpers) (dsp : DspAddresses) {vma : VmAreaStruct}
    {selector : FrameSelector} (selects : vma.vmPgoff = selector.pgoff) :
    dxrtDevMmap helpers dsp vma = mapFrames helpers vma (selector.base dsp) := by
  rw [dxrtDevMmap, selects]
  cases selector <;> rfl

/-- The first frame is the one the base lies in. -/
theorem base_pfn (base : UInt32) :
    (base >>> pageShift).toUInt64.toNat = base.toNat / pageSize := by
  rw [UInt32.toNat_toUInt64, UInt32.toNat_shiftRight, Nat.shiftRight_eq_div_pow]
  rfl

theorem frameBytes_subset_iff (dsp : DspAddresses) (selector : FrameSelector) (pfn : Nat) :
    frameBytes pfn ⊆ selector.region dsp ↔
      (selector.base dsp).toNat ≤ pfn * pageSize ∧
        (pfn + 1) * pageSize ≤ (selector.base dsp).toNat + selector.size := by
  have nonempty : pfn * pageSize < (pfn + 1) * pageSize :=
    Nat.mul_lt_mul_of_pos_right (Nat.lt_succ_self pfn) (by decide)
  exact Set.Ico_subset_Ico_iff nonempty

/-- All frames of a length from the base's frame on lie in the region exactly when there are none,
or the base starts a page and the length does not exceed the region. -/
theorem frames_inside_iff (dsp : DspAddresses) (selector : FrameSelector) (length : Nat) :
    (∀ k < pagesOf length,
        frameBytes ((selector.base dsp).toNat / pageSize + k) ⊆ selector.region dsp) ↔
      length = 0 ∨ pageSize ∣ (selector.base dsp).toNat ∧ length ≤ selector.size := by
  have unit : pageSize = 4096 := rfl
  have whole : selector.size % 4096 = 0 := by cases selector <;> rfl
  have count : pagesOf length = (length + 4095) / 4096 := rfl
  simp only [frameBytes_subset_iff]
  rw [unit, count]
  constructor
  · intro inside
    by_cases empty : length = 0
    · exact Or.inl empty
    · have first := inside 0 (by omega)
      have last := inside ((length + 4095) / 4096 - 1) (by omega)
      exact Or.inr ⟨by omega, by omega⟩
  · intro fits k small
    omega

section Remap

variable {helpers : MmapHelpers} (remaps : helpers.RemapsExactly) (dsp : DspAddresses)
  {vma : VmAreaStruct} {selector : FrameSelector}

include remaps

/-- A mapping that is made shows the frames of the VMA's length from the base's frame on. -/
theorem pages_of_accepted (accepted : (mapFrames helpers vma (selector.base dsp)).ret = 0)
    (k : Nat) :
    (mapFrames helpers vma (selector.base dsp)).pages k =
      if k < pagesOf (vma.vmEnd - vma.vmStart).toNat then
        some (.frame ((selector.base dsp).toNat / pageSize + k))
      else none := by
  rw [← base_pfn]
  exact remaps.success _ _ _ _ _ accepted k

theorem exposesOnly_of_refused (refused : (mapFrames helpers vma (selector.base dsp)).ret ≠ 0) :
    ExposesOnly dsp selector (vma.vmEnd - vma.vmStart).toNat
      (mapFrames helpers vma (selector.base dsp)) where
  inside accepted := absurd accepted refused
  refuses _ := ⟨refused, remaps.failure _ _ _ _ _ refused⟩

theorem exposesOnly_iff_of_accepted
    (accepted : (mapFrames helpers vma (selector.base dsp)).ret = 0) :
    ExposesOnly dsp selector (vma.vmEnd - vma.vmStart).toNat
        (mapFrames helpers vma (selector.base dsp)) ↔
      (vma.vmEnd - vma.vmStart).toNat = 0 ∨ pageSize ∣ (selector.base dsp).toNat ∧
        (vma.vmEnd - vma.vmStart).toNat ≤ selector.size := by
  have shows := pages_of_accepted remaps dsp accepted
  constructor
  · intro exposes
    refine (frames_inside_iff dsp selector _).mp fun k small => ?_
    exact exposes.inside accepted k _ ((shows k).trans (if_pos small))
  · intro fits
    constructor
    · intro _ k pfn shown
      rw [shows] at shown
      split at shown
      · next small =>
        cases shown
        exact (frames_inside_iff dsp selector _).mpr fits k small
      · cases shown
    · intro long
      omega

/-- A `dxrt_dev_mmap` of a region that returns 0 exposes nothing else for exactly the VMAs that are
empty, or that are no longer than the region and whose region starts a page; `remap_pfn_range` is
not told how long the region is. One that fails exposes nothing. -/
theorem mmap_exposes_only_iff (selects : vma.vmPgoff = selector.pgoff) :
    ((dxrtDevMmap helpers dsp vma).ret = 0 →
      (ExposesOnly dsp selector (vma.vmEnd - vma.vmStart).toNat (dxrtDevMmap helpers dsp vma) ↔
        (vma.vmEnd - vma.vmStart).toNat = 0 ∨ pageSize ∣ (selector.base dsp).toNat ∧
          (vma.vmEnd - vma.vmStart).toNat ≤ selector.size)) ∧
      ((dxrtDevMmap helpers dsp vma).ret ≠ 0 →
        ExposesOnly dsp selector (vma.vmEnd - vma.vmStart).toNat
          (dxrtDevMmap helpers dsp vma)) := by
  rw [dxrtDevMmap_frames helpers dsp selects]
  exact ⟨exposesOnly_iff_of_accepted remaps dsp, exposesOnly_of_refused remaps dsp⟩

end Remap

/-! ### The DMA buffer -/

/-- A mapping of a VMA of this length shows the DMA buffer page by page, and is refused for a VMA
longer than the buffer. -/
structure ShowsBuffer (dsp : DspAddresses) (length : Nat) (mapping : Mapping) : Prop where
  shows : pageSize ≤ length → length ≤ dsp.dmaBufSize.toNat →
    mapping.ret = 0 ∧ ∀ k < pagesOf length, mapping.pages k = some (.dmaBuf k)
  refuses : dsp.dmaBufSize.toNat < length → mapping.ret ≠ 0

/-- The helper is given the VMA's own size, behind which no page is left at page offset 2. -/
theorem dmaBuf_never_mapped {helpers : MmapHelpers} (fromPgoff : helpers.DmaMapsFromPgoff)
    (dsp : DspAddresses) {vma : VmAreaStruct} (selects : vma.vmPgoff = 2) :
    (dxrtDevMmap helpers dsp vma).ret ≠ 0 := by
  have mapped : dxrtDevMmap helpers dsp vma =
      helpers.dmaMmapCoherent vma dsp.dmaBuf dsp.dmaBufAddr (vma.vmEnd - vma.vmStart) := by
    rw [dxrtDevMmap, selects]
    rfl
  rw [mapped]
  intro accepted
  have fits := fromPgoff.fits _ _ _ _ accepted
  have offset : (2 : UInt64).toNat = 2 := rfl
  rw [FitsFromPgoff, selects, offset] at fits
  omega

/-- mmap of the DMA buffer is as it should be for exactly the VMAs longer than the buffer, which it
refuses, and those shorter than a page. -/
theorem mmap_shows_buffer_iff {helpers : MmapHelpers} (fromPgoff : helpers.DmaMapsFromPgoff)
    (dsp : DspAddresses) {vma : VmAreaStruct} (selects : vma.vmPgoff = 2) :
    ShowsBuffer dsp (vma.vmEnd - vma.vmStart).toNat (dxrtDevMmap helpers dsp vma) ↔
      dsp.dmaBufSize.toNat < (vma.vmEnd - vma.vmStart).toNat ∨
        (vma.vmEnd - vma.vmStart).toNat < pageSize := by
  have refused := dmaBuf_never_mapped fromPgoff dsp selects
  constructor
  · intro faithful
    by_contra within
    exact refused (faithful.shows (by omega) (by omega)).1
  · intro outside
    refine ⟨fun page within => ?_, fun _ => refused⟩
    omega

/-! ### On the board -/

/-- The addresses of the register header, and a buffer of the size reported to users. -/
def boardAddresses : DspAddresses where
  regDspBasePhyAddrDram := 0xC0200000
  regDspBasePhyAddrSram := 0x60000000
  dmaBuf := 0xFFFF000010000000
  dmaBufAddr := 0x80000000
  dmaBufSize := 0x0C000000

/-- A VMA at the bottom of the mapping area. -/
def vmaOf (pgoff length : UInt64) : VmAreaStruct where
  vmStart := 0x400000
  vmEnd := 0x400000 + length
  vmPgoff := pgoff
  vmPageProt := 3

/-- Page frames from the given one on. -/
def remapAll (pfn size : UInt64) : Mapping where
  ret := 0
  pages := fun k => if k < pagesOf size.toNat then some (.frame (pfn.toNat + k)) else none

/-- The pages of the buffer from `vm_pgoff` on, where they fit. -/
def mapFromPgoff (vma : VmAreaStruct) (size : UInt64) : Mapping :=
  if FitsFromPgoff vma size then
    { ret := 0
      pages := fun k =>
        if k < pagesOf (vma.vmEnd - vma.vmStart).toNat then some (.dmaBuf (vma.vmPgoff.toNat + k))
        else none }
  else { ret := -6, pages := fun _ => none }

/-- Helpers that refuse nothing but what they must. -/
def plainHelpers : MmapHelpers where
  pgprotNoncached prot := prot
  remapPfnRange _ _ pfn size _ := remapAll pfn size
  dmaMmapCoherent vma _ _ size := mapFromPgoff vma size

theorem plainHelpers_remapsExactly : plainHelpers.RemapsExactly where
  success _ _ _ _ _ _ _ := rfl
  failure _ _ _ _ _ refused := absurd rfl refused

theorem mapFromPgoff_accepts {vma : VmAreaStruct} {size : UInt64}
    (accepted : (mapFromPgoff vma size).ret = 0) : FitsFromPgoff vma size := by
  by_contra short
  rw [mapFromPgoff, if_neg short] at accepted
  cases accepted

theorem plainHelpers_dmaMapsFromPgoff : plainHelpers.DmaMapsFromPgoff where
  fits _ _ _ _ accepted := mapFromPgoff_accepts accepted
  success vma _ _ size accepted k small := by
    show (mapFromPgoff vma size).pages k = _
    rw [mapFromPgoff, if_pos (mapFromPgoff_accepts accepted)]
    exact if_pos small

theorem mmap_exposes_only_whole_sram :
    (dxrtDevMmap plainHelpers boardAddresses (vmaOf 1 0x40000)).ret = 0 ∧
      ExposesOnly boardAddresses .sram 0x40000 (dxrtDevMmap plainHelpers boardAddresses
        (vmaOf 1 0x40000)) := by
  have selects : (vmaOf 1 0x40000).vmPgoff = FrameSelector.sram.pgoff := rfl
  have decided := (mmap_exposes_only_iff plainHelpers_remapsExactly boardAddresses selects).1
  exact ⟨rfl, (decided rfl).mpr (Or.inr ⟨by decide, by decide⟩)⟩

/-- One page more than the SRAM has is mapped as well: page 64 of the VMA is the frame behind it. -/
theorem mmap_exposes_more :
    plainHelpers.RemapsExactly ∧
      (dxrtDevMmap plainHelpers boardAddresses (vmaOf 1 0x41000)).ret = 0 ∧
      (dxrtDevMmap plainHelpers boardAddresses (vmaOf 1 0x41000)).pages 64 =
        some (.frame (boardAddresses.regDspBasePhyAddrSram.toNat / pageSize + 64)) ∧
      ¬ ExposesOnly boardAddresses .sram 0x41000
        (dxrtDevMmap plainHelpers boardAddresses (vmaOf 1 0x41000)) := by
  have selects : (vmaOf 1 0x41000).vmPgoff = FrameSelector.sram.pgoff := rfl
  have frame := pages_of_accepted plainHelpers_remapsExactly boardAddresses
    (@rfl _ (mapFrames plainHelpers (vmaOf 1 0x41000)
      (FrameSelector.sram.base boardAddresses)).ret) 64
  rw [← dxrtDevMmap_frames plainHelpers boardAddresses selects, if_pos (by decide)] at frame
  refine ⟨plainHelpers_remapsExactly, rfl, frame, fun exposes => ?_⟩
  exact absurd rfl (exposes.refuses (by decide)).1

theorem mmap_shows_buffer_longer :
    ShowsBuffer boardAddresses 0x0C001000 (dxrtDevMmap plainHelpers boardAddresses
      (vmaOf 2 0x0C001000)) := by
  have selects : (vmaOf 2 0x0C001000).vmPgoff = 2 := rfl
  exact (mmap_shows_buffer_iff plainHelpers_dmaMapsFromPgoff boardAddresses selects).mpr
    (Or.inl (by decide))

/-- One page of the buffer cannot be mapped. -/
theorem mmap_refuses_buffer :
    plainHelpers.DmaMapsFromPgoff ∧
      (dxrtDevMmap plainHelpers boardAddresses (vmaOf 2 0x1000)).ret ≠ 0 ∧
      ¬ ShowsBuffer boardAddresses 0x1000
        (dxrtDevMmap plainHelpers boardAddresses (vmaOf 2 0x1000)) := by
  have selects : (vmaOf 2 0x1000).vmPgoff = 2 := rfl
  have refused := dmaBuf_never_mapped plainHelpers_dmaMapsFromPgoff boardAddresses selects
  refine ⟨plainHelpers_dmaMapsFromPgoff, refused, fun shows => ?_⟩
  exact refused (shows.shows (by decide) (by decide)).1

end DxDsp
