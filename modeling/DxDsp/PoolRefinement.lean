/-
This file proves that the pool, run one call at a time, is the abstract
allocator. The abstract pool is a set of slots and answers calls from that set
alone; the pool of the driver gives the same replies and keeps the same set as
its marks. The set of outstanding offsets that a user can compute from the
calls and their replies is the image of that set.
-/

import DxDsp.Pool

namespace DxDsp

open Library

/-! ### Sequences of calls -/

/-- The calls that touch the pool. -/
inductive PoolCall
  | allocBuf (data : UserTarget)
  | freeBuf (data : UserSource DxrtDspBufferMetadata)
  | bufInit
deriving DecidableEq, Repr

def poolCall (pool : DxrtDspBufferManager) : PoolCall → DxrtDspBufferManager × PoolReply
  | .allocBuf data => dxrtAllocBuf pool data
  | .freeBuf data => dxrtFreeBuf pool data
  | .bufInit => (dxV3DspBufInit, { ret := 0 })

/-- The pool after a sequence of calls, with every call and its reply. -/
def poolRun (pool : DxrtDspBufferManager) :
    List PoolCall → DxrtDspBufferManager × List (PoolCall × PoolReply)
  | [] => (pool, [])
  | call :: rest =>
    let answered := poolCall pool call
    let final := poolRun answered.1 rest
    (final.1, (call, answered.2) :: final.2)

/-! ### The abstract pool -/

/-- An allocation as a set of outstanding slots answers it. -/
def outstandingAlloc (outstanding : Finset (Fin dspBufferMaxNum)) (data : UserTarget) :
    Finset (Fin dspBufferMaxNum) × PoolReply :=
  if data = .null then (outstanding, { ret := -einval })
  else
    match Allocator.grant outstanding with
    | none => (outstanding, { ret := -enomem })
    | some slot =>
      if data = .fault then (outstanding, { ret := -efault })
      else
        (insert slot outstanding,
          { ret := 0, copied := some ⟨slotOffset slot, dspBufferUnitSize⟩ })

/-- A free of an offset as a set of outstanding slots answers it. -/
def outstandingFree (outstanding : Finset (Fin dspBufferMaxNum)) (offset : UInt32) :
    Finset (Fin dspBufferMaxNum) × PoolReply :=
  if offset ∈ outstanding.image slotOffset then
    (outstanding.filter fun slot => slotOffset slot ≠ offset, { ret := 0 })
  else (outstanding, { ret := -einval })

/-- A call as a set of outstanding slots answers it. -/
def outstandingCall (outstanding : Finset (Fin dspBufferMaxNum)) :
    PoolCall → Finset (Fin dspBufferMaxNum) × PoolReply
  | .allocBuf data => outstandingAlloc outstanding data
  | .freeBuf .null => (outstanding, { ret := -einval })
  | .freeBuf .fault => (outstanding, { ret := -efault })
  | .freeBuf (.holds named) => outstandingFree outstanding named.dspBufOffset
  | .bufInit => (∅, { ret := 0 })

theorem filter_slotOffset_ne (outstanding : Finset (Fin dspBufferMaxNum))
    (slot : Fin dspBufferMaxNum) :
    (outstanding.filter fun other => slotOffset other ≠ slotOffset slot) =
      outstanding.erase slot := by
  ext other
  rw [Finset.mem_filter, Finset.mem_erase, and_comm]
  exact and_congr_left fun _ => slotOffset_injective.ne_iff

theorem dxrtAllocBuf_refines {pool : DxrtDspBufferManager} (placed : Placed pool)
    (data : UserTarget) :
    (marked (dxrtAllocBuf pool data).1, (dxrtAllocBuf pool data).2) =
        outstandingAlloc (marked pool) data ∧ Placed (dxrtAllocBuf pool data).1 := by
  rw [dxrtAllocBuf, outstandingAlloc, allocReserve_eq]
  by_cases null : data = .null
  · rw [if_pos null, if_pos null]
    exact ⟨rfl, placed⟩
  · rw [if_neg null, if_neg null]
    cases granted : Allocator.grant (marked pool) with
    | none => exact ⟨rfl, placed⟩
    | some found =>
      have unmarked := (Allocator.grant_eq_some_iff.mp granted).1
      by_cases fault : data = .fault
      · simp only [Option.map_some, if_pos fault, marked_clearSlot, marked_reserve,
          Finset.erase_insert unmarked, true_and]
        exact (placed.reserve found).clearSlot found
      · simp only [Option.map_some, if_neg fault, marked_reserve, Function.update_self, true_and]
        exact placed.reserve found

theorem freeNamed_refines {pool : DxrtDspBufferManager} (placed : Placed pool)
    (named : DxrtDspBufferMetadata) :
    (marked (freeNamed pool named).1, (freeNamed pool named).2) =
        outstandingFree (marked pool) named.dspBufOffset ∧ Placed (freeNamed pool named).1 := by
  obtain ⟨offset, size⟩ := named
  rw [freeNamed, outstandingFree]
  cases found : freeFind pool offset with
  | none =>
    have absent : offset ∉ (marked pool).image slotOffset := by
      rw [Finset.mem_image]
      rintro ⟨slot, member, same⟩
      exact (freeFind_eq_none_iff placed).mp found slot member same
    rw [if_neg absent]
    exact ⟨rfl, placed⟩
  | some slot =>
    obtain ⟨member, same⟩ := (freeFind_eq_some_iff placed).mp found
    subst same
    rw [if_pos (Finset.mem_image_of_mem slotOffset member), filter_slotOffset_ne,
      ← marked_clearSlot]
    exact ⟨rfl, placed.clearSlot slot⟩

/-- The pool answers every call as its marked slots do, and keeps its marks in step. -/
theorem poolCall_refines {pool : DxrtDspBufferManager} (placed : Placed pool) (call : PoolCall) :
    (marked (poolCall pool call).1, (poolCall pool call).2) = outstandingCall (marked pool) call ∧
      Placed (poolCall pool call).1 := by
  cases call with
  | allocBuf data => exact dxrtAllocBuf_refines placed data
  | freeBuf data =>
    cases data with
    | null => exact ⟨rfl, placed⟩
    | fault => exact ⟨rfl, placed⟩
    | holds named => exact freeNamed_refines placed named
  | bufInit =>
    refine ⟨?_, placed_dxV3DspBufInit⟩
    show (marked dxV3DspBufInit, _) = _
    rw [marked_dxV3DspBufInit]
    rfl

/-! ### Outstanding offsets, as the replies show them -/

/-- An allocation that returned 0 adds the offset it copied out, a free that returned 0 removes
the offset it named, and a re-initialisation removes all. -/
def outstandingStep (outstanding : Finset UInt32) : PoolCall × PoolReply → Finset UInt32
  | (.allocBuf _, reply) =>
    match reply.copied with
    | some granted => if reply.ret = 0 then insert granted.dspBufOffset outstanding else outstanding
    | none => outstanding
  | (.freeBuf (.holds named), reply) =>
    if reply.ret = 0 then outstanding.erase named.dspBufOffset else outstanding
  | (.freeBuf _, _) => outstanding
  | (.bufInit, _) => ∅

/-- The offsets returned by a successful allocation and not since freed or reset. -/
def outstandingOffsets (history : List (PoolCall × PoolReply)) : Finset UInt32 :=
  history.foldl outstandingStep ∅

theorem erase_image_slotOffset (outstanding : Finset (Fin dspBufferMaxNum)) (offset : UInt32) :
    (outstanding.filter fun slot => slotOffset slot ≠ offset).image slotOffset =
      (outstanding.image slotOffset).erase offset := by
  ext other
  simp only [Finset.mem_image, Finset.mem_filter, Finset.mem_erase]
  constructor
  · rintro ⟨slot, ⟨member, differs⟩, rfl⟩
    exact ⟨differs, slot, member, rfl⟩
  · rintro ⟨differs, slot, member, rfl⟩
    exact ⟨slot, ⟨member, differs⟩, rfl⟩

/-- The offsets read off the replies follow the abstract pool. -/
theorem outstandingStep_outstandingCall (outstanding : Finset (Fin dspBufferMaxNum))
    (call : PoolCall) :
    outstandingStep (outstanding.image slotOffset) (call, (outstandingCall outstanding call).2) =
      (outstandingCall outstanding call).1.image slotOffset := by
  cases call with
  | allocBuf data =>
    rw [outstandingCall, outstandingAlloc]
    by_cases null : data = .null
    · rw [if_pos null]
      rfl
    · rw [if_neg null]
      cases granted : Allocator.grant outstanding with
      | none => rfl
      | some slot =>
        by_cases fault : data = .fault
        · simp only [if_pos fault]
          rfl
        · simp only [if_neg fault, outstandingStep, if_true, Finset.image_insert]
  | freeBuf data =>
    cases data with
    | null => rfl
    | fault => rfl
    | holds named =>
      rw [outstandingCall, outstandingFree]
      by_cases present : named.dspBufOffset ∈ outstanding.image slotOffset
      · rw [if_pos present]
        exact (erase_image_slotOffset outstanding named.dspBufOffset).symm
      · rw [if_neg present]
        rfl
  | bufInit => rfl

/-- Along any sequence of calls the marks stay the offsets read off the replies. -/
theorem poolRun_outstanding (calls : List PoolCall) {pool : DxrtDspBufferManager}
    (placed : Placed pool) :
    (poolRun pool calls).2.foldl outstandingStep ((marked pool).image slotOffset) =
        (marked (poolRun pool calls).1).image slotOffset ∧
      Placed (poolRun pool calls).1 := by
  induction calls generalizing pool with
  | nil => exact ⟨rfl, placed⟩
  | cons call rest inductionHypothesis =>
    obtain ⟨refines, placedAfter⟩ := poolCall_refines placed call
    rw [Prod.ext_iff] at refines
    have step := outstandingStep_outstandingCall (marked pool) call
    rw [← refines.1, ← refines.2] at step
    have tail := inductionHypothesis placedAfter
    rw [poolRun, List.foldl_cons, step]
    exact tail

theorem poolRun_append (pool : DxrtDspBufferManager) (calls : List PoolCall) (call : PoolCall) :
    poolRun pool (calls ++ [call]) =
      ((poolCall (poolRun pool calls).1 call).1,
        (poolRun pool calls).2 ++ [(call, (poolCall (poolRun pool calls).1 call).2)]) := by
  induction calls generalizing pool with
  | nil => rfl
  | cons head rest inductionHypothesis =>
    simp only [List.cons_append, poolRun, inductionHypothesis]

/-- What it means that the pool is the set `outstanding`. -/
structure TracksOutstanding (pool : DxrtDspBufferManager) (outstanding : Finset UInt32) : Prop where
  marks : ∀ slot, (pool slot).allocSize ≠ 0 ↔ slotOffset slot ∈ outstanding
  slots : ∀ offset ∈ outstanding, ∃ slot, slotOffset slot = offset
  inside : ∀ offset ∈ outstanding, bufferBytes offset ⊆ Set.Ico 0 identifiedMemSize.toNat
  apart : (outstanding : Set UInt32).PairwiseDisjoint bufferBytes
  allocFull : ∀ data ≠ .null,
    (dxrtAllocBuf pool data).2.ret = -enomem ↔ ∀ slot, slotOffset slot ∈ outstanding
  allocLowest : ∀ slot, slotOffset slot ∉ outstanding →
    (∀ lower < slot, slotOffset lower ∈ outstanding) →
      (dxrtAllocBuf pool .writable).2 =
        { ret := 0, copied := some ⟨slotOffset slot, dspBufferUnitSize⟩ }
  freeNamed : ∀ named : DxrtDspBufferMetadata,
    (dxrtFreeBuf pool (.holds named)).2.ret = 0 ↔ named.dspBufOffset ∈ outstanding

theorem slotOffset_mem_image {outstanding : Finset (Fin dspBufferMaxNum)}
    {slot : Fin dspBufferMaxNum} :
    slotOffset slot ∈ outstanding.image slotOffset ↔ slot ∈ outstanding :=
  slotOffset_injective.mem_finset_image

theorem Placed.tracks {pool : DxrtDspBufferManager} (placed : Placed pool) :
    TracksOutstanding pool ((marked pool).image slotOffset) where
  marks slot := by rw [slotOffset_mem_image, mem_marked]
  slots offset member := by
    obtain ⟨slot, _, same⟩ := Finset.mem_image.mp member
    exact ⟨slot, same⟩
  inside offset member := by
    obtain ⟨slot, inPool, rfl⟩ := Finset.mem_image.mp member
    rw [bufferBytes_slotOffset]
    have region :=
      (Allocator.outstanding_cells (marked pool) 0 dspBufferUnitSize.toNat).2 slot inPool
    rwa [Nat.zero_add] at region
  apart := by
    intro first firstMember second secondMember different
    obtain ⟨firstSlot, firstIn, rfl⟩ := Finset.mem_image.mp firstMember
    obtain ⟨secondSlot, secondIn, rfl⟩ := Finset.mem_image.mp secondMember
    show Disjoint (bufferBytes _) (bufferBytes _)
    rw [bufferBytes_slotOffset, bufferBytes_slotOffset]
    exact (Allocator.outstanding_cells (marked pool) 0 dspBufferUnitSize.toNat).1 firstIn secondIn
      fun same => different (congrArg slotOffset same)
  allocFull data nonNull := by
    have answered := congrArg Prod.snd (dxrtAllocBuf_refines placed data).1
    have full : (∀ slot, slotOffset slot ∈ (marked pool).image slotOffset) ↔
        Allocator.grant (marked pool) = none := by
      rw [Allocator.grant_eq_none_iff]
      exact forall_congr' fun slot => slotOffset_mem_image
    rw [full, show (dxrtAllocBuf pool data).2 = _ from answered, outstandingAlloc, if_neg nonNull]
    cases granted : Allocator.grant (marked pool) with
    | none => exact iff_of_true rfl rfl
    | some slot =>
      refine iff_of_false ?_ (Option.some_ne_none slot)
      by_cases fault : data = .fault
      · simp [fault, efault, enomem]
      · simp [fault, enomem]
  allocLowest slot free lower := by
    have answered := congrArg Prod.snd (dxrtAllocBuf_refines placed .writable).1
    have granted : Allocator.grant (marked pool) = some slot := by
      rw [Allocator.grant_eq_some_iff]
      exact ⟨fun member => free (slotOffset_mem_image.mpr member),
        fun below less => slotOffset_mem_image.mp (lower below less)⟩
    rw [show (dxrtAllocBuf pool .writable).2 = _ from answered, outstandingAlloc, granted]
    rfl
  freeNamed named := by
    have answered := congrArg Prod.snd (freeNamed_refines placed named).1
    rw [show (dxrtFreeBuf pool (.holds named)).2 = _ from answered, outstandingFree]
    by_cases present : named.dspBufOffset ∈ (marked pool).image slotOffset
    · rw [if_pos present]
      exact iff_of_true rfl present
    · rw [if_neg present]
      exact iff_of_false (by simp [einval]) present

/-- The pool refines the set of outstanding buffers: after any sequence of calls from the zeroed
pool it is that set, a free that returns 0 removes exactly the buffer it names, and a call that
returns an error leaves the set as it was. -/
theorem pool_refines_outstanding (calls : List PoolCall) :
    TracksOutstanding (poolRun dxV3DspBufInit calls).1
        (outstandingOffsets (poolRun dxV3DspBufInit calls).2) ∧
      (∀ named : DxrtDspBufferMetadata,
        (dxrtFreeBuf (poolRun dxV3DspBufInit calls).1 (.holds named)).2.ret = 0 →
          outstandingOffsets (poolRun dxV3DspBufInit (calls ++ [.freeBuf (.holds named)])).2 =
            (outstandingOffsets (poolRun dxV3DspBufInit calls).2).erase named.dspBufOffset) ∧
      ∀ call : PoolCall, (poolCall (poolRun dxV3DspBufInit calls).1 call).2.ret < 0 →
        outstandingOffsets (poolRun dxV3DspBufInit (calls ++ [call])).2 =
          outstandingOffsets (poolRun dxV3DspBufInit calls).2 := by
  have run := poolRun_outstanding calls placed_dxV3DspBufInit
  rw [marked_dxV3DspBufInit, Finset.image_empty] at run
  have extended (call : PoolCall) :
      outstandingOffsets (poolRun dxV3DspBufInit (calls ++ [call])).2 =
        outstandingStep (outstandingOffsets (poolRun dxV3DspBufInit calls).2)
          (call, (poolCall (poolRun dxV3DspBufInit calls).1 call).2) := by
    rw [poolRun_append, outstandingOffsets, List.foldl_append]
    rfl
  refine ⟨?_, ?_, ?_⟩
  · rw [outstandingOffsets, run.1]
    exact run.2.tracks
  · intro named freed
    rw [extended, outstandingStep]
    exact if_pos freed
  · intro call failed
    rw [extended]
    cases call with
    | allocBuf data =>
      rw [outstandingStep]
      split
      · exact if_neg failed.ne
      · rfl
    | freeBuf data =>
      cases data with
      | null => rfl
      | fault => rfl
      | holds named => exact if_neg failed.ne
    | bufInit => exact absurd failed (lt_irrefl 0)

end DxDsp
