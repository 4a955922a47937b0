/-
This file runs calls of ALLOC_DSP_BUF and FREE_DSP_BUF side by side, each cut
into its critical sections: an allocation reserves, copies out without the lock,
and on a fault of the copy rolls back in a section of its own; a free is one
section and may name any offset. The rollback clears the mark of its slot
without looking whose the slot is by then, so no buffer is handed out twice as
long as a rollback that clears a mark clears one of its own call.
-/

import DxDsp.Pool
import DxDsp.Library.Machine
import DxDsp.Library.Reservations

namespace DxDsp

open Library

variable {Call : Type}

/-! ### The machine -/

/-- A call of `dxrt_alloc_buf`: before its first section, in its copy with `found` and
`dsp_buf_meta`, before its rollback, or returned. -/
inductive AllocPc
  | fresh
  | copying (found : Fin dspBufferMaxNum) (dspBufMeta : DxrtDspBufferMetadata)
  | failing (found : Fin dspBufferMaxNum)
  | returned (ret : Int)

/-- What the calls did. `allocated` is an allocation that returns 0 with the offset it reports,
`freed` a free that returns 0 with the offset it named. -/
inductive PoolEvent (Call : Type)
  | reserved (call : Call) (slot : Fin dspBufferMaxNum)
  | allocated (call : Call) (offset : UInt32)
  | rolledBack (call : Call) (slot : Fin dspBufferMaxNum)
  | freed (offset : UInt32) (slot : Fin dspBufferMaxNum)
deriving DecidableEq

structure PoolState (Call : Type) where
  pool : DxrtDspBufferManager
  calls : Call → AllocPc
  log : List (PoolEvent Call)

inductive PoolAction (Call : Type)
  | reserve (call : Call)
  | copyOut (call : Call) (fault : Bool)
  | rollback (call : Call)
  | freeBuf (dspBufMeta : DxrtDspBufferMetadata)

variable [DecidableEq Call]

namespace PoolState

def initial : PoolState Call where
  pool := dxV3DspBufInit
  calls := fun _ => .fresh
  log := []

def setCall (state : PoolState Call) (call : Call) (pc : AllocPc) : PoolState Call :=
  { state with calls := Function.update state.calls call pc }

/-- The reserving section of `dxrt_alloc_buf`. -/
def reserve (state : PoolState Call) (call : Call) : PoolState Call :=
  (allocReserve state.pool).elim (state.setCall call (.returned (-enomem)))
    fun (found, reserved) =>
      { state.setCall call (.copying found (reserved found)) with
        pool := reserved
        log := state.log ++ [.reserved call found] }

/-- The section of `dxrt_free_buf`. -/
def freeBuf (state : PoolState Call) (dspBufMeta : DxrtDspBufferMetadata) : PoolState Call :=
  (freeFind state.pool dspBufMeta.dspBufOffset).elim state fun found =>
    { state with
      pool := clearSlot state.pool found
      log := state.log ++ [.freed dspBufMeta.dspBufOffset found] }

def step (state : PoolState Call) : PoolAction Call → Option (PoolState Call)
  | .reserve call =>
    match state.calls call with
    | .fresh => some (state.reserve call)
    | _ => none
  | .copyOut call fault =>
    match state.calls call with
    | .copying found dspBufMeta =>
      if fault then some (state.setCall call (.failing found))
      else
        some { state.setCall call (.returned 0) with
          log := state.log ++ [.allocated call dspBufMeta.dspBufOffset] }
    | _ => none
  | .rollback call =>
    match state.calls call with
    | .failing found =>
      some { state.setCall call (.returned (-efault)) with
        pool := clearSlot state.pool found
        log := state.log ++ [.rolledBack call found] }
    | _ => none
  | .freeBuf dspBufMeta => some (state.freeBuf dspBufMeta)

end PoolState

/-- Calls of any clients on the zeroed pool, each call made once. -/
def poolCalls (Call : Type) [DecidableEq Call] : Machine (PoolState Call) (PoolAction Call) where
  start state := state = PoolState.initial
  step := PoolState.step

/-! ### Sections in a row -/

omit [DecidableEq Call] in
/-- A free is one section. -/
theorem PoolState.freeBuf_pool (state : PoolState Call) (dspBufMeta : DxrtDspBufferMetadata) :
    (state.freeBuf dspBufMeta).pool = (dxrtFreeBuf state.pool (.holds dspBufMeta)).1 := by
  rw [freeBuf, dxrtFreeBuf, freeNamed]
  cases freeFind state.pool dspBufMeta.dspBufOffset <;> rfl

/-- The sections of an allocation with nothing in between are the whole call. -/
theorem exists_run_dxrtAllocBuf (state : PoolState Call) {call : Call}
    (fresh : state.calls call = .fresh) {data : UserTarget} (nonNull : data ≠ .null) :
    ∃ sections, ((poolCalls Call).run (fun _ _ => True) state sections).map
        (fun final => (final.pool, final.calls call)) =
      some ((dxrtAllocBuf state.pool data).1, .returned (dxrtAllocBuf state.pool data).2.ret) := by
  unfold poolCalls dxrtAllocBuf
  cases granted : allocReserve state.pool with
  | none =>
    refine ⟨[.reserve call], ?_⟩
    simp [Machine.run, PoolState.step, fresh, PoolState.reserve, granted, PoolState.setCall,
      nonNull]
  | some answer =>
    cases data with
    | null => exact absurd rfl nonNull
    | fault =>
      refine ⟨[.reserve call, .copyOut call true, .rollback call], ?_⟩
      simp [Machine.run, PoolState.step, fresh, PoolState.reserve, granted, PoolState.setCall]
    | writable =>
      refine ⟨[.reserve call, .copyOut call false], ?_⟩
      simp [Machine.run, PoolState.step, fresh, PoolState.reserve, granted, PoolState.setCall]

/-! ### What a step does -/

namespace PoolState

/-- A step, by what it finds and what it leaves. -/
inductive Moved (state : PoolState Call) : PoolAction Call → PoolState Call → Prop
  | full (call : Call) (fresh : state.calls call = .fresh) :
      Moved state (.reserve call) (state.setCall call (.returned (-enomem)))
  | reserved (call : Call) (fresh : state.calls call = .fresh) (found : Fin dspBufferMaxNum)
      (free : found ∉ marked state.pool) :
      Moved state (.reserve call)
        { pool := Function.update state.pool found ⟨slotOffset found, dspBufferUnitSize⟩
          calls := Function.update state.calls call
            (.copying found ⟨slotOffset found, dspBufferUnitSize⟩)
          log := state.log ++ [.reserved call found] }
  | faulted (call : Call) (found : Fin dspBufferMaxNum) (dspBufMeta : DxrtDspBufferMetadata)
      (copying : state.calls call = .copying found dspBufMeta) :
      Moved state (.copyOut call true) (state.setCall call (.failing found))
  | copied (call : Call) (found : Fin dspBufferMaxNum) (dspBufMeta : DxrtDspBufferMetadata)
      (copying : state.calls call = .copying found dspBufMeta) :
      Moved state (.copyOut call false)
        { state.setCall call (.returned 0) with
          log := state.log ++ [.allocated call dspBufMeta.dspBufOffset] }
  | rolledBack (call : Call) (found : Fin dspBufferMaxNum)
      (failing : state.calls call = .failing found) :
      Moved state (.rollback call)
        { state.setCall call (.returned (-efault)) with
          pool := clearSlot state.pool found
          log := state.log ++ [.rolledBack call found] }
  | refused (dspBufMeta : DxrtDspBufferMetadata) : Moved state (.freeBuf dspBufMeta) state
  | freed (dspBufMeta : DxrtDspBufferMetadata) (found : Fin dspBufferMaxNum)
      (finds : freeFind state.pool dspBufMeta.dspBufOffset = some found) :
      Moved state (.freeBuf dspBufMeta)
        { state with
          pool := clearSlot state.pool found
          log := state.log ++ [.freed dspBufMeta.dspBufOffset found] }

theorem moved_of_step {state next : PoolState Call} {action : PoolAction Call}
    (stepped : state.step action = some next) : Moved state action next := by
  cases action with
  | reserve call =>
    rw [step] at stepped
    split at stepped
    · next fresh =>
      cases stepped
      rw [reserve, allocReserve_eq]
      cases granted : Allocator.grant (marked state.pool) with
      | none => exact .full call fresh
      | some found =>
        have free := (Allocator.grant_eq_some_iff.mp granted).1
        show Moved state _
          { pool := Function.update _ _ _, calls := Function.update _ _ _, log := _ }
        rw [Function.update_self]
        exact .reserved call fresh found free
    · cases stepped
  | copyOut call fault =>
    rw [step] at stepped
    split at stepped
    · next found dspBufMeta copying =>
      cases fault with
      | true =>
        cases stepped
        exact .faulted call found dspBufMeta copying
      | false =>
        cases stepped
        exact .copied call found dspBufMeta copying
    · cases stepped
  | rollback call =>
    rw [step] at stepped
    split at stepped
    · next found failing =>
      cases stepped
      exact .rolledBack call found failing
    · cases stepped
  | freeBuf dspBufMeta =>
    cases stepped
    rw [freeBuf]
    cases finds : freeFind state.pool dspBufMeta.dspBufOffset with
    | none => exact .refused dspBufMeta
    | some found => exact .freed dspBufMeta found finds

end PoolState

/-! ### The pool as reservations -/

def PoolEvent.lease : PoolEvent Call → Option (Lease Call (Fin dspBufferMaxNum))
  | .reserved call slot => some (.granted call slot)
  | .rolledBack call slot => some (.revoked call slot)
  | .freed _ slot => some (.freed slot)
  | .allocated _ _ => none

def leases (log : List (PoolEvent Call)) : List (Lease Call (Fin dspBufferMaxNum)) :=
  log.filterMap PoolEvent.lease

omit [DecidableEq Call] in
theorem leases_append (log : List (PoolEvent Call)) (event : PoolEvent Call) :
    leases (log ++ [event]) = leases log ++ event.lease.toList := by
  rw [leases, List.filterMap_append]
  cases event <;> rfl

namespace PoolState

def reservations (state : PoolState Call) : Reservations Call (Fin dspBufferMaxNum) where
  taken := marked state.pool
  history := leases state.log

/-- A rollback that clears a mark clears that of its own call's reservation: the slot was not
reserved by another call since. -/
def RollbackOwn (state : PoolState Call) : PoolAction Call → Prop
  | .rollback call =>
    match state.calls call with
    | .failing found =>
      found ∈ marked state.pool →
        Reservations.lastGrant found (leases state.log) = some call
    | _ => True
  | _ => True

instance (state : PoolState Call) (action : PoolAction Call) :
    Decidable (RollbackOwn state action) :=
  match action with
  | .rollback call =>
    match failing : state.calls call with
    | .failing found =>
      decidable_of_iff (found ∈ marked state.pool →
        Reservations.lastGrant found (leases state.log) = some call) (by rw [RollbackOwn, failing])
    | .fresh | .copying .. | .returned .. => isTrue (by rw [RollbackOwn, failing]; trivial)
  | .reserve .. | .copyOut .. | .freeBuf .. => isTrue trivial

/-- Every step of the pool is one step of the reservations, or none. -/
theorem step_reservations {state next : PoolState Call} {action : PoolAction Call}
    (placed : Placed state.pool) (own : RollbackOwn state action)
    (moved : Moved state action next) :
    next.reservations = state.reservations ∨
      Reservations.Step state.reservations next.reservations := by
  cases moved with
  | full | faulted | refused => exact Or.inl rfl
  | copied call found dspBufMeta copying =>
    left
    rw [reservations, leases_append]
    show Reservations.mk _ (leases state.log ++ []) = _
    rw [List.append_nil]
    rfl
  | reserved call fresh found free =>
    right
    have granted := Reservations.Step.grant state.reservations call found
      (fun member => free (Finset.mem_coe.mp member))
    show Reservations.Step _
      { taken := marked (Function.update state.pool found ⟨slotOffset found, dspBufferUnitSize⟩)
        history := leases (state.log ++ [.reserved call found]) }
    rw [leases_append, marked_reserve, Finset.coe_insert]
    exact granted
  | rolledBack call found failing =>
    right
    rw [RollbackOwn, failing] at own
    have revoked := Reservations.Step.revoke state.reservations call found
      (fun member => own (Finset.mem_coe.mp member))
    show Reservations.Step _
      { taken := marked (clearSlot state.pool found)
        history := leases (state.log ++ [.rolledBack call found]) }
    rw [leases_append, marked_clearSlot, Finset.coe_erase]
    exact revoked
  | freed dspBufMeta found finds =>
    right
    have member := ((freeFind_eq_some_iff placed).mp finds).1
    have freed := Reservations.Step.free state.reservations found (Finset.mem_coe.mpr member)
    show Reservations.Step _
      { taken := marked (clearSlot state.pool found)
        history := leases (state.log ++ [.freed dspBufMeta.dspBufOffset found]) }
    rw [leases_append, marked_clearSlot, Finset.coe_erase]
    exact freed

/-! ### The invariant -/

/-- What the log says of a call agrees with where the call is, and every logged offset with its
slot. A call reserves once, so the slot it copies out is the only one it has reserved. -/
structure Recorded (state : PoolState Call) : Prop where
  fresh : ∀ call slot, state.calls call = .fresh → .reserved call slot ∉ state.log
  copying : ∀ call found dspBufMeta, state.calls call = .copying found dspBufMeta →
    dspBufMeta.dspBufOffset = slotOffset found ∧
      ∀ slot, .reserved call slot ∈ state.log ↔ slot = found
  allocated : ∀ call offset, .allocated call offset ∈ state.log →
    state.calls call = .returned 0 ∧ ∃ found, slotOffset found = offset ∧
      ∀ slot, .reserved call slot ∈ state.log ↔ slot = found
  rolledBack : ∀ call slot, .rolledBack call slot ∈ state.log →
    state.calls call = .returned (-efault)
  freed : ∀ offset slot, .freed offset slot ∈ state.log → offset = slotOffset slot

omit [DecidableEq Call] in
theorem recorded_initial : Recorded (initial : PoolState Call) where
  fresh _ _ _ := List.not_mem_nil
  copying _ _ _ copying := by cases copying
  allocated _ _ member := absurd member List.not_mem_nil
  rolledBack _ _ member := absurd member List.not_mem_nil
  freed _ _ member := absurd member List.not_mem_nil

/-- A step that moves one call, which has not returned, to a place that asks nothing of the
log. -/
theorem Recorded.setCall {state : PoolState Call} (recorded : Recorded state) {call : Call}
    (running : ∀ ret, state.calls call ≠ .returned ret) {pc : AllocPc} (notFresh : pc ≠ .fresh)
    (notCopying : ∀ found dspBufMeta, pc ≠ .copying found dspBufMeta) :
    Recorded (state.setCall call pc) := by
  obtain ⟨fresh, copying, allocated, rolledBack, freed⟩ := recorded
  unfold PoolState.setCall
  constructor <;> grind [Function.update_apply]

theorem Recorded.step {state next : PoolState Call} {action : PoolAction Call}
    (placed : Placed state.pool) (recorded : Recorded state) (moved : Moved state action next) :
    Recorded next := by
  cases moved with
  | full call isFresh => exact recorded.setCall (by simp [isFresh]) (by simp) (by simp)
  | faulted call found dspBufMeta isCopying =>
    exact recorded.setCall (by simp [isCopying]) (by simp) (by simp)
  | refused => exact recorded
  | reserved call isFresh found free =>
    -- a fresh call has no reservation in the log yet, so the new one is its only one
    have first := fun slot => recorded.fresh call slot isFresh
    obtain ⟨fresh, copying, allocated, rolledBack, freed⟩ := recorded
    constructor <;> grind [Function.update_apply]
  | copied call found dspBufMeta isCopying =>
    obtain ⟨offset, only⟩ := recorded.copying call found dspBufMeta isCopying
    obtain ⟨fresh, copying, allocated, rolledBack, freed⟩ := recorded
    unfold PoolState.setCall
    constructor <;> grind [Function.update_apply]
  | rolledBack call found isFailing =>
    obtain ⟨fresh, copying, allocated, rolledBack, freed⟩ := recorded
    unfold PoolState.setCall
    constructor <;> grind [Function.update_apply]
  | freed dspBufMeta found finds =>
    have offset := ((freeFind_eq_some_iff placed).mp finds).2
    obtain ⟨fresh, copying, allocated, rolledBack, freed⟩ := recorded
    constructor <;> grind

/-- What the discipline keeps: the pool's layout, the ownership of its slots, and the log. -/
structure PoolInvariant (state : PoolState Call) : Prop where
  placed : Placed state.pool
  tracked : state.reservations.Tracked
  recorded : Recorded state

omit [DecidableEq Call] in
theorem poolInvariant_initial : PoolInvariant (initial : PoolState Call) where
  placed := placed_dxV3DspBufInit
  tracked := by
    rw [reservations, initial, marked_dxV3DspBufInit, Finset.coe_empty]
    exact Reservations.tracked_empty
  recorded := recorded_initial

theorem Moved.placed {state next : PoolState Call} {action : PoolAction Call}
    (moved : Moved state action next) (placed : Placed state.pool) : Placed next.pool := by
  cases moved with
  | full | faulted | copied | refused => exact placed
  | reserved call fresh found free => exact placed.reserve found
  | rolledBack call found failing => exact placed.clearSlot found
  | freed dspBufMeta found finds => exact placed.clearSlot found

theorem PoolInvariant.step {state next : PoolState Call} {action : PoolAction Call}
    (invariant : PoolInvariant state) (own : RollbackOwn state action)
    (stepped : state.step action = some next) : PoolInvariant next where
  placed := (moved_of_step stepped).placed invariant.placed
  tracked := by
    rcases step_reservations invariant.placed own (moved_of_step stepped) with same | moved
    · rw [same]
      exact invariant.tracked
    · exact invariant.tracked.step moved
  recorded := invariant.recorded.step invariant.placed (moved_of_step stepped)

theorem PoolInvariant.of_reaches {state : PoolState Call}
    (reached : (poolCalls Call).Reaches RollbackOwn state) : PoolInvariant state := by
  refine reached.invariant ?_ fun _ _ _ invariant own stepped => invariant.step own stepped
  rintro _ rfl
  exact poolInvariant_initial

end PoolState

/-! ### No buffer twice -/

/-- Between the reservation of one call and that of another, a free returns 0 for the offset. -/
def FreedBetween (log : List (PoolEvent Call)) (first second : Call) (offset : UInt32) : Prop :=
  ∃ before between after slot,
    log = before ++ .reserved first slot :: between ++ .reserved second slot :: after ∧
      .freed offset slot ∈ between

omit [DecidableEq Call] in
theorem FreedBetween.sublist {log : List (PoolEvent Call)} {first second : Call} {offset : UInt32}
    (between : FreedBetween log first second offset) :
    ∃ slot, [.reserved first slot, .freed offset slot, .reserved second slot].Sublist log := by
  obtain ⟨before, between, after, slot, rfl, member⟩ := between
  have first := (List.nil_sublist before).append
    ((List.singleton_sublist.mpr member).cons_cons (PoolEvent.reserved first slot))
  exact ⟨slot, first.append ((List.nil_sublist after).cons_cons _)⟩

/-- Two calls that report one offset have a free of it between their reservations, and a rollback
takes no slot from another call. -/
structure NeverHandedTwice (log : List (PoolEvent Call)) : Prop where
  freedBetween : ∀ first second offset, first ≠ second → .allocated first offset ∈ log →
    .allocated second offset ∈ log →
      FreedBetween log first second offset ∨ FreedBetween log second first offset
  rollbackOwn : ∀ before after call slot, log = before ++ .rolledBack call slot :: after →
    ∀ other, Reservations.owner slot (leases before) = some other → other = call

namespace PoolState

omit [DecidableEq Call] in
/-- The later of two reservations of a slot finds the earlier one freed, unless the earlier call
rolled back. -/
theorem PoolInvariant.freedBetween {state : PoolState Call} (invariant : PoolInvariant state)
    {before between after : List (PoolEvent Call)} {first second : Call}
    {slot : Fin dspBufferMaxNum} {offset : UInt32}
    (split : state.log =
      before ++ .reserved first slot :: between ++ .reserved second slot :: after)
    (same : slotOffset slot = offset) (returned : state.calls first = .returned 0) :
    FreedBetween state.log first second offset := by
  refine ⟨before, between, after, slot, split, ?_⟩
  have history : leases state.log = leases before ++ .granted first slot :: leases between ++
      .granted second slot :: leases after := by
    rw [split, leases, List.filterMap_append, List.filterMap_append]
    rfl
  rcases invariant.tracked.separated _ _ _ _ _ _ history with freed | revoked
  · obtain ⟨event, member, lease⟩ := List.mem_filterMap.mp freed
    cases event with
    | freed named own =>
      cases lease
      have logged : .freed named slot ∈ state.log := by
        rw [split]
        simp [member]
      rw [← same, ← invariant.recorded.freed named slot logged]
      exact member
    | _ => cases lease
  · obtain ⟨event, member, lease⟩ := List.mem_filterMap.mp revoked
    cases event with
    | rolledBack call own =>
      cases lease
      have logged : .rolledBack first slot ∈ state.log := by
        rw [split]
        simp [member]
      rw [invariant.recorded.rolledBack first slot logged] at returned
      cases returned
    | _ => cases lease

omit [DecidableEq Call] in
theorem PoolInvariant.neverHandedTwice {state : PoolState Call}
    (invariant : PoolInvariant state) : NeverHandedTwice state.log where
  freedBetween := by
    intro first second offset different firstReports secondReports
    obtain ⟨firstReturned, slot, same, firstOnly⟩ :=
      invariant.recorded.allocated first offset firstReports
    obtain ⟨secondReturned, slot', same', secondOnly⟩ :=
      invariant.recorded.allocated second offset secondReports
    cases slotOffset_injective (same.trans same'.symm)
    have distinct : PoolEvent.reserved first slot ≠ .reserved second slot := by
      simp [different]
    rcases exists_split_two distinct ((firstOnly slot).mpr rfl) ((secondOnly slot).mpr rfl) with
      ⟨before, between, after, split⟩ | ⟨before, between, after, split⟩
    · exact Or.inl (invariant.freedBetween split same firstReturned)
    · exact Or.inr (invariant.freedBetween split same secondReturned)
  rollbackOwn := by
    intro before after call slot split
    refine invariant.tracked.ownRevoked (leases before) (leases after) call slot ?_
    show leases state.log = _
    rw [split, leases, List.filterMap_append]
    rfl

end PoolState

/-- In every run in which a rollback that clears a mark clears that of its own call's reservation,
no buffer is handed out twice without a free of it in between. -/
theorem pool_never_handed_twice {state : PoolState Call}
    (reached : (poolCalls Call).Reaches PoolState.RollbackOwn state) :
    NeverHandedTwice state.log :=
  (PoolState.PoolInvariant.of_reaches reached).neverHandedTwice

/-! ### Runs of three calls -/

def firstSlot : Fin dspBufferMaxNum := ⟨0, by decide⟩

/-- The first buffer, as a free names it. -/
def firstBuffer : DxrtDspBufferMetadata := ⟨slotOffset firstSlot, dspBufferUnitSize⟩

/-- A rollback of a reservation that still runs, and an offset that is freed between two
allocations. -/
def rollbackThenFree : List (PoolAction (Fin 3)) :=
  [.reserve 0, .copyOut 0 true, .rollback 0, .reserve 1, .copyOut 1 false, .freeBuf firstBuffer,
    .reserve 2, .copyOut 2 false]

/-- A free and another reservation fall into the copy of the first call, whose rollback then clears
the mark of the second. -/
def freeThenRollback : List (PoolAction (Fin 3)) :=
  [.reserve 0, .freeBuf firstBuffer, .reserve 1, .copyOut 1 false, .copyOut 0 true, .rollback 0,
    .reserve 2, .copyOut 2 false]

theorem pool_never_handed_twice_three :
    ∃ state, (poolCalls (Fin 3)).Reaches PoolState.RollbackOwn state ∧
      state.log =
        [.reserved 0 firstSlot, .rolledBack 0 firstSlot, .reserved 1 firstSlot, .allocated 1 0,
          .freed 0 firstSlot, .reserved 2 firstSlot, .allocated 2 0] ∧
      NeverHandedTwice state.log := by
  have ran : ((poolCalls (Fin 3)).run PoolState.RollbackOwn .initial rollbackThenFree).map
      PoolState.log =
        some [.reserved 0 firstSlot, .rolledBack 0 firstSlot, .reserved 1 firstSlot,
          .allocated 1 0, .freed 0 firstSlot, .reserved 2 firstSlot, .allocated 2 0] := by
    decide +kernel
  obtain ⟨state, final, log⟩ := Option.map_eq_some_iff.mp ran
  have reached := Machine.Reaches.of_run rollbackThenFree (.start rfl) final
  exact ⟨state, reached, log, pool_never_handed_twice reached⟩

/-- Calls 1 and 2 both return 0 with offset 0, and no free lies between their reservations. -/
theorem pool_handed_twice :
    ∃ state, (poolCalls (Fin 3)).Reaches (fun _ _ => True) state ∧
      state.log =
        [.reserved 0 firstSlot, .freed 0 firstSlot, .reserved 1 firstSlot, .allocated 1 0,
          .rolledBack 0 firstSlot, .reserved 2 firstSlot, .allocated 2 0] ∧
      ¬ NeverHandedTwice state.log := by
  have ran : ((poolCalls (Fin 3)).run (fun _ _ => True) .initial freeThenRollback).map
      PoolState.log =
        some [.reserved 0 firstSlot, .freed 0 firstSlot, .reserved 1 firstSlot,
          .allocated 1 0, .rolledBack 0 firstSlot, .reserved 2 firstSlot, .allocated 2 0] := by
    decide +kernel
  obtain ⟨state, final, log⟩ := Option.map_eq_some_iff.mp ran
  refine ⟨state, Machine.Reaches.of_run freeThenRollback (.start rfl) final, log, fun never => ?_⟩
  rw [log] at never
  rcases never.freedBetween 1 2 0 (by decide) (by decide) (by decide) with inOrder | swapped
  · exact absurd inOrder.sublist (by decide)
  · exact absurd swapped.sublist (by decide)

end DxDsp
