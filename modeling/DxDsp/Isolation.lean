/-
This file runs clients that keep to their own buffers: each makes its calls one
at a time, frees only what it holds and transfers only inside a buffer it holds.
The pool gives each a buffer of its own, the checks accept every such transfer
at the reported base, and since both handlers place the bytes by offset, a
client reads back what it last wrote, whatever the others do.
-/

import DxDsp.Pool
import DxDsp.Transfer
import DxDsp.Library.Machine
import DxDsp.Library.Ownership

namespace DxDsp

open Library

variable {Client : Type}

/-! ### The clients -/

/-- Where a client is: between two calls, or in an allocation before its copy or before its
rollback. -/
inductive ClientPc
  | idle
  | copying (found : Fin dspBufferMaxNum) (dspBufMeta : DxrtDspBufferMetadata)
  | failing (found : Fin dspBufferMaxNum)
deriving DecidableEq

/-- The slot an allocation has reserved and not yet returned. -/
def ClientPc.slot : ClientPc → Option (Fin dspBufferMaxNum)
  | .idle => none
  | .copying found _ => some found
  | .failing found => some found

/-- What the calls that returned 0 did. -/
inductive ClientEvent (Client : Type)
  | identified
  | obtained (client : Client) (offset : UInt32)
  | freed (client : Client) (offset : UInt32)
  | wrote (client : Client) (meminfo : DxrtReqMeminfo) (bytes : Nat → UInt8)

structure ClientsState (Client : Type) where
  dx : Dxdev
  pool : DxrtDspBufferManager
  pc : Client → ClientPc
  log : List (ClientEvent Client)

inductive ClientAction (Client : Type)
  | identify
  | reserve (client : Client)
  | copyOut (client : Client) (fault : Bool)
  | rollback (client : Client)
  | freeBuf (client : Client) (dspBufMeta : DxrtDspBufferMetadata)
  | writeMem (client : Client) (meminfo : DxrtReqMeminfo) (bytes : Nat → UInt8)
  | readMem (client : Client) (meminfo : DxrtReqMeminfo)

variable [DecidableEq Client]

/-! ### What a client knows -/

instance (offset : UInt32) : DecidablePred (· ∈ bufferBytes offset) := fun address =>
  inferInstanceAs (Decidable (address ∈ Set.Ico _ _))

/-- The offsets a client holds. -/
def held (log : List (ClientEvent Client)) (client : Client) : Finset UInt32 :=
  log.foldl (fun offsets event =>
    match event with
    | .obtained own offset => if own = client then insert offset offsets else offsets
    | .freed own offset => if own = client then offsets.erase offset else offsets
    | .identified | .wrote .. => offsets) ∅

/-- What a client last wrote to a byte of the region since it obtained the buffer around it. -/
def lastWritten (log : List (ClientEvent Client)) (client : Client) (address : Nat) :
    Option UInt8 :=
  log.foldl (fun value event =>
    match event with
    | .obtained own offset => if own = client ∧ address ∈ bufferBytes offset then none else value
    | .wrote own meminfo bytes =>
      if own = client ∧ meminfo.offset.toNat ≤ address ∧
          address < meminfo.offset.toNat + meminfo.size.toNat then
        some (bytes (address - meminfo.offset.toNat))
      else value
    | .identified | .freed .. => value) none

/-- The transfer stays inside a buffer the client holds, on a channel the handlers accept. -/
def InHeld (log : List (ClientEvent Client)) (client : Client) (meminfo : DxrtReqMeminfo) : Prop :=
  meminfo.ch ≤ 2 ∧ ∃ offset ∈ held log client, offset.toNat ≤ meminfo.offset.toNat ∧
    meminfo.offset.toNat + meminfo.size.toNat ≤ offset.toNat + dspBufferUnitSize.toNat

instance (log : List (ClientEvent Client)) (client : Client) (meminfo : DxrtReqMeminfo) :
    Decidable (InHeld log client meminfo) :=
  inferInstanceAs (Decidable (_ ∧ ∃ offset ∈ held log client, _))

/-! ### The machine -/

namespace ClientsState

def initial (dsp : Dxdsp) : ClientsState Client where
  dx := createDxrtDevice dsp
  pool := dxV3DspBufInit
  pc := fun _ => .idle
  log := []

def setPc (state : ClientsState Client) (client : Client) (pc : ClientPc) : ClientsState Client :=
  { state with pc := Function.update state.pc client pc }

@[simp] theorem setPc_pc (state : ClientsState Client) (client : Client) (pc : ClientPc) :
    (state.setPc client pc).pc client = pc := Function.update_self ..

def identify (state : ClientsState Client) : ClientsState Client :=
  { state with
    dx := dxrtIdentifyDevice state.dx
    log := state.log ++ [.identified] }

/-- The reserving section of `dxrt_alloc_buf`. -/
def reserve (state : ClientsState Client) (client : Client) : ClientsState Client :=
  (allocReserve state.pool).elim state fun (found, reserved) =>
    { state.setPc client (.copying found (reserved found)) with pool := reserved }

/-- The copy of `dxrt_alloc_buf`. -/
def copyOut (state : ClientsState Client) (client : Client) (found : Fin dspBufferMaxNum)
    (dspBufMeta : DxrtDspBufferMetadata) (fault : Bool) : ClientsState Client :=
  if fault then state.setPc client (.failing found)
  else
    { state.setPc client .idle with
      log := state.log ++ [.obtained client dspBufMeta.dspBufOffset] }

def rollback (state : ClientsState Client) (client : Client) (found : Fin dspBufferMaxNum) :
    ClientsState Client :=
  { state.setPc client .idle with pool := clearSlot state.pool found }

def freeBuf (state : ClientsState Client) (client : Client) (dspBufMeta : DxrtDspBufferMetadata) :
    ClientsState Client :=
  let answered := dxrtFreeBuf state.pool (.holds dspBufMeta)
  { state with
    pool := answered.1
    log :=
      if answered.2.ret = 0 then state.log ++ [.freed client dspBufMeta.dspBufOffset]
      else state.log }

def writeMem (state : ClientsState Client) (client : Client) (meminfo : DxrtReqMeminfo)
    (bytes : Nat → UInt8) : ClientsState Client :=
  let answered := dxrtWriteMem state.dx (.holds meminfo) { bytes }
  { state with
    dx := answered.1
    log := if answered.2.ret = 0 then state.log ++ [.wrote client meminfo bytes] else state.log }

/-- A client starts a call when it is in none, and an allocation goes on section by section. -/
def step (state : ClientsState Client) : ClientAction Client → Option (ClientsState Client)
  | .identify => some state.identify
  | .reserve client =>
    match state.pc client with
    | .idle => some (state.reserve client)
    | _ => none
  | .copyOut client fault =>
    match state.pc client with
    | .copying found dspBufMeta => some (state.copyOut client found dspBufMeta fault)
    | _ => none
  | .rollback client =>
    match state.pc client with
    | .failing found => some (state.rollback client found)
    | _ => none
  | .freeBuf client dspBufMeta =>
    match state.pc client with
    | .idle => some (state.freeBuf client dspBufMeta)
    | _ => none
  | .writeMem client meminfo bytes =>
    match state.pc client with
    | .idle => some (state.writeMem client meminfo bytes)
    | _ => none
  | .readMem client _ =>
    match state.pc client with
    | .idle => some state
    | _ => none

/-- A client frees only what it holds and transfers only inside a buffer it holds. -/
def OwnBuffers (state : ClientsState Client) : ClientAction Client → Prop
  | .freeBuf client dspBufMeta => dspBufMeta.dspBufOffset ∈ held state.log client
  | .writeMem client meminfo _ | .readMem client meminfo => InHeld state.log client meminfo
  | .identify | .reserve _ | .copyOut .. | .rollback _ => True

instance (state : ClientsState Client) (action : ClientAction Client) :
    Decidable (OwnBuffers state action) :=
  match action with
  | .freeBuf client dspBufMeta =>
    inferInstanceAs (Decidable (dspBufMeta.dspBufOffset ∈ held state.log client))
  | .writeMem client meminfo _ | .readMem client meminfo =>
    inferInstanceAs (Decidable (InHeld state.log client meminfo))
  | .identify | .reserve _ | .copyOut .. | .rollback _ => isTrue trivial

end ClientsState

/-- Clients of a created device whose DMA buffer holds the region that is reported to them. -/
def clients (Client : Type) [DecidableEq Client] :
    Machine (ClientsState Client) (ClientAction Client) where
  start state := ∃ dsp : Dxdsp,
    dspBufferMaxNum * dspBufferUnitSize.toNat ≤ dsp.dmaBufSize.toNat ∧
      state = ClientsState.initial dsp
  step := ClientsState.step

/-! ### What an event changes for a client -/

theorem held_append (log : List (ClientEvent Client)) (event : ClientEvent Client)
    (client : Client) :
    held (log ++ [event]) client =
      match event with
      | .obtained own offset =>
        if own = client then insert offset (held log client) else held log client
      | .freed own offset =>
        if own = client then (held log client).erase offset else held log client
      | .identified | .wrote .. => held log client := by
  rw [held, List.foldl_append]
  rfl

theorem held_obtained (log : List (ClientEvent Client)) (client : Client) (offset : UInt32) :
    held (log ++ [.obtained client offset]) =
      Function.update (held log) client (insert offset (held log client)) := by
  funext own
  rw [held_append, Function.update_apply]
  by_cases same : own = client
  · subst same
    simp
  · simp [same, Ne.symm same]

theorem held_freed (log : List (ClientEvent Client)) (client : Client) (offset : UInt32) :
    held (log ++ [.freed client offset]) =
      Function.update (held log) client ((held log client).erase offset) := by
  funext own
  rw [held_append, Function.update_apply]
  by_cases same : own = client
  · subst same
    simp
  · simp [same, Ne.symm same]

theorem held_identified (log : List (ClientEvent Client)) :
    held (log ++ [.identified]) = held log := by
  funext own
  rw [held_append]

theorem held_wrote (log : List (ClientEvent Client)) (client : Client) (meminfo : DxrtReqMeminfo)
    (bytes : Nat → UInt8) : held (log ++ [.wrote client meminfo bytes]) = held log := by
  funext own
  rw [held_append]

theorem lastWritten_append (log : List (ClientEvent Client)) (event : ClientEvent Client)
    (client : Client) (address : Nat) :
    lastWritten (log ++ [event]) client address =
      match event with
      | .obtained own offset =>
        if own = client ∧ address ∈ bufferBytes offset then none
        else lastWritten log client address
      | .wrote own meminfo bytes =>
        if own = client ∧ meminfo.offset.toNat ≤ address ∧
            address < meminfo.offset.toNat + meminfo.size.toNat then
          some (bytes (address - meminfo.offset.toNat))
        else lastWritten log client address
      | .identified | .freed .. => lastWritten log client address := by
  rw [lastWritten, List.foldl_append]
  rfl

/-! ### Who claims a slot -/

namespace ClientsState

/-- The slots of a client: the one its allocation has reserved, and those of the offsets it
holds. -/
def claims (state : ClientsState Client) (client : Client) : Set (Fin dspBufferMaxNum) :=
  {slot | (state.pc client).slot = some slot ∨ slotOffset slot ∈ held state.log client}

/-- Every claimed slot is marked and claimed once, and every offset in a client's hands is one of
its slots. -/
structure Separate (state : ClientsState Client) : Prop where
  placed : Placed state.pool
  owned : Owned (marked state.pool : Set (Fin dspBufferMaxNum)) state.claims
  running : ∀ client slot, (state.pc client).slot = some slot →
    slotOffset slot ∉ held state.log client
  reported : ∀ client found dspBufMeta, state.pc client = .copying found dspBufMeta →
    dspBufMeta.dspBufOffset = slotOffset found
  slots : ∀ client, ∀ offset ∈ held state.log client, ∃ slot, slotOffset slot = offset

theorem separate_initial (dsp : Dxdsp) : Separate (initial dsp : ClientsState Client) where
  placed := placed_dxV3DspBufInit
  owned := by
    have unclaimed : (initial dsp : ClientsState Client).claims = fun _ => ∅ := by
      funext client
      ext slot
      simp [claims, initial, ClientPc.slot, held]
    rw [unclaimed, initial, marked_dxV3DspBufInit, Finset.coe_empty]
    exact Owned.empty
  running _ _ running := by cases running
  reported _ _ _ copying := by cases copying
  slots _ _ member := by cases member

/-- A step that leaves the other clients where they are, and with what they hold. -/
structure MovesOnly (client : Client) (state next : ClientsState Client) : Prop where
  pc : ∀ own, own ≠ client → next.pc own = state.pc own
  held : ∀ own, own ≠ client → held next.log own = held state.log own

theorem MovesOnly.claims_eq {client : Client} {state next : ClientsState Client}
    (moves : MovesOnly client state next) :
    next.claims = Function.update state.claims client (next.claims client) := by
  funext own
  by_cases same : own = client
  · rw [same, Function.update_self]
  · rw [Function.update_of_ne same, claims, claims, moves.pc own same, moves.held own same]

/-- What a step has to show of the client it moves; the others keep what they had. -/
theorem Separate.moves {client : Client} {state next : ClientsState Client}
    (separate : Separate state) (moves : MovesOnly client state next) (placed : Placed next.pool)
    {taken slots : Set (Fin dspBufferMaxNum)} (takes : (marked next.pool : Set _) = taken)
    (claims : next.claims client = slots)
    (owned : Owned taken (Function.update state.claims client slots))
    (running : ∀ slot, (next.pc client).slot = some slot → slotOffset slot ∉ held next.log client)
    (reported : ∀ found dspBufMeta, next.pc client = .copying found dspBufMeta →
      dspBufMeta.dspBufOffset = slotOffset found)
    (offsets : ∀ offset ∈ held next.log client, ∃ slot, slotOffset slot = offset) :
    Separate next where
  placed := placed
  owned := by
    rw [moves.claims_eq, takes, claims]
    exact owned
  running own := by
    by_cases same : own = client
    · rw [same]
      exact running
    · rw [moves.pc own same, moves.held own same]
      exact separate.running own
  reported own := by
    by_cases same : own = client
    · rw [same]
      exact reported
    · rw [moves.pc own same]
      exact separate.reported own
  slots own := by
    by_cases same : own = client
    · rw [same]
      exact offsets
    · rw [moves.held own same]
      exact separate.slots own

/-- A step that leaves the pool, the clients' places and what they hold. -/
theorem Separate.of_held {state next : ClientsState Client} (separate : Separate state)
    (pool : next.pool = state.pool) (pc : next.pc = state.pc)
    (holds : held next.log = held state.log) : Separate next where
  placed := by
    rw [pool]
    exact separate.placed
  owned := by
    have claims : next.claims = state.claims := by
      funext client
      rw [ClientsState.claims, ClientsState.claims, pc, holds]
    rw [pool, claims]
    exact separate.owned
  running := by
    rw [pc, holds]
    exact separate.running
  reported := by
    rw [pc]
    exact separate.reported
  slots := by
    rw [holds]
    exact separate.slots

theorem Separate.reserve {state : ClientsState Client} (separate : Separate state)
    {client : Client} (idle : state.pc client = .idle) : Separate (state.reserve client) := by
  rw [ClientsState.reserve, allocReserve_eq]
  cases granted : Allocator.grant (marked state.pool) with
  | none => exact separate
  | some found =>
    have free : found ∉ marked state.pool := (Allocator.grant_eq_some_iff.mp granted).1
    have unclaimed : found ∉ state.claims client := fun member =>
      free (Finset.mem_coe.mp (separate.owned.inside client member))
    simp only [Option.map_some, Option.elim_some, Function.update_self]
    refine separate.moves
      ⟨fun own different => Function.update_of_ne different _ _, fun _ _ => rfl⟩
      (separate.placed.reserve found)
      ((congrArg _ (marked_reserve state.pool found)).trans (Finset.coe_insert _ _)) ?_
      (separate.owned.claim client (mt Finset.mem_coe.mp free)) ?_ ?_ (separate.slots client)
    · ext slot
      simp [claims, ClientPc.slot, idle, eq_comm, setPc]
    · intro slot running
      have same : found = slot := by simpa [ClientPc.slot] using running
      exact fun member => unclaimed (Or.inr (same ▸ member))
    · intro other dspBufMeta copying
      have same : found = other ∧ ⟨slotOffset found, dspBufferUnitSize⟩ = dspBufMeta := by
        simpa using copying
      rw [← same.1, ← same.2]

theorem Separate.faulted {state : ClientsState Client} (separate : Separate state)
    {client : Client} {found : Fin dspBufferMaxNum} {dspBufMeta : DxrtDspBufferMetadata}
    (copying : state.pc client = .copying found dspBufMeta) :
    Separate (state.copyOut client found dspBufMeta true) := by
  have owned := separate.owned
  rw [← Function.update_eq_self client state.claims] at owned
  have fresh := separate.running client
  rw [copying] at fresh
  refine separate.moves
    ⟨fun own different => Function.update_of_ne different _ _, fun _ _ => rfl⟩
    separate.placed rfl ?_ owned ?_ ?_ (separate.slots client)
  · ext slot
    simp [claims, ClientsState.copyOut, ClientPc.slot, copying, setPc]
  · intro slot running
    exact fresh slot (by simpa [ClientsState.copyOut, ClientPc.slot] using running)
  · intro other dspBufMeta copying
    simp [ClientsState.copyOut] at copying

/-- The reserved slot becomes a held one. -/
theorem Separate.copied {state : ClientsState Client} (separate : Separate state)
    {client : Client} {found : Fin dspBufferMaxNum} {dspBufMeta : DxrtDspBufferMetadata}
    (copying : state.pc client = .copying found dspBufMeta) :
    Separate (state.copyOut client found dspBufMeta false) := by
  have owned := separate.owned
  rw [← Function.update_eq_self client state.claims] at owned
  have reported := separate.reported client found dspBufMeta copying
  have holds : held (state.copyOut client found dspBufMeta false).log =
      Function.update (held state.log) client
        (insert (slotOffset found) (held state.log client)) := by
    rw [← reported]
    exact held_obtained state.log client dspBufMeta.dspBufOffset
  refine separate.moves
    ⟨fun own different => Function.update_of_ne different _ _, fun own different => ?_⟩
    separate.placed rfl ?_ owned ?_ ?_ ?_
  · rw [holds, Function.update_of_ne different]
  · ext slot
    constructor
    · rintro (running | member)
      · simp [ClientsState.copyOut, ClientPc.slot] at running
      · rw [holds, Function.update_self, Finset.mem_insert] at member
        rcases member with same | kept
        · exact Or.inl (by rw [copying, slotOffset_injective same]; rfl)
        · exact Or.inr kept
    · intro claimed
      refine Or.inr ?_
      rw [holds, Function.update_self, Finset.mem_insert]
      rcases claimed with running | kept
      · rw [copying] at running
        exact Or.inl (congrArg slotOffset (Option.some.inj running).symm)
      · exact Or.inr kept
  · intro slot running
    simp [ClientsState.copyOut, ClientPc.slot] at running
  · intro other dspBufMeta copying
    simp [ClientsState.copyOut] at copying
  · rw [holds, Function.update_self]
    exact fun offset member => (Finset.mem_insert.mp member).elim
      (fun same => ⟨found, same.symm⟩) (separate.slots client offset)

theorem Separate.rollback {state : ClientsState Client} (separate : Separate state)
    {client : Client} {found : Fin dspBufferMaxNum} (failing : state.pc client = .failing found) :
    Separate (state.rollback client found) := by
  have fresh := separate.running client found (by rw [failing]; rfl)
  have claimed : found ∈ state.claims client := Or.inl (by rw [failing]; rfl)
  refine separate.moves
    ⟨fun own different => Function.update_of_ne different _ _, fun _ _ => rfl⟩
    (separate.placed.clearSlot found)
    ((congrArg _ (marked_clearSlot state.pool found)).trans (Finset.coe_erase _ _)) ?_
    (separate.owned.release claimed) ?_ ?_ (separate.slots client)
  · ext slot
    constructor
    · rintro (running | holds)
      · simp [ClientsState.rollback, ClientPc.slot] at running
      · exact ⟨Or.inr holds, fun same => fresh (same ▸ holds)⟩
    · rintro ⟨running | holds, different⟩
      · rw [failing] at running
        exact absurd (Option.some.inj running).symm different
      · exact Or.inr holds
  · intro slot running
    simp [ClientsState.rollback, ClientPc.slot] at running
  · intro other dspBufMeta copying
    simp [ClientsState.rollback] at copying

omit [DecidableEq Client] in
theorem freeBuf_eq {state : ClientsState Client} {client : Client}
    {dspBufMeta : DxrtDspBufferMetadata} {found : Fin dspBufferMaxNum}
    (finds : freeFind state.pool dspBufMeta.dspBufOffset = some found) :
    state.freeBuf client dspBufMeta =
      { state with
        pool := clearSlot state.pool found
        log := state.log ++ [.freed client dspBufMeta.dspBufOffset] } := by
  rw [ClientsState.freeBuf, dxrtFreeBuf, freeNamed, finds]
  rfl

/-- A free of a held offset finds its slot. -/
theorem Separate.freeFind_of_held {state : ClientsState Client} (separate : Separate state)
    {client : Client} {offset : UInt32} (holds : offset ∈ held state.log client) :
    ∃ found, freeFind state.pool offset = some found := by
  obtain ⟨found, rfl⟩ := separate.slots client offset holds
  have claimed : found ∈ state.claims client := Or.inr holds
  exact ⟨found, (freeFind_eq_some_iff separate.placed).mpr
    ⟨Finset.mem_coe.mp (separate.owned.inside client claimed), rfl⟩⟩

theorem Separate.freeBuf {state : ClientsState Client} (separate : Separate state)
    {client : Client} {dspBufMeta : DxrtDspBufferMetadata} (idle : state.pc client = .idle)
    (holds : dspBufMeta.dspBufOffset ∈ held state.log client) :
    Separate (state.freeBuf client dspBufMeta) := by
  obtain ⟨found, finds⟩ := separate.freeFind_of_held holds
  have offset := ((freeFind_eq_some_iff separate.placed).mp finds).2
  have claimed : found ∈ state.claims client := Or.inr (offset ▸ holds)
  have left : held (state.log ++ [.freed client (slotOffset found)]) =
      Function.update (held state.log) client ((held state.log client).erase (slotOffset found)) :=
    held_freed state.log client (slotOffset found)
  rw [freeBuf_eq finds, ← offset]
  refine separate.moves
    ⟨fun _ _ => rfl, fun own different => ?_⟩
    (separate.placed.clearSlot found)
    ((congrArg _ (marked_clearSlot state.pool found)).trans (Finset.coe_erase _ _)) ?_
    (separate.owned.release claimed) ?_ ?_ ?_
  · rw [left, Function.update_of_ne different]
  · ext slot
    simp [claims, left, idle, ClientPc.slot, slotOffset_injective.eq_iff, and_comm]
  · intro slot running
    rw [idle] at running
    cases running
  · exact separate.reported client
  · rw [left, Function.update_self]
    exact fun offset member => separate.slots client offset (Finset.mem_of_mem_erase member)

omit [DecidableEq Client] in
/-- A transfer of a client passes the checks and copies, or leaves everything as it is. -/
theorem writeMem_eq (state : ClientsState Client) (client : Client) (meminfo : DxrtReqMeminfo)
    (bytes : Nat → UInt8) :
    state.writeMem client meminfo bytes = state ∨
      state.writeMem client meminfo bytes =
        { state with
          dx := copyToBuffer state.dx meminfo bytes
          log := state.log ++ [.wrote client meminfo bytes] } := by
  rw [ClientsState.writeMem]
  by_cases passes : Passes state.dx meminfo
  · right
    rw [dxrtWriteMem_passes passes]
    rfl
  · left
    rw [dxrtWriteMem_refused passes]
    rfl

theorem Separate.writeMem {state : ClientsState Client} (separate : Separate state)
    (client : Client) (meminfo : DxrtReqMeminfo) (bytes : Nat → UInt8) :
    Separate (state.writeMem client meminfo bytes) := by
  rcases writeMem_eq state client meminfo bytes with refused | copied
  · rw [refused]
    exact separate
  · rw [copied]
    exact separate.of_held rfl rfl (held_wrote ..)

/-! ### What the buffer holds -/

/-- The bytes of a held buffer that its client has written hold what it wrote last. -/
def BytesKept (state : ClientsState Client) : Prop :=
  ∀ client, ∀ offset ∈ held state.log client, ∀ address ∈ bufferBytes offset, ∀ value,
    lastWritten state.log client address = some value → state.dx.dsp.dmaBuf address = value

/-- No two clients hold buffers that share a byte. -/
theorem Separate.disjoint {state : ClientsState Client} (separate : Separate state)
    {first second : Client} (different : first ≠ second) {firstOffset secondOffset : UInt32}
    (firstHolds : firstOffset ∈ held state.log first)
    (secondHolds : secondOffset ∈ held state.log second) :
    Disjoint (bufferBytes firstOffset) (bufferBytes secondOffset) := by
  obtain ⟨slot, rfl⟩ := separate.slots first firstOffset firstHolds
  obtain ⟨other, rfl⟩ := separate.slots second secondOffset secondHolds
  rw [bufferBytes_slotOffset, bufferBytes_slotOffset]
  refine cell_disjoint fun same => different ?_
  cases Fin.ext same
  exact separate.owned.client_unique (Or.inr firstHolds) (Or.inr secondHolds)

theorem BytesKept.obtained {state : ClientsState Client} (kept : BytesKept state)
    (client : Client) (offset : UInt32) {next : ClientsState Client}
    (dmaBuf : next.dx.dsp.dmaBuf = state.dx.dsp.dmaBuf)
    (log : next.log = state.log ++ [.obtained client offset]) : BytesKept next := by
  intro own other member address inside value written
  rw [log, lastWritten_append] at written
  rw [log, held_append] at member
  rw [dmaBuf]
  dsimp only at written member
  split at written
  · cases written
  · next outside =>
    refine kept own other ?_ address inside value written
    split at member
    · next same =>
      rcases Finset.mem_insert.mp member with rfl | before
      · exact absurd ⟨same, inside⟩ outside
      · exact before
    · exact member

theorem BytesKept.freed {state : ClientsState Client} (kept : BytesKept state)
    (client : Client) (offset : UInt32) {next : ClientsState Client}
    (dmaBuf : next.dx.dsp.dmaBuf = state.dx.dsp.dmaBuf)
    (log : next.log = state.log ++ [.freed client offset]) : BytesKept next := by
  intro own other member address inside value written
  rw [log, lastWritten_append] at written
  rw [log, held_append] at member
  rw [dmaBuf]
  refine kept own other ?_ address inside value written
  dsimp only at member
  split at member
  · exact Finset.mem_of_mem_erase member
  · exact member

/-- A write inside a buffer of its client reaches no byte of another client's buffer. -/
theorem BytesKept.wrote {state : ClientsState Client} (kept : BytesKept state)
    (separate : Separate state) {client : Client} {meminfo : DxrtReqMeminfo}
    (inHeld : InHeld state.log client meminfo) (bytes : Nat → UInt8) :
    BytesKept
      { state with
        dx := copyToBuffer state.dx meminfo bytes
        log := state.log ++ [.wrote client meminfo bytes] } := by
  intro own other member address inside value written
  obtain ⟨_, around, holds, low, high⟩ := inHeld
  rw [held_wrote] at member
  rw [lastWritten_append] at written
  show state.dx.dsp.dmaBuf.store _ _ bytes address = value
  rw [ByteMemory.store]
  dsimp only at written
  by_cases range : meminfo.offset.toNat ≤ address ∧
      address < meminfo.offset.toNat + meminfo.size.toNat
  · rw [if_pos range]
    have same : client = own := by
      by_contra different
      refine Set.disjoint_left.mp (separate.disjoint different holds member) ?_ inside
      exact ⟨low.trans range.1, range.2.trans_le high⟩
    rw [if_pos ⟨same, range⟩] at written
    exact Option.some.inj written
  · rw [if_neg range]
    rw [if_neg fun both => range both.2] at written
    exact kept own other member address inside value written

theorem BytesKept.of_same {state next : ClientsState Client} (kept : BytesKept state)
    (dmaBuf : next.dx.dsp.dmaBuf = state.dx.dsp.dmaBuf) (holds : held next.log = held state.log)
    (written : lastWritten next.log = lastWritten state.log) : BytesKept next := by
  unfold BytesKept
  rw [dmaBuf, holds, written]
  exact kept

/-! ### The window -/

/-- Once the device is identified, its window is the region of the DSP, and the DMA buffer holds
every buffer of the pool. -/
structure Window (state : ClientsState Client) : Prop where
  identified : .identified ∈ state.log →
    state.dx.memAddr = state.dx.dsp.regDspBasePhyAddrDram.toUInt64 ∧
      state.dx.memSize = dspDramSize
  size : dspBufferMaxNum * dspBufferUnitSize.toNat ≤ state.dx.dsp.dmaBufSize.toNat

omit [DecidableEq Client] in
theorem Window.of_dx {state next : ClientsState Client} (window : Window state)
    (dx : next.dx = state.dx) (log : .identified ∈ next.log → .identified ∈ state.log) :
    Window next where
  identified member := by
    rw [dx]
    exact window.identified (log member)
  size := by
    rw [dx]
    exact window.size

omit [DecidableEq Client] in
theorem Window.writeMem {state : ClientsState Client} (window : Window state) (client : Client)
    (meminfo : DxrtReqMeminfo) (bytes : Nat → UInt8) :
    Window (state.writeMem client meminfo bytes) := by
  rcases writeMem_eq state client meminfo bytes with refused | copied
  · rw [refused]
    exact window
  · rw [copied]
    exact ⟨fun member => window.identified (by simpa using member), window.size⟩

/-- At the reported base the checks let every transfer inside a held buffer pass. -/
theorem passes_of_inHeld {state : ClientsState Client} (separate : Separate state)
    (window : Window state) (identified : .identified ∈ state.log) {client : Client}
    {meminfo : DxrtReqMeminfo} (inHeld : InHeld state.log client meminfo)
    (base : meminfo.base = state.dx.memAddr) : Passes state.dx meminfo := by
  obtain ⟨channel, offset, holds, low, high⟩ := inHeld
  obtain ⟨slot, rfl⟩ := separate.slots client offset holds
  obtain ⟨memAddr, memSize⟩ := window.identified identified
  refine ⟨channel, invalidAddress_eq_false_iff.mpr ?_⟩
  have bound : (slot : Nat) < 8 := slot.isLt
  have unit : dspBufferUnitSize.toNat = 25165824 := rfl
  have region : dspDramSize.toNat = 517996544 := rfl
  have dram : state.dx.dsp.regDspBasePhyAddrDram.toNat < 2 ^ 32 := UInt32.toNat_lt _
  rw [slotOffset_toNat, unit] at low high
  rw [base, memAddr, memSize, UInt32.toNat_toUInt64]
  omega

/-- A transfer inside a held buffer lies in the DMA buffer. -/
theorem fits_of_inHeld {state : ClientsState Client} (separate : Separate state)
    (window : Window state) {client : Client} {meminfo : DxrtReqMeminfo}
    (inHeld : InHeld state.log client meminfo) :
    meminfo.offset.toNat + meminfo.size.toNat ≤ state.dx.dsp.dmaBufSize.toNat := by
  obtain ⟨_, offset, holds, _, high⟩ := inHeld
  obtain ⟨slot, rfl⟩ := separate.slots client offset holds
  have bound : (slot : Nat) < 8 := slot.isLt
  have size := window.size
  have unit : dspBufferUnitSize.toNat = 25165824 := rfl
  have count : dspBufferMaxNum = 8 := rfl
  rw [count, unit] at size
  rw [slotOffset_toNat, unit] at high
  omega

/-! ### The invariant -/

/-- What every step of clients that keep to their own buffers keeps. -/
structure ClientsInvariant (state : ClientsState Client) : Prop where
  separate : Separate state
  kept : BytesKept state
  window : Window state

theorem clientsInvariant_initial (dsp : Dxdsp)
    (size : dspBufferMaxNum * dspBufferUnitSize.toNat ≤ dsp.dmaBufSize.toNat) :
    ClientsInvariant (initial dsp : ClientsState Client) where
  separate := separate_initial dsp
  kept _ _ member := by cases member
  window := ⟨fun member => absurd member List.not_mem_nil, size⟩

theorem ClientsInvariant.reserve {state : ClientsState Client} (invariant : ClientsInvariant state)
    {client : Client} (idle : state.pc client = .idle) :
    ClientsInvariant (state.reserve client) := by
  have same : (state.reserve client).dx = state.dx ∧ (state.reserve client).log = state.log := by
    rw [ClientsState.reserve]
    cases allocReserve state.pool <;> exact ⟨rfl, rfl⟩
  refine ⟨invariant.separate.reserve idle, ?_, ?_⟩
  · exact invariant.kept.of_same (by rw [same.1]) (by rw [same.2]) (by rw [same.2])
  · exact invariant.window.of_dx same.1 (by rw [same.2]; exact id)

theorem ClientsInvariant.copyOut {state : ClientsState Client} (invariant : ClientsInvariant state)
    {client : Client} {found : Fin dspBufferMaxNum} {dspBufMeta : DxrtDspBufferMetadata}
    (copying : state.pc client = .copying found dspBufMeta) (fault : Bool) :
    ClientsInvariant (state.copyOut client found dspBufMeta fault) where
  separate := by
    cases fault with
    | true => exact invariant.separate.faulted copying
    | false => exact invariant.separate.copied copying
  kept := by
    cases fault with
    | true => exact invariant.kept.of_same rfl rfl rfl
    | false => exact invariant.kept.obtained client dspBufMeta.dspBufOffset rfl rfl
  window := by
    cases fault with
    | true => exact invariant.window.of_dx rfl id
    | false => exact invariant.window.of_dx rfl (by simp [ClientsState.copyOut])

theorem ClientsInvariant.freeBuf {state : ClientsState Client} (invariant : ClientsInvariant state)
    {client : Client} {dspBufMeta : DxrtDspBufferMetadata} (idle : state.pc client = .idle)
    (holds : dspBufMeta.dspBufOffset ∈ held state.log client) :
    ClientsInvariant (state.freeBuf client dspBufMeta) := by
  obtain ⟨found, finds⟩ := invariant.separate.freeFind_of_held holds
  have separate := invariant.separate.freeBuf idle holds
  rw [freeBuf_eq finds] at separate ⊢
  exact ⟨separate, invariant.kept.freed client _ rfl rfl, invariant.window.of_dx rfl (by simp)⟩

theorem ClientsInvariant.writeMem {state : ClientsState Client}
    (invariant : ClientsInvariant state) {client : Client} {meminfo : DxrtReqMeminfo}
    (inHeld : InHeld state.log client meminfo) (bytes : Nat → UInt8) :
    ClientsInvariant (state.writeMem client meminfo bytes) where
  separate := invariant.separate.writeMem client meminfo bytes
  kept := by
    rcases writeMem_eq state client meminfo bytes with refused | copied
    · rw [refused]
      exact invariant.kept
    · rw [copied]
      exact invariant.kept.wrote invariant.separate inHeld bytes
  window := invariant.window.writeMem client meminfo bytes

theorem ClientsInvariant.step {state next : ClientsState Client} {action : ClientAction Client}
    (invariant : ClientsInvariant state) (own : OwnBuffers state action)
    (stepped : state.step action = some next) : ClientsInvariant next := by
  cases action with
  | identify =>
    cases stepped
    refine ⟨invariant.separate.of_held rfl rfl (held_identified _), ?_, ?_⟩
    · refine invariant.kept.of_same rfl (held_identified _) ?_
      funext client address
      exact lastWritten_append ..
    · exact ⟨fun _ => ⟨rfl, rfl⟩, invariant.window.size⟩
  | reserve client =>
    rw [ClientsState.step] at stepped
    split at stepped
    · next idle =>
      cases stepped
      exact invariant.reserve idle
    · cases stepped
  | copyOut client fault =>
    rw [ClientsState.step] at stepped
    split at stepped
    · next found dspBufMeta copying =>
      cases stepped
      exact invariant.copyOut copying fault
    · cases stepped
  | rollback client =>
    rw [ClientsState.step] at stepped
    split at stepped
    · next found failing =>
      cases stepped
      exact ⟨invariant.separate.rollback failing, invariant.kept.of_same rfl rfl rfl,
        invariant.window.of_dx rfl id⟩
    · cases stepped
  | freeBuf client dspBufMeta =>
    rw [ClientsState.step] at stepped
    split at stepped
    · next idle =>
      cases stepped
      exact invariant.freeBuf idle own
    · cases stepped
  | writeMem client meminfo bytes =>
    rw [ClientsState.step] at stepped
    split at stepped
    · cases stepped
      exact invariant.writeMem own bytes
    · cases stepped
  | readMem client meminfo =>
    rw [ClientsState.step] at stepped
    split at stepped
    · cases stepped
      exact invariant
    · cases stepped

theorem ClientsInvariant.of_reaches {state : ClientsState Client}
    (reached : (clients Client).Reaches OwnBuffers state) : ClientsInvariant state := by
  refine reached.invariant ?_ fun _ _ _ invariant own stepped => invariant.step own stepped
  rintro _ ⟨dsp, size, rfl⟩
  exact clientsInvariant_initial dsp size

end ClientsState

/-! ### Isolation -/

/-- What a client can rely on in a state, whatever the others have done. -/
structure Isolated (state : ClientsState Client) : Prop where
  /-- No two clients hold buffers that share a byte. -/
  disjoint : ∀ first second, first ≠ second → ∀ firstOffset ∈ held state.log first,
    ∀ secondOffset ∈ held state.log second,
      Disjoint (bufferBytes firstOffset) (bufferBytes secondOffset)
  /-- At the reported base every transfer inside a held buffer is accepted. -/
  accepted : .identified ∈ state.log → ∀ client meminfo, InHeld state.log client meminfo →
    meminfo.base = state.dx.memAddr →
      (∀ bytes, (dxrtWriteMem state.dx (.holds meminfo) { bytes }).2 =
          { ret := 0, copied := some meminfo }) ∧
        (dxrtReadMem state.dx (.holds meminfo) {}).1 = { ret := 0, copied := some meminfo }
  /-- A transfer inside a held buffer stays in the DMA buffer. -/
  inside : ∀ client meminfo, InHeld state.log client meminfo →
    meminfo.offset.toNat + meminfo.size.toNat ≤ state.dx.dsp.dmaBufSize.toNat
  /-- A read that is accepted returns every byte the client has written since it obtained the
  buffer. -/
  reads : ∀ client meminfo, InHeld state.log client meminfo →
    (dxrtReadMem state.dx (.holds meminfo) {}).1.ret = 0 →
      ∀ index < meminfo.size.toNat, ∀ value,
        lastWritten state.log client (meminfo.offset.toNat + index) = some value →
          (dxrtReadMem state.dx (.holds meminfo) {}).2 index = value

theorem ClientsState.ClientsInvariant.isolated {state : ClientsState Client}
    (invariant : ClientsInvariant state) : Isolated state where
  disjoint _ _ different _ firstHolds _ secondHolds :=
    invariant.separate.disjoint different firstHolds secondHolds
  accepted identified client meminfo inHeld base := by
    have passes := passes_of_inHeld invariant.separate invariant.window identified inHeld base
    refine ⟨fun bytes => ?_, ?_⟩
    · rw [dxrtWriteMem_passes passes]
    · rw [dxrtReadMem_passes passes]
  inside _ _ inHeld := fits_of_inHeld invariant.separate invariant.window inHeld
  reads client meminfo inHeld accepted index inRange value written := by
    obtain ⟨_, offset, holds, low, high⟩ := inHeld
    have passes : Passes state.dx meminfo := by
      by_contra refused
      rw [dxrtReadMem, transferCheck_of_not_passes refused] at accepted
      cases accepted
    rw [dxrtReadMem_passes passes]
    exact invariant.kept client offset holds _ ⟨by omega, by omega⟩ value written

/-- In every run of clients that keep to their own buffers, they are isolated. -/
theorem clients_isolated {state : ClientsState Client}
    (reached : (clients Client).Reaches ClientsState.OwnBuffers state) : Isolated state :=
  (ClientsState.ClientsInvariant.of_reaches reached).isolated

/-- One byte at an offset of the board's region. -/
def byteAt (offset : UInt32) : DxrtReqMeminfo :=
  ⟨0, boardDsp.regDspBasePhyAddrDram.toUInt64, offset, 1, 0⟩

/-- Two clients, each with a buffer of its own, the second one's after a rollback. -/
def twoClients : List (ClientAction (Fin 2)) :=
  [.identify, .reserve 0, .reserve 1, .copyOut 0 false, .copyOut 1 true, .rollback 1, .reserve 1,
    .copyOut 1 false, .writeMem 0 (byteAt 0) fun _ => 5,
    .writeMem 1 (byteAt dspBufferUnitSize) fun _ => 7, .readMem 0 (byteAt 0)]

/-- The client holds the buffer, and at the reported base a read of its first byte is accepted and
returns what the client wrote there. -/
def ClientsState.ReadsBack (state : ClientsState (Fin 2)) (client : Fin 2) (offset : UInt32)
    (value : UInt8) : Prop :=
  offset ∈ held state.log client ∧ (byteAt offset).base = state.dx.memAddr ∧
    (dxrtReadMem state.dx (.holds (byteAt offset)) {}).1 =
      { ret := 0, copied := some (byteAt offset) } ∧
    (dxrtReadMem state.dx (.holds (byteAt offset)) {}).2 0 = value

theorem Isolated.readsBack {state : ClientsState (Fin 2)} (isolated : Isolated state)
    (identified : .identified ∈ state.log) {client : Fin 2} {offset : UInt32} {value : UInt8}
    (base : (byteAt offset).base = state.dx.memAddr) (holds : held state.log client = {offset})
    (written : lastWritten state.log client offset.toNat = some value) :
    state.ReadsBack client offset value := by
  have member : offset ∈ held state.log client := holds ▸ Finset.mem_singleton_self offset
  have unit : dspBufferUnitSize.toNat = 25165824 := rfl
  have channel : (byteAt offset).ch = 0 := rfl
  have size : (byteAt offset).size.toNat = 1 := rfl
  have inHeld : InHeld state.log client (byteAt offset) := by
    refine ⟨by rw [channel]; decide, offset, member, le_rfl, Nat.add_le_add_left ?_ _⟩
    omega
  have accepted := (isolated.accepted identified client _ inHeld base).2
  have read := isolated.reads client _ inHeld (by rw [accepted])
  exact ⟨member, base, accepted, read 0 (by omega) value written⟩

theorem clients_isolated_two :
    ∃ state, (clients (Fin 2)).Reaches ClientsState.OwnBuffers state ∧ .identified ∈ state.log ∧
      state.ReadsBack 0 0 5 ∧ state.ReadsBack 1 dspBufferUnitSize 7 ∧ Isolated state := by
  have ran : ((clients (Fin 2)).run ClientsState.OwnBuffers (.initial boardDsp) twoClients).map
      (fun state => (state.dx.memAddr, held state.log 0, held state.log 1,
        lastWritten state.log 0 0, lastWritten state.log 1 dspBufferUnitSize.toNat)) =
      some (boardDsp.regDspBasePhyAddrDram.toUInt64, {0}, {dspBufferUnitSize}, some 5, some 7) := by
    decide +kernel
  obtain ⟨state, final, seen⟩ := Option.map_eq_some_iff.mp ran
  have first : ((clients (Fin 2)).run ClientsState.OwnBuffers (.initial boardDsp) twoClients).bind
      (fun state => state.log.head?) = some .identified := rfl
  rw [final] at first
  have identified : .identified ∈ state.log := List.mem_of_head? first
  have begins : (clients (Fin 2)).Reaches ClientsState.OwnBuffers (.initial boardDsp) :=
    .start ⟨boardDsp, by decide, rfl⟩
  have reached := begins.of_run twoClients final
  have isolated := clients_isolated reached
  simp only [Prod.mk.injEq] at seen
  obtain ⟨base, holds, otherHolds, written, otherWritten⟩ := seen
  exact ⟨state, reached, identified, isolated.readsBack identified base.symm holds written,
    isolated.readsBack identified base.symm otherHolds otherWritten, isolated⟩

end DxDsp
