/-
This file compares the transfers with two memories: one indexed by the offset
into the DMA buffer, which the handlers implement outright, and one indexed by
the device address the handlers validate. A sequence of requests implements the
latter whatever its writes carry exactly where the last write that touches a
byte of a read, by its address or by its offset, names the read's base.
-/

import DxDsp.Transfer

namespace DxDsp

open Library

/-! ### Sequences of transfers -/

/-- What a transfer asks for. -/
inductive TransferRequest
  | write (meminfo : DxrtReqMeminfo)
  | read (meminfo : DxrtReqMeminfo)

def TransferRequest.meminfo : TransferRequest → DxrtReqMeminfo
  | .write meminfo => meminfo
  | .read meminfo => meminfo

/-- A transfer whose user copy succeeds; a write carries its bytes. -/
inductive TransferCall
  | write (meminfo : DxrtReqMeminfo) (bytes : Nat → UInt8)
  | read (meminfo : DxrtReqMeminfo)

def TransferCall.request : TransferCall → TransferRequest
  | .write meminfo _ => .write meminfo
  | .read meminfo => .read meminfo

/-- The device after one transfer. -/
def transferStep (dx : Dxdev) : TransferCall → Dxdev
  | .write meminfo bytes => (dxrtWriteMem dx (.holds meminfo) { bytes }).1
  | .read _ => dx

/-- The device after a sequence of transfers. -/
def afterTransfers (dx : Dxdev) (calls : List TransferCall) : Dxdev := calls.foldl transferStep dx

/-- The writes of a sequence: the request and the bytes it carried. -/
def writesOf (calls : List TransferCall) : List (DxrtReqMeminfo × (Nat → UInt8)) :=
  calls.filterMap fun
    | .write meminfo bytes => some (meminfo, bytes)
    | .read _ => none

/-- The write requests of a sequence. -/
def writtenBy (requests : List TransferRequest) : List DxrtReqMeminfo :=
  requests.filterMap fun
    | .write meminfo => some meminfo
    | .read _ => none

/-- The device address of a request, in exact integers. -/
def DxrtReqMeminfo.address (meminfo : DxrtReqMeminfo) : Nat :=
  meminfo.base.toNat + meminfo.offset.toNat

/-- The device addresses of a request. -/
abbrev DxrtReqMeminfo.addresses (meminfo : DxrtReqMeminfo) : Set Nat :=
  Set.Ico meminfo.address (meminfo.address + meminfo.size.toNat)

/-- The offsets of a request into the DMA buffer. -/
abbrev DxrtReqMeminfo.offsets (meminfo : DxrtReqMeminfo) : Set Nat :=
  Set.Ico meminfo.offset.toNat (meminfo.offset.toNat + meminfo.size.toNat)

/-- What a write puts at a device address. -/
def coversAddress (write : DxrtReqMeminfo × (Nat → UInt8)) (address : Nat) : Option UInt8 :=
  if address ∈ write.1.addresses then some (write.2 (address - write.1.address)) else none

/-- What a write puts at an offset into the DMA buffer. -/
def coversOffset (write : DxrtReqMeminfo × (Nat → UInt8)) (offset : Nat) : Option UInt8 :=
  if offset ∈ write.1.offsets then some (write.2 (offset - write.1.offset.toNat)) else none

/-! ### One memory indexed by the offset -/

theorem Passes.of_window {dx other : Dxdev} {meminfo : DxrtReqMeminfo}
    (memAddr : other.memAddr = dx.memAddr) (memSize : other.memSize = dx.memSize)
    (passes : Passes dx meminfo) : Passes other meminfo := by
  refine ⟨passes.1, ?_⟩
  rw [invalidAddress, memAddr, memSize]
  exact passes.2

theorem afterTransfers_append (dx : Dxdev) (calls : List TransferCall) (call : TransferCall) :
    afterTransfers dx (calls ++ [call]) = transferStep (afterTransfers dx calls) call := by
  rw [afterTransfers, List.foldl_append]
  rfl

/-- A transfer moves no window. -/
theorem afterTransfers_window (dx : Dxdev) (calls : List TransferCall) :
    (afterTransfers dx calls).memAddr = dx.memAddr ∧
      (afterTransfers dx calls).memSize = dx.memSize := by
  induction calls using List.reverseRec with
  | nil => exact ⟨rfl, rfl⟩
  | append_singleton calls call inductionHypothesis =>
    rw [afterTransfers_append]
    cases call with
    | read meminfo => exact inductionHypothesis
    | write meminfo bytes =>
      rw [transferStep, dxrtWriteMem]
      split
      · exact inductionHypothesis
      · exact inductionHypothesis

/-- After accepted transfers a byte of the buffer holds what the latest write covering its offset
put there. -/
theorem afterTransfers_dmaBuf (dx : Dxdev) (calls : List TransferCall)
    (accepted : ∀ call ∈ calls, Passes dx call.request.meminfo) (offset : Nat) :
    (afterTransfers dx calls).dsp.dmaBuf offset =
      (latest coversOffset (writesOf calls) offset).getD (dx.dsp.dmaBuf offset) := by
  induction calls using List.reverseRec with
  | nil => rfl
  | append_singleton calls call inductionHypothesis =>
    have before := inductionHypothesis fun other member =>
      accepted other (List.mem_append_left _ member)
    rw [afterTransfers_append]
    cases call with
    | read meminfo =>
      rw [writesOf, List.filterMap_append]
      simpa [transferStep, writesOf] using before
    | write meminfo bytes =>
      have window := afterTransfers_window dx calls
      have passes : Passes (afterTransfers dx calls) meminfo :=
        (accepted (.write meminfo bytes)
          (List.mem_append_right _ List.mem_cons_self)).of_window window.1 window.2
      rw [transferStep, dxrtWriteMem_passes passes, writesOf, List.filterMap_append]
      show ((afterTransfers dx calls).dsp.dmaBuf.store _ _ bytes) offset =
        (latest coversOffset (writesOf calls ++ [(meminfo, bytes)]) offset).getD _
      rw [latest_append, ByteMemory.store, coversOffset]
      by_cases covered : offset ∈ Set.Ico meminfo.offset.toNat
          (meminfo.offset.toNat + meminfo.size.toNat)
      · rw [if_pos covered, if_pos (Set.mem_Ico.mp covered)]
        rfl
      · rw [if_neg covered, if_neg (mt Set.mem_Ico.mpr covered), before]
        rfl

/-! ### One memory indexed by the device address -/

/-- The assumptions on a transfer: its checks pass, its sums do not wrap, its copy fits. -/
structure PlainTransfer (dx : Dxdev) (meminfo : DxrtReqMeminfo) : Prop where
  passes : Passes dx meminfo
  noWrap : meminfo.address + meminfo.size.toNat < 2 ^ 64
  fits : meminfo.offset.toNat + meminfo.size.toNat ≤ dx.dsp.dmaBufSize.toNat

/-- A write touches the byte of a read at `index`, by its device address or by its offset. -/
def Touches (written meminfo : DxrtReqMeminfo) (index : Nat) : Prop :=
  meminfo.address + index ∈ written.addresses ∨ meminfo.offset.toNat + index ∈ written.offsets

/-- Every read returns for each byte what the latest write to its device address put there. -/
def ReadsLatest (dx : Dxdev) (calls : List TransferCall) : Prop :=
  ∀ earlier meminfo later, calls = earlier ++ .read meminfo :: later →
    (dxrtReadMem (afterTransfers dx earlier) (.holds meminfo) {}).1.ret = 0 ∧
      ∀ index < meminfo.size.toNat, ∀ value,
        latest coversAddress (writesOf earlier) (meminfo.address + index) = some value →
          (dxrtReadMem (afterTransfers dx earlier) (.holds meminfo) {}).2 index = value

/-- Where the device address of a byte of a read has been written, the last write that touches the
byte names the read's base. -/
def LastBaseAgrees (requests : List TransferRequest) : Prop :=
  ∀ earlier meminfo later, requests = earlier ++ .read meminfo :: later →
    ∀ index < meminfo.size.toNat,
      (∃ written ∈ writtenBy earlier, meminfo.address + index ∈ written.addresses) →
        ∀ front written between, earlier = front ++ .write written :: between →
          Touches written meminfo index →
            (∀ other ∈ writtenBy between, ¬ Touches other meminfo index) →
              written.base = meminfo.base

theorem writesOf_append (front later : List TransferCall) :
    writesOf (front ++ later) = writesOf front ++ writesOf later := List.filterMap_append

theorem writesOf_cons_write (written : DxrtReqMeminfo) (bytes : Nat → UInt8)
    (later : List TransferCall) :
    writesOf (.write written bytes :: later) = (written, bytes) :: writesOf later := rfl

theorem mem_writesOf {calls : List TransferCall} {write : DxrtReqMeminfo × (Nat → UInt8)} :
    write ∈ writesOf calls ↔ .write write.1 write.2 ∈ calls := by
  rw [writesOf, List.mem_filterMap]
  constructor
  · rintro ⟨call, member, put⟩
    cases call with
    | write meminfo bytes =>
      cases put
      exact member
    | read meminfo => cases put
  · exact fun member => ⟨_, member, rfl⟩

theorem writtenBy_request (calls : List TransferCall) :
    writtenBy (calls.map TransferCall.request) = (writesOf calls).map Prod.fst := by
  rw [writtenBy, writesOf, List.filterMap_map, List.map_filterMap]
  congr 1
  funext call
  cases call <;> rfl

/-- A write that does not touch the byte covers it neither way. -/
theorem covers_eq_none_of_not_touches {write : DxrtReqMeminfo × (Nat → UInt8)}
    {meminfo : DxrtReqMeminfo} {index : Nat} (untouched : ¬ Touches write.1 meminfo index) :
    coversAddress write (meminfo.address + index) = none ∧
      coversOffset write (meminfo.offset.toNat + index) = none := by
  rw [Touches, not_or] at untouched
  exact ⟨if_neg untouched.1, if_neg untouched.2⟩

/-- A write of the read's base covers a byte it touches both ways, with the same value. -/
theorem covers_eq_of_base {write : DxrtReqMeminfo × (Nat → UInt8)} {meminfo : DxrtReqMeminfo}
    {index : Nat} (base : write.1.base = meminfo.base) (touched : Touches write.1 meminfo index) :
    ∃ value, coversAddress write (meminfo.address + index) = some value ∧
      coversOffset write (meminfo.offset.toNat + index) = some value := by
  have same := congrArg UInt64.toNat base
  have both : meminfo.address + index ∈ write.1.addresses ∧
      meminfo.offset.toNat + index ∈ write.1.offsets := by
    simp only [Touches, DxrtReqMeminfo.address, Set.mem_Ico] at touched ⊢
    omega
  have byte : meminfo.address + index - write.1.address =
      meminfo.offset.toNat + index - write.1.offset.toNat := by
    simp only [DxrtReqMeminfo.address]
    omega
  refine ⟨_, if_pos both.1, ?_⟩
  rw [byte]
  exact if_pos both.2

/-- What a read returns, in terms of the writes before it. -/
theorem dxrtReadMem_afterTransfers {dx : Dxdev} {calls earlier later : List TransferCall}
    {meminfo : DxrtReqMeminfo} (plain : ∀ call ∈ calls, PlainTransfer dx call.request.meminfo)
    (position : calls = earlier ++ .read meminfo :: later) :
    dxrtReadMem (afterTransfers dx earlier) (.holds meminfo) {} =
      ({ ret := 0, copied := some meminfo }, fun index =>
        (latest coversOffset (writesOf earlier) (meminfo.offset.toNat + index)).getD
          (dx.dsp.dmaBuf (meminfo.offset.toNat + index))) := by
  have window := afterTransfers_window dx earlier
  have accepted : ∀ call ∈ earlier, Passes dx call.request.meminfo := fun call member =>
    (plain call (position ▸ List.mem_append_left _ member)).passes
  have passes : Passes (afterTransfers dx earlier) meminfo :=
    (plain (.read meminfo) (position ▸ List.mem_append_right _
      List.mem_cons_self)).passes.of_window window.1 window.2
  rw [dxrtReadMem_passes passes]
  simp only [afterTransfers_dmaBuf dx earlier accepted]

/-- Where the last write that touches a byte names the read's base, the read returns it. -/
theorem readsLatest_of_lastBaseAgrees {dx : Dxdev} {calls : List TransferCall}
    (plain : ∀ call ∈ calls, PlainTransfer dx call.request.meminfo)
    (agrees : LastBaseAgrees (calls.map TransferCall.request)) : ReadsLatest dx calls := by
  intro earlier meminfo later position
  rw [dxrtReadMem_afterTransfers plain position]
  refine ⟨rfl, fun index inside value written => ?_⟩
  -- some write covers the byte's address, so there is a last write that touches the byte
  obtain ⟨write, member, covered⟩ : ∃ write ∈ writesOf earlier,
      meminfo.address + index ∈ write.1.addresses := by
    by_contra uncovered
    push Not at uncovered
    have nothing : latest coversAddress (writesOf earlier) (meminfo.address + index) = none :=
      latest_eq_none_iff.mpr fun write member => if_neg (uncovered write member)
    rw [nothing] at written
    cases written
  obtain ⟨front, last, between, split, ⟨request, bytes, rfl, touched⟩, untouched⟩ :=
    exists_last (fun call => ∃ request bytes,
        call = TransferCall.write request bytes ∧ Touches request meminfo index)
      ⟨_, mem_writesOf.mp member, write.1, write.2, rfl, Or.inl covered⟩
  have behind : ∀ other ∈ writesOf between, ¬ Touches other.1 meminfo index :=
    fun other member touches => untouched _ (mem_writesOf.mp member) ⟨_, _, rfl, touches⟩
  have base : request.base = meminfo.base := by
    refine agrees (earlier.map TransferCall.request) meminfo (later.map TransferCall.request) ?_
      index inside ?_ (front.map TransferCall.request) request (between.map TransferCall.request)
      ?_ touched ?_
    · rw [position, List.map_append, List.map_cons]
      rfl
    · rw [writtenBy_request]
      exact ⟨write.1, List.mem_map_of_mem member, covered⟩
    · rw [split, List.map_append, List.map_cons]
      rfl
    · rw [writtenBy_request]
      exact List.forall_mem_map.mpr behind
  obtain ⟨put, byAddress, byOffset⟩ := @covers_eq_of_base (request, bytes) _ _ base touched
  rw [split, writesOf_append, writesOf_cons_write, latest_of_uncovered fun other member =>
    (covers_eq_none_of_not_touches (behind other member)).1, byAddress] at written
  show (latest coversOffset (writesOf earlier) (meminfo.offset.toNat + index)).getD _ = value
  rw [split, writesOf_append, writesOf_cons_write, latest_of_uncovered fun other member =>
    (covers_eq_none_of_not_touches (behind other member)).2, byOffset]
  exact Option.some.inj written

/-! ### The condition is exact -/

/-- The transfer of a request, a write carrying one value. -/
def TransferRequest.filled (value : UInt8) : TransferRequest → TransferCall
  | .write meminfo => .write meminfo fun _ => value
  | .read meminfo => .read meminfo

@[simp] theorem TransferRequest.request_filled (value : UInt8) (request : TransferRequest) :
    (request.filled value).request = request := by
  cases request <;> rfl

theorem map_request_filled (value : UInt8) (requests : List TransferRequest) :
    (requests.map (TransferRequest.filled value)).map TransferCall.request = requests := by
  simp [Function.comp_def]

theorem writesOf_filled (value : UInt8) (requests : List TransferRequest) :
    writesOf (requests.map (TransferRequest.filled value)) =
      (writtenBy requests).map fun meminfo => (meminfo, fun _ => value) := by
  rw [writtenBy, writesOf, List.filterMap_map, List.map_filterMap]
  congr 1
  funext request
  cases request <;> rfl

/-- Writes that carry one value leave it wherever they leave anything. -/
theorem eq_of_latest_filled {value held : UInt8} {requests : List TransferRequest} {key : Nat}
    (holds : latest coversAddress (writesOf (requests.map (TransferRequest.filled value))) key =
        some held ∨
      latest coversOffset (writesOf (requests.map (TransferRequest.filled value))) key =
        some held) : held = value := by
  rw [writesOf_filled] at holds
  rcases holds with holds | holds
  · refine eq_of_latest (List.forall_mem_map.mpr fun meminfo _ put covered => ?_) holds
    rw [coversAddress] at covered
    split at covered
    · exact (Option.some.inj covered).symm
    · cases covered
  · refine eq_of_latest (List.forall_mem_map.mpr fun meminfo _ put covered => ?_) holds
    rw [coversOffset] at covered
    split at covered
    · exact (Option.some.inj covered).symm
    · cases covered

/-- Bytes that differ at one device address only. -/
def singledOut (written meminfo : DxrtReqMeminfo) (index : Nat) (byte : UInt8) : Nat → UInt8 :=
  fun place => if written.address + place = meminfo.address + index then byte + 1 else byte

theorem coversAddress_singledOut {written meminfo : DxrtReqMeminfo} {index : Nat} {byte : UInt8}
    (covered : meminfo.address + index ∈ written.addresses) :
    coversAddress (written, singledOut written meminfo index byte) (meminfo.address + index) =
      some (byte + 1) := by
  rw [coversAddress, if_pos covered]
  exact congrArg some (if_pos (Nat.add_sub_of_le covered.1))

/-- With another base, the byte of the read's offset is not the one that differs. -/
theorem eq_of_coversOffset_singledOut {written meminfo : DxrtReqMeminfo} {index : Nat}
    {byte put : UInt8} (bases : written.base.toNat ≠ meminfo.base.toNat)
    (covered : coversOffset (written, singledOut written meminfo index byte)
      (meminfo.offset.toNat + index) = some put) : put = byte := by
  rw [coversOffset] at covered
  split at covered
  · next inside =>
    have low : written.offset.toNat ≤ meminfo.offset.toNat + index := inside.1
    have apart : written.address + (meminfo.offset.toNat + index - written.offset.toNat) ≠
        meminfo.address + index := by
      simp only [DxrtReqMeminfo.address]
      omega
    rw [← Option.some.inj covered]
    exact if_neg apart
  · cases covered

theorem getD_eq_of_forall {held : Option UInt8} {byte : UInt8}
    (same : ∀ value, held = some value → value = byte) : held.getD byte = byte := by
  cases held with
  | none => rfl
  | some value => exact same value rfl

/-- The sequence with `bytes` in its last write that touches the byte, and one value in all
others. -/
theorem read_probe {dx : Dxdev} {front between later : List TransferRequest}
    {written meminfo : DxrtReqMeminfo} {index : Nat}
    (plain : ∀ request ∈ front ++ .write written :: between ++ .read meminfo :: later,
      PlainTransfer dx request.meminfo)
    (reads : ∀ calls, calls.map TransferCall.request =
      front ++ .write written :: between ++ .read meminfo :: later → ReadsLatest dx calls)
    (inside : index < meminfo.size.toNat)
    (untouched : ∀ other ∈ writtenBy between, ¬ Touches other meminfo index) (filling : UInt8)
    (bytes : Nat → UInt8) {value : UInt8}
    (byAddress : (coversAddress (written, bytes) (meminfo.address + index)).or
      (latest coversAddress (writesOf (front.map (TransferRequest.filled filling)))
        (meminfo.address + index)) = some value) :
    ((coversOffset (written, bytes) (meminfo.offset.toNat + index)).or
      (latest coversOffset (writesOf (front.map (TransferRequest.filled filling)))
        (meminfo.offset.toNat + index))).getD (dx.dsp.dmaBuf (meminfo.offset.toNat + index)) =
      value := by
  have requests : ((front.map (TransferRequest.filled filling) ++ .write written bytes ::
      between.map (TransferRequest.filled filling)) ++ .read meminfo ::
        later.map (TransferRequest.filled filling)).map TransferCall.request =
      front ++ .write written :: between ++ .read meminfo :: later := by
    simp only [List.map_append, List.map_cons, map_request_filled]
    rfl
  have behind : ∀ other ∈ writesOf (between.map (TransferRequest.filled filling)),
      ¬ Touches other.1 meminfo index := by
    rw [writesOf_filled]
    exact List.forall_mem_map.mpr untouched
  have plainCalls := plain
  rw [← requests, List.forall_mem_map] at plainCalls
  have returned := (reads _ requests _ meminfo _ rfl).2 index inside value
  rw [dxrtReadMem_afterTransfers plainCalls rfl, writesOf_append, writesOf_cons_write,
    latest_of_uncovered fun other member =>
      (covers_eq_none_of_not_touches (behind other member)).1] at returned
  have read := returned byAddress
  dsimp only at read
  rwa [latest_of_uncovered fun other member =>
    (covers_eq_none_of_not_touches (behind other member)).2] at read

/-- Where reads return the latest write by address whatever the bytes are, the bases agree. -/
theorem lastBaseAgrees_of_readsLatest {dx : Dxdev} {requests : List TransferRequest}
    (plain : ∀ request ∈ requests, PlainTransfer dx request.meminfo)
    (reads : ∀ calls, calls.map TransferCall.request = requests → ReadsLatest dx calls) :
    LastBaseAgrees requests := by
  rintro _ meminfo later rfl index inside ⟨write, member, covered⟩ front written between rfl
    touched untouched
  by_contra different
  have bases : written.base.toNat ≠ meminfo.base.toNat := fun same =>
    different (UInt64.toNat_inj.mp same)
  obtain ⟨byte, initially⟩ : ∃ byte, dx.dsp.dmaBuf (meminfo.offset.toNat + index) = byte :=
    ⟨_, rfl⟩
  have changed : byte ≠ byte + 1 := by simp
  have probe := read_probe plain reads inside untouched byte
  rw [initially] at probe
  by_cases byAddress : meminfo.address + index ∈ written.addresses
  · -- the one byte of the last write that differs is not the one the read takes
    have read := probe (singledOut written meminfo index byte) (by
      rw [coversAddress_singledOut byAddress]
      rfl)
    refine changed ((getD_eq_of_forall fun held holds => ?_).symm.trans read)
    rcases Option.or_eq_some_iff.mp holds with put | ⟨_, before⟩
    · exact eq_of_coversOffset_singledOut bases put
    · exact eq_of_latest_filled (Or.inr before)
  · -- the last write lands on the byte by its offset only
    have byOffset := touched.resolve_left byAddress
    have before : ∃ held, latest coversAddress
        (writesOf (front.map (TransferRequest.filled byte))) (meminfo.address + index) =
          some held := by
      refine Option.ne_none_iff_exists'.mp fun nothing => ?_
      rw [writtenBy, List.filterMap_append, List.mem_append] at member
      rcases member with earlier | last
      · have uncovered := latest_eq_none_iff.mp nothing (write, fun _ => byte) (by
          rw [writesOf_filled]
          exact List.mem_map_of_mem earlier)
        rw [coversAddress, if_pos covered] at uncovered
        cases uncovered
      · rcases List.mem_cons.mp last with rfl | behind
        · exact byAddress covered
        · exact untouched write behind (Or.inl covered)
    obtain ⟨held, holds⟩ := before
    have read := probe (fun _ => byte + 1) (by
      rw [coversAddress, if_neg byAddress, Option.none_or, holds,
        eq_of_latest_filled (Or.inl holds)])
    rw [coversOffset, if_pos byOffset] at read
    exact changed read.symm

/-- Every read returns, whatever bytes the writes carry, what the latest write to each device
address put there, exactly where the last write that touches a byte names the read's base. -/
theorem readMem_returns_latest_iff (dx : Dxdev) (requests : List TransferRequest)
    (plain : ∀ request ∈ requests, PlainTransfer dx request.meminfo) :
    (∀ calls, calls.map TransferCall.request = requests → ReadsLatest dx calls) ↔
      LastBaseAgrees requests := by
  constructor
  · exact lastBaseAgrees_of_readsLatest plain
  · rintro agrees calls rfl
    exact readsLatest_of_lastBaseAgrees
      (fun call member => plain call.request (List.mem_map_of_mem member)) agrees

/-- Clients that all name the base that is reported to them are on the right side of it. -/
theorem lastBaseAgrees_of_one_base {requests : List TransferRequest} {base : UInt64}
    (same : ∀ request ∈ requests, request.meminfo.base = base) : LastBaseAgrees requests := by
  rintro _ meminfo later rfl index _ _ front written between rfl _ _
  have ofRead := same (.read meminfo) (by simp)
  have ofWrite := same (.write written) (by simp)
  exact ofWrite.trans ofRead.symm

/-! ### Transfers of one byte -/

def oneByte (base : UInt64) : DxrtReqMeminfo := ⟨0, base, 0, 1, 0⟩

theorem plainTransfer_board (base : UInt64) (aboveStart : 0xC0200000 ≤ base.toNat)
    (belowEnd : base.toNat < 0xC0300000) :
    PlainTransfer (dxrtIdentifyDevice (createDxrtDevice boardDsp)) (oneByte base) := by
  have channel : (0 : UInt32) ≤ 2 := by decide
  have fits : (0 : UInt32).toNat + (1 : UInt32).toNat ≤ boardDsp.dmaBufSize.toNat := by decide
  refine ⟨⟨channel, invalidAddress_eq_false_iff.mpr ⟨?_, ?_⟩⟩, ?_, fits⟩
  · show 0xC0200000 ≤ (base.toNat + 0) % 2 ^ 64
    omega
  · show (base.toNat + 0 + 1) % 2 ^ 64 ≤ (0xC0200000 + 0x1EE00000) % 2 ^ 64
    omega
  · show base.toNat + 0 + 1 < 2 ^ 64
    omega

/-- A write and a read of one base: the condition holds, and so the property, whatever the write
carries. -/
theorem readMem_returns_latest_same_base :
    LastBaseAgrees [.write (oneByte 0xC0200000), .read (oneByte 0xC0200000)] ∧
      ∀ calls, calls.map TransferCall.request =
        [.write (oneByte 0xC0200000), .read (oneByte 0xC0200000)] →
          ReadsLatest (dxrtIdentifyDevice (createDxrtDevice boardDsp)) calls := by
  have agrees : LastBaseAgrees [.write (oneByte 0xC0200000), .read (oneByte 0xC0200000)] := by
    refine @lastBaseAgrees_of_one_base _ 0xC0200000 ?_
    rintro _ (_ | ⟨_, _ | ⟨_, ⟨⟩⟩⟩) <;> rfl
  refine ⟨agrees, (readMem_returns_latest_iff _ _ ?_).mpr agrees⟩
  rintro _ (_ | ⟨_, _ | ⟨_, ⟨⟩⟩⟩) <;> exact plainTransfer_board _ (by decide) (by decide)

/-- Two writes of one byte each, at neighbouring device addresses but the same offset. -/
def neighbourWrites : List TransferCall :=
  [.write (oneByte 0xC0200000) fun _ => 1, .write (oneByte 0xC0200001) fun _ => 2]

/-- A read at the address of the first write returns the byte of the second one. -/
theorem readMem_wrong_byte :
    (∀ call ∈ neighbourWrites ++ [.read (oneByte 0xC0200000)],
      PlainTransfer (dxrtIdentifyDevice (createDxrtDevice boardDsp)) call.request.meminfo) ∧
      ¬ ReadsLatest (dxrtIdentifyDevice (createDxrtDevice boardDsp))
        (neighbourWrites ++ [.read (oneByte 0xC0200000)]) := by
  constructor
  · rintro _ (_ | ⟨_, _ | ⟨_, _ | ⟨_, ⟨⟩⟩⟩⟩) <;>
      exact plainTransfer_board _ (by decide) (by decide)
  · intro latest
    have returned := (latest neighbourWrites (oneByte 0xC0200000) [] rfl).2 0 (by decide) 1 rfl
    exact absurd returned (by decide)

end DxDsp
