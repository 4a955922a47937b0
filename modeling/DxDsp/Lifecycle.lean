/-
This file puts the removal behind the probe. A platform device may be bound to
the driver and unbound from it any number of times, with any pattern of failures
in each probe. The removal releases what a probe without failures acquired, and
asks only two questions: whether `dx->dsp` is NULL and whether `request_handler`
is, and the second is never NULL, as `kthread_run` fails with an error pointer.
-/

import DxDsp.Probe
import DxDsp.Removal

namespace DxDsp.Lifecycle

open Library Probe Removal

/-! ### The removal as the probe left it -/

/-- What a statement of the removal releases. -/
def releases : RemovalStep → Option Acquisition
  | .kthreadStopped => some .requestHandler
  | .dmaFreeCoherent => some .dmaBuf
  | .freeIrq => some .irq
  | .iounmap i => some (.ioremap i)
  | .kfreeDsp => some .dsp
  | .deviceDestroy => some .device
  | .cdevDel => some .cdev
  | .kfreeDxdev => some .dxdev
  | .classDestroy => some .devClass
  | .unregisterChrdevRegion => some .chrdevRegion
  | .kthreadStop | .disableIrq | .synchronizeIrq | .bufInit => none

/-- `dxrt_dsp_deinit`, by whether `dx->dsp` is non-NULL. -/
def dxrtDspDeinit (dsp : Bool) : List RemovalStep :=
  if dsp then dxV3DspDeinit ++ [.kfreeDsp] else []

/-- `dxrt_dsp_driver_cdev_deinit` over what a probe left in `dx->dsp`. -/
def cdevDeinit (dsp : Bool) : List RemovalStep :=
  [.kthreadStop, .kthreadStopped] ++
    (dxrtDspDeinit dsp ++ [.deviceDestroy, .cdevDel, .kfreeDxdev]) ++
    [.classDestroy, .unregisterChrdevRegion]

/-- Behind a probe that got its DSP it is the whole removal. -/
theorem cdevDeinit_true : cdevDeinit true = dxrtDspDriverCdevDeinit := rfl

/-- Whether `dxrt_dsp_init` returns a DSP. -/
def dspReturned (outcomes : Outcomes) : Bool := dspSetup.all (acquires outcomes)

theorem dxrtDspInit_result (outcomes : Outcomes) (ledger : List (LedgerEvent Acquisition)) :
    (dxrtDspInit outcomes ledger).1 = dspReturned outcomes := by
  have result := acquireInTurn_isNone outcomes dspSetup ledger
  rw [dspReturned, ← result]
  simp only [dxrtDspInit, bind, StateT.bind]
  cases acquireInTurn outcomes dspSetup ledger with
  | mk failure after => cases failure <;> rfl

/-- The ledger of one cycle: the probe, and the removal if the probe returned 0. A release is
counted as the driver calls it, also a `device_destroy` without a device and a `dma_free_coherent`
of NULL, which the kernel lets pass. -/
def bindUnbind (outcomes : Outcomes) : List (LedgerEvent Acquisition) :=
  let probed := dxrtDspDriverProbe outcomes
  if probed.1 = 0 then
    probed.2 ++ ((cdevDeinit (dspReturned outcomes)).filterMap releases).map .released
  else probed.2

/-! ### When one cycle is balanced -/

/-- A ledger is balanced as soon as it is for the acquisitions of the program. -/
theorem balanced_of_programOrder {ledger : List (LedgerEvent Acquisition)}
    (balanced : ∀ acquisition ∈ programOrder, acquisition.owned = true →
      heldAfter acquisition false ledger = some false) : Balanced Acquisition.owned ledger :=
  fun acquisition => balanced acquisition (mem_programOrder acquisition)

theorem bindUnbind_of_failed {outcomes : Outcomes} {ret : Int}
    {ledger : List (LedgerEvent Acquisition)} (probed : dxrtDspDriverProbe outcomes = (ret, ledger))
    (negative : ret < 0) : bindUnbind outcomes = ledger := by
  rw [bindUnbind, probed]
  exact if_neg (Int.ne_of_lt negative)

section BehindDevice

variable {outcomes : Outcomes}
  (probed : dxrtDspDriverProbe outcomes =
    (0, (throughDevice ++ acquiredBehindDevice outcomes).map .acquired))

include probed

theorem bindUnbind_behindDevice :
    bindUnbind outcomes = (throughDevice ++ acquiredBehindDevice outcomes).map .acquired ++
      ((cdevDeinit (dspReturned outcomes)).filterMap releases).map .released := by
  rw [bindUnbind, probed]
  rfl

theorem acquired_mem_bindUnbind {acquisition : Acquisition}
    (member : .acquired acquisition ∈ bindUnbind outcomes) :
    acquisition ∈ throughDevice ∨ outcomes acquisition = none := by
  rw [bindUnbind_behindDevice probed] at member
  rcases List.mem_append.mp member with acquired | released
  · obtain ⟨own, among, same⟩ := List.mem_map.mp acquired
    cases same
    exact (List.mem_append.mp among).imp id acquiredBehindDevice_acquires
  · obtain ⟨own, -, same⟩ := List.mem_map.mp released
    cases same

/-- What failed behind `device_create` and is released all the same spoils the cycle. -/
theorem not_balanced_of_released {acquisition : Acquisition} (owned : acquisition.owned = true)
    (late : acquisition ∉ throughDevice) (failed : outcomes acquisition ≠ none)
    (released : acquisition ∈ (cdevDeinit (dspReturned outcomes)).filterMap releases) :
    ¬ Balanced Acquisition.owned (bindUnbind outcomes) := by
  intro balanced
  refine heldAfter_of_notMem_acquired (fun member => ?_) ?_ (balanced acquisition owned)
  · exact (acquired_mem_bindUnbind probed member).elim late failed
  · rw [bindUnbind_behindDevice probed]
    exact List.mem_append_right _ (List.mem_map_of_mem released)

/-- What was acquired and is not released spoils it too. -/
theorem not_balanced_of_kept {acquisition : Acquisition} (owned : acquisition.owned = true)
    (acquired : acquisition ∈ acquiredBehindDevice outcomes)
    (kept : acquisition ∉ (cdevDeinit (dspReturned outcomes)).filterMap releases) :
    ¬ Balanced Acquisition.owned (bindUnbind outcomes) := by
  intro balanced
  refine heldAfter_of_notMem_released (fun member => ?_) (Or.inr ?_) (balanced acquisition owned)
  · rw [bindUnbind_behindDevice probed] at member
    rcases List.mem_append.mp member with acquired | released
    · obtain ⟨own, -, same⟩ := List.mem_map.mp acquired
      cases same
    · obtain ⟨own, among, same⟩ := List.mem_map.mp released
      cases same
      exact kept among
  · rw [bindUnbind_behindDevice probed]
    exact List.mem_append_left _ (List.mem_map_of_mem (List.mem_append_right _ acquired))

end BehindDevice

/-- The first failure is none, or one the probe undoes, or the allocation of the DSP, whose NULL the
removal finds, and then the thread started. -/
def Undone (outcomes : Outcomes) : Prop :=
  firstFailure outcomes = none ∨ firstFailure outcomes = some .chrdevRegion ∨
    firstFailure outcomes = some .devClass ∨ firstFailure outcomes = some .device ∨
      (firstFailure outcomes = some .dsp ∧ outcomes .requestHandler = none)

/-- Where the probe gets its device and its DSP structure, only a probe without failures will do. -/
theorem Undone.all {outcomes : Outcomes} (undone : Undone outcomes)
    (early : ∀ acquisition ∈ throughDevice, outcomes acquisition = none)
    (dsp : outcomes .dsp = none) (acquisition : Acquisition) : outcomes acquisition = none := by
  rcases undone with all | region | devClass | device | ⟨fails, -⟩
  · exact (firstFailure_eq_none_iff outcomes).mp all acquisition
  · exact absurd (early .chrdevRegion (by decide)) (fails_of_firstFailure region)
  · exact absurd (early .devClass (by decide)) (fails_of_firstFailure devClass)
  · exact absurd (early .device (by decide)) (fails_of_firstFailure device)
  · exact absurd dsp (fails_of_firstFailure fails)

theorem dspReturned_of_fails {outcomes : Outcomes} {acquisition : Acquisition}
    (among : acquisition ∈ dspSetup) (fails : outcomes acquisition ≠ none) :
    dspReturned outcomes = false := by
  refine List.all_eq_false.mpr ⟨acquisition, among, fun acquired => fails ?_⟩
  exact Option.isNone_iff_eq_none.mp acquired

/-- Without a DSP structure the thread is all that is acquired behind the device. -/
theorem acquiredBehindDevice_of_dsp {outcomes : Outcomes} (fails : outcomes .dsp ≠ none) :
    acquiredBehindDevice outcomes = [.requestHandler].filter (acquires outcomes) := by
  have failure : ¬ acquires outcomes .dsp = true :=
    fun acquired => fails (Option.isNone_iff_eq_none.mp acquired)
  have none : dspSetup.all (acquires outcomes) = false :=
    dspReturned_of_fails List.mem_cons_self fails
  rw [acquiredBehindDevice, dspAcquired, none, dspSetup, List.takeWhile_cons_of_neg failure]
  rfl

section BehindDevice

variable {outcomes : Outcomes}
  (probed : dxrtDspDriverProbe outcomes =
    (0, (throughDevice ++ acquiredBehindDevice outcomes).map .acquired))

include probed

theorem balanced_iff_of_dsp_fails (fails : outcomes .dsp ≠ none)
    (first : firstFailure outcomes = some .dsp) :
    Balanced Acquisition.owned (bindUnbind outcomes) ↔ Undone outcomes := by
  have returned := dspReturned_of_fails List.mem_cons_self fails
  by_cases handler : outcomes .requestHandler = none
  · refine iff_of_true ?_ (Or.inr (Or.inr (Or.inr (Or.inr ⟨first, handler⟩))))
    have acquired : acquires outcomes .requestHandler = true :=
      Option.isNone_iff_eq_none.mpr handler
    rw [bindUnbind_behindDevice probed, returned, acquiredBehindDevice_of_dsp fails,
      List.filter_cons_of_pos acquired, List.filter_nil]
    exact balanced_of_programOrder (by decide)
  · refine iff_of_false (not_balanced_of_released probed rfl (by decide) handler ?_) ?_
    · rw [returned]
      decide
    · rintro (none | region | devClass | device | ⟨-, started⟩)
      · cases first.symm.trans none
      · cases first.symm.trans region
      · cases first.symm.trans devClass
      · cases first.symm.trans device
      · exact handler started

/-- The DSP structure leaks where a resource, the IRQ number or a property is missing. -/
theorem not_balanced_of_setup (dsp : outcomes .dsp = none)
    (returned : dspReturned outcomes = false) :
    ¬ Balanced Acquisition.owned (bindUnbind outcomes) := by
  have acquired : acquires outcomes .dsp = true := Option.isNone_iff_eq_none.mpr dsp
  refine @not_balanced_of_kept _ probed .dsp rfl ?_ ?_
  · rw [acquiredBehindDevice, dspAcquired, dspSetup, List.takeWhile_cons_of_pos acquired]
    exact List.mem_cons_self
  · rw [returned]
    decide

/-- What fails behind the properties of the device tree is released without having been acquired. -/
theorem balanced_iff_of_returned
    (early : ∀ acquisition ∈ throughDevice, outcomes acquisition = none)
    (dsp : outcomes .dsp = none) (returned : dspReturned outcomes = true) :
    Balanced Acquisition.owned (bindUnbind outcomes) ↔ Undone outcomes := by
  by_cases all : ∀ acquisition, outcomes acquisition = none
  · refine iff_of_true ?_ (Or.inl ((firstFailure_eq_none_iff outcomes).mpr all))
    rw [bindUnbind_behindDevice probed, returned, acquiredBehindDevice_of_all all]
    exact balanced_of_programOrder (by decide)
  · refine iff_of_false ?_ fun undone => all (undone.all early dsp)
    obtain ⟨acquisition, failed⟩ := not_forall.mp all
    have late : acquisition ∉ throughDevice := fun among => failed (early acquisition among)
    have behind : acquisition ∉ dspSetup := by
      intro among
      have acquired := List.all_eq_true.mp returned acquisition among
      exact failed (Option.isNone_iff_eq_none.mp acquired)
    have member := mem_programOrder acquisition
    rw [programOrder, List.mem_append, List.mem_append, List.mem_append] at member
    have last : acquisition ∈ dspInit ++ [.requestHandler] :=
      List.mem_append.mpr (member.imp (Or.resolve_left · (not_or.mpr ⟨late, behind⟩)) id)
    have owned : ∀ own ∈ dspInit ++ [.requestHandler], own.owned = true ∧
        own ∈ (cdevDeinit true).filterMap releases := by decide
    obtain ⟨isOwned, released⟩ := owned acquisition last
    exact not_balanced_of_released probed isOwned late failed (returned ▸ released)

end BehindDevice

/-! ### Any number of cycles -/

theorem bindUnbind_balanced_iff (outcomes : Outcomes) :
    Balanced Acquisition.owned (bindUnbind outcomes) ↔ Undone outcomes := by
  cases chrdevRegion : outcomes .chrdevRegion with
  | some errno =>
    rw [bindUnbind_of_failed (probe_chrdevRegion chrdevRegion) errno.ret_neg, Undone,
      firstFailure_eq_some [] _ rfl (by simp) chrdevRegion]
    exact iff_of_true (balanced_of_programOrder (by decide)) (by simp)
  | none =>
  cases devClass : outcomes .devClass with
  | some errno =>
    rw [bindUnbind_of_failed (probe_devClass chrdevRegion devClass) errno.ret_neg, Undone,
      firstFailure_eq_some [.chrdevRegion] _ rfl (by simp [chrdevRegion]) devClass]
    exact iff_of_true (balanced_of_programOrder (by decide)) (by simp)
  | none =>
  cases dxdev : outcomes .dxdev with
  | some errno =>
    rw [bindUnbind_of_failed (probe_dxdev chrdevRegion devClass dxdev) (by decide), Undone,
      firstFailure_eq_some [.chrdevRegion, .devClass] _ rfl (by simp [chrdevRegion, devClass])
        dxdev]
    -- The class and the region stay behind.
    refine iff_of_false (fun balanced => ?_) (by simp)
    exact absurd (balanced .devClass rfl) (by decide)
  | none =>
  cases cdev : outcomes .cdev with
  | some errno =>
    rw [bindUnbind_of_failed (probe_cdev chrdevRegion devClass dxdev cdev) (by decide), Undone,
      firstFailure_eq_some [.chrdevRegion, .devClass, .dxdev] _ rfl
        (by simp [chrdevRegion, devClass, dxdev]) cdev]
    -- The device that is destroyed was never created.
    refine iff_of_false (fun balanced => ?_) (by simp)
    exact absurd (balanced .device rfl) (by decide)
  | none =>
  cases device : outcomes .device with
  | some errno =>
    rw [bindUnbind_of_failed (probe_device chrdevRegion devClass dxdev cdev device) (by decide),
      Undone, firstFailure_eq_some [.chrdevRegion, .devClass, .dxdev, .cdev] _ rfl
        (by simp [chrdevRegion, devClass, dxdev, cdev]) device]
    exact iff_of_true (balanced_of_programOrder (by decide)) (by simp)
  | none =>
    have early : ∀ acquisition ∈ throughDevice, outcomes acquisition = none := by
      simp [throughDevice, chrdevRegion, devClass, dxdev, cdev, device]
    have probed := probe_behindDevice chrdevRegion devClass dxdev cdev device
    cases dsp : outcomes .dsp with
    | some errno =>
      refine balanced_iff_of_dsp_fails probed (by simp [dsp]) ?_
      exact firstFailure_eq_some throughDevice _ rfl early dsp
    | none =>
      by_cases returned : dspReturned outcomes = true
      · exact balanced_iff_of_returned probed early dsp returned
      · have missing := Bool.eq_false_of_not_eq_true returned
        refine iff_of_false (not_balanced_of_setup probed dsp missing) fun undone => returned ?_
        exact List.all_eq_true.mpr fun acquisition _ =>
          Option.isNone_iff_eq_none.mpr (undone.all early dsp acquisition)

end DxDsp.Lifecycle

namespace DxDsp

open Library Probe Lifecycle

/-- Over any number of binds and unbinds, with any failures in each probe: nothing is released
twice, without having been acquired, or left behind after any of them exactly if in each probe
nothing fails, or the first failure is that of the region, of the class or of `device_create`, or
it is the allocation of the DSP structure and the thread is started. -/
theorem bind_unbind_cycles_balanced_iff (cycles : List Outcomes) :
    (∀ done, done <+: cycles → Balanced Acquisition.owned (done.flatMap bindUnbind)) ↔
      ∀ outcomes ∈ cycles, Undone outcomes := by
  rw [balanced_flatMap_iff]
  exact forall₂_congr fun outcomes _ => bindUnbind_balanced_iff outcomes

end DxDsp
