/-
This file follows the probe through its acquisitions, any of which may fail. The
character device region and the class are acquired by `dxrt_dsp_driver_cdev_init`,
the device and its DSP by `create_dxrt_device`, which undoes what came before it
only where `cdev_add` and `device_create` fail. What fails behind
`device_create` is noticed where it happens and nowhere else: `dxrt_dsp_init`
returns NULL and `dx_v3_dsp_init` an error, and neither is looked at.
-/

import DxDsp.Device
import DxDsp.Library.Acquisition

namespace DxDsp.Probe

open Library

/-! ### Acquisitions -/

/-- What the probe acquires. The resources, the IRQ number and the properties are looked up, the
rest is taken. -/
inductive Acquisition
  | chrdevRegion
  | devClass
  | dxdev
  | cdev
  | device
  | dsp
  | resource (i : Fin 7)
  | irqNumber
  | deviceId
  | dmaBufSize
  | ioremap (i : Fin 6)
  | irq
  | dmaBuf
  | requestHandler
deriving DecidableEq, Repr

/-- Whether an acquisition is undone by a release. -/
def Acquisition.owned : Acquisition → Bool
  | .resource _ | .irqNumber | .deviceId | .dmaBufSize => false
  | _ => true

/-- A kernel error number. -/
structure Errno where
  number : Nat
  positive : 0 < number
deriving DecidableEq

/-- What a function returns for the error. -/
def Errno.ret (errno : Errno) : Int := -errno.number

theorem Errno.ret_neg (errno : Errno) : errno.ret < 0 :=
  Int.neg_neg_of_pos (Int.natCast_pos.mpr errno.positive)

def ebusy : Errno := ⟨16, by decide⟩

/-- A pattern of failures. -/
abbrev Outcomes := Acquisition → Option Errno

/-- The pattern in which one acquisition fails. -/
def failsAt (failing : Acquisition) (errno : Errno) : Outcomes :=
  fun acquisition => if acquisition = failing then some errno else none

/-! ### The probe -/

/-- The acquisitions of `dxrt_dsp_init` before it calls `dsp->init`. -/
def dspSetup : List Acquisition :=
  [.dsp, .resource 0, .resource 1, .resource 2, .resource 3, .resource 4, .resource 5, .resource 6,
    .irqNumber, .deviceId, .dmaBufSize]

/-- The acquisitions of `dx_v3_dsp_init`. -/
def dspInit : List Acquisition :=
  [.ioremap 0, .ioremap 1, .ioremap 2, .ioremap 3, .ioremap 4, .ioremap 5, .irq, .dmaBuf]

/-- What `dx_v3_dsp_init` returns at a failure. -/
def dspInitRet : Option (Acquisition × Errno) → Int
  | none => 0
  | some (.irq, errno) => errno.ret
  | some (.dmaBuf, _) => -1
  | some _ => -enomem

/-- `dx_v3_dsp_init`, which returns at its first failure and undoes nothing. -/
def dxV3DspInit (outcomes : Outcomes) : Acquiring Acquisition Int := do
  let failure ← acquireInTurn outcomes dspInit
  pure (dspInitRet failure)

/-- `dxrt_dsp_init`: whether its result is non-NULL. What `dsp->init` returns is dropped. -/
def dxrtDspInit (outcomes : Outcomes) : Acquiring Acquisition Bool := do
  match ← acquireInTurn outcomes dspSetup with
  | some _ => pure false
  | none => do
    let _ret ← dxV3DspInit outcomes
    pure true

/-- `create_dxrt_device`: whether its result is non-NULL. `dxdev->dsp` may be NULL from here on, and
`dxdev->request_handler` an error pointer. -/
def createDxrtDevice (outcomes : Outcomes) : Acquiring Acquisition Bool := do
  match ← acquire outcomes .dxdev with
  | some _ => pure false
  | none => do
    match ← acquire outcomes .cdev with
    | some _ => do
      release .dxdev
      release .device
      release .devClass
      release .chrdevRegion
      pure false
    | none => do
      match ← acquire outcomes .device with
      | some _ => do
        release .cdev
        release .dxdev
        release .devClass
        release .chrdevRegion
        pure false
      | none => do
        let _dsp ← dxrtDspInit outcomes
        let _requestHandler ← acquire outcomes .requestHandler
        pure true

def dxrtDspDriverCdevInit (outcomes : Outcomes) : Acquiring Acquisition Int := do
  match ← acquire outcomes .chrdevRegion with
  | some errno => pure errno.ret
  | none => do
    match ← acquire outcomes .devClass with
    | some errno => do
      release .chrdevRegion
      pure errno.ret
    | none => do
      let device ← createDxrtDevice outcomes
      if device then pure 0 else pure (-1)

/-- `dxrt_dsp_driver_probe`: what it returns, and its ledger, which counts the calls that acquire and
release as they are made. -/
def dxrtDspDriverProbe (outcomes : Outcomes) : Int × List (LedgerEvent Acquisition) :=
  dxrtDspDriverCdevInit outcomes []

/-- What is acquired before `dxrt_dsp_init` is called. -/
def throughDevice : List Acquisition := [.chrdevRegion, .devClass, .dxdev, .cdev, .device]

/-- Every acquisition, in the order of the program. -/
def programOrder : List Acquisition := throughDevice ++ dspSetup ++ dspInit ++ [.requestHandler]

theorem mem_programOrder (acquisition : Acquisition) : acquisition ∈ programOrder := by
  cases acquisition with
  | resource i =>
    revert i
    decide
  | ioremap i =>
    revert i
    decide
  | _ => decide

/-! ### All or nothing -/

/-- The probe returns 0 with everything acquired, or an error with everything undone. -/
def AllOrNothing (outcomes : Outcomes) : Prop :=
  let probed := dxrtDspDriverProbe outcomes
  probed.1 = 0 ∧ (∀ acquisition, .acquired acquisition ∈ probed.2) ∨
    probed.1 < 0 ∧ Unwound Acquisition.owned probed.2

/-- What `dxrt_dsp_init` acquires. It releases nothing. -/
def dspAcquired (outcomes : Outcomes) : List Acquisition :=
  dspSetup.takeWhile (acquires outcomes) ++
    if dspSetup.all (acquires outcomes) then dspInit.takeWhile (acquires outcomes) else []

theorem dxV3DspInit_ledger (outcomes : Outcomes) (ledger : List (LedgerEvent Acquisition)) :
    (dxV3DspInit outcomes ledger).2 =
      ledger ++ (dspInit.takeWhile (acquires outcomes)).map .acquired := by
  rw [← acquireInTurn_ledger outcomes dspInit ledger]
  rfl

theorem dxrtDspInit_ledger (outcomes : Outcomes) (ledger : List (LedgerEvent Acquisition)) :
    (dxrtDspInit outcomes ledger).2 = ledger ++ (dspAcquired outcomes).map .acquired := by
  have setupLedger := acquireInTurn_ledger outcomes dspSetup ledger
  have setupResult := acquireInTurn_isNone outcomes dspSetup ledger
  rw [dspAcquired, ← setupResult, List.map_append, ← List.append_assoc, ← setupLedger]
  simp only [dxrtDspInit, bind, StateT.bind]
  cases acquireInTurn outcomes dspSetup ledger with
  | mk result after =>
    cases result with
    | none => exact dxV3DspInit_ledger outcomes after
    | some failure => exact (List.append_nil after).symm

/-- What the probe acquires once `device_create` has succeeded. -/
def acquiredBehindDevice (outcomes : Outcomes) : List Acquisition :=
  dspAcquired outcomes ++ [.requestHandler].filter (acquires outcomes)

/-- The tail of `create_dxrt_device`. -/
theorem behindDevice_ledger (outcomes : Outcomes) (ledger : List (LedgerEvent Acquisition)) :
    (do
      let _dsp ← dxrtDspInit outcomes
      let _requestHandler ← acquire outcomes .requestHandler
      pure true : Acquiring Acquisition Bool) ledger =
      (true, ledger ++ (acquiredBehindDevice outcomes).map .acquired) := by
  have fromDsp := dxrtDspInit_ledger outcomes ledger
  rw [acquiredBehindDevice, List.map_append, ← List.append_assoc, ← fromDsp]
  show (acquire outcomes .requestHandler >>= fun _ => pure true) (dxrtDspInit outcomes ledger).2 = _
  cases outcome : outcomes .requestHandler with
  | none =>
    have success : acquires outcomes .requestHandler = true := by rw [acquires, outcome]; rfl
    rw [acquire_bind_of_none _ outcome, List.filter_cons_of_pos success]
    rfl
  | some error =>
    have failure : ¬ acquires outcomes .requestHandler = true := by rw [acquires, outcome]; simp
    rw [acquire_bind_of_some _ outcome, List.filter_cons_of_neg failure]
    exact congrArg (Prod.mk true) (List.append_nil _).symm

theorem acquiredBehindDevice_acquires {outcomes : Outcomes} {acquisition : Acquisition}
    (acquired : acquisition ∈ acquiredBehindDevice outcomes) : outcomes acquisition = none := by
  have succeeded : acquires outcomes acquisition = true → outcomes acquisition = none :=
    Option.isNone_iff_eq_none.mp
  refine succeeded ?_
  rcases List.mem_append.mp acquired with fromDsp | handler
  · rcases List.mem_append.mp fromDsp with setup | init
    · exact List.mem_takeWhile_imp setup
    · split at init
      · exact List.mem_takeWhile_imp init
      · exact absurd init List.not_mem_nil
  · exact (List.mem_filter.mp handler).2

/-- Where nothing fails, everything is acquired. -/
theorem acquiredBehindDevice_of_all {outcomes : Outcomes}
    (all : ∀ acquisition, outcomes acquisition = none) :
    acquiredBehindDevice outcomes = dspSetup ++ dspInit ++ [.requestHandler] := by
  have every : ∀ acquisition, acquires outcomes acquisition = true := by
    intro acquisition
    exact Option.isNone_iff_eq_none.mpr (all acquisition)
  have setup : dspSetup.takeWhile (acquires outcomes) = dspSetup :=
    List.takeWhile_eq_self_iff.mpr fun acquisition _ => every acquisition
  have init : dspInit.takeWhile (acquires outcomes) = dspInit :=
    List.takeWhile_eq_self_iff.mpr fun acquisition _ => every acquisition
  rw [acquiredBehindDevice, dspAcquired, setup, init,
    if_pos (List.all_eq_true.mpr fun acquisition _ => every acquisition)]
  rw [List.filter_eq_self.mpr fun acquisition _ => every acquisition]

/-! ### What the probe does at each failure -/

section Failures

variable {outcomes : Outcomes} {errno : Errno}

theorem probe_chrdevRegion (failed : outcomes .chrdevRegion = some errno) :
    dxrtDspDriverProbe outcomes = (errno.ret, []) := by
  rw [dxrtDspDriverProbe, dxrtDspDriverCdevInit, acquire_bind_of_some _ failed]
  rfl

variable (chrdevRegion : outcomes .chrdevRegion = none)

include chrdevRegion in
theorem probe_devClass (failed : outcomes .devClass = some errno) :
    dxrtDspDriverProbe outcomes =
      (errno.ret, [.acquired .chrdevRegion, .released .chrdevRegion]) := by
  rw [dxrtDspDriverProbe, dxrtDspDriverCdevInit]
  simp only [acquire_bind_of_none _ chrdevRegion, acquire_bind_of_some _ failed, release_bind]
  rfl

variable (devClass : outcomes .devClass = none)

include chrdevRegion devClass

/-- Behind the class the probe is `create_dxrt_device`. -/
theorem probe_createDxrtDevice :
    dxrtDspDriverProbe outcomes =
      let (device, ledger) :=
        createDxrtDevice outcomes [.acquired .chrdevRegion, .acquired .devClass]
      (if device then 0 else -1, ledger) := by
  rw [dxrtDspDriverProbe, dxrtDspDriverCdevInit]
  simp only [acquire_bind_of_none _ chrdevRegion, acquire_bind_of_none _ devClass]
  show (createDxrtDevice outcomes >>= _) [.acquired .chrdevRegion, .acquired .devClass] = _
  simp only [bind, StateT.bind]
  cases createDxrtDevice outcomes [.acquired .chrdevRegion, .acquired .devClass] with
  | mk device ledger => cases device <;> rfl

theorem probe_dxdev (failed : outcomes .dxdev = some errno) :
    dxrtDspDriverProbe outcomes = (-1, [.acquired .chrdevRegion, .acquired .devClass]) := by
  rw [probe_createDxrtDevice chrdevRegion devClass, createDxrtDevice]
  simp only [acquire_bind_of_some _ failed]
  rfl

variable (dxdev : outcomes .dxdev = none)

include dxdev

theorem probe_cdev (failed : outcomes .cdev = some errno) :
    dxrtDspDriverProbe outcomes =
      (-1, [.acquired .chrdevRegion, .acquired .devClass, .acquired .dxdev, .released .dxdev,
        .released .device, .released .devClass, .released .chrdevRegion]) := by
  rw [probe_createDxrtDevice chrdevRegion devClass, createDxrtDevice]
  simp only [acquire_bind_of_none _ dxdev, acquire_bind_of_some _ failed, release_bind]
  rfl

variable (cdev : outcomes .cdev = none)

include cdev

theorem probe_device (failed : outcomes .device = some errno) :
    dxrtDspDriverProbe outcomes =
      (-1, [.acquired .chrdevRegion, .acquired .devClass, .acquired .dxdev, .acquired .cdev,
        .released .cdev, .released .dxdev, .released .devClass, .released .chrdevRegion]) := by
  rw [probe_createDxrtDevice chrdevRegion devClass, createDxrtDevice]
  simp only [acquire_bind_of_none _ dxdev, acquire_bind_of_none _ cdev,
    acquire_bind_of_some _ failed, release_bind]
  rfl

/-- Behind `device_create` the probe returns 0, whatever it acquires. -/
theorem probe_behindDevice (device : outcomes .device = none) :
    dxrtDspDriverProbe outcomes =
      (0, (throughDevice ++ acquiredBehindDevice outcomes).map .acquired) := by
  rw [probe_createDxrtDevice chrdevRegion devClass, createDxrtDevice]
  simp only [acquire_bind_of_none _ dxdev, acquire_bind_of_none _ cdev,
    acquire_bind_of_none _ device, behindDevice_ledger]
  rw [List.map_append]
  rfl

end Failures

/-! ### When the probe is all or nothing -/

/-- Whether an acquisition fails. -/
def Fails (outcomes : Outcomes) (acquisition : Acquisition) : Bool := (outcomes acquisition).isSome

/-- The first acquisition in the order of the program that fails. -/
def firstFailure (outcomes : Outcomes) : Option Acquisition := programOrder.find? (Fails outcomes)

theorem firstFailure_eq_none_iff (outcomes : Outcomes) :
    firstFailure outcomes = none ↔ ∀ acquisition, outcomes acquisition = none := by
  rw [firstFailure, List.find?_eq_none]
  constructor
  · intro none acquisition
    exact Option.not_isSome_iff_eq_none.mp (none acquisition (mem_programOrder acquisition))
  · intro none acquisition _
    exact Option.not_isSome_iff_eq_none.mpr (none acquisition)

/-- A ledger is unwound as soon as it is for the acquisitions of the program. -/
theorem unwound_of_programOrder {ledger : List (LedgerEvent Acquisition)}
    (unwound : ∀ acquisition ∈ programOrder,
      (acquisition.owned → .acquired acquisition ∈ ledger →
        ledger.count (.released acquisition) = 1) ∧
        (.acquired acquisition ∉ ledger → .released acquisition ∉ ledger)) :
    Unwound Acquisition.owned ledger :=
  fun acquisition => unwound acquisition (mem_programOrder acquisition)

/-- An acquisition that fails after those before it have succeeded is the first failure. -/
theorem firstFailure_eq_some {outcomes : Outcomes} {acquisition : Acquisition} {errno : Errno}
    (before after : List Acquisition) (order : programOrder = before ++ acquisition :: after)
    (succeeded : ∀ other ∈ before, outcomes other = none)
    (failed : outcomes acquisition = some errno) :
    firstFailure outcomes = some acquisition := by
  have fails : Fails outcomes acquisition = true := by rw [Fails, failed]; rfl
  have none : before.find? (Fails outcomes) = none :=
    List.find?_eq_none.mpr fun other member =>
      Option.not_isSome_iff_eq_none.mpr (succeeded other member)
  rw [firstFailure, order, List.find?_append, none, List.find?_cons_of_pos fails]
  rfl

theorem fails_of_firstFailure {outcomes : Outcomes} {acquisition : Acquisition}
    (first : firstFailure outcomes = some acquisition) : outcomes acquisition ≠ none := by
  have fails := List.find?_some first
  exact Option.isSome_iff_ne_none.mp fails

section Verdicts

variable {outcomes : Outcomes} {ret : Int} {ledger : List (LedgerEvent Acquisition)}
  (probed : dxrtDspDriverProbe outcomes = (ret, ledger)) (negative : ret < 0)

include probed negative

theorem allOrNothing_of_unwound (unwound : Unwound Acquisition.owned ledger) :
    AllOrNothing outcomes := by
  rw [AllOrNothing, probed]
  exact Or.inr ⟨negative, unwound⟩

theorem not_allOrNothing_of_leak (leak : ¬ Unwound Acquisition.owned ledger) :
    ¬ AllOrNothing outcomes := by
  rw [AllOrNothing, probed]
  rintro (⟨zero, -⟩ | ⟨-, unwound⟩)
  · exact Int.ne_of_lt negative zero
  · exact leak unwound

end Verdicts

/-- Behind `device_create` the probe is all or nothing exactly when nothing fails. -/
theorem allOrNothing_behindDevice {outcomes : Outcomes}
    (early : ∀ acquisition ∈ throughDevice, outcomes acquisition = none)
    (probed : dxrtDspDriverProbe outcomes =
      (0, (throughDevice ++ acquiredBehindDevice outcomes).map .acquired)) :
    AllOrNothing outcomes ↔ firstFailure outcomes = none := by
  rw [AllOrNothing, probed, firstFailure_eq_none_iff]
  constructor
  · rintro (⟨-, acquired⟩ | ⟨negative, -⟩) acquisition
    · obtain ⟨own, member, same⟩ := List.mem_map.mp (acquired acquisition)
      cases same
      rcases List.mem_append.mp member with front | behind
      · exact early _ front
      · exact acquiredBehindDevice_acquires behind
    · exact absurd negative (Int.lt_irrefl 0)
  · intro all
    refine Or.inl ⟨rfl, fun acquisition => List.mem_map_of_mem ?_⟩
    rw [acquiredBehindDevice_of_all all]
    have member := mem_programOrder acquisition
    rwa [programOrder, List.append_assoc, List.append_assoc, ← List.append_assoc dspSetup] at member

/-- The probe is all or nothing exactly when nothing fails, or the first failure is that of the
region, of the class, or of `device_create`. -/
theorem probe_all_or_nothing_iff (outcomes : Outcomes) :
    AllOrNothing outcomes ↔
      firstFailure outcomes = none ∨ firstFailure outcomes = some .chrdevRegion ∨
        firstFailure outcomes = some .devClass ∨ firstFailure outcomes = some .device := by
  cases chrdevRegion : outcomes .chrdevRegion with
  | some errno =>
    rw [firstFailure_eq_some [] _ rfl (by simp) chrdevRegion]
    refine iff_of_true (allOrNothing_of_unwound (probe_chrdevRegion chrdevRegion) errno.ret_neg
      (unwound_of_programOrder (by decide))) (by decide)
  | none =>
  cases devClass : outcomes .devClass with
  | some errno =>
    rw [firstFailure_eq_some [.chrdevRegion] _ rfl (by simp [chrdevRegion]) devClass]
    exact iff_of_true (allOrNothing_of_unwound (probe_devClass chrdevRegion devClass) errno.ret_neg
      (unwound_of_programOrder (by decide))) (by decide)
  | none =>
  cases dxdev : outcomes .dxdev with
  | some errno =>
    rw [firstFailure_eq_some [.chrdevRegion, .devClass] _ rfl (by simp [chrdevRegion, devClass])
      dxdev]
    refine iff_of_false (not_allOrNothing_of_leak (probe_dxdev chrdevRegion devClass dxdev)
      (by decide) fun unwound => ?_) (by decide)
    -- The class and the region stay behind.
    exact absurd ((unwound .devClass).1 rfl (by decide)) (by decide)
  | none =>
  cases cdev : outcomes .cdev with
  | some errno =>
    rw [firstFailure_eq_some [.chrdevRegion, .devClass, .dxdev] _ rfl
      (by simp [chrdevRegion, devClass, dxdev]) cdev]
    refine iff_of_false (not_allOrNothing_of_leak (probe_cdev chrdevRegion devClass dxdev cdev)
      (by decide) fun unwound => ?_) (by decide)
    -- The device that is destroyed was never created.
    exact absurd (by decide) ((unwound .device).2 (by decide))
  | none =>
  cases device : outcomes .device with
  | some errno =>
    rw [firstFailure_eq_some [.chrdevRegion, .devClass, .dxdev, .cdev] _ rfl
      (by simp [chrdevRegion, devClass, dxdev, cdev]) device]
    exact iff_of_true (allOrNothing_of_unwound
      (probe_device chrdevRegion devClass dxdev cdev device) (by decide)
      (unwound_of_programOrder (by decide))) (by decide)
  | none =>
    have early : ∀ acquisition ∈ throughDevice, outcomes acquisition = none := by
      simp [throughDevice, chrdevRegion, devClass, dxdev, cdev, device]
    rw [allOrNothing_behindDevice early
      (probe_behindDevice chrdevRegion devClass dxdev cdev device)]
    refine ⟨Or.inl, ?_⟩
    rintro (none | region | failedClass | failedDevice)
    · exact none
    · exact absurd chrdevRegion (fails_of_firstFailure region)
    · exact absurd devClass (fails_of_firstFailure failedClass)
    · exact absurd device (fails_of_firstFailure failedDevice)

/-- Where nothing but `request_irq` fails, the probe returns 0 without the interrupt. -/
theorem probe_all_or_nothing_irq :
    (dxrtDspDriverProbe (failsAt .irq ebusy)).1 = 0 ∧
      .acquired .irq ∉ (dxrtDspDriverProbe (failsAt .irq ebusy)).2 ∧
      ¬ AllOrNothing (failsAt .irq ebusy) := by
  have ret : (dxrtDspDriverProbe (failsAt .irq ebusy)).1 = 0 := by decide
  have missing : .acquired .irq ∉ (dxrtDspDriverProbe (failsAt .irq ebusy)).2 := by decide
  refine ⟨ret, missing, ?_⟩
  rintro (⟨-, acquired⟩ | ⟨negative, -⟩)
  · exact missing (acquired .irq)
  · exact Int.ne_of_lt negative ret

end DxDsp.Probe
