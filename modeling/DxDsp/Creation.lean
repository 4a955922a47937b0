/-
This file puts clients and interrupts beside a probe that succeeds. Devices are
visible to clients from `cdev_add` on and the handler is installed by
`request_irq`, and both come before the statements that initialise what their
users touch: `dxdev->dsp` and the lists and locks of the device behind the one,
`irq_wq` behind the other.

Once initialised, a field stays so. So an operation is safe to its end exactly if
it begins behind the last of the fields it uses.
-/

import DxDsp.Locks
import DxDsp.Probe
import DxDsp.Library.Observation
import DxDsp.Library.Timeline

namespace DxDsp.Creation

open Library

/-! ### The probe as a list of steps -/

inductive WaitQueue
  | irqWq
  | requestWq
  | errorWq
deriving DecidableEq, Repr

inductive ListHead
  | requests
  | responses
deriving DecidableEq, Repr

/-- A statement of `create_dxrt_device`, `dxrt_dsp_init` and `dx_v3_dsp_init`. -/
inductive ProbeStep
  | acquire (acquisition : Probe.Acquisition)
  | setFields
  | cdevInit
  | setDmaMask
  | setDspFields
  | setResponse
  | spinLockInit (lock : Locks.Spinlock)
  | bufInit
  | clearIrqEvent
  | initWaitqueueHead (queue : WaitQueue)
  | irqInit
  | setStatus
  | clockEnableAndReady
  | start
  | setDsp
  | initListHead (list : ListHead)
  | mutexInit
deriving DecidableEq, Repr

/-- `dx_v3_dsp_init`. -/
def dxV3DspInit : List ProbeStep :=
  [.acquire (.ioremap 0), .acquire (.ioremap 1), .acquire (.ioremap 2), .acquire (.ioremap 3),
    .acquire (.ioremap 4), .acquire (.ioremap 5), .bufInit, .acquire .irq, .clearIrqEvent,
    .initWaitqueueHead .irqWq, .irqInit, .acquire .dmaBuf, .setStatus, .clockEnableAndReady, .start]

/-- `dxrt_dsp_init`. -/
def dxrtDspInit : List ProbeStep :=
  [.acquire .dsp, .setDspFields, .setResponse, .spinLockInit .irqEventLock, .acquire (.resource 0),
    .acquire (.resource 1), .acquire (.resource 2), .acquire (.resource 3), .acquire (.resource 4),
    .acquire (.resource 5), .acquire (.resource 6), .acquire .irqNumber, .acquire .deviceId,
    .acquire .dmaBufSize] ++ dxV3DspInit

/-- `create_dxrt_device`. -/
def createDxrtDevice : List ProbeStep :=
  [.acquire .dxdev, .setFields, .cdevInit, .acquire .cdev, .acquire .device, .setDmaMask] ++
    dxrtDspInit ++
      [.setDsp, .initListHead .requests, .initListHead .responses, .initWaitqueueHead .requestWq,
        .initWaitqueueHead .errorWq, .spinLockInit .requestsLock, .spinLockInit .responsesLock,
        .spinLockInit .errorLock, .mutexInit, .acquire .requestHandler]

def ProbeStep.acquisition : ProbeStep → Option Probe.Acquisition
  | .acquire acquisition => some acquisition
  | _ => none

/-- Its acquisitions are those of the probe, in the same order. -/
theorem createDxrtDevice_acquisitions :
    Probe.programOrder =
      .chrdevRegion :: .devClass :: createDxrtDevice.filterMap ProbeStep.acquisition := by
  decide

/-! ### What is initialised -/

/-- What file operations and the interrupt handler find initialised or not. -/
inductive Field
  | dsp
  | response
  | mapping (i : Fin 6)
  | lock (lock : Locks.Spinlock)
  | waitQueue (queue : WaitQueue)
  | listHead (list : ListHead)
  | requestHandler
deriving DecidableEq, Repr

/-- The field that a statement initialises. -/
def initialises : ProbeStep → Option Field
  | .setDsp => some .dsp
  | .setResponse => some .response
  | .acquire (.ioremap i) => some (.mapping i)
  | .spinLockInit lock => some (.lock lock)
  | .initWaitqueueHead queue => some (.waitQueue queue)
  | .initListHead list => some (.listHead list)
  | .acquire .requestHandler => some .requestHandler
  | _ => none

def initialiser : Field → ProbeStep
  | .dsp => .setDsp
  | .response => .setResponse
  | .mapping i => .acquire (.ioremap i)
  | .lock lock => .spinLockInit lock
  | .waitQueue queue => .initWaitqueueHead queue
  | .listHead list => .initListHead list
  | .requestHandler => .acquire .requestHandler

theorem initialises_eq_some_iff (step : ProbeStep) (field : Field) :
    initialises step = some field ↔ step = initialiser field := by
  constructor
  · intro same
    cases step with
    | acquire acquisition =>
      cases acquisition <;> cases same <;> rfl
    | setDsp | setResponse | spinLockInit | initWaitqueueHead | initListHead =>
      cases same
      rfl
    | _ => cases same
  · rintro rfl
    cases field <;> rfl

/-- The field is initialised when the probe has taken so many of its steps. -/
def Initialised (passed : Nat) (field : Field) : Prop :=
  Dealt initialises createDxrtDevice passed field

theorem initialised_iff {passed : Nat} {field : Field} :
    Initialised passed field ↔ Taken createDxrtDevice passed (initialiser field) :=
  dealt_iff_taken initialises_eq_some_iff

instance (passed : Nat) (field : Field) : Decidable (Initialised passed field) :=
  decidable_of_iff _ initialised_iff.symm

/-! ### What the users use -/

/-- A file operation. -/
inductive Op
  | devOpen
  | devRead
  | devWrite
  | devPoll
  | devIoctl (cmd : UInt32) (arg : UserSource DxrtMessage)

/-- The list heads, locks and wait queues that a handler uses. -/
def handlerUses (msg : DxrtMessage) : Handler → List Field
  | .dxrtIdentifyDevice => [.listHead .responses, .lock .responsesLock]
  | .dxrtReadOutput =>
    if msg.data.target = .null then []
    else [.listHead .responses, .waitQueue .irqWq, .lock .irqEventLock, .lock .responsesLock]
  | .dxrtTerminate =>
    [.lock .irqEventLock, .waitQueue .irqWq, .lock .errorLock, .waitQueue .errorWq]
  | .dxrtAllocBuf => if msg.data.target = .null then [] else [.lock .irqEventLock]
  | .dxrtFreeBuf =>
    match msg.data.bufferMetadata with
    | .null | .fault => []
    | .holds _ => [.lock .irqEventLock]
  | .dxrtWriteMem | .dxrtReadMem | .dxrtCpuCacheFlush | .dxrtWriteInput | .dxrtSocCustom
  | .dxrtMsgGeneral | .dxrtResetDevice | .dxrtGetLog | .dxrtHandleDrvInfo | .dxrtSchedule
  | .dxrtDspRunRequest | .dxrtDspRunResponse | .dxrtRecoveryDevice => []

def entryUses : Entry → List Field
  | .returns _ | .oops => []
  | .handler handler msg => handlerUses msg handler

/-- The list heads, locks and wait queues that an operation uses which begins when the probe has
taken so many steps. `dxrt_dev_write` looks at `request_handler` first. -/
def uses (passed : Nat) : Op → List Field
  | .devOpen | .devRead => []
  | .devWrite =>
    if Initialised passed .requestHandler then
      [.lock .requestsLock, .listHead .requests, .waitQueue .requestWq]
    else []
  | .devPoll => [.waitQueue .irqWq, .lock .irqEventLock]
  | .devIoctl cmd arg => entryUses (dxrtDevIoctl cmd arg)

/-- What `dsp_irq_handler` uses: besides the wait queue and the lock, the response pointer and the
registers of the mailbox and of the DSP. -/
def dspIrqHandlerUses : List Field :=
  [.waitQueue .irqWq, .lock .irqEventLock, .response, .mapping 3, .mapping 0]

/-! ### The machine -/

/-- A file handle of a client. -/
inductive FileHandle
  | closed
  | opened
  | running (op : Op) (uses : List Field)

/-- The first thing a client does with the device is to open it. -/
def FileHandle.mayEnter : FileHandle → Op → Bool
  | .closed, .devOpen => true
  | .opened, .devRead | .opened, .devWrite | .opened, .devPoll | .opened, .devIoctl _ _ => true
  | _, _ => false

structure State (Client : Type) where
  passed : Nat
  files : Client → FileHandle
  irq : Bool

inductive Action (Client : Type)
  | probe
  | enter (client : Client) (op : Op)
  | leave (client : Client)
  | interrupt
  | irqReturn

variable {Client : Type} [DecidableEq Client]

namespace State

def initial : State Client where
  passed := 0
  files := fun _ => .closed
  irq := false

def setFile (state : State Client) (client : Client) (file : FileHandle) : State Client :=
  { state with files := Function.update state.files client file }

def step (state : State Client) : Action Client → Option (State Client)
  | .probe =>
    if state.passed < createDxrtDevice.length then
      some { state with passed := state.passed + 1 }
    else none
  | .enter client op =>
    if Taken createDxrtDevice state.passed (.acquire .cdev) ∧ (state.files client).mayEnter op then
      some (state.setFile client (.running op (uses state.passed op)))
    else none
  | .leave client =>
    match state.files client with
    | .running _ _ => some (state.setFile client .opened)
    | _ => none
  | .interrupt =>
    if Taken createDxrtDevice state.passed (.acquire .irq) ∧ state.irq = false then
      some { state with irq := true }
    else none
  | .irqReturn => if state.irq then some { state with irq := false } else none

/-- No operation is running that finds `dxdev->dsp` NULL or a list head, lock or wait queue it uses
uninitialised, and neither is the handler on what it uses. -/
structure Clean (state : State Client) : Prop where
  files : ∀ client op used, state.files client = .running op used →
    Initialised state.passed .dsp ∧ ∀ field ∈ used, Initialised state.passed field
  irq : state.irq = true → ∀ field ∈ dspIrqHandlerUses, Initialised state.passed field

end State

/-- A probe whose acquisitions all succeed, with its clients and its interrupts. -/
def creation (Client : Type) [DecidableEq Client] : Machine (State Client) (Action Client) where
  start state := state = State.initial
  step := State.step

/-! ### When it is early enough to begin -/

/-- The statement behind which a handler may run. -/
def handlerReady (msg : DxrtMessage) : Handler → ProbeStep
  | .dxrtIdentifyDevice => .spinLockInit .responsesLock
  | .dxrtReadOutput => if msg.data.target = .null then .setDsp else .spinLockInit .responsesLock
  | .dxrtTerminate => .spinLockInit .errorLock
  | _ => .setDsp

/-- The statement behind which an operation may begin. -/
def ready : Op → ProbeStep
  | .devIoctl cmd arg =>
    match dxrtDevIoctl cmd arg with
    | .handler handler msg => handlerReady msg handler
    | .returns _ | .oops => .setDsp
  | _ => .setDsp

/-- The fields are initialised together with `dxdev->dsp` when the last of them is. -/
theorem ready_iff {passed : Nat} (used : List Field) (last : ProbeStep)
    (listed : last ∈ (Field.dsp :: used).map initialiser)
    (order : ∀ step ∈ (Field.dsp :: used).map initialiser,
      createDxrtDevice.idxOf step ≤ createDxrtDevice.idxOf last) :
    (Initialised passed .dsp ∧ ∀ field ∈ used, Initialised passed field) ↔
      Taken createDxrtDevice passed last := by
  rw [← forall_taken_iff listed order, List.forall_mem_map, List.forall_mem_cons]
  simp only [initialised_iff]

/-- What `dxrt_dsp_init` initialises is initialised in front of `dxdev->dsp`. -/
theorem dspOnly_iff (passed : Nat) :
    (Initialised passed .dsp ∧ ∀ field ∈ [], Initialised passed field) ↔
      Taken createDxrtDevice passed .setDsp :=
  ready_iff [] .setDsp (by decide) (by decide)

theorem irqEventLock_iff (passed : Nat) :
    (Initialised passed .dsp ∧ ∀ field ∈ [.lock .irqEventLock], Initialised passed field) ↔
      Taken createDxrtDevice passed .setDsp :=
  ready_iff [.lock .irqEventLock] .setDsp (by decide) (by decide)

theorem handlerReady_iff (passed : Nat) (msg : DxrtMessage) (handler : Handler) :
    (Initialised passed .dsp ∧ ∀ field ∈ handlerUses msg handler, Initialised passed field) ↔
      Taken createDxrtDevice passed (handlerReady msg handler) := by
  cases handler with
  | dxrtIdentifyDevice =>
    exact ready_iff [.listHead .responses, .lock .responsesLock] (.spinLockInit .responsesLock)
      (by decide) (by decide)
  | dxrtReadOutput =>
    rw [handlerUses, handlerReady]
    split
    · exact dspOnly_iff passed
    · exact ready_iff
        [.listHead .responses, .waitQueue .irqWq, .lock .irqEventLock, .lock .responsesLock]
        (.spinLockInit .responsesLock) (by decide) (by decide)
  | dxrtTerminate =>
    exact ready_iff
      [.lock .irqEventLock, .waitQueue .irqWq, .lock .errorLock, .waitQueue .errorWq]
      (.spinLockInit .errorLock) (by decide) (by decide)
  | dxrtAllocBuf =>
    rw [handlerUses]
    split
    · exact dspOnly_iff passed
    · exact irqEventLock_iff passed
  | dxrtFreeBuf =>
    rw [handlerUses]
    split
    · exact dspOnly_iff passed
    · exact dspOnly_iff passed
    · exact irqEventLock_iff passed
  | _ => exact dspOnly_iff passed

/-- A `write()` finds `request_handler` set behind everything else that it uses. -/
theorem writeReady_iff (passed : Nat) :
    (Initialised passed .dsp ∧ ∀ field ∈ uses passed .devWrite, Initialised passed field) ↔
      Taken createDxrtDevice passed .setDsp := by
  rw [uses]
  split
  · next handler =>
    rw [initialised_iff] at handler
    have all := (ready_iff [.lock .requestsLock, .listHead .requests, .waitQueue .requestWq]
      (.spinLockInit .requestsLock) (by decide) (by decide)).mpr (handler.earlier (by decide))
    exact iff_of_true all (handler.earlier (by decide))
  · exact dspOnly_iff passed

/-- An operation may begin exactly when the fields it uses are initialised. -/
theorem opReady_iff (passed : Nat) (op : Op) :
    (Initialised passed .dsp ∧ ∀ field ∈ uses passed op, Initialised passed field) ↔
      Taken createDxrtDevice passed (ready op) := by
  cases op with
  | devOpen | devRead => exact dspOnly_iff passed
  | devPoll =>
    exact ready_iff [.waitQueue .irqWq, .lock .irqEventLock] .setDsp (by decide) (by decide)
  | devWrite => exact writeReady_iff passed
  | devIoctl cmd arg =>
    rw [uses, ready]
    cases dxrtDevIoctl cmd arg with
    | returns | oops => exact dspOnly_iff passed
    | handler handler msg => exact handlerReady_iff passed msg handler

/-- The handler may run exactly behind the initialisation of `irq_wq`, once it is installed. -/
theorem irqReady_iff (passed : Nat) :
    (∀ field ∈ dspIrqHandlerUses, Initialised passed field) ↔
      Taken createDxrtDevice passed (.initWaitqueueHead .irqWq) := by
  have listed : ProbeStep.initWaitqueueHead .irqWq ∈ dspIrqHandlerUses.map initialiser := by decide
  have order : ∀ step ∈ dspIrqHandlerUses.map initialiser,
      createDxrtDevice.idxOf step ≤ createDxrtDevice.idxOf (.initWaitqueueHead .irqWq) := by
    decide
  rw [← forall_taken_iff listed order, List.forall_mem_map]
  simp only [initialised_iff]

namespace State

/-- Every operation begins behind the statement that makes it ready, and no interrupt is taken in
front of `init_waitqueue_head(&dsp->irq_wq)`. -/
def Timely (state : State Client) : Action Client → Prop
  | .enter _ op => Taken createDxrtDevice state.passed (ready op)
  | .interrupt => Taken createDxrtDevice state.passed (.initWaitqueueHead .irqWq)
  | .probe | .leave _ | .irqReturn => True

omit [DecidableEq Client] in
theorem clean_initial : (initial : State Client).Clean where
  files := fun _ _ _ running => by cases running
  irq := fun running => by cases running

omit [DecidableEq Client] in
/-- The probe goes on: what is initialised stays so. -/
theorem Clean.probe {state : State Client} (clean : state.Clean) :
    Clean { state with passed := state.passed + 1 } where
  files := by
    intro client op used running
    obtain ⟨dsp, fields⟩ := clean.files client op used running
    exact ⟨dsp.later, fun field member => (fields field member).later⟩
  irq := fun running field member => (clean.irq running field member).later

/-- A handle changes and nothing else. -/
theorem clean_setFile_iff {state : State Client} (clean : state.Clean) (client : Client)
    (file : FileHandle) :
    (state.setFile client file).Clean ↔
      ∀ op used, file = .running op used →
        Initialised state.passed .dsp ∧ ∀ field ∈ used, Initialised state.passed field := by
  have files : (state.setFile client file).files = Function.update state.files client file := rfl
  constructor
  · intro after op used running
    refine after.files client op used ?_
    rw [files, Function.update_self, running]
  · intro safe
    refine ⟨fun other op used running => ?_, clean.irq⟩
    rw [files] at running
    by_cases same : other = client
    · rw [same, Function.update_self] at running
      exact safe op used running
    · rw [Function.update_of_ne same] at running
      exact clean.files other op used running

/-- A step keeps the state clean exactly if it is timely. -/
theorem clean_step_iff {state next : State Client} {action : Action Client} (clean : state.Clean)
    (moved : state.step action = some next) : next.Clean ↔ state.Timely action := by
  cases action with
  | probe =>
    rw [step] at moved
    split at moved <;> cases moved
    exact iff_of_true clean.probe trivial
  | enter client op =>
    rw [step] at moved
    split at moved <;> cases moved
    rw [clean_setFile_iff clean, Timely, ← opReady_iff]
    constructor
    · intro safe
      exact safe op _ rfl
    · rintro safe _ _ ⟨⟩
      exact safe
  | leave client =>
    rw [step] at moved
    split at moved <;> cases moved
    refine iff_of_true ((clean_setFile_iff clean client .opened).mpr ?_) trivial
    intro _ _ running
    cases running
  | interrupt =>
    rw [step] at moved
    split at moved <;> cases moved
    rw [Timely, ← irqReady_iff]
    exact ⟨fun after => after.irq rfl, fun safe => ⟨clean.files, fun _ => safe⟩⟩
  | irqReturn =>
    rw [step] at moved
    split at moved <;> cases moved
    exact iff_of_true ⟨clean.files, fun running => by cases running⟩ trivial

end State

/-- All along a run of the probe with its clients and interrupts nobody finds anything
uninitialised exactly if every step of the run is timely. -/
theorem creation_clean_iff (actions : List (Action Client)) :
    (creation Client).Throughout State.Clean State.initial actions ↔
      (creation Client).StepsMeet State.Timely State.initial actions := by
  have decided : ∀ state action next, state.Clean →
      (creation Client).step state action = some next → (next.Clean ↔ state.Timely action) :=
    fun _ _ _ clean moved => State.clean_step_iff clean moved
  exact Machine.throughout_iff_stepsMeet decided State.clean_initial actions

/-! ### Early users -/

/-- The probe up to and including a statement. -/
def probeThrough (last : ProbeStep) : List (Action (Fin 1)) :=
  List.replicate (createDxrtDevice.idxOf last + 1) .probe

/-- A client that opens the device as soon as `cdev_add` returns finds `dxdev->dsp` NULL, and an
interrupt taken as soon as `request_irq` returns finds `irq_wq` uninitialised. -/
theorem creation_publishes_early :
    (∃ state, (creation (Fin 1)).run (fun _ _ => True) State.initial
        (probeThrough (.acquire .cdev) ++ [.enter 0 .devOpen]) = some state ∧
      (∃ used, state.files 0 = .running .devOpen used) ∧ ¬ Initialised state.passed .dsp) ∧
    (∃ state, (creation (Fin 1)).run (fun _ _ => True) State.initial
        (probeThrough (.acquire .irq) ++ [.interrupt]) = some state ∧
      state.irq = true ∧ ¬ Initialised state.passed (.waitQueue .irqWq)) ∧
    ¬ ∀ actions : List (Action (Fin 1)),
      (creation (Fin 1)).Throughout State.Clean State.initial actions := by
  have early : ∃ state, (creation (Fin 1)).run (fun _ _ => True) State.initial
      (probeThrough (.acquire .irq) ++ [.interrupt]) = some state ∧
        state.irq = true ∧ ¬ Initialised state.passed (.waitQueue .irqWq) :=
    ⟨_, rfl, rfl, by decide⟩
  refine ⟨⟨_, rfl, ⟨_, rfl⟩, by decide⟩, early, fun clean => ?_⟩
  obtain ⟨state, ran, running, uninitialised⟩ := early
  exact uninitialised (((clean _).last ran).irq running _ (by decide))

end DxDsp.Creation
