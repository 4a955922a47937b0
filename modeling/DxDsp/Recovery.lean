/-
This file is about RESET and RECOVERY, which are `dx_v3_dsp_reset_and_start` and
nothing else: two writes to the debug block. The busy mark lives in the system
block, at the offset that is also the reset vector, and two functions write it,
`dx_v3_dsp_run` and the interrupt handler. So a recovery leaves the busy mark of
a hung request where it is, and the DSP restarts from whatever a run or the
handler wrote last.
-/

import DxDsp.BusyMark
import DxDsp.Library.Observation

namespace DxDsp

open Library

/-! ### Who writes the status register -/

/-- Only the lock step of a run writes the status register. -/
theorem runEffect_status (object : Object) (dsp : Dxdsp) {pc : RunPc} (notLock : pc ≠ .lock) :
    readDspStatus (runEffect object dsp pc).regDspBase = readDspStatus dsp.regDspBase := by
  by_cases setId : pc = .setId
  · rw [setId]
    rfl
  · obtain ⟨sram, effect⟩ := runEffect_sram object dsp notLock setId
    rw [effect]

variable {Client : Type} [DecidableEq Client]

/-- A write to the status register: the busy mark of a run, or the idle mark of the handler. -/
inductive StatusWrite
  | run
  | handler
deriving DecidableEq, Repr

def StatusWrite.value : StatusWrite → UInt32
  | .run => dspBusy
  | .handler => 0x0

namespace State

/-- The write to the status register that a step makes. -/
def statusWrite (state : State Client) : Action Client → Option StatusWrite
  | .run caller =>
    match state.running caller with
    | some { pc := .lock, .. } => some .run
    | _ => none
  | .irq =>
    match state.irq with
    | .status _ => some .handler
    | _ => none
  | _ => none

/-- The writes to the status register along a list of actions. -/
def statusWrites (state : State Client) (actions : List (Action Client)) : List StatusWrite :=
  (driver Client).notes statusWrite state actions

theorem afterRun_status {state : State Client} {caller : Caller Client} {request : Object}
    {pc : RunPc} (inside : state.running caller = some { request, pc }) :
    readDspStatus (state.afterRun caller request pc).dx.dsp.regDspBase =
      ((state.statusWrite (.run caller)).map StatusWrite.value).getD
        (readDspStatus state.dx.dsp.regDspBase) := by
  rw [statusWrite, inside]
  cases pc with
  | lock => exact readDspStatus_writeDspStatus _ _
  | _ => exact runEffect_status request state.dx.dsp (by simp)

theorem irqStep_status {state next : State Client} (moved : state.step .irq = some next) :
    readDspStatus next.dx.dsp.regDspBase =
      ((state.statusWrite .irq).map StatusWrite.value).getD
        (readDspStatus state.dx.dsp.regDspBase) := by
  rw [statusWrite]
  rw [step] at moved
  cases place : state.irq with
  | status job =>
    rw [place] at moved
    cases moved
    exact readDspStatus_writeDspStatus _ _
  | idle =>
    rw [place] at moved
    cases moved
  | _ =>
    rw [place] at moved
    cases moved
    rfl

/-- No step but the two writes changes the status register. -/
theorem step_status {state next : State Client} {action : Action Client}
    (moved : state.step action = some next) :
    readDspStatus next.dx.dsp.regDspBase =
      ((state.statusWrite action).map StatusWrite.value).getD
        (readDspStatus state.dx.dsp.regDspBase) := by
  cases action with
  | run caller =>
    obtain ⟨request, pc, inside, -, rfl⟩ := runStep_eq_some moved
    exact afterRun_status inside
  | irq => exact irqStep_status moved
  | complete job =>
    obtain ⟨-, rfl⟩ := complete_eq_some moved
    rfl
  | interrupt job =>
    obtain ⟨-, -, rfl⟩ := interrupt_eq_some moved
    rfl
  | _ => exact (step_sameDsp rfl moved).status

/-- After a run the status register holds what the last of its writes put there. -/
theorem status_of_run {allowed : State Client → Action Client → Prop}
    [∀ state action, Decidable (allowed state action)] {state final : State Client}
    {actions : List (Action Client)}
    (ran : (driver Client).run allowed state actions = some final) :
    readDspStatus final.dx.dsp.regDspBase =
      ((state.statusWrites actions).getLast?.map StatusWrite.value).getD
        (readDspStatus state.dx.dsp.regDspBase) :=
  @Machine.run_holds_last _ _ _ (driver Client) allowed _ state final _ statusWrite
    StatusWrite.value (fun state => readDspStatus state.dx.dsp.regDspBase)
    (fun _ _ _ moved => step_status moved) actions ran

/-! ### Recovery from a hung request -/

/-- Whether a client is inside a call. -/
def inCall (state : State Client) (client : Client) : Bool :=
  match state.calls client with
  | .idle => false
  | _ => true

/-- A call of RESET or RECOVERY, from the state in which the client has entered it, and what
everyone does until it has returned. It always returns 0. -/
structure Recovers (client : Client) (before inside : State Client)
    (during : List (Action Client)) (after : State Client) : Prop where
  begun : before.step (.program client dxrtResetDevice) = some inside
  ran : (driver Client).run (fun state _ => state.inCall client = true) inside during = some after
  returned : after.inCall client = false

/-- As long as no run writes the status register, it does not hold the busy mark. -/
def Freed (state : State Client) : Prop :=
  ∀ later final, (driver Client).run (fun _ _ => True) state later = some final →
    .run ∉ state.statusWrites later → readDspStatus final.dx.dsp.regDspBase ≠ dspBusy

/-- Where the register is free, only a run can take it. -/
theorem freed_iff (state : State Client) :
    state.Freed ↔ readDspStatus state.dx.dsp.regDspBase ≠ dspBusy := by
  constructor
  · intro freed
    exact freed [] state rfl List.not_mem_nil
  · intro free later final ran noRun
    rw [status_of_run ran]
    cases last : (state.statusWrites later).getLast? with
    | none => exact free
    | some write =>
      cases write with
      | run => exact absurd (List.mem_of_getLast? last) noRun
      | handler =>
        have idle : (0x0 : UInt32) ≠ dspBusy := by decide
        exact idle

/-- Of the writes to the status register the last one is the handler's, or there is none and the
register does not hold the busy mark at the beginning. -/
def EndsFree (state : State Client) (during : List (Action Client)) : Prop :=
  match (state.statusWrites during).getLast? with
  | some write => write = .handler
  | none => readDspStatus state.dx.dsp.regDspBase ≠ dspBusy

theorem endsFree_iff {allowed : State Client → Action Client → Prop}
    [∀ state action, Decidable (allowed state action)] {state final : State Client}
    {actions : List (Action Client)}
    (ran : (driver Client).run allowed state actions = some final) :
    state.EndsFree actions ↔ readDspStatus final.dx.dsp.regDspBase ≠ dspBusy := by
  rw [EndsFree, status_of_run ran]
  cases (state.statusWrites actions).getLast? with
  | none => rfl
  | some write =>
    cases write with
    | run => exact iff_of_false (by simp) fun free => free rfl
    | handler =>
      have idle : (0x0 : UInt32) ≠ dspBusy := by decide
      exact iff_of_true rfl idle

end State

/-- A recovery frees the callers that wait exactly when the handler writes its idle mark meanwhile
and no run its busy mark behind it, or nobody writes and the register was free before. -/
theorem recovery_frees_iff {client : Client} {before inside after : State Client}
    {during : List (Action Client)} (recovers : State.Recovers client before inside during after) :
    after.Freed ↔ inside.EndsFree during := by
  rw [State.freed_iff, State.endsFree_iff recovers.ran]

/-- The steps of a RESET that nobody disturbs. -/
def resets (client : Client) : List (Action Client) := List.replicate 3 (.client client false)

/-- A run up to a RESET that nobody disturbs: what the register holds before and after, and who
writes it in between. -/
theorem exists_recovers {client : Client} (actions : List (Action Client)) {first last : UInt32}
    {writes : List StatusWrite}
    (ran : ((driver Client).run (fun _ _ => True) (State.initial boardDsp) actions).bind
        (fun before => (before.step (.program client dxrtResetDevice)).bind fun inside =>
          ((driver Client).run (fun state _ => state.inCall client = true) inside
            (resets client)).map fun after =>
              (readDspStatus inside.dx.dsp.regDspBase, inside.statusWrites (resets client),
                readDspStatus after.dx.dsp.regDspBase, after.inCall client)) =
      some (first, writes, last, false)) :
    ∃ before inside after, (driver Client).Reaches (fun _ _ => True) before ∧
      State.Recovers client before inside (resets client) after ∧
      readDspStatus inside.dx.dsp.regDspBase = first ∧
      inside.statusWrites (resets client) = writes ∧
      readDspStatus after.dx.dsp.regDspBase = last := by
  obtain ⟨before, reached, ran⟩ := Option.bind_eq_some_iff.mp ran
  obtain ⟨inside, begun, ran⟩ := Option.bind_eq_some_iff.mp ran
  obtain ⟨after, during, seen⟩ := Option.map_eq_some_iff.mp ran
  simp only [Prod.mk.injEq] at seen
  obtain ⟨first, writes, last, returned⟩ := seen
  have begins : (driver Client).Reaches (fun _ _ => True) (State.initial boardDsp) :=
    .start ⟨boardDsp, rfl⟩
  exact ⟨before, inside, after, begins.of_run actions reached, ⟨begun, during, returned⟩, first,
    writes, last⟩

/-- A request that the DSP has and never completes. -/
def hangs : List (Action (Fin 2)) := submit 0 1 1 ++ List.replicate 4 .thread ++ runToEnd .thread

/-- A RESET of the idle board leaves the register free. -/
theorem recovery_frees_idle :
    ∃ before inside after, (driver (Fin 2)).Reaches (fun _ _ => True) before ∧
      State.Recovers 1 before inside (resets 1) after ∧ after.Freed := by
  obtain ⟨before, inside, after, reached, recovers, first, writes, -⟩ :=
    @exists_recovers (Fin 2) _ 1 [] 0xC0000000 0xC0000000 [] (by decide +kernel)
  refine ⟨before, inside, after, reached, recovers, (recovery_frees_iff recovers).mpr ?_⟩
  rw [State.EndsFree, writes]
  show readDspStatus inside.dx.dsp.regDspBase ≠ dspBusy
  rw [first]
  decide

/-- A RESET of a hung DSP leaves the busy mark where it is. -/
theorem recovery_leaves_busy :
    ∃ before inside after, (driver (Fin 2)).Reaches (fun _ _ => True) before ∧
      State.Recovers 1 before inside (resets 1) after ∧
      readDspStatus after.dx.dsp.regDspBase = dspBusy ∧ ¬ after.Freed := by
  obtain ⟨before, inside, after, reached, recovers, -, -, last⟩ :=
    @exists_recovers (Fin 2) _ 1 hangs dspBusy dspBusy [] (by decide +kernel)
  exact ⟨before, inside, after, reached, recovers, last,
    fun freed => (State.freed_iff after).mp freed last⟩

/-! ### The reset vector -/

/-- `dx_v3_dsp_init` leaves the firmware's address in the reset vector, over its own idle mark. -/
theorem dxV3DspInit_resetVector (dsp : Dxdsp) :
    dspRegRead (dxV3DspInit dsp).regDspBase regDspResetCtrl = dsp.regDspBasePhyAddrRomRam := rfl

/-- The next step of the call is a store of the reset pulse: 0x10000, which puts the DSP into reset,
or 0x0, which releases it. -/
def CallPc.pulses : CallPc → Bool
  | .program (.reset _ :: _) => true
  | _ => false

/-- A run from the probe that stands at either store of a reset pulse of RESET or RECOVERY. -/
structure Pulse (dsp : Dxdsp) (before : List (Action Client)) (state : State Client) : Prop where
  ran : (driver Client).run (fun _ _ => True) (State.initial dsp) before = some state
  stands : ∃ client, (state.calls client).pulses = true

/-- At each store of a reset pulse the reset vector is the one of the firmware exactly when no run
and no interrupt has written the status register since the probe, or the last to do so happened to
write it. At the second store that counts those between the two. -/
theorem reset_vector_iff {dsp : Dxdsp} {before : List (Action Client)} {state : State Client}
    (pulse : Pulse dsp before state) :
    dspRegRead state.dx.dsp.regDspBase regDspResetCtrl = dsp.regDspBasePhyAddrRomRam ↔
      ∀ write, ((State.initial dsp).statusWrites before).getLast? = some write →
        write.value = dsp.regDspBasePhyAddrRomRam := by
  have held : readDspStatus (State.initial dsp : State Client).dx.dsp.regDspBase =
      dsp.regDspBasePhyAddrRomRam := dxV3DspInit_resetVector dsp
  show readDspStatus state.dx.dsp.regDspBase = _ ↔ _
  rw [State.status_of_run pulse.ran, held]
  cases ((State.initial dsp).statusWrites before).getLast? with
  | none => simp
  | some write => simp

/-- A RESET of the board up to the store that releases the DSP. -/
def resetsOnce : List (Action (Fin 1)) := [.program 0 dxrtResetDevice, .client 0 false]

/-- A RESET of the board that has served no request restarts the firmware. -/
theorem reset_vector_fresh :
    ∃ state, Pulse boardDsp resetsOnce state ∧ state.calls 0 = .program [.reset 0x0] ∧
      dspRegRead state.dx.dsp.regDspBase regDspResetCtrl = boardDsp.regDspBasePhyAddrRomRam := by
  obtain ⟨state, ran, seen⟩ := Option.map_eq_some_iff.mp
    (show ((driver (Fin 1)).run (fun _ _ => True) (State.initial boardDsp) resetsOnce).map
        (fun state => state.calls 0) = some (.program [.reset 0x0]) from rfl)
  have stands : (state.calls 0).pulses = true := congrArg CallPc.pulses seen
  have pulse : Pulse boardDsp resetsOnce state := ⟨ran, 0, stands⟩
  refine ⟨state, pulse, seen, (reset_vector_iff pulse).mpr ?_⟩
  intro write last
  cases last

/-- One request from its submission to the end of its interrupt, and a RESET. -/
def servesThenResets : List (Action (Fin 1)) :=
  submit 0 1 1 ++ List.replicate 4 .thread ++ runToEnd .thread ++ completeAndHandle ⟨.thread, 1⟩ ++
    [.program 0 dxrtResetDevice]

/-- A RESET of the board that has served no request, with the busy mark of a run between its two
stores. -/
def resetsAroundMark : List (Action (Fin 2)) :=
  submit 0 1 1 ++ List.replicate 4 .thread ++
    [.run .thread, .program 1 dxrtResetDevice, .client 1 false, .run .thread]

/-- A run from the probe up to a store of a reset pulse, and what the reset vector is there. -/
theorem exists_pulse {actions : List (Action Client)} (client : Client) {vector : UInt32}
    (ran : ((driver Client).run (fun _ _ => True) (State.initial boardDsp) actions).map
        (fun state => ((state.calls client).pulses,
          dspRegRead state.dx.dsp.regDspBase regDspResetCtrl)) = some (true, vector)) :
    ∃ state, Pulse boardDsp actions state ∧
      dspRegRead state.dx.dsp.regDspBase regDspResetCtrl = vector := by
  obtain ⟨state, ran, seen⟩ := Option.map_eq_some_iff.mp ran
  obtain ⟨stands, vector⟩ := Prod.mk.inj seen
  exact ⟨state, ⟨ran, client, stands⟩, vector⟩

/-- After one request a RESET restarts the DSP from address 0, the handler's idle mark, and a run
between the two stores of a RESET has it restarted from the busy mark. -/
theorem reset_vector_lost :
    (∃ state, Pulse boardDsp servesThenResets state ∧
      dspRegRead state.dx.dsp.regDspBase regDspResetCtrl = 0x0) ∧
    (∃ state, Pulse boardDsp resetsAroundMark state ∧
      dspRegRead state.dx.dsp.regDspBase regDspResetCtrl = dspBusy) ∧
    boardDsp.regDspBasePhyAddrRomRam = 0xC0000000 :=
  ⟨exists_pulse 0 (by decide +kernel), exists_pulse 1 (by decide +kernel), rfl⟩

end DxDsp
