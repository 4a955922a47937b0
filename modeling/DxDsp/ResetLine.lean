/-
This file is about the reset line of the DSP. RESET and RECOVERY raise it and
lower it again in two stores with nothing that keeps other clients out, so pulses
of several clients may overlap. The line is up only while some client is between
its two stores: no overlap leaves the DSP in reset.
-/

import DxDsp.Calls
import DxDsp.Progress

namespace DxDsp

open Library

variable {Client : Type}

/-! ### Which steps write the SRAM and the reset register -/

/-- The value that the next step of a call writes to the reset register. -/
def CallPc.resetWrite : CallPc → Option UInt32
  | .program (.reset value :: _) => some value
  | _ => none

namespace State

def resetWrite (state : State Client) : Action Client → Option UInt32
  | .client client _ => (state.calls client).resetWrite
  | _ => none

/-- What a step outside `dx_v3_dsp_run` does to the two register blocks. -/
structure Writes (state next : State Client) (value : Option UInt32) : Prop where
  sram : next.dx.dsp.regDspBaseSram = state.dx.dsp.regDspBaseSram
  reset : next.dx.dsp.regDspBaseDebug =
    (value.map (dspRegWrite state.dx.dsp.regDspBaseDebug regDspReset)).getD
      state.dx.dsp.regDspBaseDebug

theorem Writes.quiet {state next : State Client}
    (sram : next.dx.dsp.regDspBaseSram = state.dx.dsp.regDspBaseSram)
    (debug : next.dx.dsp.regDspBaseDebug = state.dx.dsp.regDspBaseDebug) :
    Writes state next none :=
  ⟨sram, debug⟩

variable [DecidableEq Client]

theorem writes_outputStep {state next : State Client} {client : Client} {disturbed : Bool}
    {pc : OutputPc} (moved : state.outputStep client disturbed pc = some next) :
    Writes state next none := by
  cases pc with
  | test | clear =>
    cases moved
    exact .quiet rfl rfl
  | wait =>
    rw [outputStep] at moved
    split at moved
    · cases moved
      exact .quiet rfl rfl
    · split at moved <;> cases moved
      exact .quiet rfl rfl
  | take =>
    rw [outputStep] at moved
    split at moved
    · cases moved
    · split at moved
      · cases moved
        exact .quiet rfl rfl
      · split at moved <;> cases moved <;> exact .quiet rfl rfl

theorem writes_clientStep {state next : State Client} {client : Client} {disturbed : Bool}
    {call : CallPc} (moved : state.clientStep client disturbed call = some next) :
    Writes state next call.resetWrite := by
  cases call with
  | idle => cases moved
  | queue | wake =>
    cases moved
    exact .quiet rfl rfl
  | input request pc =>
    cases pc <;> cases moved
    exact .quiet rfl rfl
  | program steps =>
    cases steps with
    | nil =>
      cases moved
      exact .quiet rfl rfl
    | cons effect rest =>
      rw [clientStep] at moved
      split at moved <;> cases moved
      cases effect <;> exact ⟨rfl, rfl⟩
  | output pc => exact writes_outputStep moved

/-- Only the runs write the SRAM, and only the two stores of a reset the reset register. -/
theorem writes_step {state next : State Client} {action : Action Client}
    (other : ∀ caller, action ≠ .run caller) (moved : state.step action = some next) :
    Writes state next (state.resetWrite action) := by
  cases action with
  | write client node len data =>
    obtain ⟨-, rfl⟩ := whenIdle_eq_some moved
    rw [beginWrite]
    split <;> exact .quiet rfl rfl
  | writeInput client data | readOutput client data =>
    obtain ⟨-, rfl⟩ := whenIdle_eq_some moved
    cases data <;> exact .quiet rfl rfl
  | program client steps =>
    rw [step] at moved
    split at moved
    · obtain ⟨-, rfl⟩ := whenIdle_eq_some moved
      exact .quiet rfl rfl
    · cases moved
  | writeMem client data source =>
    obtain ⟨-, rfl⟩ := whenIdle_eq_some moved
    show Writes state { state with dx := (dxrtWriteMem state.dx data source).1 } none
    rw [dxrtWriteMem]
    split <;> exact .quiet rfl rfl
  | poll client =>
    obtain ⟨-, rfl⟩ := whenIdle_eq_some moved
    exact .quiet rfl rfl
  | read client len fault =>
    obtain ⟨-, rfl⟩ := whenIdle_eq_some moved
    rw [readStep]
    split <;> exact .quiet rfl rfl
  | client client disturbed => exact writes_clientStep moved
  | run caller => exact absurd rfl (other caller)
  | thread =>
    obtain ⟨thread, requests, rfl⟩ := threadStep_eq_some moved
    exact .quiet rfl rfl
  | stop =>
    cases moved
    exact .quiet rfl rfl
  | complete job =>
    obtain ⟨-, rfl⟩ := complete_eq_some moved
    exact .quiet rfl rfl
  | interrupt job =>
    obtain ⟨-, -, rfl⟩ := interrupt_eq_some moved
    exact .quiet rfl rfl
  | irq =>
    rw [step] at moved
    cases place : state.irq with
    | idle =>
      rw [place] at moved
      cases moved
    | _ =>
      rw [place] at moved
      cases moved
      exact .quiet rfl rfl

omit [DecidableEq Client] in
theorem runEffect_debug (object : Object) (dsp : Dxdsp) (pc : RunPc) :
    (runEffect object dsp pc).regDspBaseDebug = dsp.regDspBaseDebug := by
  cases pc with
  | wait | lock | setId | slot | done => rfl
  | data | head =>
    rw [runEffect, runAccesses]
    split <;> rfl

theorem debug_step {state next : State Client} {action : Action Client}
    (moved : state.step action = some next) :
    next.dx.dsp.regDspBaseDebug =
      ((state.resetWrite action).map (dspRegWrite state.dx.dsp.regDspBaseDebug regDspReset)).getD
        state.dx.dsp.regDspBaseDebug := by
  by_cases inRun : ∃ caller, action = .run caller
  · obtain ⟨caller, rfl⟩ := inRun
    obtain ⟨request, pc, -, -, rfl⟩ := runStep_eq_some moved
    exact runEffect_debug request state.dx.dsp pc
  · exact (writes_step (fun caller same => inRun ⟨caller, same⟩) moved).reset

/-! ### What is left of a program -/

/-- The rest of a program of some file operation. -/
def Remains (steps : List Micro) : Prop := ∃ whole, Offered whole ∧ steps <:+ whole

omit [DecidableEq Client] in
/-- A reset is about to raise the line and lower it, or about to lower it. -/
theorem Remains.reset {value : UInt32} {rest : List Micro}
    (remains : Remains (.reset value :: rest)) :
    (value = 0x10000 ∧ rest = [.reset 0x0]) ∨ (value = 0x0 ∧ rest = []) := by
  obtain ⟨whole, offered, suffix⟩ := remains
  rcases offered with rfl | rfl | rfl | rfl <;>
    simp [dxrtDevOpen, dxrtIdentify, dxrtTerminate, dxrtResetDevice, List.suffix_cons_iff] at suffix
  exact suffix

/-- Every program in progress is what is left of one that a file operation consists of. -/
def Programs (state : State Client) : Prop :=
  ∀ client steps, state.calls client = .program steps → Remains steps

theorem Programs.step {state next : State Client} {action : Action Client}
    (programs : Programs state) (moved : state.step action = some next) : Programs next := by
  intro client steps place
  have call := step_call moved client
  rw [place] at call
  cases before : state.calls client <;> rw [before] at call <;> cases call
  case stays => exact programs client steps before
  case program offered => exact ⟨steps, offered, List.suffix_refl steps⟩
  case effect effect =>
    obtain ⟨whole, offered, suffix⟩ := programs client _ before
    exact ⟨whole, offered, (List.suffix_cons effect steps).trans suffix⟩

/-! ### The line is up only inside a pulse -/

/-- The line is down, or up and some client is about to lower it. -/
def Pulsed (state : State Client) : Prop :=
  dspRegRead state.dx.dsp.regDspBaseDebug regDspReset = 0x0 ∨
    (dspRegRead state.dx.dsp.regDspBaseDebug regDspReset = 0x10000 ∧
      ∃ client, state.calls client = .program [.reset 0x0])

theorem Pulsed.step {state next : State Client} {action : Action Client} (pulsed : Pulsed state)
    (programs : Programs state) (moved : state.step action = some next) : Pulsed next := by
  have debug := debug_step moved
  cases write : state.resetWrite action with
  | none =>
    rw [write, Option.map_none, Option.getD_none] at debug
    rw [Pulsed, debug]
    refine pulsed.imp_right fun ⟨up, client, place⟩ => ⟨up, client, ?_⟩
    rcases step_calls moved with calls | ⟨mover, call, moves, calls, -⟩
    · rw [calls]
      exact place
    · have apart : client ≠ mover := by
        rintro rfl
        rcases mover_place moved moves with idle | ⟨request, pc, input⟩ | ⟨disturbed, rfl⟩
        · exact CallPc.noConfusion (idle.symm.trans place)
        · exact CallPc.noConfusion (input.symm.trans place)
        · rw [resetWrite, place] at write
          cases write
      rw [calls, Function.update_of_ne apart]
      exact place
  | some value =>
    rw [write, Option.map_some, Option.getD_some] at debug
    rw [Pulsed, debug, dspRegRead, dspRegWrite, Function.update_self]
    cases action with
    | client client disturbed =>
      rw [resetWrite] at write
      cases place : state.calls client with
      | program steps =>
        rw [place] at write
        cases steps with
        | nil => cases write
        | cons effect rest =>
          obtain rfl : effect = .reset value := by
            cases effect <;> cases write
            rfl
          rcases (programs client _ place).reset with ⟨raises, rfl⟩ | ⟨lowers, -⟩
          · rw [State.step, place, clientStep, if_neg (by simp)] at moved
            cases moved
            exact Or.inr ⟨raises, client, Function.update_self _ _ _⟩
          · exact Or.inl lowers
      | _ =>
        rw [place] at write
        cases write
    | _ => cases write

end State

variable [DecidableEq Client]

/-- In every run, however the pulses of RESET and RECOVERY overlap, the reset register holds the
pulse only while some client is about to take it away, and 0 otherwise. -/
theorem reset_line_up_only_in_pulse {state : State Client}
    (reached : (driver Client).Reaches (fun _ _ => True) state) :
    dspRegRead state.dx.dsp.regDspBaseDebug regDspReset = 0x0 ∨
      (dspRegRead state.dx.dsp.regDspBaseDebug regDspReset = 0x10000 ∧
        ∃ client, state.calls client = .program [.reset 0x0]) := by
  have kept : state.Programs ∧ state.Pulsed := by
    induction reached with
    | start begins =>
      obtain ⟨dsp, rfl⟩ := begins
      exact ⟨fun _ _ place => CallPc.noConfusion place, Or.inl rfl⟩
    | step _ _ moved inductionHypothesis =>
      obtain ⟨programs, pulsed⟩ := inductionHypothesis
      exact ⟨programs.step moved, pulsed.step programs moved⟩
  exact kept.2

/-- Two pulses that overlap, each of the two clients about to lower the line. -/
def overlappingPulses : List (Action (Fin 2)) :=
  [.program 0 dxrtResetDevice, .program 1 dxrtResetDevice, .client 0 false, .client 1 false]

theorem reset_line_up_only_in_pulse_two_clients :
    ∃ state, (driver (Fin 2)).Reaches (fun _ _ => True) state ∧
      dspRegRead state.dx.dsp.regDspBaseDebug regDspReset = 0x10000 ∧
      ∃ client, state.calls client = .program [.reset 0x0] := by
  obtain ⟨state, reached, up⟩ := exists_reached overlappingPulses
    (show ((driver (Fin 2)).run (fun _ _ => True) _ _).map
        (fun state => dspRegRead state.dx.dsp.regDspBaseDebug regDspReset) = some 0x10000 by
      decide +kernel)
  rcases reset_line_up_only_in_pulse reached with down | ⟨-, pulse⟩
  · exact absurd (down.symm.trans up) (by decide)
  · exact ⟨state, reached, up, pulse⟩

end DxDsp
