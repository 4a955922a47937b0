/-
This file is about a completion that is pending while other clients use the
device. The event flag and `dx->response` are one mailbox for all file handles.
`open` and IDENTIFY_DEVICE start from an empty mailbox and reset it; every other
operation of another client leaves the completion to be polled and read.
-/

import DxDsp.Driver
import DxDsp.Ioctl
import DxDsp.Library.Observation

namespace DxDsp

open Library

/-! ### File operations on the driver -/

/-- A file operation other than `read` and `poll`. -/
inductive FileOp
  | devOpen
  | devRelease
  | devWrite (node : Option Nat) (len : Nat) (data : Option Object)
  | devMmap (vmPgoff : Nat)
  | devIoctl (cmd : UInt32) (arg : UserSource DxrtMessage)

/-- The driver and the pool, which only ALLOC and FREE touch. -/
structure Files (Client : Type) where
  driver : State Client
  pool : DxrtDspBufferManager

inductive FilesAction (Client : Type)
  | enter (client : Client) (op : FileOp)
  | driver (action : Action Client)

variable {Client : Type} [DecidableEq Client]

namespace Files

/-- A step of the driver below the files. -/
def act (files : Files Client) (action : Action Client) : Option (Files Client) :=
  (files.driver.step action).map fun driver => { files with driver }

theorem act_eq_some {files next : Files Client} {action : Action Client}
    (moved : files.act action = some next) : files.driver.step action = some next.driver := by
  obtain ⟨driver, stepped, rfl⟩ := Option.map_eq_some_iff.mp moved
  exact stepped

/-- A client enters a handler. ALLOC and FREE are taken as a whole. -/
def enterHandler (files : Files Client) (client : Client) (msg : DxrtMessage) :
    Handler → Option (Files Client)
  | .dxrtIdentifyDevice => files.act (.program client dxrtIdentify)
  | .dxrtWriteMem => files.act (.writeMem client msg.data.reqMeminfo msg.data.transfer)
  | .dxrtWriteInput => files.act (.writeInput client msg.data.request)
  | .dxrtReadOutput => files.act (.readOutput client msg.data.target)
  | .dxrtTerminate => files.act (.program client dxrtTerminate)
  | .dxrtResetDevice | .dxrtRecoveryDevice => files.act (.program client dxrtResetDevice)
  | .dxrtAllocBuf => some { files with pool := (dxrtAllocBuf files.pool msg.data.target).1 }
  | .dxrtFreeBuf => some { files with pool := (dxrtFreeBuf files.pool msg.data.bufferMetadata).1 }
  | .dxrtReadMem | .dxrtCpuCacheFlush | .dxrtSocCustom | .dxrtMsgGeneral | .dxrtGetLog
  | .dxrtHandleDrvInfo | .dxrtSchedule | .dxrtDspRunRequest | .dxrtDspRunResponse => some files

/-- What an ioctl comes to; one that returns or dies in front of the handlers changes nothing. -/
def enterEntry (files : Files Client) (client : Client) : Entry → Option (Files Client)
  | .returns _ | .oops => some files
  | .handler handler msg => files.enterHandler client msg handler

/-- A client enters a file operation. -/
def enter (files : Files Client) (client : Client) : FileOp → Option (Files Client)
  | .devOpen => files.act (.program client dxrtDevOpen)
  | .devRelease | .devMmap _ => some files
  | .devWrite node len data => files.act (.write client node len data)
  | .devIoctl cmd arg => files.enterEntry client (dxrtDevIoctl cmd arg)

def step (files : Files Client) : FilesAction Client → Option (Files Client)
  | .enter client op =>
    match files.driver.calls client with
    | .idle => files.enter client op
    | _ => none
  | .driver action => files.act action

end Files

def files (Client : Type) [DecidableEq Client] : Machine (Files Client) (FilesAction Client) where
  start files := (∃ dsp, files.driver = State.initial dsp) ∧ files.pool = dxV3DspBufInit
  step := Files.step

/-! ### The mailbox -/

theorem dxrtWriteMem_mailbox (dx : Dxdev) (data : UserSource DxrtReqMeminfo) (source : UserCopy) :
    (dxrtWriteMem dx data source).1.dsp.irqEvent = dx.dsp.irqEvent ∧
      (dxrtWriteMem dx data source).1.response = dx.response := by
  rw [dxrtWriteMem]
  split <;> exact ⟨rfl, rfl⟩

/-- The two halves of the mailbox: the event flag, and the id in `dx->response`. -/
inductive MailPart
  | event
  | reqId
deriving DecidableEq

/-- An effect that leaves this half of the mailbox as it is, or raises the flag. -/
def Micro.spares (part : MailPart) : Micro → Bool
  | .responseReqId | .response => part = .event
  | .irqEvent value => value || part = .reqId
  | _ => true

/-- A call in progress of which no step resets this half of the mailbox. -/
def CallPc.spares (part : MailPart) : CallPc → Bool
  | .program steps => steps.all (Micro.spares part)
  | .output _ => false
  | .idle | .queue _ | .wake _ | .input _ _ => true

/-- What is left of the handler when it has stored its response. -/
def IrqPc.delivered : IrqPc Client → Bool
  | .event _ | .wake _ => true
  | _ => false

namespace State

omit [DecidableEq Client] in
/-- This half of the mailbox still has the completion of the request. -/
def Keeps (state : State Client) (reqId : UInt32) : MailPart → Prop
  | .event => state.dx.dsp.irqEvent = true
  | .reqId => state.dx.response.reqId = reqId

omit [DecidableEq Client] in
/-- A completion of the request waits to be polled and read. -/
def Pending (state : State Client) (reqId : UInt32) : Prop := ∀ part, state.Keeps reqId part

/-- The client's next poll reports POLLIN. -/
def PollReports (state : State Client) (client : Client) : Prop :=
  (state.pollStep client).log = state.log ++ [.polled client true]

/-- The client's next `read()` behind that poll returns the id. -/
def ReadReturns (state : State Client) (client : Client) (reqId : UInt32) : Prop :=
  ((state.pollStep client).readStep client sizeofDxrtResponse false).log =
    (state.pollStep client).log ++ [.read client reqId]

omit [DecidableEq Client] in
theorem pollReports_iff (state : State Client) (client : Client) (reqId : UInt32) :
    state.PollReports client ↔ state.Keeps reqId .event := by
  show state.log ++ [.polled client state.dx.dsp.irqEvent] = _ ↔ _
  rw [List.append_cancel_left_eq]
  simp [Keeps]

omit [DecidableEq Client] in
theorem readReturns_iff (state : State Client) (client : Client) (reqId : UInt32) :
    state.ReadReturns client reqId ↔ state.Keeps reqId .reqId := by
  show (state.pollStep client).log ++ [.read client state.dx.response.reqId] = _ ↔ _
  rw [List.append_cancel_left_eq]
  simp [Keeps]

section Steps

variable {state next : State Client} {reqId : UInt32} {part : MailPart}
  (keeps : state.Keeps reqId part)

include keeps

omit [DecidableEq Client] in
theorem Keeps.of_same (event : next.dx.dsp.irqEvent = state.dx.dsp.irqEvent)
    (response : next.dx.response = state.dx.response) : next.Keeps reqId part := by
  cases part with
  | event => exact event.trans keeps
  | reqId => exact (congrArg DxrtResponse.reqId response).trans keeps

omit [DecidableEq Client] in
theorem Keeps.apply {effect : Micro} (spares : effect.spares part = true)
    (applied : next.dx = effect.apply state.dx) : next.Keeps reqId part := by
  cases part with
  | event =>
    rw [Keeps, applied]
    cases effect with
    | irqEvent value => exact (Bool.or_false value).symm.trans spares
    | _ => exact keeps
  | reqId =>
    rw [Keeps, applied]
    cases effect with
    | responseReqId | response => cases spares
    | _ => exact keeps

end Steps

/-- The steps of the driver that leave this half of the mailbox: other clients in operations that
spare it, the thread and every run, the DSP, and the rest of the handler that delivered. -/
def spares (part : MailPart) (state : State Client) : Action Client → Bool
  | .write .. | .writeMem .. | .program .. | .run _ | .thread | .stop | .complete _ => true
  | .client client _ => (state.calls client).spares part
  | .irq => state.irq.delivered
  | .writeInput .. | .readOutput .. | .poll _ | .read .. | .interrupt _ => false

theorem keeps_clientStep {state next : State Client} {reqId : UInt32} {part : MailPart}
    {client : Client} {disturbed : Bool} {call : CallPc} (keeps : state.Keeps reqId part)
    (spares : call.spares part = true)
    (moved : state.clientStep client disturbed call = some next) : next.Keeps reqId part := by
  cases call with
  | idle => cases moved
  | queue | wake =>
    cases moved
    exact keeps
  | input request pc =>
    cases pc with
    | done =>
      cases moved
      exact keeps
    | _ => cases moved
  | program steps =>
    cases steps with
    | nil =>
      cases moved
      exact keeps
    | cons effect rest =>
      rw [clientStep] at moved
      split at moved
      · cases moved
      · cases moved
        rw [CallPc.spares, List.all_cons, Bool.and_eq_true] at spares
        exact keeps.apply spares.1 rfl
  | output => cases spares

theorem keeps_step {state next : State Client} {reqId : UInt32} {part : MailPart}
    {action : Action Client} (keeps : state.Keeps reqId part)
    (spares : state.spares part action = true) (moved : state.step action = some next) :
    next.Keeps reqId part := by
  cases action with
  | write client node len data =>
    obtain ⟨idle, rfl⟩ := whenIdle_eq_some moved
    rw [beginWrite]
    split <;> exact keeps
  | program client steps =>
    rw [step] at moved
    split at moved
    · obtain ⟨idle, rfl⟩ := whenIdle_eq_some moved
      exact keeps
    · cases moved
  | writeMem client data source =>
    obtain ⟨idle, rfl⟩ := whenIdle_eq_some moved
    have same := dxrtWriteMem_mailbox state.dx data source
    exact keeps.of_same same.1 same.2
  | client client disturbed => exact keeps_clientStep keeps spares moved
  | run caller =>
    obtain ⟨request, pc, inside, unfinished, rfl⟩ := runStep_eq_some moved
    exact keeps.of_same (runEffect_irqEvent request state.dx.dsp pc) rfl
  | thread =>
    obtain ⟨thread, requests, rfl⟩ := threadStep_eq_some moved
    exact keeps.of_same rfl rfl
  | stop =>
    cases moved
    exact keeps
  | complete job =>
    obtain ⟨member, rfl⟩ := complete_eq_some moved
    exact keeps
  | irq =>
    rw [step] at moved
    rw [State.spares] at spares
    cases place : state.irq with
    | event job =>
      rw [place] at moved
      cases moved
      have raises : (Micro.irqEvent true).spares part = true := rfl
      exact keeps.apply raises rfl
    | wake job =>
      rw [place] at moved
      cases moved
      exact keeps
    | _ =>
      rw [place] at spares
      cases spares
  | writeInput | readOutput | poll | read | interrupt => cases spares

end State

/-! ### Operations that spare a pending completion -/

/-- The operations of the other clients that leave this half of the mailbox: all but `open`,
READ_OUTPUT and WRITE_INPUT, and for the id all but IDENTIFY_DEVICE. -/
def FileOp.spares (part : MailPart) : FileOp → Bool
  | .devOpen => false
  | .devRelease | .devWrite .. | .devMmap _ => true
  | .devIoctl cmd arg =>
    match dxrtDevIoctl cmd arg with
    | .handler .dxrtIdentifyDevice _ => part = .event
    | .handler .dxrtReadOutput _ | .handler .dxrtWriteInput _ => false
    | _ => true

namespace Files

/-- The steps of the files that leave this half of the mailbox. -/
def spares (part : MailPart) (files : Files Client) : FilesAction Client → Bool
  | .enter _ op => op.spares part
  | .driver action => files.driver.spares part action

section Steps

variable {files next : Files Client} {reqId : UInt32} {part : MailPart} {client : Client}
  (keeps : files.driver.Keeps reqId part)

include keeps

theorem keeps_act {action : Action Client} (moved : files.act action = some next)
    (spares : files.driver.spares part action = true) : next.driver.Keeps reqId part :=
  State.keeps_step keeps spares (act_eq_some moved)

theorem keeps_enterHandler {msg : DxrtMessage} {handler : Handler}
    (notOutput : handler ≠ .dxrtReadOutput) (notInput : handler ≠ .dxrtWriteInput)
    (moved : files.enterHandler client msg handler = some next) : next.driver.Keeps reqId part := by
  cases handler with
  | dxrtReadOutput => exact absurd rfl notOutput
  | dxrtWriteInput => exact absurd rfl notInput
  | dxrtIdentifyDevice | dxrtWriteMem | dxrtTerminate | dxrtResetDevice | dxrtRecoveryDevice =>
    exact keeps_act keeps moved rfl
  | _ =>
    cases moved
    exact keeps

theorem keeps_enter {op : FileOp} (spares : op.spares part = true)
    (moved : files.enter client op = some next) : next.driver.Keeps reqId part := by
  cases op with
  | devOpen => cases spares
  | devRelease | devMmap =>
    cases moved
    exact keeps
  | devWrite => exact keeps_act keeps moved rfl
  | devIoctl cmd arg =>
    rw [enter] at moved
    rw [FileOp.spares] at spares
    cases entry : dxrtDevIoctl cmd arg with
    | returns | oops =>
      rw [entry] at moved
      cases moved
      exact keeps
    | handler handler msg =>
      rw [entry] at moved spares
      refine keeps_enterHandler keeps ?_ ?_ moved <;>
      · rintro rfl
        cases spares

theorem keeps_step {action : FilesAction Client} (spares : files.spares part action = true)
    (moved : files.step action = some next) : next.driver.Keeps reqId part := by
  cases action with
  | driver action => exact keeps_act keeps moved spares
  | enter client op =>
    rw [step] at moved
    split at moved
    · exact keeps_enter keeps spares moved
    · cases moved

end Steps

end Files

/-- After whatever other clients do short of `open`, READ_OUTPUT and WRITE_INPUT, the next poll
reports a pending completion; and if they do not call IDENTIFY_DEVICE either, the next `read()`
returns its id. -/
theorem completion_survives {start : Files Client} {reqId : UInt32}
    (pending : start.driver.Pending reqId) (client : Client) :
    (∀ final, ((files Client).startingAt start).Reaches
        (fun files action => files.spares .event action = true) final →
      final.driver.PollReports client) ∧
    ∀ final, ((files Client).startingAt start).Reaches
        (fun files action => files.spares .reqId action = true) final →
      final.driver.ReadReturns client reqId := by
  have kept : ∀ part final, ((files Client).startingAt start).Reaches
      (fun files action => files.spares part action = true) final →
      final.driver.Keeps reqId part := by
    intro part final reached
    have begins : ∀ other : Files Client, other = start → other.driver.Keeps reqId part := by
      rintro _ rfl
      exact pending part
    exact reached.invariant begins fun _ _ _ keeps spares moved =>
      Files.keeps_step keeps spares moved
  refine ⟨fun final reached => ?_, fun final reached => ?_⟩
  · exact (State.pollReports_iff _ _ _).mpr (kept .event final reached)
  · exact (State.readReturns_iff _ _ _).mpr (kept .reqId final reached)

/-! ### Runs on the board -/

def Files.initial (dsp : Dxdsp) : Files Client where
  driver := State.initial dsp
  pool := dxV3DspBufInit

/-- A request of the first client, up to the end of its interrupt. -/
def serves : List (Action (Fin 2)) :=
  submit 0 1 1 ++ List.replicate 4 .thread ++ runToEnd .thread ++ completeAndHandle ⟨.thread, 1⟩

def completes : List (FilesAction (Fin 2)) := serves.map .driver

/-- A whole call of the second client, of this many steps. -/
def wholeCall (op : FileOp) (steps : Nat) : List (FilesAction (Fin 2)) :=
  .enter 1 op :: List.replicate steps (.driver (.client 1 false))

/-- An ioctl with this command and writable user memory. -/
def ioctlCall (cmd : Int32) : FileOp :=
  .devIoctl dxrtIoctlMessage (.holds
    { cmd
      subCmd := 0
      data :=
        { request := .null
          reqMeminfo := .null
          meminfo := .null
          bufferMetadata := .null
          target := .writable
          transfer := {} } })

/-- A pending completion and what the second client does meanwhile, by what is left of it. -/
theorem exists_overlap {allowed : Files (Fin 2) → FilesAction (Fin 2) → Prop}
    [∀ files action, Decidable (allowed files action)] {others : List (FilesAction (Fin 2))}
    {event : Bool} {reqId : UInt32}
    (ran : ((files (Fin 2)).run (fun _ _ => True) (Files.initial boardDsp) completes).bind
        (fun start => ((files (Fin 2)).run allowed start others).map fun final =>
          ((start.driver.dx.dsp.irqEvent, start.driver.dx.response.reqId),
            final.driver.dx.dsp.irqEvent, final.driver.dx.response.reqId)) =
      some ((true, 1), event, reqId)) :
    ∃ start final, (files (Fin 2)).Reaches (fun _ _ => True) start ∧ start.driver.Pending 1 ∧
      (files (Fin 2)).run allowed start others = some final ∧
      final.driver.dx.dsp.irqEvent = event ∧ final.driver.dx.response.reqId = reqId := by
  obtain ⟨start, reached, ran⟩ := Option.bind_eq_some_iff.mp ran
  obtain ⟨final, others, seen⟩ := Option.map_eq_some_iff.mp ran
  simp only [Prod.mk.injEq] at seen
  obtain ⟨⟨startEvent, startReqId⟩, left⟩ := seen
  have pending : start.driver.Pending 1 := by
    intro part
    cases part with
    | event => exact startEvent
    | reqId => exact startReqId
  have begins : (files (Fin 2)).Reaches (fun _ _ => True) (Files.initial boardDsp) :=
    .start ⟨⟨boardDsp, rfl⟩, rfl⟩
  exact ⟨start, final, begins.of_run completes reached, pending, others, left⟩

/-- Another client submits a request, terminates, recovers and allocates, and the completion
survives. -/
theorem completion_survives_four :
    ∃ start final, (files (Fin 2)).Reaches (fun _ _ => True) start ∧ start.driver.Pending 1 ∧
      ((files (Fin 2)).startingAt start).Reaches
        (fun files action => files.spares .reqId action = true) final ∧
      final.driver.ReadReturns 0 1 := by
  obtain ⟨start, final, reached, pending, ran, -⟩ := @exists_overlap
    (fun files action => files.spares .reqId action = true) _
    (wholeCall (.devWrite (some 2) sizeofDxrtDspRequest (some (bareRequest 2))) 2 ++
      wholeCall (ioctlCall 17) 3 ++ wholeCall (ioctlCall 25) 3 ++ wholeCall (ioctlCall 27) 0)
    true 1 (by decide +kernel)
  have overlapped := Machine.reaches_startingAt_of_run ran
  exact ⟨start, final, reached, pending, overlapped,
    (completion_survives pending 0).2 final overlapped⟩

/-- An `open` of another client takes the event and the id, IDENTIFY_DEVICE the id. -/
theorem completion_lost :
    (∃ start final, (files (Fin 2)).Reaches (fun _ _ => True) start ∧ start.driver.Pending 1 ∧
      (files (Fin 2)).run (fun _ _ => True) start (wholeCall .devOpen 3) = some final ∧
      ¬ final.driver.PollReports 0 ∧ ¬ final.driver.ReadReturns 0 1) ∧
    ∃ start final, (files (Fin 2)).Reaches (fun _ _ => True) start ∧ start.driver.Pending 1 ∧
      (files (Fin 2)).run (fun _ _ => True) start (wholeCall (ioctlCall 0) 6) = some final ∧
      ¬ final.driver.ReadReturns 0 1 := by
  obtain ⟨start, final, reached, pending, opened, event, reqId⟩ := @exists_overlap
    (fun _ _ => True) _ (wholeCall .devOpen 3) false 0 (by decide +kernel)
  obtain ⟨begun, after, before, waiting, identified, -, zeroed⟩ := @exists_overlap
    (fun _ _ => True) _ (wholeCall (ioctlCall 0) 6) true 0 (by decide +kernel)
  have noId : ∀ state : State (Fin 2), state.dx.response.reqId = 0 → ¬ state.ReadReturns 0 1 := by
    intro state zero returns
    have still := (State.readReturns_iff state 0 1).mp returns
    exact absurd (zero.symm.trans still) (by decide)
  refine ⟨⟨start, final, reached, pending, opened, fun reports => ?_, noId _ reqId⟩,
    begun, after, before, waiting, identified, noId _ zeroed⟩
  have still := (State.pollReports_iff final.driver 0 1).mp reports
  exact absurd (event.symm.trans still) (by decide)

end DxDsp
