/-
This file is about READ_OUTPUT and the list it pops. The interrupt handler puts
a completion into `dx->response` and raises the event; READ_OUTPUT waits for the
event and then takes the head of `dx->responses`, a list that IDENTIFY_DEVICE
empties and nothing ever fills. So the wait ends, the list is empty, and the call
returns -1, whatever has completed.
-/

import DxDsp.BusyMark
import DxDsp.Library.Observation

namespace DxDsp

open Library

variable {Client : Type}

/-- An event that is no return of READ_OUTPUT, or the return of -1 with nothing copied. -/
def Event.emptyHanded : Event Client → Bool
  | .output _ ret copied => ret = -1 && copied.isNone
  | _ => true

/-- What holds in every state of every run. -/
structure NeverFilled (state : State Client) : Prop where
  responses : state.dx.responses = []
  log : ∀ event ∈ state.log, event.emptyHanded = true

theorem NeverFilled.of_append {state next : State Client} (never : NeverFilled state)
    {events : List (Event Client)} (responses : next.dx.responses = state.dx.responses)
    (log : next.log = state.log ++ events)
    (emptyHanded : ∀ event ∈ events, event.emptyHanded = true) : NeverFilled next := by
  refine ⟨responses.trans never.responses, ?_⟩
  rw [log]
  intro event member
  rcases List.mem_append.mp member with old | new
  · exact never.log event old
  · exact emptyHanded event new

theorem NeverFilled.of_quiet {state next : State Client} (never : NeverFilled state)
    (responses : next.dx.responses = state.dx.responses) (log : next.log = state.log) :
    NeverFilled next :=
  never.of_append responses (log.trans (List.append_nil _).symm) (by simp)

theorem NeverFilled.of_event {state next : State Client} (never : NeverFilled state)
    {event : Event Client} (responses : next.dx.responses = state.dx.responses)
    (log : next.log = state.log ++ [event]) (emptyHanded : event.emptyHanded = true) :
    NeverFilled next :=
  never.of_append responses log (by simpa using emptyHanded)

/-- No effect of a program fills the list. -/
theorem Micro.apply_responses {dx : Dxdev} (effect : Micro) (empty : dx.responses = []) :
    (effect.apply dx).responses = [] := by
  cases effect with
  | responses => rfl
  | _ => exact empty

theorem dxrtWriteMem_responses (dx : Dxdev) (data : UserSource DxrtReqMeminfo)
    (source : UserCopy) : (dxrtWriteMem dx data source).1.responses = dx.responses := by
  rw [dxrtWriteMem]
  split <;> rfl

variable [DecidableEq Client]

namespace State

theorem outputStep_neverFilled {state next : State Client} {client : Client} {disturbed : Bool}
    {pc : OutputPc} (never : NeverFilled state)
    (moved : state.outputStep client disturbed pc = some next) : NeverFilled next := by
  cases pc with
  | test | clear =>
    cases moved
    exact never.of_quiet rfl rfl
  | wait =>
    rw [outputStep] at moved
    split at moved
    · cases moved
      exact never.of_quiet rfl rfl
    · split at moved <;> cases moved
      exact never.of_quiet rfl rfl
  | take =>
    rw [outputStep, never.responses] at moved
    split at moved
    · cases moved
    · cases moved
      exact never.of_event rfl rfl rfl

theorem clientStep_neverFilled {state next : State Client} {client : Client} {disturbed : Bool}
    {call : CallPc} (never : NeverFilled state)
    (moved : state.clientStep client disturbed call = some next) : NeverFilled next := by
  cases call with
  | idle => cases moved
  | queue | wake =>
    cases moved
    exact never.of_event rfl rfl rfl
  | input request pc =>
    cases pc with
    | done =>
      cases moved
      exact never.of_quiet rfl rfl
    | _ => cases moved
  | program steps =>
    cases steps with
    | nil =>
      cases moved
      exact never.of_quiet rfl rfl
    | cons effect rest =>
      rw [clientStep] at moved
      split at moved
      · cases moved
      · cases moved
        exact ⟨effect.apply_responses never.responses, never.log⟩
  | output pc => exact outputStep_neverFilled never moved

theorem irqStep_neverFilled {state next : State Client} (never : NeverFilled state)
    (moved : state.step .irq = some next) : NeverFilled next := by
  rw [step] at moved
  cases place : state.irq with
  | idle =>
    rw [place] at moved
    cases moved
  | store | status | wake =>
    rw [place] at moved
    cases moved
    exact never.of_event rfl rfl rfl
  | _ =>
    rw [place] at moved
    cases moved
    exact never.of_quiet rfl rfl

theorem step_neverFilled {state next : State Client} {action : Action Client}
    (never : NeverFilled state) (moved : state.step action = some next) : NeverFilled next := by
  cases action with
  | write client node len data =>
    obtain ⟨idle, rfl⟩ := whenIdle_eq_some moved
    rw [beginWrite]
    split
    · exact never.of_quiet rfl rfl
    · exact never.of_event rfl rfl rfl
  | writeInput client data =>
    obtain ⟨idle, rfl⟩ := whenIdle_eq_some moved
    cases data <;> exact never.of_quiet rfl rfl
  | readOutput client data =>
    obtain ⟨idle, rfl⟩ := whenIdle_eq_some moved
    cases data with
    | null => exact never.of_event rfl rfl rfl
    | fault | writable => exact never.of_quiet rfl rfl
  | program client steps =>
    rw [step] at moved
    split at moved
    · obtain ⟨idle, rfl⟩ := whenIdle_eq_some moved
      exact never.of_quiet rfl rfl
    · cases moved
  | writeMem client data source =>
    obtain ⟨idle, rfl⟩ := whenIdle_eq_some moved
    exact never.of_quiet (dxrtWriteMem_responses state.dx data source) rfl
  | poll client =>
    obtain ⟨idle, rfl⟩ := whenIdle_eq_some moved
    exact never.of_event rfl rfl rfl
  | read client len fault =>
    obtain ⟨idle, rfl⟩ := whenIdle_eq_some moved
    rw [readStep]
    split
    · exact never.of_event rfl rfl rfl
    · exact never
  | client client disturbed => exact clientStep_neverFilled never moved
  | run caller =>
    obtain ⟨request, pc, inside, unfinished, rfl⟩ := runStep_eq_some moved
    rcases log_afterRun state caller request pc with log | ⟨job, log⟩
    · exact never.of_quiet rfl log
    · exact never.of_event rfl log rfl
  | thread =>
    obtain ⟨thread, requests, rfl⟩ := threadStep_eq_some moved
    exact never.of_quiet rfl rfl
  | stop =>
    cases moved
    exact never.of_quiet rfl rfl
  | complete job =>
    obtain ⟨member, rfl⟩ := complete_eq_some moved
    exact never.of_event rfl rfl rfl
  | interrupt job =>
    obtain ⟨idle, member, rfl⟩ := interrupt_eq_some moved
    exact never.of_quiet rfl rfl
  | irq => exact irqStep_neverFilled never moved

omit [DecidableEq Client] in
theorem neverFilled_initial (dsp : Dxdsp) : NeverFilled (initial dsp : State Client) :=
  ⟨rfl, fun _ member => absurd member List.not_mem_nil⟩

theorem neverFilled_of_run {allowed : State Client → Action Client → Prop}
    [∀ state action, Decidable (allowed state action)] {state final : State Client}
    {actions : List (Action Client)} (never : NeverFilled state)
    (ran : (driver Client).run allowed state actions = some final) : NeverFilled final :=
  Machine.run_invariant (fun _ _ _ never _ moved => step_neverFilled never moved) never ran

end State

/-! ### When a completion is due -/

/-- The action submits a request with this id. -/
def Action.submits (reqId : UInt32) : Action Client → Bool
  | .write _ (some _) len (some request) =>
    len = sizeofDxrtDspRequest && request.reqId = reqId
  | .writeInput _ (.holds request) => request.reqId = reqId
  | _ => false

/-- The action issues TERMINATE or IDENTIFY_DEVICE. -/
def Action.clears : Action Client → Bool
  | .program _ steps => steps = dxrtTerminate || steps = dxrtIdentify
  | _ => false

/-- The id that a READ_OUTPUT or a `read()` returned. -/
def Event.returned : Event Client → Option UInt32
  | .output _ _ (some response) => some response.reqId
  | .read _ reqId => some reqId
  | _ => none

/-- A call that is still to submit its request. -/
def CallPc.submitting : CallPc → Bool
  | .queue _ | .input _ _ => true
  | _ => false

def ThreadPc.serving : ThreadPc → Bool
  | .running _ _ => true
  | _ => false

def IrqPc.resting : IrqPc Client → Bool
  | .idle => true
  | _ => false

namespace State

/-- No request is outstanding: none is queued, in a run, with the DSP, or in the handler. -/
structure NoneOutstanding (state : State Client) : Prop where
  requests : state.dx.requests.length = 0
  calls : ∀ client, (state.calls client).submitting = false
  thread : state.thread.serving = false
  started : state.started = []
  raised : state.raised = []
  irq : state.irq.resting = true

/-- A run in which the interrupt of a request has been handled since its submission, without a
TERMINATE or an IDENTIFY_DEVICE since, without anyone having been given its id, and with no other
request outstanding. -/
structure CompletionDue (dsp : Dxdsp) (before : List (Action Client)) (submission : Action Client)
    (after : List (Action Client)) (state : State Client) (job : Job Client) : Prop where
  submits : submission.submits job.reqId = true
  ran : (driver Client).run (fun _ _ => True) (initial dsp) (before ++ submission :: after) =
    some state
  handled : ∃ since, (driver Client).run (fun _ _ => True) (initial dsp) before = some since ∧
    .finished job ∈ state.log.drop since.log.length
  kept : ∀ action ∈ after, action.clears = false
  unread : ∀ event ∈ state.log, event.returned ≠ some job.reqId
  alone : state.NoneOutstanding

/-- A READ_OUTPUT into a writable buffer returns 0 with a response of this id, in some continuation
of the run. -/
def ReadOutputDelivers (state : State Client) (reader : Client) (reqId : UInt32) : Prop :=
  ∃ later final response,
    (driver Client).run (fun _ _ => True) state (.readOutput reader .writable :: later) =
      some final ∧
    .output reader 0 (some response) ∈ final.log.drop state.log.length ∧ response.reqId = reqId

theorem not_readOutputDelivers {state : State Client} (never : NeverFilled state)
    (reader : Client) (reqId : UInt32) : ¬ state.ReadOutputDelivers reader reqId := by
  rintro ⟨later, final, response, ran, output, -⟩
  have emptyHanded := (neverFilled_of_run never ran).log _ (List.mem_of_mem_drop output)
  cases emptyHanded

end State

/-- READ_OUTPUT delivers no completion, in any run in which one is due. -/
theorem read_output_never_delivers {dsp : Dxdsp} {before after : List (Action Client)}
    {submission : Action Client} {state : State Client} {job : Job Client}
    (due : State.CompletionDue dsp before submission after state job) (reader : Client) :
    ¬ state.ReadOutputDelivers reader job.reqId :=
  State.not_readOutputDelivers (State.neverFilled_of_run (State.neverFilled_initial dsp) due.ran)
    reader job.reqId

/-! ### Runs on the board -/

/-- The submission of a request. -/
def submitsOne : Action (Fin 1) := .write 0 (some 1) sizeofDxrtDspRequest (some (bareRequest 1))

/-- The rest of the `write()`, the run of the thread, the interrupt, and the end of the request. -/
def servesOne : List (Action (Fin 1)) :=
  List.replicate 2 (.client 0 false) ++ List.replicate 4 .thread ++ runToEnd .thread ++
    completeAndHandle ⟨.thread, 1⟩ ++ List.replicate 3 .thread

/-- What the client asks for afterwards. -/
def asksForOutput : List (Action (Fin 1)) :=
  .readOutput 0 .writable :: List.replicate 4 (.client 0 false)

/-- On the board a completion is due, and READ_OUTPUT returns -1. -/
theorem exists_completionDue :
    ∃ state, State.CompletionDue boardDsp [] submitsOne servesOne state ⟨.thread, 1⟩ ∧
      ∃ final, (driver (Fin 1)).run (fun _ _ => True) state asksForOutput = some final ∧
        .output 0 (-1) none ∈ final.log.drop state.log.length := by
  have whole : ((driver (Fin 1)).run (fun _ _ => True) (State.initial boardDsp)
      ([] ++ submitsOne :: servesOne)).bind (fun state =>
        ((driver (Fin 1)).run (fun _ _ => True) state asksForOutput).map fun final =>
          (decide (.finished ⟨.thread, 1⟩ ∈ state.log), state.log.map Event.returned,
            [(state.calls 0).submitting, state.thread.serving, !state.irq.resting],
            [state.dx.requests.length, state.started.length, state.raised.length],
            decide (.output 0 (-1) none ∈ final.log.drop state.log.length))) =
      some (true, List.replicate 7 none, [false, false, false], [0, 0, 0], true) := by
    decide +kernel
  obtain ⟨state, ran, whole⟩ := Option.bind_eq_some_iff.mp whole
  obtain ⟨final, asked, seen⟩ := Option.map_eq_some_iff.mp whole
  simp only [Prod.mk.injEq, decide_eq_true_eq, List.cons.injEq, and_true, Bool.not_eq_false']
    at seen
  obtain ⟨finished, returned, ⟨calls, thread, irq⟩, ⟨requests, started, raised⟩, output⟩ := seen
  refine ⟨state, ⟨by decide, ran, ⟨_, rfl, finished⟩, by decide, ?_, ?_⟩, final, asked, output⟩
  · intro event member same
    have listed := List.mem_map_of_mem (f := Event.returned) member
    rw [returned, List.mem_replicate] at listed
    exact absurd (same.symm.trans listed.2) (by decide)
  · have onlyClient : ∀ client, (state.calls client).submitting = false := by
      intro client
      rw [Fin.fin_one_eq_zero client]
      exact calls
    exact ⟨requests, onlyClient, thread, List.eq_nil_of_length_eq_zero started,
      List.eq_nil_of_length_eq_zero raised, irq⟩

theorem read_output_never_delivers_one :
    ∃ state, State.CompletionDue boardDsp [] submitsOne servesOne state ⟨.thread, 1⟩ ∧
      ¬ state.ReadOutputDelivers 0 1 := by
  obtain ⟨state, due, -⟩ := exists_completionDue
  exact ⟨state, due, read_output_never_delivers due 0⟩

/-- The request is completed and nobody has been told, and READ_OUTPUT returns -1. -/
theorem read_output_returns_minus_one :
    ∃ state final, State.CompletionDue boardDsp [] submitsOne servesOne state ⟨.thread, 1⟩ ∧
      (driver (Fin 1)).run (fun _ _ => True) state asksForOutput = some final ∧
      .output 0 (-1) none ∈ final.log.drop state.log.length ∧ ¬ state.ReadOutputDelivers 0 1 := by
  obtain ⟨state, due, final, asked, output⟩ := exists_completionDue
  have never := State.neverFilled_of_run (State.neverFilled_initial boardDsp) due.ran
  exact ⟨state, final, due, asked, output, State.not_readOutputDelivers never 0 1⟩

end DxDsp
