/-
This file is about the requests that `write()` queues: seen from the clients the
list, the thread, the DSP and the interrupt handler are one in-order pipeline.
An entry stays at the head of the list while it runs and is unlinked only
afterwards, so the waiting requests are the list without its head from the
second header store of the head's run to its unlinking.
-/

import DxDsp.Exclusion
import DxDsp.Library.Pipeline

namespace DxDsp

open Library

variable {Client : Type}

/-! ### The driver as a pipeline -/

/-- The head of the list is started but not yet unlinked. -/
def ThreadPc.started : ThreadPc → Bool
  | .running _ (.head _ i) => 2 ≤ i
  | .running _ .done | .unlink _ => true
  | _ => false

/-- The request whose id the handler has not stored yet. -/
def IrqPc.unstored : IrqPc Client → List (Job Client)
  | .status0 job | .status1 job | .load job | .store job _ => [job]
  | _ => []

/-- The id of a call of `write()` that has queued its entry and not returned. -/
def CallPc.returning : CallPc → List UInt32
  | .wake reqId => [reqId]
  | _ => []

def Event.acceptedId : Event Client → Option UInt32
  | .accepted _ reqId => some reqId
  | _ => none

def Event.storedValue : Event Client → Option UInt32
  | .stored _ value => some value
  | _ => none

/-- The ids that `write()` accepted, in the order in which they entered the list. -/
def acceptedIds (log : List (Event Client)) : List UInt32 := log.filterMap Event.acceptedId

/-- The values that the handler stored in `response->req_id`. -/
def storedValues (log : List (Event Client)) : List UInt32 := log.filterMap Event.storedValue

/-- The events of `write()`. -/
def Event.submission : Event Client → Bool
  | .accepted _ _ | .writeReturned _ _ => true
  | _ => false

variable [DecidableEq Client]

def Event.acceptedBy (client : Client) : Event Client → Option UInt32
  | .accepted own reqId => if own = client then some reqId else none
  | _ => none

def Event.returnedTo (client : Client) : Event Client → Option UInt32
  | .writeReturned own reqId => if own = client then some reqId else none
  | _ => none

namespace State

/-- The requests started and not yet completed. -/
def inFlight (state : State Client) : List (Job Client) :=
  state.started ++ state.raised ++ state.irq.unstored

/-- The requests that wait in the list. -/
def waiting (state : State Client) : List DxrtRequestList :=
  if state.thread.started then state.dx.requests.tail else state.dx.requests

def pipeline (state : State Client) : Pipeline UInt32 where
  accepted := acceptedIds state.log
  finished := storedValues state.log
  inFlight := state.inFlight.map Job.reqId
  waiting := state.waiting.map fun entry => entry.request.reqId

/-! ### Runs with `write()` submissions only -/

/-- No WRITE_INPUT, RESET or RECOVERY. -/
def WriteOnly (_ : State Client) : Action Client → Prop
  | .writeInput _ _ => False
  | .program _ steps => steps ≠ dxrtResetDevice
  | _ => True

instance (state : State Client) (action : Action Client) : Decidable (WriteOnly state action) :=
  match action with
  | .writeInput .. => isFalse id
  | .program _ steps => inferInstanceAs (Decidable (steps ≠ dxrtResetDevice))
  | .write .. | .readOutput .. | .writeMem .. | .poll .. | .read .. | .client .. | .run .. | .thread
  | .stop | .complete .. | .interrupt .. | .irq => isTrue trivial

/-- The thread is the only caller of `dx_v3_dsp_run`. -/
def NoInput (state : State Client) : Prop := ∀ client, (state.calls client).frame = none

theorem NoInput.update {state : State Client} (noInput : NoInput state) (client : Client)
    {call : CallPc} (frame : call.frame = none) (other : Client) :
    (Function.update state.calls client call other).frame = none := by
  by_cases same : other = client
  · subst same
    rw [Function.update_self, frame]
  · rw [Function.update_of_ne same]
    exact noInput other

omit [DecidableEq Client] in
/-- A sole caller reads the status idle with no other caller before its mark. -/
theorem NoInput.checkedAlone {state : State Client} (noInput : NoInput state)
    (action : Action Client) : CheckedAlone state action := by
  cases action with
  | run caller =>
    intro waits _ other
    cases caller with
    | input client =>
      rw [running, noInput client] at waits
      cases waits
    | thread =>
      cases other with
      | thread =>
        rw [waits]
        simp
      | input client =>
        rw [running, noInput client]
        simp
  | _ => trivial

/-- What the thread knows of the list: where it is about to take the head there is one, and the
entry it took stays the head until it is unlinked. -/
def ThreadHolds (state : State Client) : Prop :=
  match state.thread with
  | .woken => state.dx.requests ≠ [] ∨ state.shouldStop = true
  | .head => state.dx.requests ≠ []
  | .running entry _ | .unlink entry => state.dx.requests.head? = some entry
  | .headOfEmpty => False
  | .loop | .wait | .waitStop | .free _ | .exited => True

/-! ### Steps the list does not see -/

/-- A step that neither queues, unlinks nor returns an entry, nor moves the thread. -/
structure SameQueue (state next : State Client) : Prop where
  thread : next.thread = state.thread
  shouldStop : next.shouldStop = state.shouldStop
  requests : next.dx.requests = state.dx.requests
  returning : ∀ client, (next.calls client).returning = (state.calls client).returning
  noInput : NoInput state → NoInput next
  log : next.log.filter Event.submission = state.log.filter Event.submission

omit [DecidableEq Client] in
/-- A step that leaves the calls alone. -/
theorem SameQueue.of_calls {state next : State Client} (thread : next.thread = state.thread)
    (shouldStop : next.shouldStop = state.shouldStop)
    (requests : next.dx.requests = state.dx.requests) (calls : next.calls = state.calls)
    (log : next.log.filter Event.submission = state.log.filter Event.submission) :
    SameQueue state next where
  thread := thread
  shouldStop := shouldStop
  requests := requests
  returning client := by rw [calls]
  noInput noInput client := by rw [calls]; exact noInput client
  log := log

/-- A step that moves one call, which is neither in WRITE_INPUT nor about to return from
`write()`. -/
theorem SameQueue.of_setCall {state next : State Client} {client : Client} {before after : CallPc}
    (place : state.calls client = before) (thread : next.thread = state.thread)
    (shouldStop : next.shouldStop = state.shouldStop)
    (requests : next.dx.requests = state.dx.requests)
    (calls : next.calls = Function.update state.calls client after)
    (stands : before.returning = []) (goes : after.returning = []) (frame : after.frame = none)
    (log : next.log.filter Event.submission = state.log.filter Event.submission) :
    SameQueue state next where
  thread := thread
  shouldStop := shouldStop
  requests := requests
  returning other := by
    rw [calls]
    by_cases same : other = client
    · subst same
      rw [Function.update_self, place, stands, goes]
    · rw [Function.update_of_ne same]
  noInput noInput := by
    rw [NoInput, calls]
    exact noInput.update client frame
  log := log

omit [DecidableEq Client] in
theorem submission_append {log : List (Event Client)} {event : Event Client}
    (quiet : event.submission = false) :
    (log ++ [event]).filter Event.submission = log.filter Event.submission := by
  rw [List.filter_append, List.filter_singleton, quiet]
  exact List.append_nil _

theorem outputStep_sameQueue {state next : State Client} {client : Client} {disturbed : Bool}
    {pc : OutputPc} (place : state.calls client = .output pc)
    (moved : state.outputStep client disturbed pc = some next) : SameQueue state next := by
  cases pc with
  | test | clear =>
    cases moved
    exact .of_setCall place rfl rfl rfl rfl rfl rfl rfl rfl
  | wait =>
    rw [outputStep] at moved
    split at moved
    · cases moved
      exact .of_setCall place rfl rfl rfl rfl rfl rfl rfl rfl
    · split at moved
      · cases moved
        exact .of_setCall place rfl rfl rfl rfl rfl rfl rfl rfl
      · cases moved
  | take =>
    rw [outputStep] at moved
    split at moved
    · cases moved
    · split at moved
      · cases moved
        exact .of_setCall place rfl rfl rfl rfl rfl rfl rfl (submission_append rfl)
      · split at moved
        · cases moved
          exact .of_setCall place rfl rfl rfl rfl rfl rfl rfl (submission_append rfl)
        · cases moved
          exact .of_setCall place rfl rfl rfl rfl rfl rfl rfl (submission_append rfl)

/-- A step of a call queues an entry, returns from `write()`, or is not seen by the list. -/
theorem clientStep_cases {state next : State Client} {client : Client} {disturbed : Bool}
    (moved : state.clientStep client disturbed (state.calls client) = some next) :
    (∃ entry, state.calls client = .queue entry ∧
      next = { state.setCall client (.wake entry.request.reqId) with
        dx := { state.dx with requests := state.dx.requests ++ [entry] }
        log := state.log ++ [.accepted client entry.request.reqId] }) ∨
    (∃ reqId, state.calls client = .wake reqId ∧
      next = (state.setCall client .idle).record (.writeReturned client reqId)) ∨
    SameQueue state next := by
  cases place : state.calls client with
  | idle =>
    rw [place] at moved
    cases moved
  | queue entry =>
    rw [place] at moved
    cases moved
    exact Or.inl ⟨entry, rfl, rfl⟩
  | wake reqId =>
    rw [place] at moved
    cases moved
    exact Or.inr (Or.inl ⟨reqId, rfl, rfl⟩)
  | input request pc =>
    rw [place] at moved
    cases pc with
    | done =>
      cases moved
      exact Or.inr (Or.inr (.of_setCall place rfl rfl rfl rfl rfl rfl rfl rfl))
    | _ => cases moved
  | program steps =>
    rw [place] at moved
    cases steps with
    | nil =>
      cases moved
      exact Or.inr (Or.inr (.of_setCall place rfl rfl rfl rfl rfl rfl rfl rfl))
    | cons effect rest =>
      rw [clientStep] at moved
      split at moved
      · cases moved
      · cases moved
        have requests := effect.apply_requests state.dx
        exact Or.inr (Or.inr (.of_setCall place rfl rfl requests rfl rfl rfl rfl rfl))
  | output pc =>
    rw [place] at moved
    exact Or.inr (Or.inr (outputStep_sameQueue place moved))

/-- The steps of the DSP and of the handler. -/
theorem dspStep_sameQueue {state next : State Client} {action : Action Client}
    (dsp : action = .irq ∨ (∃ job, action = .interrupt job) ∨ ∃ job, action = .complete job)
    (moved : state.step action = some next) : SameQueue state next := by
  rcases dsp with rfl | ⟨job, rfl⟩ | ⟨job, rfl⟩
  · rw [step] at moved
    cases place : state.irq with
    | idle =>
      rw [place] at moved
      cases moved
    | store | status | wake =>
      rw [place] at moved
      cases moved
      exact .of_calls rfl rfl rfl rfl (submission_append rfl)
    | status0 | status1 | load | clear0 | clear1 | event =>
      rw [place] at moved
      cases moved
      exact .of_calls rfl rfl rfl rfl rfl
  · obtain ⟨idle, member, rfl⟩ := interrupt_eq_some moved
    exact .of_calls rfl rfl rfl rfl rfl
  · obtain ⟨member, rfl⟩ := complete_eq_some moved
    exact .of_calls rfl rfl rfl rfl (submission_append rfl)

/-- The actions that begin a call, or are one as a whole. -/
def Begins : Action Client → Prop
  | .write .. | .program .. | .readOutput .. | .writeMem .. | .poll .. | .read .. => True
  | _ => False

theorem begins_sameQueue {state next : State Client} {action : Action Client}
    (moved : state.step action = some next) (begins : Begins action) : SameQueue state next := by
  cases action with
  | write client node len data =>
    obtain ⟨idle, rfl⟩ := whenIdle_eq_some moved
    rw [beginWrite]
    split
    · exact .of_setCall idle rfl rfl rfl rfl rfl rfl rfl rfl
    · exact .of_calls rfl rfl rfl rfl (submission_append rfl)
  | program client steps =>
    rw [step] at moved
    split at moved
    · obtain ⟨idle, rfl⟩ := whenIdle_eq_some moved
      exact .of_setCall idle rfl rfl rfl rfl rfl rfl rfl rfl
    · cases moved
  | readOutput client data =>
    obtain ⟨idle, rfl⟩ := whenIdle_eq_some moved
    cases data with
    | null => exact .of_calls rfl rfl rfl rfl (submission_append rfl)
    | fault | writable => exact .of_setCall idle rfl rfl rfl rfl rfl rfl rfl rfl
  | writeMem client data source =>
    obtain ⟨idle, rfl⟩ := whenIdle_eq_some moved
    exact .of_calls rfl rfl (dxrtWriteMem_requests state.dx data source) rfl rfl
  | poll client =>
    obtain ⟨idle, rfl⟩ := whenIdle_eq_some moved
    exact .of_calls rfl rfl rfl rfl (submission_append rfl)
  | read client len fault =>
    obtain ⟨idle, rfl⟩ := whenIdle_eq_some moved
    rw [readStep]
    split
    · exact .of_calls rfl rfl rfl rfl (submission_append rfl)
    · exact .of_calls rfl rfl rfl rfl rfl
  | _ => cases begins

/-! ### The thread and the head of the list -/

omit [DecidableEq Client] in
theorem SameQueue.threadHolds {state next : State Client} (same : SameQueue state next)
    (holds : ThreadHolds state) : ThreadHolds next := by
  rw [ThreadHolds, same.thread, same.requests, same.shouldStop]
  exact holds

omit [DecidableEq Client] in
/-- A new entry goes to the back, so what is the head stays the head. -/
theorem ThreadHolds.append {state next : State Client} (holds : ThreadHolds state)
    {entry : DxrtRequestList} (thread : next.thread = state.thread)
    (shouldStop : next.shouldStop = state.shouldStop)
    (requests : next.dx.requests = state.dx.requests ++ [entry]) : ThreadHolds next := by
  rw [ThreadHolds] at holds ⊢
  rw [thread, shouldStop, requests]
  have stays : ∀ own, state.dx.requests.head? = some own →
      (state.dx.requests ++ [entry]).head? = some own := by
    intro own first
    rw [List.head?_append, first]
    rfl
  cases place : state.thread with
  | woken => exact Or.inl (by simp)
  | head => simp
  | running own pc | unlink own =>
    rw [place] at holds
    exact stays own holds
  | headOfEmpty =>
    rw [place] at holds
    exact holds
  | loop | wait | waitStop | free | exited => trivial

omit [DecidableEq Client] in
theorem threadStep_holds {state next : State Client} (holds : ThreadHolds state)
    (moved : state.threadStep state.thread = some next) : ThreadHolds next := by
  rw [ThreadHolds] at holds
  cases place : state.thread with
  | loop =>
    rw [place] at moved
    cases moved
    rw [ThreadHolds]
    cases state.shouldStop <;> trivial
  | wait =>
    rw [place] at moved
    cases moved
    rw [ThreadHolds]
    by_cases empty : state.dx.requests = []
    · rw [if_pos empty]
      trivial
    · rw [if_neg empty]
      exact Or.inl empty
  | waitStop =>
    rw [place] at moved
    cases moved
    rw [ThreadHolds]
    cases stop : state.shouldStop with
    | true => exact Or.inr rfl
    | false => trivial
  | woken =>
    rw [place] at moved holds
    cases moved
    rw [ThreadHolds]
    cases stop : state.shouldStop with
    | true => trivial
    | false =>
      refine holds.resolve_right ?_
      rw [stop]
      simp
  | head =>
    rw [place] at moved holds
    rw [threadStep] at moved
    split at moved
    · next empty => exact absurd empty holds
    · next entry rest first =>
      cases moved
      show state.dx.requests.head? = some entry
      rw [first]
      rfl
  | running entry pc =>
    rw [place] at moved holds
    cases pc with
    | done =>
      cases moved
      exact holds
    | _ => cases moved
  | unlink entry | free entry =>
    rw [place] at moved
    cases moved
    trivial
  | exited | headOfEmpty =>
    rw [place] at moved
    cases moved

omit [DecidableEq Client] in
theorem ThreadHolds.nonempty_of_started {state : State Client} (holds : ThreadHolds state)
    (started : state.thread.started = true) : state.dx.requests ≠ [] := by
  intro empty
  rw [ThreadHolds, empty] at holds
  cases place : state.thread with
  | running entry pc | unlink entry =>
    rw [place] at holds
    cases holds
  | _ =>
    rw [place] at started
    cases started

/-! ### Steps of the pipeline -/

omit [DecidableEq Client] in
theorem pipeline_congr {state next : State Client}
    (accepted : acceptedIds next.log = acceptedIds state.log)
    (stored : storedValues next.log = storedValues state.log)
    (inFlight : next.inFlight = state.inFlight) (waiting : next.waiting = state.waiting) :
    next.pipeline = state.pipeline := by
  rw [pipeline, pipeline, accepted, stored, inFlight, waiting]

omit [DecidableEq Client] in
theorem SameQueue.waiting {state next : State Client} (same : SameQueue state next) :
    next.waiting = state.waiting := by
  rw [State.waiting, State.waiting, same.thread, same.requests]

omit [DecidableEq Client] in
/-- What is read off the submissions of the log is as before. -/
theorem SameQueue.filterMap {state next : State Client} (same : SameQueue state next)
    {Value : Type} {view : Event Client → Option Value}
    (blind : ∀ event, event.submission = false → view event = none) :
    next.log.filterMap view = state.log.filterMap view := by
  rw [filterMap_eq_filterMap_filter blind, same.log, ← filterMap_eq_filterMap_filter blind]

omit [DecidableEq Client] in
theorem SameQueue.accepted {state next : State Client} (same : SameQueue state next) :
    acceptedIds next.log = acceptedIds state.log :=
  same.filterMap fun event quiet => by cases event <;> first | rfl | cases quiet

omit [DecidableEq Client] in
theorem SameDsp.stored {state next : State Client} (same : SameDsp state next) :
    storedValues next.log = storedValues state.log :=
  same.filterMap fun event quiet => by cases event <;> first | rfl | cases quiet

omit [DecidableEq Client] in
theorem SameDsp.inFlight {state next : State Client} (same : SameDsp state next) :
    next.inFlight = state.inFlight := by
  rw [State.inFlight, State.inFlight, same.started, same.raised, same.irq]

omit [DecidableEq Client] in
/-- The thread unlinks the entry it took, which is the head. -/
theorem threadStep_waiting {state next : State Client} (holds : ThreadHolds state)
    (moved : state.threadStep state.thread = some next) : next.waiting = state.waiting := by
  rw [ThreadHolds] at holds
  cases place : state.thread with
  | loop | wait | waitStop | woken =>
    rw [place] at moved
    cases moved
    rw [waiting, waiting, place]
    split <;> rfl
  | head =>
    rw [place, threadStep] at moved
    split at moved <;> cases moved <;> rw [waiting, waiting, place] <;> rfl
  | running entry pc =>
    rw [place] at moved
    cases pc with
    | done =>
      cases moved
      rw [waiting, waiting, place]
      rfl
    | _ => cases moved
  | unlink entry =>
    rw [place] at moved holds
    cases moved
    rw [waiting, waiting, place]
    show state.dx.requests.eraseP _ = state.dx.requests.tail
    cases list : state.dx.requests with
    | nil => rfl
    | cons first rest =>
      rw [list] at holds
      cases holds
      exact List.eraseP_cons_of_pos (decide_eq_true rfl)
  | free entry =>
    rw [place] at moved
    cases moved
    rw [waiting, waiting, place]
    rfl
  | exited | headOfEmpty =>
    rw [place] at moved
    cases moved

/-- With one request in flight at most, a request the DSP completes is the one. -/
theorem complete_inFlight {state : State Client} (single : state.inFlight.length ≤ 1)
    {job : Job Client} (member : job ∈ state.started) :
    state.started.erase job ++ (state.raised ++ [job]) ++ state.irq.unstored = state.inFlight := by
  obtain ⟨front, back, started⟩ := List.append_of_mem member
  rw [inFlight, started] at single ⊢
  simp only [List.length_append, List.length_cons] at single
  obtain rfl := List.eq_nil_of_length_eq_zero (show front.length = 0 by omega)
  obtain rfl := List.eq_nil_of_length_eq_zero (show back.length = 0 by omega)
  rw [List.eq_nil_of_length_eq_zero (show state.raised.length = 0 by omega)]
  simp

/-- And a request whose interrupt is taken is the one. -/
theorem interrupt_inFlight {state : State Client} (single : state.inFlight.length ≤ 1)
    {job : Job Client} (idle : state.irq = .idle) (member : job ∈ state.raised) :
    state.started ++ state.raised.erase job ++ [job] = state.inFlight := by
  obtain ⟨front, back, raised⟩ := List.append_of_mem member
  rw [inFlight, raised, idle] at single ⊢
  simp only [List.length_append, List.length_cons] at single
  obtain rfl := List.eq_nil_of_length_eq_zero (show front.length = 0 by omega)
  obtain rfl := List.eq_nil_of_length_eq_zero (show back.length = 0 by omega)
  rw [List.eq_nil_of_length_eq_zero (show state.started.length = 0 by omega)]
  simp [IrqPc.unstored]

omit [DecidableEq Client] in
/-- A run of the thread is a run of the entry it took. -/
theorem running_thread {state : State Client} {request : Object} {pc : RunPc}
    (inside : state.running .thread = some { request, pc }) :
    ∃ entry, state.thread = .running entry pc ∧ entry.request = request := by
  rw [running] at inside
  cases place : state.thread with
  | running entry own =>
    rw [place] at inside
    cases inside
    exact ⟨entry, rfl, rfl⟩
  | _ =>
    rw [place] at inside
    cases inside

/-- Only the second header store starts the head. -/
theorem started_runNext (entry : DxrtRequestList) (dsp : Dxdsp) {pc : RunPc}
    (notLast : ∀ msgBufOffset4, pc ≠ .head msgBufOffset4 1) (unfinished : pc ≠ .done) :
    (ThreadPc.running entry (runNext entry.request dsp pc)).started =
      (ThreadPc.running entry pc).started := by
  cases pc with
  | done => exact absurd rfl unfinished
  | wait =>
    rw [runNext]
    split <;> rfl
  | lock | setId | slot => rfl
  | data msgBufOffset4 i =>
    rw [runNext]
    split <;> rfl
  | head msgBufOffset4 i =>
    have second : i ≠ 1 := fun last => notLast msgBufOffset4 (by rw [last])
    rw [runNext]
    split
    · next more =>
      obtain rfl : i = 0 := by omega
      rfl
    · next finished => exact (decide_eq_true (Nat.not_lt.mp finished)).symm

theorem thread_afterRun {state : State Client} {entry : DxrtRequestList}
    {pc : RunPc} (place : state.thread = .running entry pc) :
    (state.afterRun .thread entry.request pc).thread =
      .running entry (runNext entry.request state.dx.dsp pc) := by
  show state.thread.moveRun _ = _
  rw [place]
  rfl

theorem threadRun_holds {state : State Client} {request : Object} {pc : RunPc}
    (holds : ThreadHolds state) (inside : state.running .thread = some { request, pc }) :
    ThreadHolds (state.afterRun .thread request pc) := by
  obtain ⟨entry, place, rfl⟩ := running_thread inside
  rw [ThreadHolds, place] at holds
  rw [ThreadHolds, thread_afterRun place]
  exact holds

omit [DecidableEq Client] in
theorem ThreadHolds.stop {state : State Client} (holds : ThreadHolds state) :
    ThreadHolds { state with shouldStop := true } := by
  rw [ThreadHolds] at holds ⊢
  cases place : state.thread with
  | woken => exact Or.inr rfl
  | _ =>
    rw [place] at holds
    exact holds

/-- What the thread knows of the list stays true in every run. -/
theorem ThreadHolds.step {state next : State Client} {action : Action Client}
    (holds : ThreadHolds state) (moved : state.step action = some next) : ThreadHolds next := by
  cases client : action.ofClient with
  | true =>
    obtain ⟨dx, calls, started, responsesHeld, log, effect, rfl⟩ :=
      step_ofClient_eq_some client moved
    cases effect with
    | queue entry => exact holds.append rfl rfl rfl
    | none | event | pop | run => exact holds
    | micro effect =>
      rw [ThreadHolds, effect.apply_requests]
      exact holds
    | writeMem data source =>
      rw [ThreadHolds, dxrtWriteMem_requests]
      exact holds
  | false =>
    cases action with
    | run caller =>
      obtain ⟨request, pc, inside, -, rfl⟩ := runStep_eq_some moved
      cases caller with
      | input => cases client
      | thread => exact threadRun_holds holds inside
    | thread => exact threadStep_holds holds moved
    | stop =>
      cases moved
      exact holds.stop
    | complete job =>
      exact (dspStep_sameQueue (Or.inr (Or.inr ⟨job, rfl⟩)) moved).threadHolds holds
    | interrupt job =>
      exact (dspStep_sameQueue (Or.inr (Or.inl ⟨job, rfl⟩)) moved).threadHolds holds
    | irq => exact (dspStep_sameQueue (Or.inl rfl) moved).threadHolds holds
    | _ => cases client

theorem threadRun_pipeline {state : State Client} {request : Object} {pc : RunPc}
    (one : OneInFlight state) (holds : ThreadHolds state)
    (inside : state.running .thread = some { request, pc }) (unfinished : pc ≠ .done) :
    (state.afterRun .thread request pc).pipeline = state.pipeline ∨
      Pipeline.Step state.pipeline (state.afterRun .thread request pc).pipeline := by
  obtain ⟨entry, place, rfl⟩ := running_thread inside
  have accepted : acceptedIds (state.afterRun .thread entry.request pc).log =
      acceptedIds state.log := filterMap_afterRun fun _ => rfl
  have stored : storedValues (state.afterRun .thread entry.request pc).log =
      storedValues state.log := filterMap_afterRun fun _ => rfl
  have thread := thread_afterRun place
  by_cases last : ∃ msgBufOffset4, pc = .head msgBufOffset4 1
  · right
    obtain ⟨msgBufOffset4, rfl⟩ := last
    obtain ⟨started, raised, held⟩ := one.of_published (phase_eq_of_running inside)
    have unstored : state.irq.unstored = [] := by
      cases irq : state.irq <;> first | rfl | (rw [irq] at held; cases held)
    have idle : state.inFlight = [] := by rw [inFlight, started, raised, unstored]; rfl
    have inFlight : (state.afterRun .thread entry.request (.head msgBufOffset4 1)).inFlight =
        [{ caller := .thread, reqId := entry.request.reqId }] := by
      show (state.started ++ [_]) ++ state.raised ++ state.irq.unstored = _
      rw [started, raised, unstored]
      rfl
    rw [ThreadHolds, place] at holds
    obtain ⟨rest, list⟩ := List.head?_eq_some_iff.mp holds
    have waits : state.waiting = entry :: rest := by
      rw [waiting, place]
      exact list
    have left : (state.afterRun .thread entry.request (.head msgBufOffset4 1)).waiting = rest := by
      rw [waiting, thread]
      show state.dx.requests.tail = rest
      rw [list]
      rfl
    have starts := Pipeline.Step.start state.pipeline entry.request.reqId
      (rest.map fun entry => entry.request.reqId)
      (by rw [pipeline, idle]; rfl) (by rw [pipeline, waits]; rfl)
    have after : (state.afterRun .thread entry.request (.head msgBufOffset4 1)).pipeline =
        { state.pipeline with
          inFlight := [entry.request.reqId]
          waiting := rest.map fun entry => entry.request.reqId } := by
      rw [pipeline, accepted, stored, inFlight, left]
      rfl
    rw [after]
    exact starts
  · left
    refine pipeline_congr accepted stored ?_ ?_
    · show (state.started ++ startedBy _ pc) ++ state.raised ++ state.irq.unstored = _
      have none : startedBy ({ caller := .thread, reqId := entry.request.reqId } : Job Client) pc =
          [] := by
        rw [startedBy]
        exact fun msgBufOffset4 same => last ⟨msgBufOffset4, same⟩
      rw [none, List.append_nil, inFlight]
    · rw [waiting, waiting, thread, place,
        started_runNext entry state.dx.dsp (fun msgBufOffset4 same => last ⟨msgBufOffset4, same⟩)
          unfinished]
      rfl

theorem irqStep_pipeline {state next : State Client} (one : OneInFlight state)
    (moved : state.irqStep state.irq = some next) :
    next.pipeline = state.pipeline ∨ Pipeline.Step state.pipeline next.pipeline := by
  cases place : state.irq with
  | idle =>
    rw [place] at moved
    cases moved
  | store job value =>
    right
    rw [place] at moved
    cases moved
    obtain ⟨started, raised, -⟩ := one.of_held (by rw [place, IrqPc.held])
    have own : value = job.reqId := one.loaded job value place
    have finishes := Pipeline.Step.finish state.pipeline value (by
      rw [pipeline, inFlight, started, raised, place, own]
      rfl)
    have accepted : acceptedIds (state.log ++ [.stored job value]) = acceptedIds state.log :=
      filterMap_append rfl
    have stored : storedValues (state.log ++ [.stored job value]) =
        storedValues state.log ++ [value] := List.filterMap_append ..
    show Pipeline.Step _
      { accepted := acceptedIds (state.log ++ [.stored job value])
        finished := storedValues (state.log ++ [.stored job value])
        inFlight := (state.started ++ state.raised ++ []).map Job.reqId
        waiting := state.pipeline.waiting }
    rw [accepted, stored, started, raised]
    exact finishes
  | status job | wake job =>
    left
    rw [place] at moved
    cases moved
    refine pipeline_congr (filterMap_append rfl) (filterMap_append rfl) ?_ rfl
    rw [inFlight, inFlight, place]
    rfl
  | status0 job | status1 job | load job | clear0 job | clear1 job | event job =>
    left
    rw [place] at moved
    cases moved
    refine pipeline_congr rfl rfl ?_ rfl
    rw [inFlight, inFlight, place]
    rfl

/-! ### The invariant -/

/-- What holds in every state of a run with only `write()` submissions. -/
structure Flowing (state : State Client) : Prop where
  one : OneInFlight state
  noInput : NoInput state
  holds : ThreadHolds state
  inOrder : state.pipeline.InOrder
  returned : ∀ client, state.log.filterMap (Event.acceptedBy client) =
    state.log.filterMap (Event.returnedTo client) ++ (state.calls client).returning

theorem flowing_initial (dsp : Dxdsp) : Flowing (initial dsp : State Client) where
  one := oneInFlight_initial dsp
  noInput _ := rfl
  holds := trivial
  inOrder := ⟨rfl, Nat.zero_le 1⟩
  returned _ := rfl

/-- The queue-side half of the invariant under steps the list does not see. -/
theorem SameQueue.returned {state next : State Client} (same : SameQueue state next)
    (returned : ∀ client, state.log.filterMap (Event.acceptedBy client) =
      state.log.filterMap (Event.returnedTo client) ++ (state.calls client).returning)
    (client : Client) : next.log.filterMap (Event.acceptedBy client) =
      next.log.filterMap (Event.returnedTo client) ++ (next.calls client).returning := by
  have accepted : next.log.filterMap (Event.acceptedBy client) =
      state.log.filterMap (Event.acceptedBy client) :=
    same.filterMap fun event quiet => by cases event <;> first | rfl | cases quiet
  have returns : next.log.filterMap (Event.returnedTo client) =
      state.log.filterMap (Event.returnedTo client) :=
    same.filterMap fun event quiet => by cases event <;> first | rfl | cases quiet
  rw [accepted, returns, same.returning client]
  exact returned client

/-- A step the list does not see keeps the invariant where it keeps the pipeline in order. -/
theorem Flowing.of_queue {state next : State Client} (flowing : Flowing state)
    (one : OneInFlight next) (queue : SameQueue state next) (inOrder : next.pipeline.InOrder) :
    Flowing next where
  one := one
  noInput := queue.noInput flowing.noInput
  holds := queue.threadHolds flowing.holds
  inOrder := inOrder
  returned := queue.returned flowing.returned

/-- A step that neither the list nor the DSP side sees moves nothing in the pipeline. -/
theorem Flowing.of_same {state next : State Client} (flowing : Flowing state)
    (one : OneInFlight next) (queue : SameQueue state next) (dsp : SameDsp state next) :
    Flowing next := by
  refine flowing.of_queue one queue ?_
  rw [pipeline_congr queue.accepted dsp.stored dsp.inFlight queue.waiting]
  exact flowing.inOrder

/-- An entry enters the list at the back. -/
theorem Flowing.enqueue {state next : State Client} (flowing : Flowing state)
    (one : OneInFlight next) (dsp : SameDsp state next) {client : Client} {entry : DxrtRequestList}
    (place : state.calls client = .queue entry)
    (queued : next = { state.setCall client (.wake entry.request.reqId) with
      dx := { state.dx with requests := state.dx.requests ++ [entry] }
      log := state.log ++ [.accepted client entry.request.reqId] }) : Flowing next where
  one := one
  noInput := by
    subst queued
    exact flowing.noInput.update client rfl
  holds := by
    subst queued
    exact flowing.holds.append rfl rfl rfl
  inOrder := by
    refine flowing.inOrder.step ?_
    have accepted : acceptedIds next.log = acceptedIds state.log ++ [entry.request.reqId] := by
      subst queued
      exact List.filterMap_append
    have waits : next.waiting = state.waiting ++ [entry] := by
      subst queued
      show (if state.thread.started then _ else _) = _
      rw [waiting]
      split
      · next started => exact List.tail_append_of_ne_nil (flowing.holds.nonempty_of_started started)
      · rfl
    have accepts := Pipeline.Step.accept state.pipeline entry.request.reqId
    have after : next.pipeline =
        { state.pipeline with
          accepted := state.pipeline.accepted ++ [entry.request.reqId]
          waiting := state.pipeline.waiting ++ [entry.request.reqId] } := by
      rw [pipeline, accepted, dsp.stored, dsp.inFlight, waits, List.map_append]
      rfl
    rw [after]
    exact accepts
  returned other := by
    have before := flowing.returned other
    subst queued
    show (state.log ++ [_]).filterMap _ = (state.log ++ [_]).filterMap _ ++
      (Function.update state.calls client (.wake _) other).returning
    rw [List.filterMap_append, filterMap_append rfl, before]
    by_cases same : client = other
    · subst same
      rw [place, Function.update_self]
      simp [CallPc.returning, Event.acceptedBy]
    · rw [Function.update_of_ne (Ne.symm same)]
      simp [Event.acceptedBy, same]

/-- A call of `write()` returns the length. -/
theorem Flowing.return {state next : State Client} (flowing : Flowing state)
    (one : OneInFlight next) (dsp : SameDsp state next) {client : Client} {reqId : UInt32}
    (place : state.calls client = .wake reqId)
    (queued : next = (state.setCall client .idle).record (.writeReturned client reqId)) :
    Flowing next where
  one := one
  noInput := by
    subst queued
    exact flowing.noInput.update client rfl
  holds := by
    subst queued
    exact flowing.holds
  inOrder := by
    have accepted : acceptedIds next.log = acceptedIds state.log := by
      subst queued
      exact filterMap_append rfl
    have waits : next.waiting = state.waiting := by
      subst queued
      rfl
    rw [pipeline_congr accepted dsp.stored dsp.inFlight waits]
    exact flowing.inOrder
  returned other := by
    have before := flowing.returned other
    subst queued
    show (state.log ++ [_]).filterMap _ = (state.log ++ [_]).filterMap _ ++
      (Function.update state.calls client .idle other).returning
    rw [filterMap_append rfl, List.filterMap_append, before]
    by_cases same : client = other
    · subst same
      rw [place, Function.update_self]
      simp [CallPc.returning, Event.returnedTo]
    · rw [Function.update_of_ne (Ne.symm same)]
      simp [Event.returnedTo, same]

theorem Flowing.step {state next : State Client} {action : Action Client}
    (flowing : Flowing state) (writeOnly : WriteOnly state action)
    (moved : state.step action = some next) : Flowing next := by
  have one : OneInFlight next := flowing.one.step (flowing.noInput.checkedAlone action) moved
  have single : state.inFlight.length ≤ 1 := by
    rw [← List.length_map]
    exact flowing.inOrder.single
  cases action with
  | write | program | readOutput | writeMem | poll | read =>
    exact flowing.of_same one (begins_sameQueue moved trivial) (step_sameDsp rfl moved)
  | writeInput => exact writeOnly.elim
  | client client disturbed =>
    have dsp := step_sameDsp rfl moved
    rcases clientStep_cases moved with ⟨entry, place, queued⟩ | ⟨reqId, place, returned⟩ | queue
    · exact flowing.enqueue one dsp place queued
    · exact flowing.return one dsp place returned
    · exact flowing.of_same one queue dsp
  | run caller =>
    obtain ⟨request, pc, inside, unfinished, rfl⟩ := runStep_eq_some moved
    cases caller with
    | input client =>
      rw [running, flowing.noInput client] at inside
      cases inside
    | thread =>
      refine ⟨one, flowing.noInput, threadRun_holds flowing.holds inside, ?_, fun client => ?_⟩
      · rcases threadRun_pipeline flowing.one flowing.holds inside unfinished with same | stepped
        · exact same ▸ flowing.inOrder
        · exact flowing.inOrder.step stepped
      · rw [filterMap_afterRun fun _ => rfl, filterMap_afterRun fun _ => rfl]
        exact flowing.returned client
  | thread =>
    have dsp := step_sameDsp rfl moved
    have waits := threadStep_waiting flowing.holds moved
    have holds := threadStep_holds flowing.holds moved
    obtain ⟨thread, requests, changed⟩ := threadStep_eq_some moved
    have accepted : acceptedIds next.log = acceptedIds state.log := by rw [changed]
    have same := pipeline_congr accepted dsp.stored dsp.inFlight waits
    subst changed
    exact ⟨one, flowing.noInput, holds, same ▸ flowing.inOrder, flowing.returned⟩
  | stop =>
    have dsp := step_sameDsp rfl moved
    cases moved
    exact ⟨one, flowing.noInput, flowing.holds.stop, flowing.inOrder, flowing.returned⟩
  | complete job =>
    have queue := dspStep_sameQueue (Or.inr (Or.inr ⟨job, rfl⟩)) moved
    obtain ⟨member, rfl⟩ := complete_eq_some moved
    refine flowing.of_queue one queue ?_
    rw [pipeline_congr queue.accepted (filterMap_append rfl) (complete_inFlight single member)
      queue.waiting]
    exact flowing.inOrder
  | interrupt job =>
    have queue := dspStep_sameQueue (Or.inr (Or.inl ⟨job, rfl⟩)) moved
    obtain ⟨idle, member, changed⟩ := interrupt_eq_some moved
    have stored : storedValues next.log = storedValues state.log := by rw [changed]
    have inFlight : next.inFlight = state.inFlight := by
      subst changed
      exact interrupt_inFlight single idle member
    refine flowing.of_queue one queue ?_
    rw [pipeline_congr queue.accepted stored inFlight queue.waiting]
    exact flowing.inOrder
  | irq =>
    refine flowing.of_queue one (dspStep_sameQueue (Or.inl rfl) moved) ?_
    rcases irqStep_pipeline flowing.one moved with same | stepped
    · exact same ▸ flowing.inOrder
    · exact flowing.inOrder.step stepped

theorem Flowing.of_reaches {state : State Client}
    (reached : (driver Client).Reaches WriteOnly state) : Flowing state := by
  refine reached.invariant ?_ fun _ _ _ flowing writeOnly moved => flowing.step writeOnly moved
  rintro _ ⟨dsp, rfl⟩
  exact flowing_initial dsp

end State

/-! ### The write path -/

/-- In every run with only `write()` submissions the accepted ids are the stored values, the at most
one request in flight, and the waiting requests, in this order; the thread never takes the head of
an empty list; and what a client's calls accepted is what they returned for, and the call about to
return. -/
theorem write_path_in_order {state : State Client}
    (reached : (driver Client).Reaches State.WriteOnly state) :
    acceptedIds state.log =
        storedValues state.log ++ state.inFlight.map Job.reqId ++
          state.waiting.map (fun entry => entry.request.reqId) ∧
      state.inFlight.length ≤ 1 ∧ state.thread ≠ .headOfEmpty ∧
      ∀ client, state.log.filterMap (Event.acceptedBy client) =
        state.log.filterMap (Event.returnedTo client) ++ (state.calls client).returning := by
  have flowing := State.Flowing.of_reaches reached
  refine ⟨flowing.inOrder.conserved, ?_, fun empty => ?_, flowing.returned⟩
  · rw [← List.length_map]
    exact flowing.inOrder.single
  · have holds := flowing.holds
    rw [State.ThreadHolds, empty] at holds
    exact holds

/-- Three submissions of two clients: the first completed, the second in flight, the third
waiting. -/
def threeSubmissions : List (Action (Fin 2)) :=
  submit 0 1 5 ++ submit 1 2 6 ++ submit 0 3 7 ++ List.replicate 4 .thread ++ runToEnd .thread ++
    completeAndHandle ⟨.thread, 5⟩ ++ List.replicate 7 .thread ++ runToEnd .thread

theorem write_path_in_order_three :
    ∃ state, (driver (Fin 2)).Reaches State.WriteOnly state ∧
      storedValues state.log = [5] ∧ state.inFlight = [⟨.thread, 6⟩] ∧
      state.waiting.map (fun entry => entry.request.reqId) = [7] ∧
      acceptedIds state.log = [5, 6, 7] ∧
      ∀ client, state.log.filterMap (Event.acceptedBy client) =
        state.log.filterMap (Event.returnedTo client) ++ (state.calls client).returning := by
  obtain ⟨state, reached, seen⟩ := exists_reached threeSubmissions
    (show ((driver (Fin 2)).run State.WriteOnly _ _).map (fun state =>
        (storedValues state.log, state.inFlight,
          state.waiting.map fun entry => entry.request.reqId)) =
      some ([5], [⟨.thread, 6⟩], [7]) by decide +kernel)
  obtain ⟨order, -, -, returned⟩ := write_path_in_order reached
  simp only [Prod.mk.injEq] at seen
  obtain ⟨stored, inFlight, waiting⟩ := seen
  rw [stored, inFlight, waiting] at order
  exact ⟨state, reached, stored, inFlight, waiting, order, returned⟩

end DxDsp
