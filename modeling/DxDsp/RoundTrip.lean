/-
This file follows one request from its submission to its answer. Where a driver
with nothing in progress is given one request, by `write()` or by WRITE_INPUT, and
nobody calls again, every weakly fair run comes to rest with the event flag raised
and the id of the request in the response: whoever polls then is told POLLIN, and
whoever reads then gets the id.
-/

import DxDsp.Answered
import DxDsp.InFlight
import DxDsp.Requests
import DxDsp.Submissions

namespace DxDsp

open Library

variable {Client : Type}

/-! ### One request and no other -/

/-- A call that submits this request, or no longer submits anything. -/
def CallPc.Submits (request : Object) : CallPc → Prop
  | .idle | .wake _ => True
  | .queue entry => entry.request = request
  | .input own _ => own = request
  | .program _ | .output _ => False

theorem CallPc.Submits.step {request : Object} {call after : CallPc} {ownRun : Prop}
    (submits : call.Submits request) (stepped : CallStep ownRun call after)
    (busy : call ≠ .idle) : after.Submits request := by
  cases stepped with
  | stays | runs => exact submits
  | write | writeInput | program | readOutput => exact absurd rfl busy
  | queued | written | ran | finished => trivial
  | effect | reads | answered => exact submits.elim

theorem CallPc.Submits.request {request own : Object} {call : CallPc}
    (submits : call.Submits request) (holds : call.request = some own) : own = request := by
  cases call with
  | queue | input =>
    cases holds
    exact submits
  | idle | wake | program | output => cases holds

namespace State

theorem Ongoing.brings {action : Action Client} (ongoing : Ongoing action) {request own : Object}
    (brings : action.brings = some own) : own = request := by
  cases action <;> first | exact ongoing.elim | cases brings

/-- Whatever is submitted, on the list or in the hand of the thread is this request. -/
structure Sole (request : Object) (state : State Client) : Prop where
  calls : ∀ client, (state.calls client).Submits request
  entries : ∀ entry ∈ state.dx.requests, entry.request = request
  thread : ∀ frame, state.thread.frame = some frame → frame.request = request

theorem Sole.requests {request : Object} {state : State Client} (sole : Sole request state) :
    Requests (· = request) state where
  calls client _ holds := (sole.calls client).request holds
  entries := sole.entries
  thread := sole.thread

theorem Sole.job {request : Object} {state : State Client} (sole : Sole request state)
    {caller : Caller Client} {job : Job Client} (inside : (state.phase caller).job = some job) :
    job.reqId = request.reqId := by
  rw [phase] at inside
  cases frame : state.running caller with
  | none =>
    rw [frame] at inside
    cases inside
  | some own =>
    rw [frame] at inside
    have same := sole.requests.running frame
    obtain ⟨object, pc⟩ := own
    have isJob : job = { caller, reqId := object.reqId } := by
      cases pc with
      | wait | done => cases inside
      | lock | setId | slot | data => exact (Option.some.inj inside).symm
      | head msgBufOffset4 i =>
        rw [runningPhase, RunPc.phase] at inside
        split at inside
        · exact (Option.some.inj inside).symm
        · cases inside
    rw [isJob]
    exact congrArg Object.reqId same

variable [DecidableEq Client]

theorem Sole.step {request : Object} {state next : State Client} {action : Action Client}
    (sole : Sole request state) (ongoing : Ongoing action)
    (moved : state.step action = some next) : Sole request next where
  calls client := by
    have stepped := step_call moved client
    rcases step_calls moved with calls | ⟨own, call, -, calls, busy⟩
    · rw [calls]
      exact sole.calls client
    · by_cases same : client = own
      · exact (sole.calls client).step stepped (same ▸ busy ongoing)
      · rw [calls, Function.update_of_ne same]
        exact sole.calls client
  entries := (sole.requests.step (fun _ => ongoing.brings) moved).entries
  thread := (sole.requests.step (fun _ => ongoing.brings) moved).thread

omit [DecidableEq Client] in
/-- A thread that is not told to stop does not return. -/
theorem threadStep_live {state next : State Client} (goes : state.shouldStop = false)
    (moved : state.threadStep state.thread = some next) : next.thread ≠ .exited := by
  cases place : state.thread with
  | loop | waitStop | woken =>
    rw [place, threadStep, goes] at moved
    cases moved
    exact ThreadPc.noConfusion
  | wait =>
    rw [place] at moved
    cases moved
    dsimp only
    split <;> exact ThreadPc.noConfusion
  | head =>
    rw [place, threadStep] at moved
    split at moved <;> cases moved <;> exact ThreadPc.noConfusion
  | running entry pc =>
    rw [place] at moved
    cases pc <;> cases moved
    exact ThreadPc.noConfusion
  | unlink | free =>
    rw [place] at moved
    cases moved
    exact ThreadPc.noConfusion
  | exited | headOfEmpty =>
    rw [place] at moved
    cases moved

/-! ### What a step tells -/

/-- Only the handler's write of status 0 tells a release. -/
theorem step_released {state next : State Client} {action : Action Client}
    (moved : state.step action = some next) {told : List (Event Client)}
    (log : next.log = state.log ++ told) {job : Job Client} (released : .released job ∈ told) :
    action = .irq ∧ state.irq = .status job := by
  have only : ∀ event, next.log = state.log ++ [event] → event = .released job := by
    intro event grown
    rw [List.append_cancel_left (log.symm.trans grown)] at released
    exact (List.mem_singleton.mp released).symm
  have grows : next.log ≠ state.log := by
    intro same
    rw [List.append_cancel_left ((log.symm.trans same).trans (List.append_nil _).symm)] at released
    cases released
  by_cases side : action.clientSide = true
  · rcases (posts_step moved).log with same | ⟨event, grown, -⟩
    · exact absurd same grows
    · have passages : next.log.filterMap Event.passage = state.log.filterMap Event.passage :=
        congrArg BusyFlag.history (step_sameDsp side moved).flag
      rw [grown, only event grown, List.filterMap_append] at passages
      cases List.append_cancel_left (passages.trans (List.append_nil _).symm)
  · cases action with
    | run caller =>
      obtain ⟨request, pc, -, -, rfl⟩ := runStep_eq_some moved
      rcases log_afterRun state caller request pc with same | ⟨own, grown⟩
      · exact absurd same grows
      · cases only _ grown
    | complete own =>
      obtain ⟨-, rfl⟩ := complete_eq_some moved
      cases only _ rfl
    | interrupt own =>
      obtain ⟨-, -, rfl⟩ := interrupt_eq_some moved
      exact absurd rfl grows
    | irq =>
      rw [State.step] at moved
      cases place : state.irq with
      | idle =>
        rw [place] at moved
        cases moved
      | status own =>
        rw [place] at moved
        cases moved
        cases only _ rfl
        exact ⟨rfl, rfl⟩
      | store | wake =>
        rw [place] at moved
        cases moved
        cases only _ rfl
      | status0 | status1 | load | clear0 | clear1 | event =>
        rw [place] at moved
        cases moved
        exact absurd rfl grows
    | _ => exact absurd rfl side

/-- Outside its own steps the handler is only entered. -/
theorem step_handler {state next : State Client} {action : Action Client}
    (moved : state.step action = some next) (other : action ≠ .irq) :
    next.irq = state.irq ∨ (state.irq = .idle ∧ ∃ job, next.irq = .status0 job) := by
  cases action with
  | irq => exact absurd rfl other
  | thread =>
    obtain ⟨thread, requests, rfl⟩ := threadStep_eq_some moved
    exact Or.inl rfl
  | stop =>
    cases moved
    exact Or.inl rfl
  | complete job =>
    obtain ⟨-, rfl⟩ := complete_eq_some moved
    exact Or.inl rfl
  | interrupt job =>
    obtain ⟨idle, -, rfl⟩ := interrupt_eq_some moved
    exact Or.inr ⟨idle, job, rfl⟩
  | run caller =>
    obtain ⟨request, pc, -, -, rfl⟩ := runStep_eq_some moved
    exact Or.inl rfl
  | _ =>
    obtain ⟨dx, calls, started, held, log, -, rfl⟩ := step_ofClient_eq_some rfl moved
    exact Or.inl rfl

omit [DecidableEq Client] in
/-- The mailbox is the handler's where only this request is about. -/
theorem Sole.writes {request : Object} {state : State Client} {action : Action Client}
    (sole : Sole request state) (ongoing : Ongoing action) :
    (state.eventWrite action = none ∧ state.idWrite action = none) ∨ action = .irq := by
  cases action with
  | client client disturbed =>
    have submits := sole.calls client
    refine Or.inl ?_
    rw [eventWrite, idWrite]
    cases place : state.calls client with
    | program | output =>
      rw [place] at submits
      exact submits.elim
    | _ => exact ⟨rfl, rfl⟩
  | irq => exact Or.inr rfl
  | run | thread | complete | interrupt => exact Or.inl ⟨rfl, rfl⟩
  | _ => cases ongoing

end State

/-! ### On the way to the answer -/

/-- The handler has stored the id and not returned yet. -/
def IrqPc.responded : IrqPc Client → Bool
  | .clear0 _ | .clear1 _ | .status _ | .event _ | .wake _ => true
  | .idle | .status0 _ | .status1 _ | .load _ | .store _ _ => false

/-- The submission has not come to the list or out of the busy wait yet. -/
def CallPc.pending : CallPc → Bool
  | .queue _ | .input _ .wait => true
  | _ => false

/-- It has come there. -/
def Event.begins : Event Client → Bool
  | .accepted _ _ | .left { caller := .input _, .. } => true
  | _ => false

namespace State

/-- A driver that has told these events since the request was submitted. -/
structure Answering (request : Object) (told : List (Event Client)) (state : State Client) :
    Prop where
  sole : Sole request state
  carries : BusyFlag.Carries request.reqId state.flag
  loaded : ∀ job value, state.irq = .store job value → value = request.reqId
  response : state.irq.responded = true ∨ (∃ job, .released job ∈ told) →
    state.dx.response.reqId = request.reqId
  raised : (∃ job, .released job ∈ told) →
    state.dx.dsp.irqEvent = true ∨ ∃ job, state.irq = .event job
  begun : (∃ client, (state.calls client).pending = true) ∨
    ∃ event ∈ told, Event.begins event = true
  live : state.shouldStop = false ∧ state.thread ≠ .exited

variable [DecidableEq Client]

section Step

variable {request : Object} {told new : List (Event Client)} {state next : State Client}
  {action : Action Client}

theorem Answering.carries_step (answering : Answering request told state)
    (moved : state.step action = some next) : BusyFlag.Carries request.reqId next.flag := by
  rcases step_move moved with same | stepped
  · rw [same]
    exact answering.carries
  · exact stepped.carries answering.carries fun caller job inside => answering.sole.job inside

theorem Answering.loaded_step (answering : Answering request told state)
    (moved : state.step action = some next) (job : Job Client) (value : UInt32)
    (stores : next.irq = .store job value) : value = request.reqId := by
  rcases irq_store_cases moved stores with before | ⟨loads, rfl⟩
  · exact answering.loaded job value before
  · refine answering.carries.tag_of_handed fun none => ?_
    have held : job ∈ state.flag.handed := by
      rw [flag, loads]
      exact Multiset.mem_add.mpr (Or.inr (Multiset.mem_coe.mpr List.mem_cons_self))
    rw [none] at held
    exact Multiset.notMem_zero job held

theorem Answering.response_step (answering : Answering request told state)
    (ongoing : Ongoing action) (moved : state.step action = some next)
    (log : next.log = state.log ++ new)
    (found : next.irq.responded = true ∨ ∃ job, .released job ∈ told ++ new) :
    next.dx.response.reqId = request.reqId := by
  have written := (posts_step moved).reqId
  have earlier : ∀ job, .released job ∈ told ++ new →
      state.irq.responded = true ∨ ∃ job, .released job ∈ told := by
    intro job member
    rcases List.mem_append.mp member with old | fresh
    · exact Or.inr ⟨job, old⟩
    · rw [(step_released moved log fresh).2]
      exact Or.inl rfl
  by_cases stores : ∃ job value, action = .irq ∧ state.irq = .store job value
  · obtain ⟨job, value, rfl, place⟩ := stores
    rw [idWrite, place] at written
    exact written.trans (answering.loaded job value place)
  · have before : state.irq.responded = true ∨ ∃ job, .released job ∈ told := by
      rcases found with responds | ⟨job, member⟩
      · left
        by_cases own : action = .irq
        · subst own
          rw [State.step] at moved
          cases place : state.irq with
          | store job value => exact absurd ⟨job, value, rfl, place⟩ stores
          | _ =>
            rw [place] at moved
            cases moved <;> first | rfl | cases responds
        · rcases step_handler moved own with same | ⟨-, job, entered⟩
          · rw [← same]
            exact responds
          · rw [entered] at responds
            cases responds
      · exact earlier job member
    have silent : state.idWrite action = none := by
      rcases answering.sole.writes ongoing with ⟨-, silent⟩ | rfl
      · exact silent
      · rw [idWrite]
        cases place : state.irq with
        | store job value => exact absurd ⟨job, value, rfl, place⟩ stores
        | _ => rfl
    rw [silent, Option.getD_none] at written
    rw [written]
    exact answering.response before

theorem Answering.raised_step (answering : Answering request told state)
    (ongoing : Ongoing action) (moved : state.step action = some next)
    (log : next.log = state.log ++ new) (found : ∃ job, .released job ∈ told ++ new) :
    next.dx.dsp.irqEvent = true ∨ ∃ job, next.irq = .event job := by
  have written := (posts_step moved).event
  obtain ⟨job, member⟩ := found
  by_cases stands : ∃ job, action = .irq ∧ state.irq = .event job
  · obtain ⟨own, rfl, place⟩ := stands
    rw [eventWrite, place] at written
    exact Or.inl written
  · have silent : state.eventWrite action = none := by
      rcases answering.sole.writes ongoing with ⟨silent, -⟩ | rfl
      · exact silent
      · rw [eventWrite]
        cases place : state.irq with
        | event job => exact absurd ⟨job, rfl, place⟩ stands
        | _ => rfl
    rw [silent, Option.getD_none] at written
    rcases List.mem_append.mp member with old | fresh
    · rcases answering.raised ⟨job, old⟩ with up | ⟨own, place⟩
      · exact Or.inl (written.trans up)
      · have other : action ≠ .irq := fun same => stands ⟨own, same, place⟩
        rcases step_handler moved other with same | ⟨idle, -⟩
        · exact Or.inr ⟨own, same.trans place⟩
        · rw [idle] at place
          cases place
    · obtain ⟨rfl, place⟩ := step_released moved log fresh
      rw [State.step, place] at moved
      cases moved
      exact Or.inr ⟨job, rfl⟩

/-- The caller that moves its own submission has it told. -/
theorem pending_step (ongoing : Ongoing action) (moved : state.step action = some next)
    (log : next.log = state.log ++ new) {client : Client} (moves : mover action = some client)
    (pending : (state.calls client).pending = true) :
    (∃ client, (next.calls client).pending = true) ∨
      ∃ event ∈ told ++ new, Event.begins event = true := by
  cases action with
  | client own disturbed =>
    obtain rfl : own = client := Option.some.inj moves
    rw [State.step] at moved
    cases place : state.calls own with
    | queue entry =>
      rw [place] at moved
      cases moved
      rw [← List.append_cancel_left log]
      exact Or.inr ⟨_, List.mem_append_right _ (List.mem_singleton_self _), rfl⟩
    | input object pc =>
      rw [place] at pending moved
      cases pc with
      | wait => cases moved
      | _ => cases pending
    | _ =>
      rw [place] at pending
      cases pending
  | run caller =>
    cases caller with
    | thread => cases moves
    | input own =>
      obtain rfl : own = client := Option.some.inj moves
      obtain ⟨object, pc, inside, -, rfl⟩ := runStep_eq_some moved
      have place := running_input inside
      rw [place] at pending
      cases pc with
      | wait =>
        by_cases busy : readDspStatus state.dx.dsp.regDspBase = dspBusy
        · refine Or.inl ⟨own, ?_⟩
          show (Function.update state.calls own _ own).pending = true
          rw [Function.update_self, place, runNext, if_pos busy]
          rfl
        · have leaves : leftBy ({ caller := .input own, reqId := object.reqId } : Job Client)
              .wait (runNext object state.dx.dsp .wait) =
                [.left { caller := .input own, reqId := object.reqId }] := by
            rw [runNext, if_neg busy, leftBy, if_pos ⟨rfl, rfl⟩]
          have isNew := List.append_cancel_left log
          rw [leaves] at isNew
          rw [← isNew]
          exact Or.inr ⟨_, List.mem_append_right _ (List.mem_singleton_self _), rfl⟩
      | _ => cases pending
  | thread | complete | interrupt | irq => cases moves
  | _ => cases ongoing

theorem Answering.begun_step (answering : Answering request told state)
    (ongoing : Ongoing action) (moved : state.step action = some next)
    (log : next.log = state.log ++ new) :
    (∃ client, (next.calls client).pending = true) ∨
      ∃ event ∈ told ++ new, Event.begins event = true := by
  rcases answering.begun with ⟨client, pending⟩ | ⟨event, member, begins⟩
  · rcases step_calls moved with calls | ⟨own, call, moves, calls, -⟩
    · exact Or.inl ⟨client, calls ▸ pending⟩
    · by_cases same : client = own
      · subst same
        exact pending_step ongoing moved log moves pending
      · refine Or.inl ⟨client, ?_⟩
        rw [calls, Function.update_of_ne same]
        exact pending
  · exact Or.inr ⟨event, List.mem_append_left _ member, begins⟩

theorem Answering.live_step (answering : Answering request told state)
    (ongoing : Ongoing action) (moved : state.step action = some next) :
    next.shouldStop = false ∧ next.thread ≠ .exited := by
  obtain ⟨goes, live⟩ := answering.live
  have other : action ≠ .stop := by
    rintro rfl
    exact ongoing
  refine ⟨((step_leaves moved).flag other).trans goes, ?_⟩
  by_cases own : action = .thread
  · subst own
    exact threadStep_live goes moved
  · by_cases ownRun : action = .run .thread
    · subst ownRun
      obtain ⟨object, pc, inside, -, rfl⟩ := runStep_eq_some moved
      obtain ⟨entry, place, -⟩ := running_thread inside
      rw [afterRun, threadMoved, place]
      exact ThreadPc.noConfusion
    · rw [step_thread moved own ownRun]
      exact live

theorem Answering.step (answering : Answering request told state) (ongoing : Ongoing action)
    (moved : state.step action = some next) (log : next.log = state.log ++ new) :
    Answering request (told ++ new) next where
  sole := answering.sole.step ongoing moved
  carries := answering.carries_step moved
  loaded := answering.loaded_step moved
  response := answering.response_step ongoing moved log
  raised := answering.raised_step ongoing moved log
  begun := answering.begun_step ongoing moved log
  live := answering.live_step ongoing moved

end Step

theorem Answering.endless {request : Object} {endless : (driver Client).Endless Ongoing}
    (answering : Answering request [] (endless.state 0)) (time : Nat) :
    ∃ told, (endless.state time).log = (endless.state 0).log ++ told ∧
      Answering request told (endless.state time) := by
  induction time with
  | zero => exact ⟨[], (List.append_nil _).symm, answering⟩
  | succ time inductionHypothesis =>
    obtain ⟨told, log, still⟩ := inductionHypothesis
    cases taken : endless.taken time with
    | none =>
      rw [endless.stays time taken]
      exact ⟨told, log, still⟩
    | some action =>
      have moved := endless.moves time action taken
      obtain ⟨new, grown⟩ := log_step moved
      refine ⟨told ++ new, ?_, still.step (endless.isInner time action taken) moved grown⟩
      rw [grown, log, List.append_assoc]

/-! ### A driver with nothing in progress -/

omit [DecidableEq Client] in
/-- No call, no request anywhere, and a thread that waits for one. -/
structure Unoccupied (state : State Client) : Prop where
  calls : ∀ client, state.calls client = .idle
  requests : state.dx.requests = []
  started : state.started = []
  raised : state.raised = []
  irq : state.irq = .idle
  handler : state.dx.requestHandler = true
  live : state.shouldStop = false ∧ state.thread ≠ .exited

/-- A request that `write()` or WRITE_INPUT has been called with. -/
def Submitted (state : State Client) (request : Object) (first : State Client) : Prop :=
  (∃ client node, state.step (.write client (some node) sizeofDxrtDspRequest (some request)) =
      some first) ∨
    ∃ client, state.step (.writeInput client (.holds request)) = some first

omit [DecidableEq Client] in
theorem Unoccupied.running {state : State Client} (unoccupied : Unoccupied state)
    (holds : ThreadHolds state) (caller : Caller Client) : state.running caller = none := by
  cases caller with
  | thread =>
    exact ThreadPc.frame_of_betweenEntries (holds.betweenEntries unoccupied.requests)
  | input client =>
    rw [State.running, unoccupied.calls]
    rfl

/-- The call behind a submission. -/
theorem Submitted.call {state first : State Client} {request : Object}
    (submitted : state.Submitted request first) (handler : state.dx.requestHandler = true) :
    ∃ client call, first = state.setCall client call ∧ call.Submits request ∧
      call.pending = true ∧ runningPhase (.input client) call.frame = .outside := by
  rcases submitted with ⟨client, node, moved⟩ | ⟨client, moved⟩
  · obtain ⟨-, rfl⟩ := whenIdle_eq_some moved
    refine ⟨client, .queue { node, request }, ?_, rfl, rfl, rfl⟩
    rw [beginWrite, dxrtDevWritePrepare, handler]
    rfl
  · obtain ⟨-, rfl⟩ := whenIdle_eq_some moved
    exact ⟨client, .input request .wait, rfl, rfl, rfl, rfl⟩

theorem Unoccupied.answering {state first : State Client} {request : Object}
    (unoccupied : Unoccupied state) (holds : ThreadHolds state)
    (submitted : state.Submitted request first) : Answering request [] first := by
  obtain ⟨client, call, rfl, submits, pending, outside⟩ := submitted.call unoccupied.handler
  have phase : (state.setCall client call).phase = state.phase :=
    phase_setCall (unoccupied.calls client) rfl outside
  refine ⟨⟨fun other => ?_, ?_, ?_⟩, Or.inr ⟨?_, ?_⟩, ?_, ?_, ?_, ?_, unoccupied.live⟩
  · show (Function.update state.calls client call other).Submits request
    by_cases same : other = client
    · rw [same, Function.update_self]
      exact submits
    · rw [Function.update_of_ne same, unoccupied.calls]
      trivial
  · intro entry member
    rw [show (state.setCall client call).dx.requests = [] from unoccupied.requests] at member
    cases member
  · intro frame inside
    have none := unoccupied.running holds .thread
    cases none.symm.trans inside
  · intro user job stands
    have published : state.phase user = .published job := (congrFun phase user).symm.trans stands
    rw [State.phase, unoccupied.running holds] at published
    cases published
  · show (state.started : Multiset (Job Client)) + state.raised + state.irq.held = 0
    rw [unoccupied.started, unoccupied.raised, unoccupied.irq]
    rfl
  · intro job value stores
    cases unoccupied.irq.symm.trans stores
  · rintro (responds | ⟨job, member⟩)
    · rw [show (state.setCall client call).irq = .idle from unoccupied.irq] at responds
      cases responds
    · cases member
  · rintro ⟨job, member⟩
    cases member
  · refine Or.inl ⟨client, ?_⟩
    show (Function.update state.calls client call client).pending = true
    rw [Function.update_self]
    exact pending

/-! ### Closed books -/

/-- What was accepted or left the busy wait has been answered. -/
structure Closed (log : List (Event Client)) : Prop where
  runs : ∀ job, log.count (.left job) = log.count (.released job)
  writes : ∀ reqId, (acceptedIds log).count reqId =
    log.count (.released { caller := .thread, reqId })

theorem Unoccupied.closed {state : State Client} (unoccupied : Unoccupied state)
    (accounts : Accounts state) : Closed state.log := by
  have runs : ∀ job, state.log.count (.left job) = state.log.count (.released job) := by
    intro job
    have balance := accounts.balanced job
    have outside : (state.flag.phase job.caller).count job = 0 := by
      show (state.phase job.caller).count job = 0
      rw [phase, unoccupied.running accounts.holds]
      rfl
    have handed : state.flag.handed = 0 := by
      rw [flag, unoccupied.started, unoccupied.raised, unoccupied.irq]
      rfl
    rw [outside, handed, Multiset.count_zero, State.flag, entries_eq_count,
      releases_eq_count] at balance
    exact balance
  refine ⟨runs, fun reqId => ?_⟩
  have none : state.untaken = [] := by
    rw [untaken, unoccupied.requests]
    exact ite_self _
  have booked := accounts.booked
  rw [Booked, none, List.map_nil, List.append_nil] at booked
  rw [booked, takenIds_count, runs]

/-- Between two closings what begins is answered. -/
theorem Closed.released {log told : List (Event Client)} (before : Closed log)
    (after : Closed (log ++ told)) {event : Event Client} (member : event ∈ told)
    (begins : event.begins = true) : ∃ job, .released job ∈ told := by
  cases event with
  | accepted client reqId =>
    have writes := after.writes reqId
    have found : reqId ∈ acceptedIds told := List.mem_filterMap.mpr ⟨_, member, rfl⟩
    have more : 0 < (acceptedIds told).count reqId := List.count_pos_iff.mpr found
    have grows : acceptedIds (log ++ told) = acceptedIds log ++ acceptedIds told :=
      List.filterMap_append
    rw [grows, List.count_append, List.count_append] at writes
    have earlier := before.writes reqId
    exact ⟨{ caller := .thread, reqId }, List.count_pos_iff.mp (by omega)⟩
  | left job =>
    have runs := after.runs job
    have more : 0 < told.count (.left job) := List.count_pos_iff.mpr member
    rw [List.count_append, List.count_append] at runs
    have earlier := before.runs job
    exact ⟨job, List.count_pos_iff.mp (by omega)⟩
  | _ => cases begins

/-! ### At rest -/

/-- Whoever polls is told POLLIN, and whoever reads gets the id of the request. -/
structure Answers (request : Object) (state : State Client) : Prop where
  settled : state.Settled
  poll : ∀ client, ∃ next, state.step (.poll client) = some next ∧
    next.log = state.log ++ [.polled client true]
  read : ∀ client, ∃ next, state.step (.read client sizeofDxrtResponse false) = some next ∧
    next.log = state.log ++ [.read client request.reqId]

theorem Answering.answers {request : Object} {told log : List (Event Client)}
    {state : State Client} (answering : Answering request told state) (settled : state.Settled)
    (grown : state.log = log ++ told) (before : Closed log) (accounts : Accounts state) :
    Answers request state := by
  have idle : ∀ client, state.calls client = .idle := by
    intro client
    refine (settled.calls client).resolve_right fun waits => ?_
    have submits := answering.sole.calls client
    rw [waits.1] at submits
    exact submits
  have answered := accounts.answered settled
  have after : Closed (log ++ told) :=
    grown ▸ ⟨answered.runs, answered.writes answering.live.2⟩
  obtain ⟨event, member, begins⟩ := answering.begun.resolve_left (by
    rintro ⟨client, pending⟩
    rw [idle] at pending
    cases pending)
  have released := before.released after member begins
  have id := answering.response (Or.inr released)
  have up : state.dx.dsp.irqEvent = true := by
    refine (answering.raised released).resolve_right ?_
    rintro ⟨job, stands⟩
    rw [settled.irq] at stands
    cases stands
  refine ⟨settled, fun client => ⟨state.pollStep client, ?_, ?_⟩,
    fun client => ⟨state.readStep client sizeofDxrtResponse false, ?_, ?_⟩⟩
  · rw [State.step, State.whenIdle, idle]
  · rw [pollStep, up]
  · rw [State.step, State.whenIdle, idle]
  · rw [readStep, dxrtDevRead, if_neg (Nat.lt_irrefl _), if_neg (by simp), ← id]
    rfl

end State

variable [DecidableEq Client]

/-- Where a driver with nothing in progress is given a request that fits, by `write()` or by
WRITE_INPUT, and nobody calls again, every weakly fair run comes to rest with the answer in the
mailbox. The requests before it fit too, no reset has taken place, and the DSP completes what it was
started with. -/
theorem request_round_trip {dsp : Dxdsp} (vector : dsp.regDspBasePhyAddrRomRam ≠ dspBusy)
    {state : State Client} {request : Object} {endless : (driver Client).Endless State.Ongoing}
    (reached : ((driver Client).startingAt (State.initial dsp)).Reaches State.Benign state)
    (unoccupied : state.Unoccupied) (fits : request.Fits)
    (submitted : state.Submitted request (endless.state 0))
    (fair : endless.WeaklyFair State.Urged State.Retests) :
    ∃ time, ∀ later, time ≤ later → (endless.state later).Answers request := by
  have accounts := State.Accounts.of_reaches (reached.always.of_startingAt ⟨dsp, rfl⟩)
  have begun : ((driver Client).startingAt (State.initial dsp)).Reaches State.Benign
      (endless.state 0) := by
    have onward : ∀ action : Action Client, state.Benign action →
        state.step action = some (endless.state 0) →
          ((driver Client).startingAt (State.initial dsp)).Reaches State.Benign
            (endless.state 0) := fun action benign moved => .step reached benign moved
    rcases submitted with ⟨client, node, moved⟩ | ⟨client, moved⟩
    · exact onward (.write client (some node) sizeofDxrtDspRequest (some request)) fits moved
    · exact onward (.writeInput client (.holds request)) fits moved
  have same : (endless.state 0).log = state.log := by
    obtain ⟨client, call, first, -⟩ := submitted.call unoccupied.handler
    rw [first]
    rfl
  obtain ⟨time, settles⟩ := State.comes_to_rest vector begun fair
  refine ⟨time, fun later order => ?_⟩
  obtain ⟨told, log, answering⟩ :=
    (unoccupied.answering accounts.holds submitted).endless later
  have still := (endless.reaches begun.always later).of_startingAt ⟨dsp, rfl⟩
  exact answering.answers (settles later order) (log.trans (congrArg (· ++ told) same))
    (unoccupied.closed accounts) (State.Accounts.of_reaches still)

theorem request_round_trip_one :
    ∃ endless : (driver (Fin 1)).Endless State.Ongoing, endless.state 0 = submitting ∧
      ∃ time, ∀ later, time ≤ later → (endless.state later).Answers (bareRequest 1) := by
  obtain ⟨final, ran, settled⟩ := exists_wholeWay
  have first : (Machine.Endless.ofRun ran).state 0 = submitting := Machine.stateAt_zero
  have vector : boardDsp.regDspBasePhyAddrRomRam ≠ dspBusy := by decide
  have unoccupied : (State.initial boardDsp : State (Fin 1)).Unoccupied :=
    ⟨fun _ => rfl, rfl, rfl, rfl, rfl, rfl, rfl, ThreadPc.noConfusion⟩
  have submitted : (State.initial boardDsp).Submitted (bareRequest 1)
      ((Machine.Endless.ofRun ran).state 0) := by
    rw [first]
    exact Or.inl ⟨0, 1, rfl⟩
  exact ⟨.ofRun ran, first, request_round_trip vector (.start rfl) unoccupied (by decide)
    submitted (Machine.Endless.weaklyFair_ofRun ran settled.stuck)⟩

end DxDsp
