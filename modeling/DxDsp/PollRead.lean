/-
This file is about one client that submits with `write()` and collects with
`poll()` and `read()`. The event flag and the response record are a mailbox for
one completion, and no response is queued, so nothing is lost exactly as long as
the handler stores a completion only when every earlier one has been read.
-/

import DxDsp.WritePath
import DxDsp.Library.Mailbox
import DxDsp.Library.History

namespace DxDsp

open Library

variable {Client : Type}

/-! ### What the client and the handler did -/

def Event.readId : Event Client → Option UInt32
  | .read _ reqId => some reqId
  | _ => none

def Event.completedId : Event Client → Option UInt32
  | .completed job => some job.reqId
  | _ => none

def Event.finishedJob : Event Client → Option (Job Client)
  | .finished job => some job
  | _ => none

/-- The ids that `read()` returned. -/
def readIds (log : List (Event Client)) : List UInt32 := log.filterMap Event.readId

/-- The ids of the requests the DSP completed, in order of completion. -/
def completedIds (log : List (Event Client)) : List UInt32 := log.filterMap Event.completedId

/-- The requests whose interrupt handler has finished. -/
def finishedJobs (log : List (Event Client)) : List (Job Client) :=
  log.filterMap Event.finishedJob

/-- Whether a read is due: the last poll reported POLLIN and no read came after it. -/
def readDue (log : List (Event Client)) : Bool :=
  log.foldl (fun due event =>
    match event with
    | .polled _ pollin => pollin
    | .read _ _ => false
    | _ => due) false

/-- A poll that comes while more handlers have finished than ids were read reports POLLIN. -/
def PollsRight (log : List (Event Client)) : Prop :=
  ∀ before after client pollin, log = before ++ .polled client pollin :: after →
    (readIds before).length < (finishedJobs before).length → pollin = true

/-- What was read is a front of what was completed, and every poll is right. -/
structure NothingLost (log : List (Event Client)) : Prop where
  inOrder : readIds log <+: completedIds log
  polled : PollsRight log

theorem PollsRight.append {log : List (Event Client)} (right : PollsRight log)
    {event : Event Client}
    (now : ∀ client pollin, event = .polled client pollin →
      (readIds log).length < (finishedJobs log).length → pollin = true) :
    PollsRight (log ++ [event]) := by
  intro before after client pollin split
  rcases append_singleton_eq_split split with ⟨_, rfl, polled⟩ | ⟨rest, _, old⟩
  · exact now client pollin polled.symm
  · exact right before rest client pollin old

theorem PollsRight.append_other {log : List (Event Client)} (right : PollsRight log)
    {event : Event Client} (other : ∀ client pollin, event ≠ .polled client pollin) :
    PollsRight (log ++ [event]) :=
  right.append fun client pollin polled => absurd polled (other client pollin)

theorem readDue_append (log : List (Event Client)) (event : Event Client) :
    readDue (log ++ [event]) =
      match event with
      | .polled _ pollin => pollin
      | .read _ _ => false
      | _ => readDue log := by
  rw [readDue, List.foldl_append]
  rfl

/-- The events that the mailbox or its history is made of. -/
def Event.mail : Event Client → Bool
  | .completed _ | .stored _ _ | .finished _ | .polled _ _ | .read _ _ => true
  | _ => false

/-- The next step of the handler stores the id. -/
def IrqPc.storing : IrqPc Client → Bool
  | .store _ _ => true
  | _ => false

/-- The last completion is stored and its event not yet set. -/
def IrqPc.posting : IrqPc Client → Bool
  | .clear0 _ | .clear1 _ | .status _ | .event _ => true
  | _ => false

/-- The handler has stored and not returned. -/
def IrqPc.returning : IrqPc Client → Nat
  | .clear0 _ | .clear1 _ | .status _ | .event _ | .wake _ => 1
  | _ => 0

/-- A call of `write()`, or none. -/
def CallPc.writes : CallPc → Bool
  | .idle | .queue _ | .wake _ => true
  | _ => false

variable [DecidableEq Client]

namespace State

/-- The driver as a mailbox. -/
def mailbox (state : State Client) : Mailbox UInt32 where
  record := state.dx.response.reqId
  stored := storedValues state.log
  taken := readIds state.log
  posting := state.irq.posting
  event := state.dx.dsp.irqEvent
  expected := readDue state.log

/-! ### A client that polls, then reads -/

/-- One client, which writes at any time, polls while no read is due, and reads when one is. -/
def PollsThenReads (client : Client) (state : State Client) : Action Client → Prop
  | .write own _ _ _ | .client own _ => own = client
  | .poll own => own = client ∧ readDue state.log = false
  | .read own _ _ => own = client ∧ readDue state.log = true
  | .run _ | .thread | .complete _ | .interrupt _ | .irq => True
  | .writeInput .. | .program .. | .readOutput .. | .writeMem .. | .stop => False

/-- The handler stores a completion only when every earlier one has been read. -/
def StoresWhenRead (state : State Client) : Action Client → Prop
  | .irq => state.irq.storing = true →
      (storedValues state.log).length = (readIds state.log).length
  | _ => True

instance (client : Client) (state : State Client) (action : Action Client) :
    Decidable (PollsThenReads client state action) :=
  match action with
  | .write own _ _ _ | .client own _ => inferInstanceAs (Decidable (own = client))
  | .poll own => inferInstanceAs (Decidable (own = client ∧ readDue state.log = false))
  | .read own _ _ => inferInstanceAs (Decidable (own = client ∧ readDue state.log = true))
  | .run _ | .thread | .complete _ | .interrupt _ | .irq => isTrue trivial
  | .writeInput .. | .program .. | .readOutput .. | .writeMem .. | .stop => isFalse id

instance (state : State Client) (action : Action Client) :
    Decidable (StoresWhenRead state action) :=
  match action with
  | .irq => inferInstanceAs (Decidable (state.irq.storing = true →
      (storedValues state.log).length = (readIds state.log).length))
  | .write .. | .writeInput .. | .program .. | .readOutput .. | .writeMem .. | .poll .. | .read ..
  | .client .. | .run .. | .thread | .stop | .complete .. | .interrupt .. => isTrue trivial

/-! ### Steps the mailbox does not see -/

/-- A step that moves neither the mailbox nor what its history is compared with. -/
structure SameMail (state next : State Client) : Prop where
  record : next.dx.response = state.dx.response
  event : next.dx.dsp.irqEvent = state.dx.dsp.irqEvent
  posting : next.irq.posting = state.irq.posting
  returning : next.irq.returning = state.irq.returning
  unstored : next.irq.unstored = state.irq.unstored
  raised : next.raised = state.raised
  log : next.log = state.log ∨ ∃ event, next.log = state.log ++ [event] ∧ event.mail = false

omit [DecidableEq Client] in
theorem SameMail.filterMap {state next : State Client} (same : SameMail state next) {Value : Type}
    {view : Event Client → Option Value}
    (blind : ∀ event, event.mail = false → view event = none) :
    next.log.filterMap view = state.log.filterMap view := by
  rcases same.log with log | ⟨event, log, quiet⟩
  · rw [log]
  · rw [log, filterMap_append (blind event quiet)]

omit [DecidableEq Client] in
theorem SameMail.readDue {state next : State Client} (same : SameMail state next) :
    readDue next.log = readDue state.log := by
  rcases same.log with log | ⟨event, log, quiet⟩
  · rw [log]
  · rw [log, readDue_append]
    cases event <;> first | rfl | cases quiet

omit [DecidableEq Client] in
theorem SameMail.pollsRight {state next : State Client} (same : SameMail state next)
    (right : PollsRight state.log) : PollsRight next.log := by
  rcases same.log with log | ⟨event, log, quiet⟩
  · rw [log]
    exact right
  · rw [log]
    refine right.append fun client pollin polled => ?_
    rw [polled] at quiet
    cases quiet

omit [DecidableEq Client] in
theorem SameMail.stored {state next : State Client} (same : SameMail state next) :
    storedValues next.log = storedValues state.log :=
  same.filterMap fun event quiet => by cases event <;> first | rfl | cases quiet

omit [DecidableEq Client] in
theorem SameMail.read {state next : State Client} (same : SameMail state next) :
    readIds next.log = readIds state.log :=
  same.filterMap fun event quiet => by cases event <;> first | rfl | cases quiet

omit [DecidableEq Client] in
theorem SameMail.completed {state next : State Client} (same : SameMail state next) :
    completedIds next.log = completedIds state.log :=
  same.filterMap fun event quiet => by cases event <;> first | rfl | cases quiet

omit [DecidableEq Client] in
theorem SameMail.finished {state next : State Client} (same : SameMail state next) :
    finishedJobs next.log = finishedJobs state.log :=
  same.filterMap fun event quiet => by cases event <;> first | rfl | cases quiet

theorem writes_update {state : State Client} (calls : ∀ client, (state.calls client).writes = true)
    (client : Client) {call : CallPc} (writes : call.writes = true) (other : Client) :
    (Function.update state.calls client call other).writes = true := by
  by_cases same : other = client
  · subst same
    rw [Function.update_self, writes]
  · rw [Function.update_of_ne same]
    exact calls other

/-- The steps of `write()`, of the thread and of its runs. -/
theorem step_sameMail {state next : State Client} {action : Action Client}
    (calls : ∀ client, (state.calls client).writes = true)
    (submits : (∃ client node len data, action = .write client node len data) ∨
      (∃ client disturbed, action = .client client disturbed) ∨
      (∃ caller, action = .run caller) ∨ action = .thread)
    (moved : state.step action = some next) :
    SameMail state next ∧ ∀ client, (next.calls client).writes = true := by
  rcases submits with
    ⟨client, node, len, data, rfl⟩ | ⟨client, disturbed, rfl⟩ | ⟨caller, rfl⟩ | rfl
  · obtain ⟨idle, rfl⟩ := whenIdle_eq_some moved
    rw [beginWrite]
    split
    · exact ⟨⟨rfl, rfl, rfl, rfl, rfl, rfl, Or.inl rfl⟩, writes_update calls client rfl⟩
    · exact ⟨⟨rfl, rfl, rfl, rfl, rfl, rfl, Or.inr ⟨_, rfl, rfl⟩⟩, calls⟩
  · have writes := calls client
    rw [step] at moved
    cases place : state.calls client with
    | queue | wake =>
      rw [place] at moved
      cases moved
      exact ⟨⟨rfl, rfl, rfl, rfl, rfl, rfl, Or.inr ⟨_, rfl, rfl⟩⟩, writes_update calls client rfl⟩
    | idle =>
      rw [place] at moved
      cases moved
    | input | program | output =>
      rw [place] at writes
      cases writes
  · obtain ⟨request, pc, inside, unfinished, rfl⟩ := runStep_eq_some moved
    refine ⟨⟨rfl, runEffect_irqEvent request state.dx.dsp pc, rfl, rfl, rfl, rfl, ?_⟩, ?_⟩
    · rcases log_afterRun state caller request pc with log | ⟨job, log⟩
      · exact Or.inl log
      · exact Or.inr ⟨_, log, rfl⟩
    · cases caller with
      | thread => exact calls
      | input client =>
        have writes := calls client
        rw [running] at inside
        cases place : state.calls client with
        | input =>
          rw [place] at writes
          cases writes
        | _ =>
          rw [place] at inside
          cases inside
  · obtain ⟨thread, requests, rfl⟩ := threadStep_eq_some moved
    exact ⟨⟨rfl, rfl, rfl, rfl, rfl, rfl, Or.inl rfl⟩, calls⟩

/-! ### The invariant -/

/-- What holds in every state of a run of the client under the condition. -/
structure Delivering (state : State Client) : Prop where
  flowing : Flowing state
  calls : ∀ client, (state.calls client).writes = true
  faithful : state.mailbox.Faithful
  completed : completedIds state.log =
    storedValues state.log ++ (state.irq.unstored ++ state.raised).map Job.reqId
  finished : (finishedJobs state.log).length + state.irq.returning =
    (storedValues state.log).length
  polled : PollsRight state.log

theorem delivering_initial (dsp : Dxdsp) : Delivering (initial dsp : State Client) where
  flowing := flowing_initial dsp
  calls _ := rfl
  faithful := .empty rfl rfl rfl rfl
  completed := rfl
  finished := rfl
  polled before after client pollin split := by simp [initial] at split

theorem Delivering.of_sameMail {state next : State Client} (delivering : Delivering state)
    (flowing : Flowing next) (calls : ∀ client, (next.calls client).writes = true)
    (same : SameMail state next) : Delivering next where
  flowing := flowing
  calls := calls
  faithful := by
    have mailbox : next.mailbox = state.mailbox := by
      rw [mailbox, mailbox, same.record, same.stored, same.read, same.posting, same.event,
        same.readDue]
    rw [mailbox]
    exact delivering.faithful
  completed := by
    rw [same.completed, same.stored, same.unstored, same.raised]
    exact delivering.completed
  finished := by
    rw [same.finished, same.stored, same.returning]
    exact delivering.finished
  polled := same.pollsRight delivering.polled

omit [DecidableEq Client] in
theorem PollsThenReads.writeOnly {state : State Client} {client : Client} {action : Action Client}
    (allowed : PollsThenReads client state action) : WriteOnly state action := by
  cases action with
  | writeInput | program => exact allowed.elim
  | _ => trivial

/-- A completion goes to the back of what the handler has not stored. -/
theorem Delivering.complete {state next : State Client} {job : Job Client}
    (delivering : Delivering state) (flowing : Flowing next)
    (moved : state.step (.complete job) = some next) : Delivering next := by
  obtain ⟨member, rfl⟩ := complete_eq_some moved
  refine ⟨flowing, delivering.calls, ?_, ?_, ?_, ?_⟩
  · have mailbox : mailbox { state with
        started := state.started.erase job
        raised := state.raised ++ [job]
        log := state.log ++ [.completed job] } = state.mailbox := by
      rw [State.mailbox, State.mailbox, readDue_append, storedValues, readIds,
        filterMap_append rfl, filterMap_append rfl]
      rfl
    rw [mailbox]
    exact delivering.faithful
  · have completed : completedIds (state.log ++ [.completed job]) =
        completedIds state.log ++ [job.reqId] := List.filterMap_append ..
    have stored : storedValues (state.log ++ [.completed job]) = storedValues state.log :=
      filterMap_append rfl
    show completedIds (state.log ++ [.completed job]) =
      storedValues (state.log ++ [.completed job]) ++
        (state.irq.unstored ++ (state.raised ++ [job])).map Job.reqId
    rw [completed, stored, delivering.completed]
    simp only [List.map_append, List.append_assoc, List.map_cons, List.map_nil]
  · have finished : finishedJobs (state.log ++ [.completed job]) = finishedJobs state.log :=
      filterMap_append rfl
    have stored : storedValues (state.log ++ [.completed job]) = storedValues state.log :=
      filterMap_append rfl
    show (finishedJobs (state.log ++ [.completed job])).length + _ =
      (storedValues (state.log ++ [.completed job])).length
    rw [finished, stored]
    exact delivering.finished
  · exact delivering.polled.append fun _ _ polled => by cases polled

/-- The handler takes the interrupt of the one completion there is. -/
theorem Delivering.interrupt {state next : State Client} {job : Job Client}
    (delivering : Delivering state) (flowing : Flowing next)
    (moved : state.step (.interrupt job) = some next) : Delivering next := by
  obtain ⟨idle, member, rfl⟩ := interrupt_eq_some moved
  have single := delivering.flowing.inOrder.single
  have only : state.raised = [job] := by
    obtain ⟨front, back, raised⟩ := List.append_of_mem member
    rw [pipeline, inFlight, raised] at single
    simp only [List.length_map, List.length_append, List.length_cons] at single
    obtain rfl := List.eq_nil_of_length_eq_zero (show front.length = 0 by omega)
    obtain rfl := List.eq_nil_of_length_eq_zero (show back.length = 0 by omega)
    exact raised
  refine ⟨flowing, delivering.calls, ?_, ?_, ?_, delivering.polled⟩
  · have faithful := delivering.faithful
    rw [mailbox, idle] at faithful
    exact faithful
  · have completed := delivering.completed
    rw [idle, only] at completed
    show _ = _ ++ ([job] ++ state.raised.erase job).map Job.reqId
    rw [only, List.erase_cons_head]
    exact completed
  · have finished := delivering.finished
    rw [idle] at finished
    exact finished

/-- The handler stores the id of the completion it was raised for, which is the next one due. -/
theorem Delivering.store {state next : State Client} {job : Job Client} {value : UInt32}
    (delivering : Delivering state) (flowing : Flowing next)
    (read : StoresWhenRead state .irq) (place : state.irq = .store job value)
    (moved : state.irqStep (.store job value) = some next) : Delivering next := by
  obtain ⟨before, calls, faithful, completed, finished, polled⟩ := delivering
  have own : value = job.reqId := before.one.loaded job value place
  obtain ⟨-, raised, -⟩ := before.one.of_held (by rw [place, IrqPc.held])
  have empty := read (by rw [place, IrqPc.storing])
  rw [place] at completed finished
  cases moved
  have stored : storedValues (state.log ++ [.stored job value]) =
      storedValues state.log ++ [value] := List.filterMap_append ..
  refine ⟨flowing, calls, ?_, ?_, ?_, polled.append_other (by simp)⟩
  · have stores := faithful.step (.store state.mailbox value empty)
    have reads : readIds (state.log ++ [.stored job value]) = readIds state.log :=
      filterMap_append rfl
    show Mailbox.Faithful
      { record := value
        stored := storedValues (state.log ++ [.stored job value])
        taken := readIds (state.log ++ [.stored job value])
        posting := true
        event := state.dx.dsp.irqEvent
        expected := readDue (state.log ++ [.stored job value]) }
    rw [stored, reads, readDue_append]
    exact stores
  · have completes : completedIds (state.log ++ [.stored job value]) = completedIds state.log :=
      filterMap_append rfl
    show completedIds (state.log ++ [.stored job value]) =
      storedValues (state.log ++ [.stored job value]) ++ ([] ++ state.raised).map Job.reqId
    rw [completes, stored, completed, raised, own, List.append_assoc]
    rfl
  · have finishes : finishedJobs (state.log ++ [.stored job value]) = finishedJobs state.log :=
      filterMap_append rfl
    show (finishedJobs (state.log ++ [.stored job value])).length + 1 =
      (storedValues (state.log ++ [.stored job value])).length
    rw [finishes, stored, List.length_append, ← finished]
    rfl

/-- The last step of the handler touches no cell of the mailbox. -/
theorem Delivering.finish {state next : State Client} {job : Job Client}
    (delivering : Delivering state) (flowing : Flowing next) (place : state.irq = .wake job)
    (moved : state.irqStep (.wake job) = some next) : Delivering next := by
  obtain ⟨before, calls, faithful, completed, finished, polled⟩ := delivering
  rw [mailbox, place] at faithful
  rw [place] at completed finished
  cases moved
  have stored : storedValues (state.log ++ [.finished job]) = storedValues state.log :=
    filterMap_append rfl
  have reads : readIds (state.log ++ [.finished job]) = readIds state.log := filterMap_append rfl
  have finishes : finishedJobs (state.log ++ [.finished job]) = finishedJobs state.log ++ [job] :=
    List.filterMap_append ..
  have completes : completedIds (state.log ++ [.finished job]) = completedIds state.log :=
    filterMap_append rfl
  refine ⟨flowing, calls, ?_, ?_, ?_, polled.append_other (by simp)⟩
  · show Mailbox.Faithful
      { record := state.dx.response.reqId
        stored := storedValues (state.log ++ [.finished job])
        taken := readIds (state.log ++ [.finished job])
        posting := false
        event := state.dx.dsp.irqEvent
        expected := readDue (state.log ++ [.finished job]) }
    rw [stored, reads, readDue_append]
    exact faithful
  · show completedIds (state.log ++ [.finished job]) =
      storedValues (state.log ++ [.finished job]) ++ _
    rw [completes, stored]
    exact completed
  · show (finishedJobs (state.log ++ [.finished job])).length + 0 =
      (storedValues (state.log ++ [.finished job])).length
    rw [finishes, stored, List.length_append, ← finished]
    rfl

/-- The handler stores, announces and returns. -/
theorem Delivering.irq {state next : State Client} (delivering : Delivering state)
    (flowing : Flowing next) (read : StoresWhenRead state .irq)
    (moved : state.irqStep state.irq = some next) : Delivering next := by
  cases place : state.irq with
  | idle =>
    rw [place] at moved
    cases moved
  | status0 job | status1 job | load job | clear0 job | clear1 job =>
    rw [place] at moved
    cases moved
    refine delivering.of_sameMail flowing delivering.calls
      ⟨rfl, rfl, ?_, ?_, ?_, rfl, Or.inl rfl⟩ <;> rw [place] <;> rfl
  | status job =>
    rw [place] at moved
    cases moved
    refine delivering.of_sameMail flowing delivering.calls
      ⟨rfl, rfl, ?_, ?_, ?_, rfl, Or.inr ⟨_, rfl, rfl⟩⟩ <;> rw [place] <;> rfl
  | store job value => exact delivering.store flowing read place (place ▸ moved)
  | event job =>
    obtain ⟨before, calls, faithful, completed, finished, polled⟩ := delivering
    have announces := faithful.step (.announce state.mailbox (by rw [mailbox, place]; rfl))
    rw [place] at moved completed finished
    cases moved
    exact ⟨flowing, calls, announces, completed, finished, polled⟩
  | wake job => exact delivering.finish flowing place (place ▸ moved)

/-- With no read due, a poll finds the event of an unread completion whose handler is done. -/
theorem Delivering.event {state : State Client} (delivering : Delivering state)
    (quiet : readDue state.log = false)
    (unread : (readIds state.log).length < (finishedJobs state.log).length) :
    state.dx.dsp.irqEvent = true := by
  have bound := delivering.faithful.length_le
  have finished := delivering.finished
  have posted : state.irq.posting = false := by
    cases place : state.irq with
    | clear0 | clear1 | status | event =>
      rw [place, IrqPc.returning] at finished
      change (storedValues state.log).length ≤ (readIds state.log).length + 1 at bound
      omega
    | _ => rfl
  refine delivering.faithful.event_of_unread quiet posted ?_
  show (readIds state.log).length < (storedValues state.log).length
  omega

theorem Delivering.poll {state next : State Client} {client : Client}
    (delivering : Delivering state) (flowing : Flowing next) (quiet : readDue state.log = false)
    (moved : state.step (.poll client) = some next) : Delivering next := by
  obtain ⟨idle, rfl⟩ := whenIdle_eq_some moved
  have polls := delivering.faithful.step (.poll state.mailbox quiet)
  have stored : storedValues (state.log ++ [.polled client state.dx.dsp.irqEvent]) =
      storedValues state.log := filterMap_append rfl
  have reads : readIds (state.log ++ [.polled client state.dx.dsp.irqEvent]) =
      readIds state.log := filterMap_append rfl
  have completes : completedIds (state.log ++ [.polled client state.dx.dsp.irqEvent]) =
      completedIds state.log := filterMap_append rfl
  have finishes : finishedJobs (state.log ++ [.polled client state.dx.dsp.irqEvent]) =
      finishedJobs state.log := filterMap_append rfl
  refine ⟨flowing, delivering.calls, ?_, ?_, ?_, delivering.polled.append ?_⟩
  · show Mailbox.Faithful
      { record := state.dx.response.reqId
        stored := storedValues (state.log ++ [.polled client state.dx.dsp.irqEvent])
        taken := readIds (state.log ++ [.polled client state.dx.dsp.irqEvent])
        posting := state.irq.posting
        event := false
        expected := readDue (state.log ++ [.polled client state.dx.dsp.irqEvent]) }
    rw [stored, reads, readDue_append]
    exact polls
  · show completedIds (state.log ++ [_]) = storedValues (state.log ++ [_]) ++ _
    rw [completes, stored]
    exact delivering.completed
  · show (finishedJobs (state.log ++ [_])).length + _ = (storedValues (state.log ++ [_])).length
    rw [finishes, stored]
    exact delivering.finished
  · intro own pollin polled unread
    cases polled
    exact delivering.event quiet unread

theorem Delivering.read {state next : State Client} {client : Client} {len : Nat} {fault : Bool}
    (delivering : Delivering state) (flowing : Flowing next) (due : readDue state.log = true)
    (moved : state.step (.read client len fault) = some next) : Delivering next := by
  obtain ⟨idle, rfl⟩ := whenIdle_eq_some moved
  rw [readStep] at flowing ⊢
  cases copied : dxrtDevRead state.dx len fault with
  | error ret =>
    rw [copied] at flowing
    exact delivering
  | ok response =>
    rw [copied] at flowing
    have record : response = state.dx.response := by
      rw [dxrtDevRead] at copied
      split at copied
      · cases copied
      · split at copied <;> cases copied
        rfl
    have takes := delivering.faithful.step (.take state.mailbox due)
    have stored : storedValues (state.log ++ [.read client response.reqId]) =
        storedValues state.log := filterMap_append rfl
    have reads : readIds (state.log ++ [.read client response.reqId]) =
        readIds state.log ++ [state.dx.response.reqId] := by
      rw [readIds, List.filterMap_append, record]
      rfl
    have completes : completedIds (state.log ++ [.read client response.reqId]) =
        completedIds state.log := filterMap_append rfl
    have finishes : finishedJobs (state.log ++ [.read client response.reqId]) =
        finishedJobs state.log := filterMap_append rfl
    refine ⟨flowing, delivering.calls, ?_, ?_, ?_, delivering.polled.append_other (by simp)⟩
    · show Mailbox.Faithful
        { record := state.dx.response.reqId
          stored := storedValues (state.log ++ [.read client response.reqId])
          taken := readIds (state.log ++ [.read client response.reqId])
          posting := state.irq.posting
          event := state.dx.dsp.irqEvent
          expected := readDue (state.log ++ [.read client response.reqId]) }
      rw [stored, reads, readDue_append]
      exact takes
    · show completedIds (state.log ++ [_]) = storedValues (state.log ++ [_]) ++ _
      rw [completes, stored]
      exact delivering.completed
    · show (finishedJobs (state.log ++ [_])).length + _ = (storedValues (state.log ++ [_])).length
      rw [finishes, stored]
      exact delivering.finished

theorem Delivering.step {state next : State Client} {client : Client} {action : Action Client}
    (delivering : Delivering state) (protocol : PollsThenReads client state action)
    (read : StoresWhenRead state action) (moved : state.step action = some next) :
    Delivering next := by
  have flowing := delivering.flowing.step protocol.writeOnly moved
  cases action with
  | write own node len data =>
    have same := step_sameMail delivering.calls (Or.inl ⟨own, node, len, data, rfl⟩) moved
    exact delivering.of_sameMail flowing same.2 same.1
  | client own disturbed =>
    have same := step_sameMail delivering.calls (Or.inr (Or.inl ⟨own, disturbed, rfl⟩)) moved
    exact delivering.of_sameMail flowing same.2 same.1
  | run caller =>
    have same := step_sameMail delivering.calls (Or.inr (Or.inr (Or.inl ⟨caller, rfl⟩))) moved
    exact delivering.of_sameMail flowing same.2 same.1
  | thread =>
    have same := step_sameMail delivering.calls (Or.inr (Or.inr (Or.inr rfl))) moved
    exact delivering.of_sameMail flowing same.2 same.1
  | poll own => exact delivering.poll flowing protocol.2 moved
  | read own len fault => exact delivering.read flowing protocol.2 moved
  | complete job => exact delivering.complete flowing moved
  | interrupt job => exact delivering.interrupt flowing moved
  | irq => exact delivering.irq flowing read moved
  | writeInput | program | readOutput | writeMem | stop => exact protocol.elim

theorem Delivering.of_reaches {state : State Client} {client : Client}
    (reached : (driver Client).Reaches (fun state action =>
      PollsThenReads client state action ∧ StoresWhenRead state action) state) :
    Delivering state := by
  refine reached.invariant ?_ fun _ _ _ delivering allowed moved =>
    delivering.step allowed.1 allowed.2 moved
  rintro _ ⟨dsp, rfl⟩
  exact delivering_initial dsp

end State

/-! ### Polling and reading -/

/-- In every run of the client in which the handler stores a completion only when every earlier one
has been read, the ids read are a front of the ids completed, and no poll misses a completion. -/
theorem poll_read_nothing_lost {client : Client} {state : State Client}
    (reached : (driver Client).Reaches (fun state action =>
      State.PollsThenReads client state action ∧ State.StoresWhenRead state action) state) :
    NothingLost state.log := by
  have delivering := State.Delivering.of_reaches reached
  refine ⟨?_, delivering.polled⟩
  have completed : storedValues state.log <+: completedIds state.log := by
    rw [delivering.completed]
    exact List.prefix_append _ _
  exact delivering.faithful.taken_prefix.trans completed

/-- A poll and a read. -/
def collect (client : Client) : List (Action Client) :=
  [.poll client, .read client sizeofDxrtResponse false]

/-- Two submissions, both completed, as far as the second one's interrupt. `between` is what the
client does after the first one's. -/
def twoCompletions (between : List (Action (Fin 1))) : List (Action (Fin 1)) :=
  submit 0 1 1 ++ submit 0 2 2 ++ List.replicate 4 .thread ++ runToEnd .thread ++
    completeAndHandle ⟨.thread, 1⟩ ++ between ++ List.replicate 7 .thread ++ runToEnd .thread ++
    completeAndHandle ⟨.thread, 2⟩

theorem poll_read_nothing_lost_two :
    ∃ state, (driver (Fin 1)).Reaches (fun state action =>
        State.PollsThenReads 0 state action ∧ State.StoresWhenRead state action) state ∧
      readIds state.log = [1, 2] ∧ completedIds state.log = [1, 2] ∧ NothingLost state.log := by
  obtain ⟨state, reached, seen⟩ := exists_reached (twoCompletions (collect 0) ++ collect 0)
    (show ((driver (Fin 1)).run (fun state action =>
        State.PollsThenReads 0 state action ∧ State.StoresWhenRead state action) _ _).map
          (fun state => (readIds state.log, completedIds state.log)) = some ([1, 2], [1, 2]) by
      decide +kernel)
  simp only [Prod.mk.injEq] at seen
  exact ⟨state, reached, seen.1, seen.2, poll_read_nothing_lost reached⟩

/-- Both requests complete before the client polls: the first id is never read. -/
theorem poll_read_lost :
    ∃ state, (driver (Fin 1)).Reaches (State.PollsThenReads 0) state ∧
      readIds state.log = [2] ∧ completedIds state.log = [1, 2] ∧ ¬ NothingLost state.log := by
  obtain ⟨state, reached, seen⟩ := exists_reached (twoCompletions [] ++ collect 0)
    (show ((driver (Fin 1)).run (State.PollsThenReads 0) _ _).map
        (fun state => (readIds state.log, completedIds state.log)) = some ([2], [1, 2]) by
      decide +kernel)
  simp only [Prod.mk.injEq] at seen
  refine ⟨state, reached, seen.1, seen.2, fun nothingLost => ?_⟩
  have front := nothingLost.inOrder
  rw [seen.1, seen.2] at front
  exact absurd front (by decide)

end DxDsp
