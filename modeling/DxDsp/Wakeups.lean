/-
This file puts the driver to sleep. In the driver at work a waiter may test its
condition again at any time; here it is on a wait queue, sleeps once it has found
its condition to fail, and tests again only when it is woken. The request thread
sleeps on `request_wq`, the readers in READ_OUTPUT and the processes inside
`poll(2)` on `irq_wq`. The wake-ups are those of the source: the last step of
`write()`, the last step of the handler, the one of TERMINATE between its two
stores, and the one that `kthread_stop` ends with.

A waiter is put on its queue before it makes its test, by `wait_event_interruptible`
or by `poll_wait`, so no wake-up is lost, and the driver that sleeps deadlocks no
more than the driver that tests all the time.
-/

import DxDsp.Progress
import DxDsp.Provenance
import DxDsp.Library.WaitQueue

namespace DxDsp

open Library

variable {Client : Type}

/-! ### What a step of the driver does to the list, the thread, the flag and the handler -/

namespace State

/-- What a step of the thread leaves of the list. -/
def unlinked (state : State Client) (entry : DxrtRequestList) : List DxrtRequestList :=
  state.dx.requests.eraseP fun other => other.node = entry.node

theorem threadStep_requests {state next : State Client}
    (moved : state.threadStep state.thread = some next) :
    next.dx.requests = state.dx.requests ∨
      ∃ entry, state.thread = .unlink entry ∧ next.dx.requests = state.unlinked entry := by
  cases place : state.thread with
  | loop | wait | waitStop | woken | free =>
    rw [place] at moved
    cases moved
    exact Or.inl rfl
  | unlink entry =>
    rw [place] at moved
    cases moved
    exact Or.inr ⟨entry, rfl, rfl⟩
  | head =>
    rw [place, threadStep] at moved
    split at moved <;> cases moved <;> exact Or.inl rfl
  | running entry pc =>
    rw [place] at moved
    cases pc with
    | done =>
      cases moved
      exact Or.inl rfl
    | _ => cases moved
  | exited | headOfEmpty =>
    rw [place] at moved
    cases moved

/-- The thread comes to the second half of its condition from the first, and takes nothing off the
list there. -/
theorem threadStep_waitStop {state next : State Client}
    (moved : state.threadStep state.thread = some next) (waits : next.thread = .waitStop) :
    state.thread = .wait ∧ next.dx.requests = state.dx.requests := by
  cases place : state.thread with
  | wait =>
    rw [place] at moved
    cases moved
    exact ⟨rfl, rfl⟩
  | loop | waitStop | woken =>
    rw [place] at moved
    cases moved
    dsimp only at waits
    split at waits <;> cases waits
  | head =>
    rw [place, threadStep] at moved
    split at moved <;> cases moved <;> cases waits
  | running entry pc =>
    rw [place] at moved
    cases pc <;> cases moved
    cases waits
  | _ =>
    rw [place] at moved
    cases moved <;> cases waits

variable [DecidableEq Client]

/-- A client at the end of `write()`: the entry is in the list, and the wake-up still to come. -/
def Queued (state next : State Client) (client : Client) (entry : DxrtRequestList) : Prop :=
  state.calls client = .queue entry ∧ next.dx.requests = state.dx.requests ++ [entry] ∧
    next.calls client = .wake entry.request.reqId

theorem clientStep_requests {state next : State Client} {client : Client} {disturbed : Bool}
    (moved : state.clientStep client disturbed (state.calls client) = some next) :
    next.dx.requests = state.dx.requests ∨ ∃ entry, state.Queued next client entry := by
  cases place : state.calls client with
  | idle =>
    rw [place] at moved
    cases moved
  | queue entry =>
    rw [place] at moved
    cases moved
    exact Or.inr ⟨entry, place, rfl, Function.update_self _ _ _⟩
  | wake =>
    rw [place] at moved
    cases moved
    exact Or.inl rfl
  | input request pc =>
    rw [place] at moved
    cases pc <;> cases moved
    exact Or.inl rfl
  | program steps =>
    rw [place] at moved
    cases steps with
    | nil =>
      cases moved
      exact Or.inl rfl
    | cons effect rest =>
      rw [clientStep] at moved
      split at moved <;> cases moved
      exact Or.inl (effect.apply_requests state.dx)
  | output pc =>
    rw [place] at moved
    cases pc with
    | test | clear =>
      cases moved
      exact Or.inl rfl
    | wait =>
      rw [clientStep, outputStep] at moved
      split at moved
      · cases moved
        exact Or.inl rfl
      · split at moved <;> cases moved
        exact Or.inl rfl
    | take =>
      rw [clientStep, outputStep] at moved
      split at moved
      · cases moved
      · split at moved
        · cases moved
          exact Or.inl rfl
        · split at moved <;> cases moved <;> exact Or.inl rfl

/-- Only the end of `write()` and the thread change the list. -/
theorem step_requests {state next : State Client} {action : Action Client}
    (moved : state.step action = some next) :
    next.dx.requests = state.dx.requests ∨ (∃ client entry, state.Queued next client entry) ∨
      ∃ entry, state.thread = .unlink entry ∧ next.dx.requests = state.unlinked entry := by
  cases action with
  | write client node len data =>
    obtain ⟨-, rfl⟩ := whenIdle_eq_some moved
    rw [beginWrite]
    split <;> exact Or.inl rfl
  | writeInput client data | readOutput client data =>
    obtain ⟨-, rfl⟩ := whenIdle_eq_some moved
    cases data <;> exact Or.inl rfl
  | program client steps =>
    rw [step] at moved
    split at moved
    · obtain ⟨-, rfl⟩ := whenIdle_eq_some moved
      exact Or.inl rfl
    · cases moved
  | writeMem client data source =>
    obtain ⟨-, rfl⟩ := whenIdle_eq_some moved
    exact Or.inl (dxrtWriteMem_requests state.dx data source)
  | poll client =>
    obtain ⟨-, rfl⟩ := whenIdle_eq_some moved
    exact Or.inl rfl
  | read client len fault =>
    obtain ⟨-, rfl⟩ := whenIdle_eq_some moved
    rw [readStep]
    split <;> exact Or.inl rfl
  | client client disturbed =>
    rcases clientStep_requests moved with same | ⟨entry, queued⟩
    · exact Or.inl same
    · exact Or.inr (Or.inl ⟨client, entry, queued⟩)
  | run caller =>
    obtain ⟨request, pc, -, -, rfl⟩ := runStep_eq_some moved
    exact Or.inl rfl
  | thread =>
    rcases threadStep_requests moved with same | unlinks
    · exact Or.inl same
    · exact Or.inr (Or.inr unlinks)
  | stop =>
    cases moved
    exact Or.inl rfl
  | complete job =>
    obtain ⟨-, rfl⟩ := complete_eq_some moved
    exact Or.inl rfl
  | interrupt job =>
    obtain ⟨-, -, rfl⟩ := interrupt_eq_some moved
    exact Or.inl rfl
  | irq =>
    rw [step] at moved
    cases place : state.irq with
    | idle =>
      rw [place] at moved
      cases moved
    | _ =>
      rw [place] at moved
      cases moved
      exact Or.inl rfl

/-- What only the steps of the thread, of `kthread_stop` and of the handler touch. -/
structure Leaves (state next : State Client) (action : Action Client) : Prop where
  thread : action ≠ .thread → state.waitsForRequest = true ∨ next.waitsForRequest = true →
    next.thread = state.thread
  flag : action ≠ .stop → next.shouldStop = state.shouldStop
  handler : action ≠ .irq → ∀ job, state.irq = .wake job → next.irq = .wake job

omit [DecidableEq Client] in
theorem Leaves.of_eq {state next : State Client} {action : Action Client}
    (thread : next.thread = state.thread) (flag : next.shouldStop = state.shouldStop)
    (handler : next.irq = state.irq) : Leaves state next action :=
  ⟨fun _ _ => thread, fun _ => flag, fun _ _ wakes => handler.trans wakes⟩

theorem step_leaves {state next : State Client} {action : Action Client}
    (moved : state.step action = some next) : Leaves state next action := by
  cases action with
  | thread =>
    obtain ⟨thread, requests, rfl⟩ := threadStep_eq_some moved
    exact ⟨fun other => absurd rfl other, fun _ => rfl, fun _ _ wakes => wakes⟩
  | stop =>
    cases moved
    exact ⟨fun _ _ => rfl, fun other => absurd rfl other, fun _ _ wakes => wakes⟩
  | irq =>
    rw [step] at moved
    refine ⟨fun _ _ => ?_, fun _ => ?_, fun other => absurd rfl other⟩ <;>
      cases place : state.irq <;> rw [place] at moved <;> cases moved <;> rfl
  | complete job =>
    obtain ⟨-, rfl⟩ := complete_eq_some moved
    exact .of_eq rfl rfl rfl
  | interrupt job =>
    obtain ⟨idle, -, rfl⟩ := interrupt_eq_some moved
    refine ⟨fun _ _ => rfl, fun _ => rfl, fun _ other wakes => ?_⟩
    rw [idle] at wakes
    cases wakes
  | run caller =>
    obtain ⟨request, pc, inside, -, rfl⟩ := runStep_eq_some moved
    cases caller with
    | input client => exact .of_eq rfl rfl rfl
    | thread =>
      obtain ⟨entry, place, -⟩ := running_thread inside
      refine ⟨fun _ waits => ?_, fun _ => rfl, fun _ _ wakes => wakes⟩
      rw [waitsForRequest, waitsForRequest, afterRun, threadMoved, place] at waits
      rcases waits with waits | waits <;> cases waits
  | _ =>
    obtain ⟨dx, calls, started, held, log, -, rfl⟩ := step_ofClient_eq_some rfl moved
    exact .of_eq rfl rfl rfl

end State

/-! ### Waiters and wake-ups -/

/-- A waiter is off its queue, on it, or asleep on it. -/
inductive Sleep
  | awake
  | queued
  | asleep
deriving DecidableEq, Repr

/-- The driver with its waiters. A client waits in READ_OUTPUT, or in `poll(2)` where its call is
idle. `stopping` says that `kthread_stop` has set its flag and not woken the thread, `signalling`
that TERMINATE has raised the event and not woken the readers. -/
structure Sleepers (Client : Type) where
  driver : State Client
  thread : Sleep
  client : Client → Sleep
  stopping : Bool
  signalling : Client → Bool

/-- `drive` is a step of the driver. The others belong to the wait queues: joining one, going to
sleep in READ_OUTPUT, the test of `poll(2)` and its end by timeout or signal, and the wake-ups that
are steps of their own. -/
inductive SleepAction (Client : Type)
  | drive (action : Action Client)
  | joinThread
  | joinClient (client : Client)
  | doze (client : Client)
  | poll (client : Client)
  | giveUp (client : Client)
  | wakeThread
  | wakeReaders (client : Client)

variable [DecidableEq Client]

namespace Sleepers

/-- A successful probe, with nobody waiting. -/
def initial (dsp : Dxdsp) : Sleepers Client where
  driver := State.initial dsp
  thread := .awake
  client _ := .awake
  stopping := false
  signalling _ := false

def setClient (sleepers : Sleepers Client) (client : Client) (sleep : Sleep) : Sleepers Client :=
  { sleepers with client := Function.update sleepers.client client sleep }

/-- Nobody takes a step that sleeps, and TERMINATE wakes the readers before its next store. A signal
reaches a sleeping reader. -/
def Steps (sleepers : Sleepers Client) : Action Client → Bool
  | .thread => sleepers.thread ≠ .asleep
  | .client client disturbed =>
    (sleepers.client client ≠ .asleep || disturbed) && !sleepers.signalling client
  | .write client _ _ _ | .writeInput client _ | .program client _ | .readOutput client _
  | .writeMem client _ _ | .poll client | .read client _ _ => sleepers.client client = .awake
  | .run _ | .stop | .complete _ | .interrupt _ | .irq => true

/-- The thread behind a step of its own: off the queue when its condition holds, and asleep when it
has found both halves of it to fail. -/
def threadAfter (state : State Client) (sleep : Sleep) : Sleep :=
  match state.thread with
  | .wait => if state.dx.requests = [] then sleep else .awake
  | .waitStop =>
    if state.shouldStop then .awake
    else
      match sleep with
      | .awake => .awake
      | .queued | .asleep => .asleep
  | _ => sleep

/-- What a step of a client does to the waiters: a reader leaves its queue, `write()` wakes the
thread, and TERMINATE owes a wake-up. -/
def clientAfter (sleepers : Sleepers Client) (client : Client) : CallPc → Sleepers Client
  | .output .wait => sleepers.setClient client .awake
  | .wake _ => { sleepers with thread := .awake }
  | .program (.irqEvent true :: _) =>
    { sleepers with signalling := Function.update sleepers.signalling client true }
  | _ => sleepers

/-- What a step of the driver does to the waiters. -/
def wakes (sleepers : Sleepers Client) : Action Client → Sleepers Client
  | .thread => { sleepers with thread := threadAfter sleepers.driver sleepers.thread }
  | .client client _ => sleepers.clientAfter client (sleepers.driver.calls client)
  | .irq =>
    match sleepers.driver.irq with
    | .wake _ => { sleepers with client := fun _ => .awake }
    | _ => sleepers
  | .stop => { sleepers with stopping := true }
  | _ => sleepers

/-- A step of the driver, with what it does to the waiters. -/
def drive (sleepers : Sleepers Client) (action : Action Client) : Option (Sleepers Client) :=
  if sleepers.Steps action then
    (sleepers.driver.step action).map fun driver => { sleepers.wakes action with driver }
  else none

def step (sleepers : Sleepers Client) : SleepAction Client → Option (Sleepers Client)
  | .drive action => sleepers.drive action
  | .joinThread =>
    match sleepers.driver.thread, sleepers.thread with
    | .wait, .awake => some { sleepers with thread := .queued }
    | _, _ => none
  | .joinClient client =>
    match sleepers.driver.calls client, sleepers.client client with
    | .idle, .awake | .output .wait, .awake => some (sleepers.setClient client .queued)
    | _, _ => none
  | .doze client =>
    match sleepers.driver.calls client, sleepers.client client with
    | .output .wait, .queued =>
      if sleepers.driver.dx.dsp.irqEvent then none
      else some (sleepers.setClient client .asleep)
    | _, _ => none
  | .poll client =>
    match sleepers.client client with
    | .queued =>
      (sleepers.driver.step (.poll client)).map fun driver =>
        { sleepers.setClient client
            (if sleepers.driver.dx.dsp.irqEvent then .awake else .asleep) with driver }
    | _ => none
  | .giveUp client =>
    match sleepers.driver.calls client with
    | .idle => some (sleepers.setClient client .awake)
    | _ => none
  | .wakeThread =>
    if sleepers.stopping then some { sleepers with thread := .awake, stopping := false }
    else none
  | .wakeReaders client =>
    if sleepers.signalling client then
      some { sleepers with
        client := fun _ => .awake
        signalling := Function.update sleepers.signalling client false }
    else none

end Sleepers

/-- The driver whose waiters sleep. -/
def sleepingDriver (Client : Type) [DecidableEq Client] :
    Machine (Sleepers Client) (SleepAction Client) where
  start sleepers := ∃ dsp, sleepers = Sleepers.initial dsp
  step := Sleepers.step

namespace Sleepers

/-! ### The steps of the driver with their wake-ups -/

theorem drive_eq_some {sleepers next : Sleepers Client} {action : Action Client}
    (moved : sleepers.drive action = some next) :
    sleepers.Steps action = true ∧ ∃ driver, sleepers.driver.step action = some driver ∧
      next = { sleepers.wakes action with driver } := by
  rw [drive] at moved
  split at moved
  · next steps =>
    obtain ⟨driver, goes, same⟩ := Option.map_eq_some_iff.mp moved
    exact ⟨steps, driver, goes, same.symm⟩
  · cases moved

theorem drive_of_step {sleepers : Sleepers Client} {action : Action Client} {driver : State Client}
    (steps : sleepers.Steps action = true) (moved : sleepers.driver.step action = some driver) :
    sleepers.step (.drive action) = some { sleepers.wakes action with driver } := by
  rw [step, drive, if_pos steps, moved]
  rfl

theorem asleep_of_setClient {sleepers : Sleepers Client}
    {client other : Client} {sleep : Sleep} (apart : sleep ≠ .asleep)
    (asleep : (sleepers.setClient client sleep).client other = .asleep) :
    other ≠ client ∧ sleepers.client other = .asleep := by
  rw [show (sleepers.setClient client sleep).client = Function.update sleepers.client client sleep
    from rfl] at asleep
  by_cases own : other = client
  · rw [own, Function.update_self] at asleep
    exact absurd asleep apart
  · exact ⟨own, (Function.update_of_ne own _ _).symm.trans asleep⟩

/-- No step of the driver puts a client to sleep or takes a wake-up back. -/
structure Wakes (sleepers next : Sleepers Client) (action : Action Client) : Prop where
  client : ∀ client, next.client client = .asleep → sleepers.client client = .asleep
  thread : action ≠ .thread → next.thread = sleepers.thread ∨ next.thread = .awake
  stopping : sleepers.stopping = true → next.stopping = true
  signalling : ∀ client, sleepers.signalling client = true → next.signalling client = true

theorem wakes_clientAfter (sleepers : Sleepers Client) (client : Client) (call : CallPc)
    (action : Action Client) : sleepers.Wakes (sleepers.clientAfter client call) action := by
  have same : sleepers.Wakes sleepers action :=
    ⟨fun _ asleep => asleep, fun _ => Or.inl rfl, id, fun _ => id⟩
  have leaves : sleepers.Wakes (sleepers.setClient client .awake) action := by
    refine ⟨fun other asleep => ?_, fun _ => Or.inl rfl, id, fun _ => id⟩
    exact (asleep_of_setClient (by simp) asleep).2
  have signals : sleepers.Wakes
      { sleepers with signalling := Function.update sleepers.signalling client true } action := by
    refine ⟨fun _ asleep => asleep, fun _ => Or.inl rfl, id, fun other raised => ?_⟩
    by_cases own : other = client
    · rw [own]
      exact Function.update_self _ _ _
    · exact (Function.update_of_ne own _ _).trans raised
  cases call with
  | idle | queue | input => exact same
  | wake => exact ⟨fun _ asleep => asleep, fun _ => Or.inr rfl, id, fun _ => id⟩
  | output pc => cases pc <;> first | exact leaves | exact same
  | program steps =>
    cases steps with
    | nil => exact same
    | cons effect rest =>
      cases effect with
      | irqEvent value => cases value <;> first | exact signals | exact same
      | _ => exact same

theorem wakes_wakes (sleepers : Sleepers Client) (action : Action Client) :
    sleepers.Wakes (sleepers.wakes action) action := by
  have same : sleepers.Wakes sleepers action :=
    ⟨fun _ asleep => asleep, fun _ => Or.inl rfl, id, fun _ => id⟩
  cases action with
  | thread => exact ⟨fun _ asleep => asleep, fun other => absurd rfl other, id, fun _ => id⟩
  | client client disturbed => exact wakes_clientAfter sleepers client _ _
  | stop => exact ⟨fun _ asleep => asleep, fun _ => Or.inl rfl, fun _ => rfl, fun _ => id⟩
  | irq =>
    rw [wakes]
    cases sleepers.driver.irq with
    | wake => exact ⟨fun _ asleep => Sleep.noConfusion asleep, fun _ => Or.inl rfl, id, fun _ => id⟩
    | _ => exact same
  | _ => exact same

/-! ### No wake-up is lost -/

end Sleepers

/-- Who waits: the request thread on `request_wq`, the clients on `irq_wq`. -/
inductive Waiter (Client : Type)
  | thread
  | client (client : Client)

/-- What they wait for. The thread tests for a request first, and then for the stop. -/
inductive Awaited
  | request
  | stop
  | event

namespace Sleepers

/-- The two wait queues of the driver. -/
def queue (sleepers : Sleepers Client) : WaitQueue (Waiter Client) Awaited where
  found
    | .thread, .request => sleepers.thread = .asleep ∨
        (sleepers.thread = .queued ∧ sleepers.driver.thread = .waitStop)
    | .thread, .stop => sleepers.thread = .asleep
    | .client client, .event => sleepers.client client = .asleep
    | _, _ => False
  succeeds
    | .request => sleepers.driver.dx.requests ≠ []
    | .stop => sleepers.driver.shouldStop = true
    | .event => sleepers.driver.dx.dsp.irqEvent = true
  due
    | .request => ∃ client reqId, sleepers.driver.calls client = .wake reqId
    | .stop => sleepers.stopping = true
    | .event => (∃ job, sleepers.driver.irq = .wake job) ∨
        ∃ client, sleepers.signalling client = true

omit [DecidableEq Client] in
theorem threadAfter_asleep {state : State Client} {sleep : Sleep} (steps : sleep ≠ .asleep)
    (asleep : threadAfter state sleep = .asleep) :
    state.thread = .waitStop ∧ state.shouldStop = false ∧ sleep = .queued := by
  unfold threadAfter at asleep
  split at asleep
  · split at asleep
    · exact absurd asleep steps
    · cases asleep
  · next place =>
    split at asleep
    · cases asleep
    · next goesOn =>
      cases sleep with
      | awake => cases asleep
      | queued => exact ⟨place, Bool.not_eq_true _ ▸ goesOn, rfl⟩
      | asleep => exact absurd rfl steps
  · exact absurd asleep steps

omit [DecidableEq Client] in
theorem threadAfter_queued {state : State Client} {sleep : Sleep}
    (queued : threadAfter state sleep = .queued) :
    state.thread ≠ .waitStop ∧ (state.thread = .wait → state.dx.requests = []) := by
  unfold threadAfter at queued
  split at queued
  · next place =>
    split at queued
    · next empty =>
      rw [place]
      exact ⟨ThreadPc.noConfusion, fun _ => empty⟩
    · cases queued
  · split at queued
    · cases queued
    · cases sleep <;> cases queued
  · next other stops => exact ⟨stops, fun waits => absurd waits other⟩

/-- What the thread has found to fail behind a step of its own still fails, or was found before. -/
theorem finds_thread {sleepers : Sleepers Client} {driver : State Client}
    (steps : sleepers.thread ≠ .asleep)
    (moved : sleepers.driver.threadStep sleepers.driver.thread = some driver) {awaited : Awaited}
    (found : ({ sleepers.wakes .thread with driver } : Sleepers Client).queue.found
      .thread awaited) :
    sleepers.queue.found .thread awaited ∨
      ¬ ({ sleepers.wakes .thread with driver } : Sleepers Client).queue.succeeds awaited := by
  cases awaited with
  | request =>
    rcases found with asleep | ⟨queued, waits⟩
    · obtain ⟨place, -, queued⟩ := threadAfter_asleep steps asleep
      exact Or.inl (Or.inr ⟨queued, place⟩)
    · obtain ⟨place, same⟩ := State.threadStep_waitStop moved waits
      have empty := (threadAfter_queued queued).2 place
      exact Or.inr fun filled => filled (same.trans empty)
  | stop =>
    obtain ⟨-, goesOn, -⟩ := threadAfter_asleep steps found
    obtain ⟨thread, requests, rfl⟩ := State.threadStep_eq_some moved
    exact Or.inr fun stops => absurd (goesOn.symm.trans stops) Bool.false_ne_true
  | event => exact found.elim

theorem finds_drive {sleepers : Sleepers Client} {action : Action Client} {driver : State Client}
    (steps : sleepers.Steps action = true) (moved : sleepers.driver.step action = some driver)
    {waiter : Waiter Client} {awaited : Awaited}
    (found : ({ sleepers.wakes action with driver } : Sleepers Client).queue.found waiter awaited) :
    sleepers.queue.found waiter awaited ∨
      ¬ ({ sleepers.wakes action with driver } : Sleepers Client).queue.succeeds awaited := by
  have wakes := sleepers.wakes_wakes action
  cases waiter with
  | client client =>
    cases awaited with
    | event => exact Or.inl (wakes.client client found)
    | request | stop => exact found.elim
  | thread =>
    by_cases own : action = .thread
    · subst own
      exact finds_thread (of_decide_eq_true steps) moved found
    · have stays := wakes.thread own
      cases awaited with
      | event => exact found.elim
      | stop =>
        rcases stays with same | woken
        · exact Or.inl (same.symm.trans found)
        · exact Sleep.noConfusion (woken.symm.trans found)
      | request =>
        refine Or.inl ?_
        rcases found with asleep | ⟨queued, waits⟩
        · refine Or.inl ?_
          rcases stays with same | woken
          · exact same.symm.trans asleep
          · exact Sleep.noConfusion (woken.symm.trans asleep)
        · have place : driver.thread = sleepers.driver.thread :=
            (State.step_leaves moved).thread own (Or.inr (by rw [State.waitsForRequest, waits]))
          refine Or.inr ⟨?_, place.symm.trans waits⟩
          rcases stays with same | woken
          · exact same.symm.trans queued
          · exact Sleep.noConfusion (woken.symm.trans queued)

/-- Who raises the event has a wake-up to give. -/
theorem owes_event {sleepers : Sleepers Client} {action : Action Client} {driver : State Client}
    (moved : sleepers.driver.step action = some driver)
    (raised : driver.dx.dsp.irqEvent = true) :
    sleepers.driver.dx.dsp.irqEvent = true ∨ (∃ job, driver.irq = .wake job) ∨
      ∃ client, (sleepers.wakes action).signalling client = true := by
  have event := (State.posts_step moved).event
  rw [raised] at event
  cases write : sleepers.driver.eventWrite action with
  | none =>
    rw [write] at event
    exact Or.inl event.symm
  | some value =>
    rw [write] at event
    obtain rfl : true = value := event
    refine Or.inr ?_
    cases action with
    | irq =>
      rw [State.eventWrite] at write
      rw [State.step] at moved
      cases place : sleepers.driver.irq with
      | event job =>
        rw [place] at moved
        cases moved
        exact Or.inl ⟨job, rfl⟩
      | _ =>
        rw [place] at write
        cases write
    | client client disturbed =>
      rw [State.eventWrite] at write
      refine Or.inr ⟨client, ?_⟩
      cases place : sleepers.driver.calls client with
      | program steps =>
        rw [place] at write
        cases steps with
        | nil => cases write
        | cons effect rest =>
          obtain rfl : effect = .irqEvent true := by
            cases effect <;> cases write
            rfl
          rw [wakes, place]
          exact Function.update_self _ _ _
      | output pc =>
        rw [place] at write
        cases pc <;> cases write
      | _ =>
        rw [place] at write
        cases write
    | _ => cases write

theorem owes_drive {sleepers : Sleepers Client} {action : Action Client} {driver : State Client}
    (moved : sleepers.driver.step action = some driver) {awaited : Awaited}
    (succeeds : ({ sleepers.wakes action with driver } : Sleepers Client).queue.succeeds awaited) :
    sleepers.queue.succeeds awaited ∨
      ({ sleepers.wakes action with driver } : Sleepers Client).queue.due awaited := by
  cases awaited with
  | request =>
    rcases State.step_requests moved with same | ⟨client, entry, -, -, wakes⟩ | ⟨entry, -, same⟩
    · exact Or.inl fun empty => succeeds (same.trans empty)
    · exact Or.inr ⟨client, _, wakes⟩
    · refine Or.inl fun empty => succeeds (same.trans ?_)
      rw [State.unlinked, empty]
      rfl
  | stop =>
    by_cases own : action = .stop
    · rw [own]
      exact Or.inr rfl
    · exact Or.inl (((State.step_leaves moved).flag own).symm.trans succeeds)
  | event => exact owes_event moved succeeds

theorem wakes_drive {sleepers : Sleepers Client} {action : Action Client} {driver : State Client}
    (moved : sleepers.driver.step action = some driver) {awaited : Awaited}
    (due : sleepers.queue.due awaited) :
    ({ sleepers.wakes action with driver } : Sleepers Client).queue.due awaited ∨
      ∀ waiter, ¬ ({ sleepers.wakes action with driver } : Sleepers Client).queue.found
        waiter awaited := by
  have wakes := sleepers.wakes_wakes action
  cases awaited with
  | request =>
    obtain ⟨client, reqId, place⟩ := due
    rcases State.step_calls moved with calls | ⟨mover, call, moves, calls, -⟩
    · exact Or.inl ⟨client, reqId, (congrFun calls client).trans place⟩
    · by_cases own : client = mover
      · subst own
        rcases State.mover_place moved moves with idle | ⟨request, pc, input⟩ | ⟨disturbed, rfl⟩
        · exact CallPc.noConfusion (idle.symm.trans place)
        · exact CallPc.noConfusion (input.symm.trans place)
        · have woken : ({ sleepers.wakes (.client client disturbed) with driver } :
              Sleepers Client).thread = .awake := by
            rw [Sleepers.wakes, place]
            rfl
          refine Or.inr fun waiter found => ?_
          cases waiter with
          | client => exact found.elim
          | thread =>
            rcases found with asleep | ⟨queued, -⟩
            · exact Sleep.noConfusion (woken.symm.trans asleep)
            · exact Sleep.noConfusion (woken.symm.trans queued)
      · have stays : driver.calls client = .wake reqId :=
          (congrFun calls client).trans ((Function.update_of_ne own _ _).trans place)
        exact Or.inl ⟨client, reqId, stays⟩
  | stop => exact Or.inl (wakes.stopping due)
  | event =>
    rcases due with ⟨job, place⟩ | ⟨client, raised⟩
    · by_cases own : action = .irq
      · subst own
        have woken : (sleepers.wakes .irq).client = fun _ => .awake := by
          rw [Sleepers.wakes, place]
        refine Or.inr fun waiter found => ?_
        cases waiter with
        | thread => exact found.elim
        | client other => exact Sleep.noConfusion ((congrFun woken other).symm.trans found)
      · exact Or.inl (Or.inl ⟨job, (State.step_leaves moved).handler own job place⟩)
    · exact Or.inl (Or.inr ⟨client, wakes.signalling client raised⟩)

theorem queue_drive {sleepers next : Sleepers Client} {action : Action Client}
    (moved : sleepers.drive action = some next) : WaitQueue.Step sleepers.queue next.queue := by
  obtain ⟨steps, driver, goes, rfl⟩ := drive_eq_some moved
  exact ⟨fun _ _ found => finds_drive steps goes found, fun _ succeeds => owes_drive goes succeeds,
    fun _ due => wakes_drive goes due⟩

/-! ### The steps of the wait queues -/

/-- A client that takes another place on the queue and does not sleep. -/
theorem queue_setClient {sleepers : Sleepers Client} {client : Client} {sleep : Sleep}
    (apart : sleep ≠ .asleep) :
    WaitQueue.Step sleepers.queue (sleepers.setClient client sleep).queue := by
  refine ⟨fun waiter awaited found => Or.inl ?_, fun _ => Or.inl, fun _ => Or.inl⟩
  cases waiter with
  | thread => cases awaited <;> exact found
  | client other =>
    cases awaited with
    | event => exact (asleep_of_setClient apart found).2
    | request | stop => exact found.elim

/-- A client that sleeps while the event is down. -/
theorem queue_doze {sleepers : Sleepers Client} {client : Client}
    (down : sleepers.driver.dx.dsp.irqEvent = false) :
    WaitQueue.Step sleepers.queue (sleepers.setClient client .asleep).queue := by
  refine ⟨fun waiter awaited found => ?_, fun _ => Or.inl, fun _ => Or.inl⟩
  cases waiter with
  | thread => cases awaited <;> exact Or.inl found
  | client other =>
    cases awaited with
    | event => exact Or.inr fun raised => Bool.false_ne_true (down.symm.trans raised)
    | request | stop => exact found.elim

/-- The test of `poll(2)` takes the event, so who sleeps behind it has found the event down. -/
theorem queue_poll {sleepers : Sleepers Client} {client : Client} {driver : State Client}
    (moved : sleepers.driver.step (.poll client) = some driver) :
    WaitQueue.Step sleepers.queue
      ({ sleepers.setClient client
          (if sleepers.driver.dx.dsp.irqEvent then .awake else .asleep) with driver } :
        Sleepers Client).queue := by
  obtain ⟨-, rfl⟩ := State.whenIdle_eq_some moved
  refine ⟨fun waiter awaited found => ?_, fun awaited succeeds => ?_, fun awaited due => ?_⟩
  · cases waiter with
    | thread => cases awaited <;> exact Or.inl found
    | client other =>
      cases awaited with
      | event => exact Or.inr fun raised => Bool.false_ne_true raised
      | request | stop => exact found.elim
  · cases awaited with
    | request | stop => exact Or.inl succeeds
    | event => exact absurd succeeds Bool.false_ne_true
  · cases awaited <;> exact Or.inl due

theorem step_queue {sleepers next : Sleepers Client} {action : SleepAction Client}
    (moved : sleepers.step action = some next) : WaitQueue.Step sleepers.queue next.queue := by
  cases action with
  | drive action => exact queue_drive moved
  | joinThread =>
    rw [step] at moved
    split at moved
    · next place _ =>
      cases moved
      refine ⟨fun waiter awaited found => Or.inl ?_, fun _ => Or.inl, fun _ => Or.inl⟩
      cases waiter with
      | client => cases awaited <;> exact found
      | thread =>
        cases awaited with
        | request =>
          rcases found with asleep | ⟨-, waits⟩
          · cases asleep
          · exact ThreadPc.noConfusion (place.symm.trans waits)
        | stop => cases found
        | event => exact found
    · cases moved
  | joinClient client =>
    rw [step] at moved
    split at moved <;> cases moved <;> exact queue_setClient (by simp)
  | doze client =>
    rw [step] at moved
    split at moved
    · split at moved
      · cases moved
      · next down =>
        cases moved
        exact queue_doze (Bool.not_eq_true _ ▸ down)
    · cases moved
  | poll client =>
    rw [step] at moved
    split at moved
    · obtain ⟨driver, goes, rfl⟩ := Option.map_eq_some_iff.mp moved
      exact queue_poll goes
    · cases moved
  | giveUp client =>
    rw [step] at moved
    split at moved <;> cases moved
    exact queue_setClient (by simp)
  | wakeThread =>
    rw [step] at moved
    split at moved
    · cases moved
      refine ⟨fun waiter awaited found => Or.inl ?_, fun _ => Or.inl, fun awaited due => ?_⟩
      · cases waiter with
        | client => cases awaited <;> exact found
        | thread =>
          cases awaited with
          | request =>
            rcases found with asleep | ⟨queued, -⟩
            · cases asleep
            · cases queued
          | stop => cases found
          | event => exact found
      · cases awaited with
        | request | event => exact Or.inl due
        | stop =>
          refine Or.inr fun waiter found => ?_
          cases waiter with
          | client => exact found
          | thread => cases found
    · cases moved
  | wakeReaders client =>
    rw [step] at moved
    split at moved <;> cases moved
    refine ⟨fun waiter awaited found => Or.inl ?_, fun _ => Or.inl, fun awaited due => ?_⟩
    · cases waiter with
      | thread => cases awaited <;> exact found
      | client => cases awaited <;> cases found
    · cases awaited with
      | request | stop => exact Or.inl due
      | event =>
        refine Or.inr fun waiter found => ?_
        cases waiter <;> cases found

omit [DecidableEq Client] in
theorem queue_initial (dsp : Dxdsp) : (initial dsp : Sleepers Client).queue.Attended := by
  intro waiter awaited found
  cases waiter with
  | client => cases awaited <;> cases found
  | thread =>
    cases awaited with
    | request =>
      rcases found with asleep | ⟨queued, -⟩
      · cases asleep
      · cases queued
    | stop | event => cases found

theorem attended_of_reaches {sleepers : Sleepers Client}
    (reached : (sleepingDriver Client).Reaches (fun _ _ => True) sleepers) :
    sleepers.queue.Attended := by
  induction reached with
  | start begins =>
    obtain ⟨dsp, rfl⟩ := begins
    exact queue_initial dsp
  | step _ _ moved inductionHypothesis => exact inductionHypothesis.step (step_queue moved)

end Sleepers

/-- In every run of the driver whose waiters sleep no wake-up is lost: the thread sleeps over a
request only while the client that queued it has yet to wake it, over the stop only while
`kthread_stop` has, and a client over the event only while the handler or TERMINATE has. -/
theorem no_wakeup_lost {sleepers : Sleepers Client}
    (reached : (sleepingDriver Client).Reaches (fun _ _ => True) sleepers) :
    (sleepers.thread = .asleep → sleepers.driver.dx.requests ≠ [] →
        ∃ client reqId, sleepers.driver.calls client = .wake reqId) ∧
      (sleepers.thread = .asleep → sleepers.driver.shouldStop = true →
        sleepers.stopping = true) ∧
      ∀ client, sleepers.client client = .asleep → sleepers.driver.dx.dsp.irqEvent = true →
        (∃ job, sleepers.driver.irq = .wake job) ∨ ∃ other, sleepers.signalling other = true := by
  have attended := Sleepers.attended_of_reaches reached
  exact ⟨fun asleep => attended .thread .request (Or.inl asleep),
    attended .thread .stop, fun client => attended (.client client) .event⟩

/-- The thread starts the DSP on a request of the first client and comes back to its loop. -/
def comesBack : List (Action (Fin 2)) :=
  submit 0 1 1 ++ List.replicate 4 .thread ++ runToEnd .thread ++ List.replicate 4 .thread

/-- The thread goes to sleep, and the second client goes to sleep in READ_OUTPUT. -/
def fallAsleep : List (SleepAction (Fin 2)) :=
  [.joinThread, .drive .thread, .drive .thread, .drive (.readOutput 1 .writable),
    .drive (.client 1 false), .joinClient 1, .doze 1]

/-- The handler raises the event, the first client queues another request, and `kthread_stop` sets
its flag; none of them comes to its wake-up. -/
def threeWakeupsDue : List (Action (Fin 2)) :=
  [.complete ⟨.thread, 1⟩, .interrupt ⟨.thread, 1⟩] ++ List.replicate 8 .irq ++
    [.write 0 (some 2) sizeofDxrtDspRequest (some (bareRequest 2)), .client 0 false, .stop]

theorem no_wakeup_lost_before_wake : ∃ sleepers : Sleepers (Fin 2),
    (sleepingDriver (Fin 2)).Reaches (fun _ _ => True) sleepers ∧
      (sleepers.thread = .asleep ∧ sleepers.driver.dx.requests ≠ [] ∧
        ∃ client reqId, sleepers.driver.calls client = .wake reqId) ∧
      (sleepers.driver.shouldStop = true ∧ sleepers.stopping = true) ∧
      sleepers.client 1 = .asleep ∧ sleepers.driver.dx.dsp.irqEvent = true ∧
        ((∃ job, sleepers.driver.irq = .wake job) ∨
          ∃ other, sleepers.signalling other = true) := by
  obtain ⟨sleepers, ran, seen⟩ := Option.map_eq_some_iff.mp
    (show ((sleepingDriver (Fin 2)).run (fun _ _ => True) (Sleepers.initial boardDsp)
        (comesBack.map .drive ++ fallAsleep ++ threeWakeupsDue.map .drive)).map (fun sleepers =>
          (sleepers.thread, sleepers.driver.dx.requests.isEmpty, sleepers.driver.shouldStop,
            sleepers.client 1, sleepers.driver.dx.dsp.irqEvent)) =
          some (.asleep, false, true, .asleep, true) by
      decide +kernel)
  simp only [Prod.mk.injEq] at seen
  obtain ⟨asleep, filled, stopped, reads, raised⟩ := seen
  have requests : sleepers.driver.dx.requests ≠ [] := List.isEmpty_eq_false_iff.mp filled
  have probed : (sleepingDriver (Fin 2)).Reaches (fun _ _ => True) (Sleepers.initial boardDsp) :=
    .start ⟨boardDsp, rfl⟩
  have reached := probed.of_run _ ran
  obtain ⟨request, stop, event⟩ := no_wakeup_lost reached
  exact ⟨sleepers, reached, ⟨asleep, requests, request asleep requests⟩,
    ⟨stopped, stop asleep stopped⟩, reads, raised, event 1 reads raised⟩

end DxDsp
