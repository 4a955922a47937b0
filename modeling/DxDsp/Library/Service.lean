/-
This file is the abstract service: a counter that serves one job at a time. Some
jobs join a waiting line and are admitted in its order; the others come straight
to the counter. What is answered was admitted, in this order and each once, and
what joined the line has been admitted or stands in it.
-/

import DxDsp.Library.Observation

namespace DxDsp.Library

/-- The waiting line, and the job at the counter. -/
structure Service (Job : Type) where
  line : List Job
  serving : Option Job

namespace Service

inductive Event (Job : Type)
  | joined (job : Job)
  | admitted (job : Job)
  | answered (job : Job)
deriving DecidableEq

variable {Job : Type}

def Event.joins : Event Job → Option Job
  | .joined job => some job
  | .admitted _ | .answered _ => none

def Event.admits : Event Job → Option Job
  | .admitted job => some job
  | .joined _ | .answered _ => none

def Event.answers : Event Job → Option Job
  | .answered job => some job
  | .joined _ | .admitted _ => none

def closed : Service Job where
  line := []
  serving := none

variable [DecidableEq Job]

/-- A job that queues is admitted from the head of the line only. -/
def receive (queues : Job → Bool) (service : Service Job) (job : Job) : Option (Service Job) :=
  if queues job then
    if service.line.head? = some job then some { line := service.line.tail, serving := some job }
    else none
  else some { service with serving := some job }

def step (queues : Job → Bool) (service : Service Job) : Event Job → Option (Service Job)
  | .joined job =>
    if queues job then some { service with line := service.line ++ [job] } else none
  | .admitted job => if service.serving = none then service.receive queues job else none
  | .answered job =>
    if service.serving = some job then some { service with serving := none } else none

/-- The service as a machine: its runs are what it allows to be seen. -/
def machine (queues : Job → Bool) : Machine (Service Job) (Event Job) where
  start service := service = closed
  step := step queues

/-! ### When an event may be seen -/

section Events

variable {queues : Job → Bool} {line : List Job} {job : Job}

theorem step_joined (queued : queues job = true) (service : Service Job) :
    service.step queues (.joined job) = some { service with line := service.line ++ [job] } :=
  if_pos queued

theorem step_admitted_of_head (queued : queues job = true) (first : line.head? = some job) :
    step queues { line, serving := none } (.admitted job) =
      some { line := line.tail, serving := some job } := by
  rw [step, if_pos rfl, receive, if_pos queued, if_pos first]

theorem step_admitted_straight (straight : queues job = false) :
    step queues { line, serving := none } (.admitted job) = some { line, serving := some job } := by
  rw [step, if_pos rfl, receive, straight]
  rfl

theorem step_answered :
    step queues { line, serving := some job } (.answered job) = some { line, serving := none } :=
  if_pos rfl

end Events

/-! ### What every run conserves -/

variable {queues : Job → Bool}

/-- What one event conserves: the line that joins it, and the counter that admits. -/
theorem step_conserved {service next : Service Job} {event : Event Job}
    (moved : service.step queues event = some next) :
    service.line ++ event.joins.toList = (event.admits.toList).filter queues ++ next.line ∧
      service.serving.toList ++ event.admits.toList =
        event.answers.toList ++ next.serving.toList := by
  cases event with
  | joined job =>
    rw [step] at moved
    split at moved <;> cases moved
    exact ⟨rfl, List.append_nil _⟩
  | admitted job =>
    rw [step] at moved
    split at moved
    · next idle =>
      rw [receive] at moved
      rw [idle]
      split at moved
      · next queued =>
        split at moved <;> cases moved
        next first =>
          obtain ⟨rest, line⟩ := List.head?_eq_some_iff.mp first
          refine ⟨?_, rfl⟩
          rw [line, Event.admits, Option.toList_some, List.filter_singleton, queued]
          exact List.append_nil _
      · next straight =>
        cases moved
        refine ⟨?_, rfl⟩
        rw [Event.admits, Option.toList_some, List.filter_singleton,
          Bool.eq_false_iff.mpr straight]
        exact List.append_nil _
    · cases moved
  | answered job =>
    rw [step] at moved
    split at moved <;> cases moved
    next serves =>
      rw [serves]
      exact ⟨List.append_nil _, rfl⟩

/-- In every run: what joined the line has been admitted from it, in its order, or stands in it;
and what was admitted has been answered, in this order, or is being served. -/
theorem run_conserved {service final : Service Job} {events : List (Event Job)}
    (ran : (machine queues).run (fun _ _ => True) service events = some final) :
    service.line ++ events.filterMap Event.joins =
        (events.filterMap Event.admits).filter queues ++ final.line ∧
      service.serving.toList ++ events.filterMap Event.admits =
        events.filterMap Event.answers ++ final.serving.toList := by
  induction events generalizing service with
  | nil =>
    rw [Machine.run, Option.some_inj] at ran
    rw [ran]
    exact ⟨List.append_nil _, List.append_nil _⟩
  | cons event rest inductionHypothesis =>
    obtain ⟨next, -, moved, later⟩ := Machine.run_cons_eq_some ran
    obtain ⟨line, counter⟩ := step_conserved moved
    obtain ⟨restLine, restCounter⟩ := inductionHypothesis later
    have told : ∀ part : Event Job → Option Job,
        (event :: rest).filterMap part = (part event).toList ++ rest.filterMap part := by
      intro part
      cases own : part event <;> simp [own]
    rw [told, told, told, List.filter_append]
    constructor
    · rw [← List.append_assoc, line, List.append_assoc, restLine, List.append_assoc]
    · rw [← List.append_assoc, counter, List.append_assoc, restCounter, List.append_assoc]

end Service

end DxDsp.Library
