/-
This file sees the driver from outside, as a counter with a waiting line. A
request joins the line where `write()` links its entry, is admitted by the status
read that leaves the busy wait, and is answered where the handler writes status
0. A WRITE_INPUT caller comes straight to the counter. Where the status is read
idle by one caller at a time, all that a run of the driver shows is what the
counter could show that serves one job at a time and the line in its order.
-/

import DxDsp.Answered
import DxDsp.Exclusion
import DxDsp.Provenance
import DxDsp.Library.Service

namespace DxDsp

open Library

variable {Client : Type}

/-! ### What a run shows -/

/-- The requests of the thread come out of the line. -/
def Job.queues (job : Job Client) : Bool :=
  match job.caller with
  | .thread => true
  | .input _ => false

/-- The job that an entry of the list stands for. -/
def DxrtRequestList.job (entry : DxrtRequestList) : Job Client :=
  { caller := .thread, reqId := entry.request.reqId }

def Event.shows : Event Client → Option (Service.Event (Job Client))
  | .accepted _ reqId => some (.joined { caller := .thread, reqId })
  | .left job => some (.admitted job)
  | .released job => some (.answered job)
  | .writeReturned .. | .writeRefused .. | .completed _ | .stored .. | .finished _ | .polled ..
  | .read .. | .output .. => none

def shown (log : List (Event Client)) : List (Service.Event (Job Client)) :=
  log.filterMap Event.shows

theorem shown_joins (log : List (Event Client)) :
    (shown log).filterMap Service.Event.joins =
      (acceptedIds log).map fun reqId => { caller := .thread, reqId } := by
  rw [shown, acceptedIds, List.filterMap_filterMap, List.map_filterMap]
  congr 1
  funext event
  cases event <;> rfl

theorem shown_queued (log : List (Event Client)) :
    ((shown log).filterMap Service.Event.admits).filter Job.queues =
      (takenIds log).map fun reqId => { caller := .thread, reqId } := by
  rw [shown, takenIds, List.filterMap_filterMap, List.filter_filterMap, List.map_filterMap]
  congr 1
  funext event
  cases event with
  | left job =>
    obtain ⟨caller, reqId⟩ := job
    cases caller <;> rfl
  | _ => rfl

variable [DecidableEq Client]

/-- The counter that the driver is to be. -/
abbrev counter (Client : Type) [DecidableEq Client] :
    Machine (Service (Job Client)) (Service.Event (Job Client)) :=
  Service.machine Job.queues

namespace State

/-! ### The counter behind a run -/

/-- The counter has shown what the driver has, and serves the job that the busy mark is held for. -/
structure Shows (state : State Client) (service : Service (Job Client)) : Prop where
  ran : (counter Client).run (fun _ _ => True) .closed (shown state.log) = some service
  exclusive : BusyFlag.Exclusive Job.reqId state.flag service.serving

/-- What has joined the line and not been taken stands in it. -/
theorem Shows.accepted {state : State Client} {service : Service (Job Client)}
    (shows : Shows state service) :
    (acceptedIds state.log).map (fun reqId => ({ caller := .thread, reqId } : Job Client)) =
      (takenIds state.log).map (fun reqId => { caller := .thread, reqId }) ++ service.line := by
  have line := (Service.run_conserved shows.ran).1
  rw [shown_joins, shown_queued] at line
  exact line

theorem Shows.line {state : State Client} {service : Service (Job Client)}
    (shows : Shows state service) (booked : Booked state) :
    service.line = state.untaken.map DxrtRequestList.job := by
  have accepted := shows.accepted
  rw [booked, List.map_append, List.map_map] at accepted
  exact (List.append_cancel_left accepted).symm

/-- The thread takes the head of the line. -/
theorem Shows.head {state next : State Client} {service : Service (Job Client)} {reqId : UInt32}
    (shows : Shows state service) (booked : Booked next)
    (log : next.log = state.log ++ [.left { caller := .thread, reqId }]) :
    service.line.head? = some { caller := .thread, reqId } := by
  have accepted := shows.accepted
  have same : acceptedIds next.log = acceptedIds state.log := by
    rw [log, acceptedIds, List.filterMap_append]
    exact List.append_nil _
  have taken : takenIds next.log = takenIds state.log ++ [reqId] := by
    rw [log, takenIds, List.filterMap_append]
    rfl
  rw [← same, booked, taken, List.append_assoc, List.map_append] at accepted
  rw [← List.append_cancel_left accepted]
  rfl

theorem shows_initial (dsp : Dxdsp) : Shows (initial dsp : State Client) .closed where
  ran := rfl
  exclusive := by
    obtain ⟨current, exclusive⟩ :=
      (oneInFlight_initial dsp : OneInFlight (initial dsp : State Client)).exclusive
    cases current with
    | none => exact exclusive
    | some job =>
      rcases (exclusive.mode.current_eq_some_iff job).mp rfl with ⟨caller, inside⟩ | held
      · cases caller <;> cases inside
      · exact absurd held (Multiset.notMem_zero job)

/-- A job that leaves the busy wait may be admitted. -/
theorem Shows.admits {state next : State Client} {line : List (Job Client)} {job : Job Client}
    (shows : Shows state { line, serving := none }) (booked : Booked next)
    (log : next.log = state.log ++ [.left job]) :
    ∃ after, Service.step Job.queues { line, serving := none } (.admitted job) =
      some { line := after, serving := some job } := by
  obtain ⟨caller, reqId⟩ := job
  cases caller with
  | thread => exact ⟨_, Service.step_admitted_of_head rfl (shows.head booked log)⟩
  | input client => exact ⟨_, Service.step_admitted_straight rfl⟩

/-- The counter goes on with an event that the driver shows. -/
theorem Shows.of_event {state next : State Client} {service after : Service (Job Client)}
    {event : Event Client} {seen : Service.Event (Job Client)} (shows : Shows state service)
    (log : next.log = state.log ++ [event]) (isSeen : event.shows = some seen)
    (goes : service.step Job.queues seen = some after)
    (kept : BusyFlag.Exclusive Job.reqId next.flag after.serving) : Shows next after where
  ran := by
    have one : (counter Client).run (fun _ _ => True) service [seen] = some after := by
      have stepped : (counter Client).step service seen = some after := goes
      rw [Machine.run, if_pos trivial, stepped]
      rfl
    have trace : shown next.log = shown state.log ++ [seen] := by
      rw [log, shown, List.filterMap_append, List.filterMap_cons, isSeen]
      rfl
    rw [trace]
    exact Machine.run_append shows.ran one
  exclusive := kept

/-- Every step of the driver shows nothing, or what the counter can show next. -/
theorem Shows.step {state next : State Client} {action : Action Client}
    {service : Service (Job Client)} (shows : Shows state service) (booked : Booked next)
    (alone : CheckedAlone state action) (moved : state.step action = some next) :
    ∃ after, Shows next after := by
  obtain ⟨told, current, history, passes, kept⟩ : ∃ told current,
      next.flag.history = state.flag.history ++ told ∧
        BusyFlag.Passes service.serving told current ∧
          BusyFlag.Exclusive Job.reqId next.flag current := by
    rcases step_flag alone moved with same | stepped
    · exact ⟨[], _, by rw [same, List.append_nil], .stays _, same ▸ shows.exclusive⟩
    · exact shows.exclusive.step_passes stepped
  have logged : ∀ event, next.log = state.log ++ [event] → told = event.passage.toList := by
    intro event log
    have split : next.flag.history = state.flag.history ++ event.passage.toList := by
      rw [flag, log, List.filterMap_append]
      cases passage : event.passage <;> simp [flag, passage]
    exact List.append_cancel_left (history.symm.trans split)
  obtain ⟨line, serving⟩ := service
  rcases (posts_step moved).log with same | ⟨event, log, -⟩
  · have silent : told = [] := by
      have split : next.flag.history = state.flag.history ++ [] := by
        rw [flag, same, List.append_nil]
        rfl
      exact List.append_cancel_left (history.symm.trans split)
    subst silent
    cases passes
    exact ⟨_, same ▸ shows.ran, kept⟩
  · have passage := logged event log
    cases event with
    | accepted client reqId =>
      subst passage
      cases passes
      exact ⟨_, shows.of_event log rfl (Service.step_joined rfl _) kept⟩
    | left job =>
      subst passage
      cases passes
      obtain ⟨after, goes⟩ := shows.admits booked log
      exact ⟨_, shows.of_event log rfl goes kept⟩
    | released job =>
      subst passage
      cases passes
      exact ⟨_, shows.of_event log rfl Service.step_answered kept⟩
    | _ =>
      subst passage
      cases passes
      refine ⟨_, ?_, kept⟩
      rw [log, shown, List.filterMap_append]
      exact (congrArg _ (List.append_nil _)).trans shows.ran

theorem Shows.of_reaches {state : State Client}
    (reached : (driver Client).Reaches CheckedAlone state) : ∃ service, Shows state service := by
  induction reached with
  | start begins =>
    obtain ⟨dsp, rfl⟩ := begins
    exact ⟨_, shows_initial dsp⟩
  | step before alone moved inductionHypothesis =>
    obtain ⟨service, shows⟩ := inductionHypothesis
    have accounts := Accounts.of_reaches (before.mono fun _ _ _ => trivial)
    exact shows.step (accounts.step moved).booked alone moved

end State

/-- In every run in which the status is read idle by one caller at a time, what the driver shows is
a run of the counter. The line is what the thread has not taken, whom the counter serves is whose
request the busy mark is held for, and the answers are the admissions in their order. -/
theorem driver_refines_service {state : State Client}
    (reached : (driver Client).Reaches State.CheckedAlone state) :
    ∃ service, (counter Client).run (fun _ _ => True) .closed (shown state.log) = some service ∧
      service.line = state.untaken.map DxrtRequestList.job ∧
      (∀ job, service.serving = some job ↔ (∃ caller, (state.phase caller).job = some job) ∨
        job ∈ state.started ++ state.raised ++ state.irq.held) ∧
      (shown state.log).filterMap Service.Event.admits =
        (shown state.log).filterMap Service.Event.answers ++ service.serving.toList := by
  obtain ⟨service, shows⟩ := State.Shows.of_reaches reached
  have accounts := State.Accounts.of_reaches (reached.mono fun _ _ _ => trivial)
  refine ⟨service, shows.ran, shows.line accounts.booked, fun job => ?_,
    (Service.run_conserved shows.ran).2⟩
  rw [shows.exclusive.mode.current_eq_some_iff job, State.flag, Multiset.coe_add,
    Multiset.coe_add, Multiset.mem_coe]

/-- Two entries of a client in the line, the first answered, and another client at the counter
before the second. -/
def straightToTheCounter : List (Action (Fin 2)) :=
  submit 0 1 5 ++ submit 0 2 6 ++ [.writeInput 1 (.holds (bareRequest 7))] ++
    List.replicate 4 .thread ++ runToEnd .thread ++ completeAndHandle ⟨.thread, 5⟩ ++
      runToEnd (.input 1)

theorem driver_refines_service_two_clients :
    ∃ state : State (Fin 2),
      shown state.log =
        [.joined ⟨.thread, 5⟩, .joined ⟨.thread, 6⟩, .admitted ⟨.thread, 5⟩,
          .answered ⟨.thread, 5⟩, .admitted ⟨.input 1, 7⟩] ∧
      ∃ service, (counter (Fin 2)).run (fun _ _ => True) .closed (shown state.log) = some service ∧
        service.line = state.untaken.map DxrtRequestList.job := by
  obtain ⟨state, reached, log⟩ := exists_reached straightToTheCounter
    (show ((driver (Fin 2)).run State.CheckedAlone _ _).map (fun state => shown state.log) =
      some [.joined ⟨.thread, 5⟩, .joined ⟨.thread, 6⟩, .admitted ⟨.thread, 5⟩,
        .answered ⟨.thread, 5⟩, .admitted ⟨.input 1, 7⟩] by decide +kernel)
  obtain ⟨service, ran, line, -⟩ := driver_refines_service reached
  exact ⟨state, log, service, ran, line⟩

end DxDsp
