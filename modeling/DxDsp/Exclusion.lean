/-
This file is about the requests in flight: under the condition that the status
is read idle by one caller at a time, at most one request is between its idle
read and the handler's write of status 0, and the id the handler stores is the
completed request's own. Without the condition neither holds: two callers may
both read the status idle before either writes the busy mark.
-/

import DxDsp.BusyMark

namespace DxDsp

open Library

variable {Client : Type}

/-! ### One request in flight -/

/-- Between two idle reads the handler of the first request writes status 0, and every stored id is
the completed request's own. -/
structure SingleInFlight (log : List (Event Client)) : Prop where
  separated : ∀ before between after first second,
    log = before ++ .left first :: between ++ .left second :: after → .released first ∈ between
  stored : ∀ job value, .stored job value ∈ log → value = job.reqId

/-- What the handler stored, and for which request. -/
def Event.stores : Event Client → Option (Job Client × UInt32)
  | .stored job value => some (job, value)
  | _ => none

theorem mem_filterMap_stores {log : List (Event Client)} {job : Job Client} {value : UInt32}
    (member : .stored job value ∈ log) : (job, value) ∈ log.filterMap Event.stores :=
  List.mem_filterMap.mpr ⟨_, member, rfl⟩

variable [DecidableEq Client]

namespace State

/-- The invariant of the runs under the condition: the driver is an exclusive busy flag, and the
handler stores the id of its own request. -/
structure OneInFlight (state : State Client) : Prop where
  exclusive : ∃ current, BusyFlag.Exclusive Job.reqId state.flag current
  loaded : ∀ job value, state.irq = .store job value → value = job.reqId
  logged : ∀ entry ∈ state.log.filterMap Event.stores, entry.2 = entry.1.reqId

/-- While a handler has not written status 0, its request is the one in flight. -/
theorem OneInFlight.of_held {state : State Client} (one : OneInFlight state) {job : Job Client}
    (held : state.irq.held = [job]) :
    state.started = [] ∧ state.raised = [] ∧ state.dx.dsp.reqId = job.reqId := by
  obtain ⟨current, exclusive⟩ := one.exclusive
  have handed : state.flag.handed = state.started + state.raised + ([job] : List (Job Client)) := by
    rw [flag, held]
  have member : job ∈ state.flag.handed := by
    rw [handed]
    exact Multiset.mem_add.mpr (Or.inr (Multiset.mem_coe.mpr List.mem_cons_self))
  obtain ⟨sole, tag⟩ := exclusive.of_handed member
  have cards := congrArg Multiset.card (handed.symm.trans sole)
  rw [Multiset.card_add, Multiset.card_add, Multiset.coe_card, Multiset.coe_card, Multiset.coe_card,
    Multiset.card_singleton, List.length_singleton] at cards
  exact ⟨List.eq_nil_of_length_eq_zero (by omega), List.eq_nil_of_length_eq_zero (by omega), tag⟩

/-- While a caller stores its message, no request is with the DSP or the handler. -/
theorem OneInFlight.of_published {state : State Client} (one : OneInFlight state)
    {caller : Caller Client} {job : Job Client} (published : state.phase caller = .published job) :
    state.started = [] ∧ state.raised = [] ∧ state.irq.held = [] := by
  obtain ⟨current, exclusive⟩ := one.exclusive
  have cards := congrArg Multiset.card (exclusive.of_published published)
  rw [flag, Multiset.card_add, Multiset.card_add, Multiset.coe_card, Multiset.coe_card,
    Multiset.coe_card, Multiset.card_zero] at cards
  exact ⟨List.eq_nil_of_length_eq_zero (by omega), List.eq_nil_of_length_eq_zero (by omega),
    List.eq_nil_of_length_eq_zero (by omega)⟩

theorem oneInFlight_initial (dsp : Dxdsp) : OneInFlight (initial dsp : State Client) where
  exclusive := by
    refine ⟨none, .free ?_ rfl, ?_, ?_⟩
    · funext caller
      cases caller <;> rfl
    · intro before after job split
      simp [flag, initial] at split
    · intro before between after first second split
      simp [flag, initial] at split
  loaded := fun _ _ place => by cases place
  logged := fun _ member => by cases member

theorem OneInFlight.step {state next : State Client} {action : Action Client}
    (one : OneInFlight state) (alone : CheckedAlone state action)
    (moved : state.step action = some next) : OneInFlight next := by
  have exclusive : ∃ current, BusyFlag.Exclusive Job.reqId next.flag current := by
    obtain ⟨current, exclusive⟩ := one.exclusive
    rcases step_flag alone moved with same | stepped
    · exact ⟨current, same ▸ exclusive⟩
    · exact exclusive.step stepped
  by_cases side : action.clientSide = true
  · have same := step_sameDsp side moved
    refine ⟨exclusive, fun job value place => one.loaded job value (same.irq ▸ place), ?_⟩
    rw [same.filterMap fun event quiet => by cases event <;> first | rfl | cases quiet]
    exact one.logged
  · cases action with
    | run caller =>
      obtain ⟨request, pc, inside, unfinished, rfl⟩ := runStep_eq_some moved
      refine ⟨exclusive, one.loaded, ?_⟩
      rw [filterMap_afterRun fun _ => rfl]
      exact one.logged
    | complete job =>
      obtain ⟨member, rfl⟩ := complete_eq_some moved
      refine ⟨exclusive, one.loaded, ?_⟩
      rw [filterMap_append rfl]
      exact one.logged
    | interrupt job =>
      obtain ⟨idle, member, rfl⟩ := interrupt_eq_some moved
      exact ⟨exclusive, by simp, one.logged⟩
    | irq =>
      rw [State.step] at moved
      cases place : state.irq with
      | idle =>
        rw [place] at moved
        cases moved
      | load job =>
        rw [place] at moved
        cases moved
        refine ⟨exclusive, fun own value stores => ?_, one.logged⟩
        cases stores
        exact (one.of_held (by rw [place, IrqPc.held])).2.2
      | store job value =>
        rw [place] at moved
        cases moved
        refine ⟨exclusive, by simp, ?_⟩
        rw [List.filterMap_append, List.forall_mem_append]
        refine ⟨one.logged, fun entry member => ?_⟩
        rw [List.mem_singleton.mp member]
        exact one.loaded job value place
      | status job | wake job =>
        rw [place] at moved
        cases moved
        refine ⟨exclusive, by simp, ?_⟩
        rw [filterMap_append rfl]
        exact one.logged
      | status0 job | status1 job | clear0 job | clear1 job | event job =>
        rw [place] at moved
        cases moved
        exact ⟨exclusive, by simp, one.logged⟩
    | _ => exact absurd rfl side

theorem OneInFlight.of_reaches {state : State Client}
    (reached : (driver Client).Reaches CheckedAlone state) : OneInFlight state := by
  refine reached.invariant ?_ fun _ _ _ one alone moved => one.step alone moved
  rintro _ ⟨dsp, rfl⟩
  exact oneInFlight_initial dsp

/-- What the flag separates, the log separates. -/
theorem OneInFlight.singleInFlight {state : State Client} (one : OneInFlight state) :
    SingleInFlight state.log where
  separated := by
    intro before between after first second split
    obtain ⟨current, exclusive⟩ := one.exclusive
    have history := congrArg (List.filterMap Event.passage) split
    rw [List.filterMap_append, List.filterMap_append] at history
    have released := exclusive.separated _ (between.filterMap Event.passage) _ first second history
    obtain ⟨event, member, passage⟩ := List.mem_filterMap.mp released
    cases event with
    | released job =>
      cases passage
      exact member
    | _ => cases passage
  stored job value member := one.logged (job, value) (mem_filterMap_stores member)

end State

/-- In every run in which the status is read idle by one caller at a time, one request is in flight
at a time and every stored id is right. -/
theorem dsp_single_in_flight {state : State Client}
    (reached : (driver Client).Reaches State.CheckedAlone state) : SingleInFlight state.log :=
  (State.OneInFlight.of_reaches reached).singleInFlight

/-! ### Runs of two callers -/

/-- Two WRITE_INPUT callers that both read the status idle before either writes the mark; the first
request completes. -/
def bothReadIdle : List (Action (Fin 2)) :=
  [.writeInput 0 (.holds (bareRequest 1)), .writeInput 1 (.holds (bareRequest 2)),
    .run (.input 1)] ++ runToEnd (.input 0) ++
    [.run (.input 1), .run (.input 1), .complete ⟨.input 0, 1⟩, .interrupt ⟨.input 0, 1⟩,
      .irq, .irq, .irq, .irq]

/-- The same two callers, the second reading the status after the first one's interrupt. -/
def oneAfterAnother : List (Action (Fin 2)) :=
  [.writeInput 0 (.holds (bareRequest 1)), .writeInput 1 (.holds (bareRequest 2))] ++
    runToEnd (.input 0) ++ [.run (.input 1)] ++ completeAndHandle ⟨.input 0, 1⟩ ++
    runToEnd (.input 1) ++ completeAndHandle ⟨.input 1, 2⟩

theorem dsp_single_in_flight_two_callers :
    ∃ state, (driver (Fin 2)).Reaches State.CheckedAlone state ∧
      state.log =
        [.left ⟨.input 0, 1⟩, .completed ⟨.input 0, 1⟩, .stored ⟨.input 0, 1⟩ 1,
          .released ⟨.input 0, 1⟩, .finished ⟨.input 0, 1⟩, .left ⟨.input 1, 2⟩,
          .completed ⟨.input 1, 2⟩, .stored ⟨.input 1, 2⟩ 2, .released ⟨.input 1, 2⟩,
          .finished ⟨.input 1, 2⟩] ∧
      SingleInFlight state.log := by
  obtain ⟨state, reached, log⟩ := exists_reached oneAfterAnother
    (show ((driver (Fin 2)).run State.CheckedAlone _ _).map State.log =
      some [.left ⟨.input 0, 1⟩, .completed ⟨.input 0, 1⟩, .stored ⟨.input 0, 1⟩ 1,
        .released ⟨.input 0, 1⟩, .finished ⟨.input 0, 1⟩, .left ⟨.input 1, 2⟩,
        .completed ⟨.input 1, 2⟩, .stored ⟨.input 1, 2⟩ 2, .released ⟨.input 1, 2⟩,
        .finished ⟨.input 1, 2⟩] by decide +kernel)
  exact ⟨state, reached, log, dsp_single_in_flight reached⟩

/-- Two requests in flight, and the second one's id stored for the first. -/
theorem dsp_two_in_flight :
    ∃ state, (driver (Fin 2)).Reaches (fun _ _ => True) state ∧
      state.log =
        [.left ⟨.input 1, 2⟩, .left ⟨.input 0, 1⟩, .completed ⟨.input 0, 1⟩,
          .stored ⟨.input 0, 1⟩ 2] ∧
      ¬ SingleInFlight state.log := by
  obtain ⟨state, reached, log⟩ := exists_reached bothReadIdle
    (show ((driver (Fin 2)).run (fun _ _ => True) _ _).map State.log =
      some [.left ⟨.input 1, 2⟩, .left ⟨.input 0, 1⟩, .completed ⟨.input 0, 1⟩,
        .stored ⟨.input 0, 1⟩ 2] by decide +kernel)
  refine ⟨state, reached, log, fun single => ?_⟩
  have released := single.separated [] [] _ ⟨.input 1, 2⟩ ⟨.input 0, 1⟩ log
  cases released

end DxDsp
