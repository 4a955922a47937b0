/-
This file is about what `poll()` and `read()` answer, in every run: the last
write of the event flag, and the last write of the id in `dx->response`. An id
that `read()` returns is never made up: it is zero or the id of a request that
left the busy wait before. That is not for the asking, as `dsp->req_id` is never
initialised: a value found in it would be returned if the handler stored it.
-/

import DxDsp.BusyMark
import DxDsp.Overlap
import DxDsp.ReadOutput
import DxDsp.SignalledRead
import DxDsp.Library.Observation

namespace DxDsp

open Library

variable {Client : Type}

/-! ### Writes of the mailbox -/

def Micro.eventWrite : Micro → Option Bool
  | .irqEvent value => some value
  | _ => none

/-- The effects that reset the id in the response. -/
def Micro.idWrite : Micro → Option UInt32
  | .responseReqId | .response => some 0
  | _ => none

/-- The value that the next step of a call writes to the event flag. -/
def CallPc.eventWrite : CallPc → Option Bool
  | .program (effect :: _) => effect.eventWrite
  | .output .clear => some false
  | _ => none

def CallPc.idWrite : CallPc → Option UInt32
  | .program (effect :: _) => effect.idWrite
  | _ => none

def IrqPc.eventWrite : IrqPc Client → Option Bool
  | .event _ => some true
  | _ => none

def IrqPc.idWrite : IrqPc Client → Option UInt32
  | .store _ value => some value
  | _ => none

namespace State

/-- The value that a step writes to the event flag. -/
def eventWrite (state : State Client) : Action Client → Option Bool
  | .poll _ => some false
  | .client client _ => (state.calls client).eventWrite
  | .irq => state.irq.eventWrite
  | _ => none

/-- The value that a step writes to the id in the response. -/
def idWrite (state : State Client) : Action Client → Option UInt32
  | .client client _ => (state.calls client).idWrite
  | .irq => state.irq.idWrite
  | _ => none

/-- What the event says of the state it was taken in. -/
def Tells (state : State Client) : Event Client → Prop
  | .polled _ pollin => pollin = state.dx.dsp.irqEvent
  | .read _ reqId => reqId = state.dx.response.reqId
  | .stored job value => state.irq = .store job value
  | _ => True

/-- What a step writes to the mailbox, and what it logs. -/
structure Posts (state next : State Client) (event : Option Bool) (reqId : Option UInt32) :
    Prop where
  event : next.dx.dsp.irqEvent = event.getD state.dx.dsp.irqEvent
  reqId : next.dx.response.reqId = reqId.getD state.dx.response.reqId
  log : next.log = state.log ∨ ∃ own, next.log = state.log ++ [own] ∧ state.Tells own

/-- A step that leaves the mailbox alone. -/
theorem Posts.quiet {state next : State Client}
    (event : next.dx.dsp.irqEvent = state.dx.dsp.irqEvent)
    (response : next.dx.response = state.dx.response) (log : next.log = state.log) :
    Posts state next none none :=
  ⟨event, congrArg DxrtResponse.reqId response, Or.inl log⟩

/-- A step that leaves the mailbox alone and logs what it saw. -/
theorem Posts.tell {state next : State Client} {own : Event Client}
    (log : next.log = state.log ++ [own]) (event : next.dx.dsp.irqEvent = state.dx.dsp.irqEvent)
    (response : next.dx.response = state.dx.response) (tells : state.Tells own) :
    Posts state next none none :=
  ⟨event, congrArg DxrtResponse.reqId response, Or.inr ⟨own, log, tells⟩⟩

/-! ### What each step does -/

theorem dxrtDevRead_eq_ok {dx : Dxdev} {len : Nat} {fault : Bool} {response : DxrtResponse}
    (copied : dxrtDevRead dx len fault = .ok response) : response = dx.response := by
  rw [dxrtDevRead] at copied
  split at copied
  · cases copied
  · split at copied <;> cases copied
    rfl

variable [DecidableEq Client]

theorem posts_outputStep {state next : State Client} {client : Client} {disturbed : Bool}
    {pc : OutputPc} (moved : state.outputStep client disturbed pc = some next) :
    Posts state next (CallPc.output pc).eventWrite none := by
  cases pc with
  | test =>
    cases moved
    exact .quiet rfl rfl rfl
  | wait =>
    rw [outputStep] at moved
    split at moved
    · cases moved
      exact .quiet rfl rfl rfl
    · split at moved <;> cases moved
      exact .quiet rfl rfl rfl
  | clear =>
    cases moved
    exact ⟨rfl, rfl, Or.inl rfl⟩
  | take =>
    rw [outputStep] at moved
    split at moved
    · cases moved
    · split at moved
      · cases moved
        exact .tell rfl rfl rfl trivial
      · split at moved <;> cases moved <;> exact .tell rfl rfl rfl trivial

theorem posts_clientStep {state next : State Client} {client : Client} {disturbed : Bool}
    {call : CallPc} (moved : state.clientStep client disturbed call = some next) :
    Posts state next call.eventWrite call.idWrite := by
  cases call with
  | idle => cases moved
  | queue | wake =>
    cases moved
    exact .tell rfl rfl rfl trivial
  | input request pc =>
    cases pc <;> cases moved
    exact .quiet rfl rfl rfl
  | program steps =>
    cases steps with
    | nil =>
      cases moved
      exact .quiet rfl rfl rfl
    | cons effect rest =>
      rw [clientStep] at moved
      split at moved <;> cases moved
      cases effect <;> exact ⟨rfl, rfl, Or.inl rfl⟩
  | output pc => exact posts_outputStep moved

omit [DecidableEq Client] in
theorem posts_irqStep {state next : State Client} (moved : state.irqStep state.irq = some next) :
    Posts state next state.irq.eventWrite state.irq.idWrite := by
  cases place : state.irq with
  | idle =>
    rw [place] at moved
    cases moved
  | store job value =>
    rw [place] at moved
    cases moved
    exact ⟨rfl, rfl, Or.inr ⟨_, rfl, place⟩⟩
  | status | wake =>
    rw [place] at moved
    cases moved
    exact .tell rfl rfl rfl trivial
  | event =>
    rw [place] at moved
    cases moved
    exact ⟨rfl, rfl, Or.inl rfl⟩
  | status0 | status1 | load | clear0 | clear1 =>
    rw [place] at moved
    cases moved
    exact .quiet rfl rfl rfl

theorem posts_step {state next : State Client} {action : Action Client}
    (moved : state.step action = some next) :
    Posts state next (state.eventWrite action) (state.idWrite action) := by
  cases action with
  | write client node len data =>
    obtain ⟨-, rfl⟩ := whenIdle_eq_some moved
    rw [beginWrite]
    split
    · exact .quiet rfl rfl rfl
    · exact .tell rfl rfl rfl trivial
  | writeInput client data =>
    obtain ⟨-, rfl⟩ := whenIdle_eq_some moved
    cases data <;> exact .quiet rfl rfl rfl
  | readOutput client data =>
    obtain ⟨-, rfl⟩ := whenIdle_eq_some moved
    cases data with
    | null => exact .tell rfl rfl rfl trivial
    | fault | writable => exact .quiet rfl rfl rfl
  | program client steps =>
    rw [step] at moved
    split at moved
    · obtain ⟨-, rfl⟩ := whenIdle_eq_some moved
      exact .quiet rfl rfl rfl
    · cases moved
  | writeMem client data source =>
    obtain ⟨-, rfl⟩ := whenIdle_eq_some moved
    have mailbox := dxrtWriteMem_mailbox state.dx data source
    exact .quiet mailbox.1 mailbox.2 rfl
  | poll client =>
    obtain ⟨-, rfl⟩ := whenIdle_eq_some moved
    exact ⟨rfl, rfl, Or.inr ⟨_, rfl, rfl⟩⟩
  | read client len fault =>
    obtain ⟨-, rfl⟩ := whenIdle_eq_some moved
    rw [readStep]
    split
    · next response copied =>
      have own : response = state.dx.response := dxrtDevRead_eq_ok copied
      exact .tell rfl rfl rfl (congrArg DxrtResponse.reqId own)
    · exact .quiet rfl rfl rfl
  | client client disturbed => exact posts_clientStep moved
  | run caller =>
    obtain ⟨request, pc, -, -, rfl⟩ := runStep_eq_some moved
    have event := runEffect_irqEvent request state.dx.dsp pc
    rcases log_afterRun state caller request pc with log | ⟨job, log⟩
    · exact .quiet event rfl log
    · exact .tell log event rfl trivial
  | thread =>
    obtain ⟨thread, requests, rfl⟩ := threadStep_eq_some moved
    exact .quiet rfl rfl rfl
  | stop =>
    cases moved
    exact .quiet rfl rfl rfl
  | complete job =>
    obtain ⟨-, rfl⟩ := complete_eq_some moved
    exact .tell rfl rfl rfl trivial
  | interrupt job =>
    obtain ⟨-, -, rfl⟩ := interrupt_eq_some moved
    exact .quiet rfl rfl rfl
  | irq => exact posts_irqStep moved

/-! ### Answers are the last writes -/

/-- The values written to the event flag in a run from a probe. -/
def eventWrites (dsp : Dxdsp) (actions : List (Action Client)) : List Bool :=
  (driver Client).notes eventWrite (initial dsp) actions

/-- The ids written to the response in a run from a probe. -/
def idWrites (dsp : Dxdsp) (actions : List (Action Client)) : List UInt32 :=
  (driver Client).notes idWrite (initial dsp) actions

/-- Of what is in the mailbox the last writes decide. -/
theorem mailbox_eq_last {dsp : Dxdsp} {actions : List (Action Client)} {state : State Client}
    (ran : (driver Client).run (fun _ _ => True) (initial dsp) actions = some state) :
    state.dx.dsp.irqEvent = (eventWrites dsp actions).getLast?.getD false ∧
      state.dx.response.reqId = (idWrites dsp actions).getLast?.getD 0 := by
  have events : ∀ (before : State Client) action next, (driver Client).step before action =
      some next → next.dx.dsp.irqEvent =
        ((eventWrite before action).map id).getD before.dx.dsp.irqEvent := by
    intro before action next moved
    rw [Option.map_id_fun, id]
    exact (posts_step moved).event
  have ids : ∀ (before : State Client) action next, (driver Client).step before action =
      some next → next.dx.response.reqId =
        ((idWrite before action).map id).getD before.dx.response.reqId := by
    intro before action next moved
    rw [Option.map_id_fun, id]
    exact (posts_step moved).reqId
  have lastEvent := Machine.run_holds_last events ran
  have lastId := Machine.run_holds_last ids ran
  rw [Option.map_id_fun, id] at lastEvent lastId
  exact ⟨lastEvent, lastId⟩

/-! ### Where an id comes from -/

/-- A stored or returned id is that of a request that left the busy wait before; `read()` may also
return zero. -/
def Sourced (before : List (Event Client)) : Event Client → Prop
  | .stored _ value => ∃ job, .left job ∈ before ∧ value = job.reqId
  | .read _ reqId => reqId = 0 ∨ ∃ job, .left job ∈ before ∧ reqId = job.reqId
  | _ => True

/-- What every run keeps. -/
structure Sources (state : State Client) : Prop where
  traced : state.flag.Traced Job.reqId
  loaded : ∀ job value, state.irq = .store job value →
    ∃ own, .left own ∈ state.log ∧ value = own.reqId
  response : state.dx.response.reqId = 0 ∨
    ∃ job, .left job ∈ state.log ∧ state.dx.response.reqId = job.reqId
  log : Preceded Sourced state.log

omit [DecidableEq Client] in
theorem entered_mem_history {state : State Client} {job : Job Client} :
    .entered job ∈ state.flag.history ↔ .left job ∈ state.log := by
  rw [flag, List.mem_filterMap]
  constructor
  · rintro ⟨event, member, passage⟩
    cases event with
    | left own =>
      cases passage
      exact member
    | _ => cases passage
  · exact fun member => ⟨_, member, rfl⟩

omit [DecidableEq Client] in
theorem sources_initial (dsp : Dxdsp) : Sources (initial dsp : State Client) where
  traced := by
    refine ⟨fun caller job stands => ?_, fun found => ?_⟩
    · cases caller <;> cases stands
    · rcases found with ⟨caller, job, stands⟩ | handed
      · cases caller <;> cases stands
      · exact absurd rfl handed
  loaded := fun job value place => by cases place
  response := Or.inl rfl
  log := preceded_nil _

omit [DecidableEq Client] in
/-- A request that the handler serves is published, so the id it loads is one that left the wait. -/
theorem Sources.of_held {state : State Client} (sources : Sources state) {job : Job Client}
    (held : state.irq.held = [job]) :
    ∃ own, .left own ∈ state.log ∧ state.dx.dsp.reqId = own.reqId := by
  have handed : state.flag.handed ≠ 0 := by
    intro none
    have member : job ∈ state.flag.handed := by
      rw [flag, held]
      exact Multiset.mem_add.mpr (Or.inr (Multiset.mem_coe.mpr List.mem_cons_self))
    rw [none] at member
    exact Multiset.notMem_zero job member
  obtain ⟨own, entered, tag⟩ := sources.traced.tag (Or.inr handed)
  exact ⟨own, entered_mem_history.mp entered, tag⟩

/-- A job that left the wait stays in the log. -/
theorem left_mem_step {state next : State Client} {action : Action Client}
    (moved : state.step action = some next) {job : Job Client} (member : .left job ∈ state.log) :
    .left job ∈ next.log := by
  rcases (posts_step moved).log with log | ⟨own, log, -⟩
  · rw [log]
    exact member
  · rw [log]
    exact List.mem_append_left _ member

/-- The handler is about to store what it was about to store before, or what it loads now. -/
theorem irq_store_cases {state next : State Client} {action : Action Client}
    (moved : state.step action = some next) {job : Job Client} {value : UInt32}
    (stores : next.irq = .store job value) :
    state.irq = .store job value ∨
      (state.irq = .load job ∧ value = state.dx.dsp.reqId) := by
  by_cases side : action.clientSide = true
  · rw [(step_sameDsp side moved).irq] at stores
    exact Or.inl stores
  · cases action with
    | run caller =>
      obtain ⟨request, pc, -, -, rfl⟩ := runStep_eq_some moved
      exact Or.inl stores
    | complete own =>
      obtain ⟨-, rfl⟩ := complete_eq_some moved
      exact Or.inl stores
    | interrupt own =>
      obtain ⟨-, -, rfl⟩ := interrupt_eq_some moved
      cases stores
    | irq =>
      rw [State.step] at moved
      cases place : state.irq with
      | load own =>
        rw [place] at moved
        cases moved
        cases stores
        exact Or.inr ⟨rfl, rfl⟩
      | _ =>
        rw [place] at moved
        cases moved <;> cases stores
    | _ => exact absurd rfl side

omit [DecidableEq Client] in
/-- The id in the response is reset, or stored by the handler. -/
theorem idWrite_cases {state : State Client} {action : Action Client} {value : UInt32}
    (writes : state.idWrite action = some value) :
    value = 0 ∨ ∃ job, state.irq = .store job value := by
  cases action with
  | client client disturbed =>
    rw [idWrite] at writes
    cases place : state.calls client with
    | program steps =>
      rw [place] at writes
      cases steps with
      | nil => cases writes
      | cons effect rest => cases effect <;> cases writes <;> exact Or.inl rfl
    | _ =>
      rw [place] at writes
      cases writes
  | irq =>
    rw [idWrite] at writes
    cases place : state.irq with
    | store job own =>
      rw [place] at writes
      cases writes
      exact Or.inr ⟨job, rfl⟩
    | _ =>
      rw [place] at writes
      cases writes
  | _ => cases writes

theorem Sources.step {state next : State Client} {action : Action Client}
    (sources : Sources state) (moved : state.step action = some next) : Sources next where
  traced := by
    rcases step_move moved with same | stepped
    · rw [same]
      exact sources.traced
    · exact sources.traced.move stepped
  loaded := by
    intro job value stores
    rcases irq_store_cases moved stores with before | ⟨loads, rfl⟩
    · obtain ⟨own, left, same⟩ := sources.loaded job value before
      exact ⟨own, left_mem_step moved left, same⟩
    · obtain ⟨own, left, same⟩ := sources.of_held (by rw [loads]; rfl : state.irq.held = [job])
      exact ⟨own, left_mem_step moved left, same⟩
  response := by
    have written := (posts_step moved).reqId
    cases writes : state.idWrite action with
    | none =>
      rw [writes, Option.getD_none] at written
      rw [written]
      exact sources.response.imp_right fun ⟨job, left, same⟩ =>
        ⟨job, left_mem_step moved left, same⟩
    | some value =>
      rw [writes, Option.getD_some] at written
      rw [written]
      rcases idWrite_cases writes with zero | ⟨job, stores⟩
      · exact Or.inl zero
      · obtain ⟨own, left, same⟩ := sources.loaded job value stores
        exact Or.inr ⟨own, left_mem_step moved left, same⟩
  log := by
    rcases (posts_step moved).log with log | ⟨own, log, tells⟩
    · rw [log]
      exact sources.log
    · rw [log]
      refine sources.log.append ?_
      cases own with
      | stored job value => exact sources.loaded job value tells
      | read client reqId =>
        rw [show reqId = state.dx.response.reqId from tells]
        exact sources.response
      | _ => trivial

theorem Sources.of_reaches {state : State Client}
    (reached : (driver Client).Reaches (fun _ _ => True) state) : Sources state := by
  refine reached.invariant ?_ fun _ _ _ sources _ moved => sources.step moved
  rintro _ ⟨dsp, rfl⟩
  exact sources_initial dsp

end State

variable [DecidableEq Client]

/-- In every run `poll()` and `read()` answer the last write: POLLIN exactly if the last write of
the event flag was one that raised it, and the id that the last write put into the response. -/
theorem mailbox_answers_last_write {dsp : Dxdsp} {actions : List (Action Client)}
    {state : State Client}
    (ran : (driver Client).run (fun _ _ => True) (State.initial dsp) actions = some state)
    {client : Client} (idle : state.calls client = .idle) :
    (∃ next, state.step (.poll client) = some next ∧ next.log = state.log ++
      [.polled client ((State.eventWrites dsp actions).getLast?.getD false)]) ∧
    ∀ len, sizeofDxrtResponse ≤ len → ∃ next, state.step (.read client len false) = some next ∧
      next.log = state.log ++ [.read client ((State.idWrites dsp actions).getLast?.getD 0)] := by
  obtain ⟨event, reqId⟩ := State.mailbox_eq_last ran
  refine ⟨⟨state.pollStep client, ?_, ?_⟩,
    fun len large => ⟨state.readStep client len false, ?_, ?_⟩⟩
  · rw [State.step, State.whenIdle, idle]
  · rw [← event]
    rfl
  · rw [State.step, State.whenIdle, idle]
  · have small : ¬ len < sizeofDxrtResponse := Nat.not_lt.mpr large
    rw [State.readStep, dxrtDevRead, if_neg small, if_neg (by simp), ← reqId]
    rfl

theorem mailbox_answers_last_write_one :
    ∃ state, (driver (Fin 1)).run (fun _ _ => True) (State.initial boardDsp)
        (submitsOne :: servesOne) = some state ∧
      (∃ next, state.step (.poll 0) = some next ∧ next.log = state.log ++ [.polled 0 true]) ∧
      ∃ next, state.step (.read 0 sizeofDxrtResponse false) = some next ∧
        next.log = state.log ++ [.read 0 1] := by
  obtain ⟨state, ran, idle⟩ := Option.map_eq_some_iff.mp
    (show ((driver (Fin 1)).run (fun _ _ => True) (State.initial boardDsp)
      (submitsOne :: servesOne)).map (fun state => (state.calls 0).isIdle) = some true by
        decide +kernel)
  obtain ⟨polled, read⟩ := mailbox_answers_last_write ran (CallPc.eq_idle idle)
  have event : (State.eventWrites boardDsp (submitsOne :: servesOne)).getLast?.getD false =
      true := by decide +kernel
  have reqId : (State.idWrites boardDsp (submitsOne :: servesOne)).getLast?.getD 0 = 1 := by
    decide +kernel
  rw [event] at polled
  rw [reqId] at read
  exact ⟨state, ran, polled, read sizeofDxrtResponse (Nat.le_refl _)⟩

/-- In every run, several callers inside the busy section included, an id that `read()` returns is
zero or that of a request that left the busy wait before, and an id that the handler stores is that
of a request that left the busy wait before. -/
theorem read_ids_sourced {state : State Client}
    (reached : (driver Client).Reaches (fun _ _ => True) state) :
    (∀ before after client reqId, state.log = before ++ .read client reqId :: after →
      reqId = 0 ∨ ∃ job, .left job ∈ before ∧ reqId = job.reqId) ∧
    ∀ before after job value, state.log = before ++ .stored job value :: after →
      ∃ own, .left own ∈ before ∧ value = own.reqId := by
  have sources := State.Sources.of_reaches reached
  exact ⟨fun before after _ _ split => sources.log before _ after split,
    fun before after _ _ split => sources.log before _ after split⟩

theorem read_ids_sourced_one :
    ∃ state, (driver (Fin 1)).Reaches (fun _ _ => True) state ∧
      ∃ before, state.log = before ++ [.read 0 1] ∧ ∃ job, .left job ∈ before ∧ 1 = job.reqId := by
  obtain ⟨state, reached, log⟩ := exists_reached
    (submitsOne :: servesOne ++ [.read 0 sizeofDxrtResponse false])
    (show ((driver (Fin 1)).run (fun _ _ => True) _ _).map State.log =
      some ([.accepted 0 1, .writeReturned 0 1, .left ⟨.thread, 1⟩, .completed ⟨.thread, 1⟩,
        .stored ⟨.thread, 1⟩ 1, .released ⟨.thread, 1⟩, .finished ⟨.thread, 1⟩] ++
          [.read 0 1]) by decide +kernel)
  refine ⟨state, reached, _, log, ?_⟩
  exact ((read_ids_sourced reached).1 _ [] 0 1 log).resolve_left (by decide)

end DxDsp
