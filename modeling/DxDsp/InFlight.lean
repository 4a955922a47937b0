/-
This file is about the message in the SRAM while the DSP works on it. One caller
of `dx_v3_dsp_run` stores its message while clients, the thread and the handler
go on, and from the store of the second header word until the handler writes
status 0 the DSP may read it. Where the status is read idle by one caller at a
time, and so in every run with only `write()` submissions, no step of any party
touches the SRAM in that time: the DSP finds the message that was submitted.
-/

import DxDsp.Calls
import DxDsp.Delivery
import DxDsp.Exclusion
import DxDsp.Provenance
import DxDsp.ResetLine
import DxDsp.WritePath

namespace DxDsp

open Library

variable {Client : Type}

/-! ### What a caller has stored -/

/-- The SRAM at a program point of the two loops: the words stored so far, over what was there. -/
def Stored (object : Object) (sram : Registers) : RunPc → Prop
  | .data msgBufOffset4 i => msgBufOffset4 = messageMaxSize / 4 * object.reqId ∧
      i ≤ object.dataWords ∧ ∃ before, sram = payloadStored object before i
  | .head msgBufOffset4 i => i < 2 → msgBufOffset4 = messageMaxSize / 4 * object.reqId ∧
      ∃ before, sram = headerStored object before i
  | _ => True

/-- One step of a loop stores one more word. -/
theorem Stored.step {object : Object} {dsp : Dxdsp} {pc : RunPc}
    (stored : Stored object dsp.regDspBaseSram pc)
    (published : pc = .slot → dsp.reqId = object.reqId) :
    Stored object (runEffect object dsp pc).regDspBaseSram (runNext object dsp pc) := by
  cases pc with
  | wait =>
    rw [runNext]
    split <;> trivial
  | lock | setId | done => trivial
  | slot =>
    have own := published rfl
    exact ⟨by rw [own], Nat.zero_le _, dsp.regDspBaseSram, rfl⟩
  | data msgBufOffset4 i =>
    obtain ⟨rfl, bound, before, same⟩ := stored
    by_cases inside : i < object.dataWords
    · rw [runNext, if_pos inside, runEffect, runAccesses, if_pos inside]
      refine ⟨rfl, inside, before, ?_⟩
      rw [payloadStored, storeEach_succ, ← payloadStored, ← same]
      rfl
    · obtain rfl : i = object.dataWords := by omega
      rw [runNext, if_neg inside, runEffect, runAccesses, if_neg inside]
      exact fun _ => ⟨rfl, before, same⟩
  | head msgBufOffset4 i =>
    by_cases inside : i < 2
    · obtain ⟨rfl, before, same⟩ := stored inside
      rw [runNext, if_pos inside, runEffect, runAccesses, if_pos inside]
      refine fun _ => ⟨rfl, before, ?_⟩
      rw [headerStored, storeEach_succ, ← headerStored, ← same]
      rfl
    · rw [runNext, if_neg inside]
      trivial

variable [DecidableEq Client]

namespace State

/-! ### Who writes the SRAM -/

/-- Only a caller that has published its id writes the SRAM. -/
theorem sram_step {state next : State Client} {action : Action Client}
    (moved : state.step action = some next)
    (quiet : ∀ user, action = .run user → ∀ job, state.phase user ≠ .published job) :
    next.dx.dsp.regDspBaseSram = state.dx.dsp.regDspBaseSram := by
  by_cases inRun : ∃ user, action = .run user
  · obtain ⟨user, rfl⟩ := inRun
    obtain ⟨request, pc, inside, -, rfl⟩ := runStep_eq_some moved
    have own := quiet user rfl
    rw [phase, inside, runningPhase] at own
    show (runEffect request state.dx.dsp pc).regDspBaseSram = _
    cases pc with
    | wait | lock | setId | slot | done => rfl
    | data => exact absurd rfl (own _)
    | head msgBufOffset4 i =>
      have behind : ¬ i < 2 := by
        intro early
        rw [RunPc.phase, if_pos early] at own
        exact absurd rfl (own _)
      rw [runEffect, runAccesses, if_neg behind]
      rfl
  · exact (writes_step (fun user same => inRun ⟨user, same⟩) moved).sram

/-- The job a caller has published is the one whose id is in `dsp->req_id`, and no other caller is
inside. -/
theorem OneInFlight.published_alone {state : State Client} (one : OneInFlight state)
    {caller : Caller Client} {job : Job Client} (published : state.phase caller = .published job) :
    state.dx.dsp.reqId = job.reqId ∧
      ∀ other, other ≠ caller → state.phase other = .outside := by
  obtain ⟨current, exclusive⟩ := one.exclusive
  obtain ⟨sole, -, inside⟩ := exclusive.mode.of_inside published (by simp)
  refine ⟨inside.2.2, fun other apart => ?_⟩
  exact (congrFun sole other).trans (Function.update_of_ne apart _ _)

/-! ### While a message is stored -/

/-- What every caller in its two loops has stored is in the SRAM. -/
structure Storing (state : State Client) : Prop where
  one : OneInFlight state
  stored : ∀ caller request pc, state.running caller = some { request, pc } →
    Stored request state.dx.dsp.regDspBaseSram pc

theorem Storing.step {state next : State Client} {action : Action Client}
    (storing : Storing state) (alone : CheckedAlone state action)
    (moved : state.step action = some next) : Storing next := by
  refine ⟨storing.one.step alone moved, fun caller request pc inside => ?_⟩
  rcases running_step moved inside with rfl | ⟨other, before⟩ | ⟨rfl, own, before, rfl⟩
  · trivial
  · have stored := storing.stored caller request pc before
    by_cases published : ∃ job, state.phase caller = .published job
    · obtain ⟨job, published⟩ := published
      have outside := (storing.one.published_alone published).2
      have same : next.dx.dsp.regDspBaseSram = state.dx.dsp.regDspBaseSram := by
        refine sram_step moved fun user own job inside => ?_
        have apart : user ≠ caller := fun equal => other (equal ▸ own)
        rw [outside user apart] at inside
        cases inside
      rw [same]
      exact stored
    · have phase : state.phase caller =
          pc.phase ({ caller, reqId := request.reqId } : Job Client) := by
        rw [State.phase, before, runningPhase]
      cases pc with
      | wait | lock | setId | slot | done => trivial
      | data => exact absurd ⟨_, phase⟩ published
      | head msgBufOffset4 i =>
        intro early
        rw [RunPc.phase, if_pos early] at phase
        exact absurd ⟨_, phase⟩ published
  · have stored := storing.stored caller request own before
    obtain ⟨request', pc', place, -, rfl⟩ := runStep_eq_some moved
    obtain ⟨rfl, rfl⟩ : request = request' ∧ own = pc' := by
      rw [before] at place
      cases place
      exact ⟨rfl, rfl⟩
    refine stored.step fun slot => ?_
    subst slot
    have published : state.phase caller = .published { caller, reqId := request.reqId } := by
      rw [phase, before]
      rfl
    exact (storing.one.published_alone published).1

theorem Storing.of_reaches {state : State Client}
    (reached : (driver Client).Reaches CheckedAlone state) : Storing state := by
  induction reached with
  | start begins =>
    obtain ⟨dsp, rfl⟩ := begins
    refine ⟨oneInFlight_initial dsp, fun caller request pc inside => ?_⟩
    cases caller <;> cases inside
  | step _ alone moved inductionHypothesis => exact inductionHypothesis.step alone moved

/-! ### While the DSP works -/

/-- The DSP, or the handler on its behalf, holds the job and nobody is inside. -/
structure HeldByDsp (state : State Client) (job : Job Client) : Prop where
  one : OneInFlight state
  handed : state.flag.handed = {job}

theorem HeldByDsp.mode {state : State Client} {job : Job Client} (held : HeldByDsp state job) :
    state.phase = (fun _ => .outside) ∧ state.flag.busy = true ∧
      state.dx.dsp.reqId = job.reqId := by
  obtain ⟨current, exclusive⟩ := held.one.exclusive
  have handed := held.handed
  cases exclusive.mode with
  | free _ none | decided _ _ _ none | marked _ _ _ none | published _ _ _ none =>
    rw [none] at handed
    exact absurd handed.symm (Multiset.singleton_ne_zero job)
  | device own phase mine busy tag =>
    rw [mine, Multiset.singleton_inj] at handed
    exact ⟨phase, busy, handed ▸ tag⟩

theorem HeldByDsp.sram_step {state next : State Client} {action : Action Client}
    {job : Job Client} (held : HeldByDsp state job) (moved : state.step action = some next) :
    next.dx.dsp.regDspBaseSram = state.dx.dsp.regDspBaseSram := by
  refine State.sram_step moved fun user _ own inside => ?_
  rw [held.mode.1] at inside
  cases inside

/-- The log grows by what a step tells. -/
theorem log_step {state next : State Client} {action : Action Client}
    (moved : state.step action = some next) : ∃ told, next.log = state.log ++ told := by
  rcases (posts_step moved).log with log | ⟨own, log, -⟩
  · exact ⟨[], log.trans (List.append_nil _).symm⟩
  · exact ⟨[own], log⟩

/-- The job is held until its release is told. -/
theorem HeldByDsp.step {state next : State Client} {action : Action Client} {job : Job Client}
    (held : HeldByDsp state job) (alone : CheckedAlone state action)
    (moved : state.step action = some next) {told : List (Event Client)}
    (log : next.log = state.log ++ told) (unanswered : .released job ∉ told) :
    HeldByDsp next job := by
  refine ⟨held.one.step alone moved, ?_⟩
  rcases step_flag alone moved with same | stepped
  · rw [same]
    exact held.handed
  · exfalso
    obtain ⟨phase, busy, -⟩ := held.mode
    have history := stepped.of_device phase held.handed busy
    have passages : next.log.filterMap Event.passage =
        state.log.filterMap Event.passage ++ [.released job] := history
    rw [log, List.filterMap_append, List.append_cancel_left_eq] at passages
    have member : Passage.released job ∈ told.filterMap Event.passage := by
      rw [passages]
      exact List.mem_singleton_self _
    obtain ⟨event, tells, passage⟩ := List.mem_filterMap.mp member
    cases event with
    | released own =>
      cases passage
      exact unanswered tells
    | _ => cases passage

/-- What stays from the start of the DSP on, until the answer. -/
theorem held_until_answered {first state : State Client} {job : Job Client}
    (held : HeldByDsp first job)
    (later : ((driver Client).startingAt first).Reaches CheckedAlone state) :
    ∃ told, state.log = first.log ++ told ∧ (.released job ∉ told →
      HeldByDsp state job ∧ state.dx.dsp.regDspBaseSram = first.dx.dsp.regDspBaseSram) := by
  induction later with
  | start begins =>
    rw [begins]
    exact ⟨[], (List.append_nil _).symm, fun _ => ⟨held, rfl⟩⟩
  | step _ alone moved inductionHypothesis =>
    obtain ⟨told, log, before⟩ := inductionHypothesis
    obtain ⟨more, grown⟩ := log_step moved
    refine ⟨told ++ more, by rw [grown, log, List.append_assoc], fun unanswered => ?_⟩
    rw [List.mem_append, not_or] at unanswered
    obtain ⟨mine, same⟩ := before unanswered.1
    exact ⟨mine.step alone moved grown unanswered.2, (mine.sram_step moved).trans same⟩

/-- The store of the second header word hands the job over. -/
theorem HeldByDsp.of_start {state next : State Client} {caller : Caller Client} {request : Object}
    {msgBufOffset4 : UInt32} (reached : (driver Client).Reaches CheckedAlone state)
    (stands : state.running caller = some { request, pc := .head msgBufOffset4 1 })
    (starts : state.step (.run caller) = some next) :
    HeldByDsp next { caller, reqId := request.reqId } ∧
      ∃ before, next.dx.dsp.regDspBaseSram = headerStored request before 2 := by
  have storing := Storing.of_reaches reached
  have alone : CheckedAlone state (.run caller) := by
    intro waits
    rw [stands] at waits
    cases waits
  obtain ⟨request', pc, inside, -, rfl⟩ := runStep_eq_some starts
  obtain ⟨rfl, rfl⟩ : request = request' ∧ RunPc.head msgBufOffset4 1 = pc := by
    rw [stands] at inside
    cases inside
    exact ⟨rfl, rfl⟩
  refine ⟨⟨storing.one.step alone starts, ?_⟩, ?_⟩
  · have published : state.phase caller = .published { caller, reqId := request.reqId } := by
      rw [phase, stands]
      rfl
    obtain ⟨started, raised, irq⟩ := storing.one.of_published published
    show ((state.started ++ [_] : List (Job Client)) : Multiset (Job Client)) + state.raised +
      state.irq.held = _
    rw [started, raised, irq]
    rfl
  · obtain ⟨rfl, before, same⟩ := storing.stored caller request _ stands (by decide)
    refine ⟨before, ?_⟩
    rw [headerStored, storeEach_succ, ← headerStored, ← same]
    rfl

/-- With only `write()` submissions the status is read idle by one caller at a time. -/
theorem reaches_checkedAlone {state : State Client}
    (reached : (driver Client).Reaches WriteOnly state) :
    (driver Client).Reaches CheckedAlone state := by
  induction reached with
  | start begins => exact .start begins
  | step before _ moved inductionHypothesis =>
    exact .step inductionHypothesis ((Flowing.of_reaches before).noInput.checkedAlone _) moved

end State

/-- Where the status is read idle by one caller at a time: from the store that starts the DSP until
the handler writes status 0 for the request, whatever clients, the thread and the handler do
meanwhile, the slot of the request holds the header and the payload words that were submitted, the
busy mark stands, and `dsp->req_id` is the request's. -/
theorem message_intact_in_flight {state next final : State Client} {caller : Caller Client}
    {request : Object} {msgBufOffset4 : UInt32}
    (reached : (driver Client).Reaches State.CheckedAlone state)
    (stands : state.running caller = some { request, pc := .head msgBufOffset4 1 })
    (starts : state.step (.run caller) = some next)
    (later : ((driver Client).startingAt next).Reaches State.CheckedAlone final)
    {told : List (Event Client)} (log : final.log = next.log ++ told)
    (unanswered : .released { caller, reqId := request.reqId } ∉ told)
    (mapped : request.reqId.toNat < 16) (fits : request.messageSize.toNat ≤ 116) :
    (∀ i < 8, sramBytes final.dx.dsp.regDspBaseSram (slotStart request.reqId + i) =
        request (msgHeaderOffset + i)) ∧
      (∀ i < 4 * request.dataWords,
        sramBytes final.dx.dsp.regDspBaseSram (slotStart request.reqId + 8 + i) =
          request (msgDataOffset + i)) ∧
      readDspStatus final.dx.dsp.regDspBase = dspBusy ∧
      final.dx.dsp.reqId = request.reqId := by
  obtain ⟨held, before, stored⟩ := State.HeldByDsp.of_start reached stands starts
  obtain ⟨own, grown, kept⟩ := State.held_until_answered held later
  obtain rfl : own = told := List.append_cancel_left (grown.symm.trans log)
  obtain ⟨mine, same⟩ := kept unanswered
  obtain ⟨-, busy, reqId⟩ := mine.mode
  rw [same, stored]
  exact ⟨fun _ => sramBytes_header mapped fits before,
    fun _ => sramBytes_payload mapped fits before, State.flag_busy.mp busy, reqId⟩

/-! ### A message on the board -/

/-- A request with id 1, a header that holds the message size of 8, and two payload words. -/
def loadedRequest : Object := fun index =>
  if index < msgDataOffset then requestBytes 1 8 index else UInt8.ofNat index

/-- The request is submitted, and the thread has stored its payload and its first header word. -/
def storesFirstHeader : List (Action (Fin 1)) :=
  [.write 0 (some 1) sizeofDxrtDspRequest (some loadedRequest), .client 0 false,
    .client 0 false] ++ List.replicate 4 .thread ++ List.replicate 8 (.run .thread)

/-- The DSP completes it, the handler has stored its id, and the client resets the DSP. -/
def beforeAnswer : List (Action (Fin 1)) :=
  [.complete ⟨.thread, 1⟩, .interrupt ⟨.thread, 1⟩] ++ List.replicate 4 .irq ++
    [.program 0 dxrtResetDevice, .client 0 false]

theorem message_intact_in_flight_one :
    ∃ final : State (Fin 1), (driver (Fin 1)).Reaches State.CheckedAlone final ∧
      readDspStatus final.dx.dsp.regDspBase = dspBusy ∧ final.dx.dsp.reqId = 1 ∧
      (∀ i < 8, sramBytes final.dx.dsp.regDspBaseSram (slotStart 1 + i) =
        loadedRequest (msgHeaderOffset + i)) ∧
      ∀ i < 8, sramBytes final.dx.dsp.regDspBaseSram (slotStart 1 + 8 + i) =
        UInt8.ofNat (msgDataOffset + i) := by
  obtain ⟨final, ran, seen⟩ := Option.map_eq_some_iff.mp
    (show ((driver (Fin 1)).run State.CheckedAlone (State.initial boardDsp)
        (storesFirstHeader ++ .run .thread :: beforeAnswer)).map State.log =
      some ([.accepted 0 1, .writeReturned 0 1, .left ⟨.thread, 1⟩] ++
        [.completed ⟨.thread, 1⟩, .stored ⟨.thread, 1⟩ 1]) by decide +kernel)
  obtain ⟨state, stores, onward⟩ := Machine.run_append_eq_some ran
  obtain ⟨next, alone, starts, later⟩ := Machine.run_cons_eq_some onward
  have place : ((driver (Fin 1)).run State.CheckedAlone (State.initial boardDsp)
      storesFirstHeader).bind (fun state => state.running .thread) =
        some { request := loadedRequest, pc := .head 64 1 } := rfl
  rw [stores] at place
  have stands : state.running .thread = some { request := loadedRequest, pc := .head 64 1 } := place
  have started : ((driver (Fin 1)).run State.CheckedAlone (State.initial boardDsp)
      (storesFirstHeader ++ [.run .thread])).map State.log =
        some [.accepted 0 1, .writeReturned 0 1, .left ⟨.thread, 1⟩] := by decide +kernel
  have one : (driver (Fin 1)).run State.CheckedAlone state [.run .thread] = some next := by
    rw [Machine.run, if_pos alone, starts]
    rfl
  rw [Machine.run_append stores one] at started
  have told : next.log = [.accepted 0 1, .writeReturned 0 1, .left ⟨.thread, 1⟩] :=
    Option.some.inj started
  have probed : (driver (Fin 1)).Reaches State.CheckedAlone (State.initial boardDsp) :=
    .start ⟨boardDsp, rfl⟩
  have unanswered : Event.released { caller := .thread, reqId := loadedRequest.reqId } ∉
      ([.completed ⟨.thread, 1⟩, .stored ⟨.thread, 1⟩ 1] : List (Event (Fin 1))) := by decide
  obtain ⟨header, payload, busy, reqId⟩ := message_intact_in_flight (probed.of_run _ stores) stands
    starts (Machine.reaches_startingAt_of_run later) (told ▸ seen) unanswered (by decide)
    (by decide)
  refine ⟨final, probed.of_run _ ran, busy, reqId, header, fun i inside => ?_⟩
  have behind : ¬ msgDataOffset + i < msgDataOffset := by omega
  exact (payload i inside).trans (if_neg behind)

end DxDsp
