/-
This file keeps the books of the requests, in every run and for any order of
steps, several callers inside the busy section included. What `write()` accepted
is what the thread has taken through the busy wait and what is still in the list,
in this order; and every request that left the busy wait has been answered, is
with the DSP or the handler, or is with its caller. At rest the books are closed.
-/

import DxDsp.Progress

namespace DxDsp

open Library

variable {Client : Type}

/-! ### What is counted -/

/-- The thread has taken the head of the list through the busy wait. -/
def ThreadPc.taken : ThreadPc → Bool
  | .running _ pc => pc ≠ .wait
  | .unlink _ => true
  | _ => false

def Event.takenId : Event Client → Option UInt32
  | .left { caller := .thread, reqId } => some reqId
  | _ => none

/-- The ids that the thread took through the busy wait, in order. -/
def takenIds (log : List (Event Client)) : List UInt32 := log.filterMap Event.takenId

namespace State

/-- The requests that the thread has not taken. -/
def untaken (state : State Client) : List DxrtRequestList :=
  if state.thread.taken then state.dx.requests.tail else state.dx.requests

/-- Every accepted request is taken or still to be taken, in the order of the list. -/
def Booked (state : State Client) : Prop :=
  acceptedIds state.log =
    takenIds state.log ++ state.untaken.map fun entry => entry.request.reqId

/-! ### Taking a request -/

theorem Booked.congr {state next : State Client} (booked : Booked state)
    (accepted : acceptedIds next.log = acceptedIds state.log)
    (taken : takenIds next.log = takenIds state.log) (untaken : next.untaken = state.untaken) :
    Booked next := by
  rw [Booked, accepted, taken, untaken]
  exact booked

theorem SameQueue.untaken {state next : State Client} (same : SameQueue state next) :
    next.untaken = state.untaken := by
  rw [State.untaken, State.untaken, same.thread, same.requests]

theorem SameDsp.taken {state next : State Client} (same : SameDsp state next) :
    takenIds next.log = takenIds state.log :=
  same.filterMap fun event quiet => by cases event <;> first | rfl | cases quiet

/-- Outside its run the thread takes nothing, and it unlinks what it has taken. -/
theorem threadStep_untaken {state next : State Client} (holds : ThreadHolds state)
    (moved : state.threadStep state.thread = some next) : next.untaken = state.untaken := by
  rw [ThreadHolds] at holds
  cases place : state.thread with
  | loop | wait | waitStop | woken =>
    rw [place] at moved
    cases moved
    rw [untaken, untaken, place]
    split <;> rfl
  | head =>
    rw [place, threadStep] at moved
    split at moved <;> cases moved <;> rw [untaken, untaken, place] <;> rfl
  | running entry pc =>
    rw [place] at moved
    cases pc with
    | done =>
      cases moved
      rw [untaken, untaken, place]
      rfl
    | _ => cases moved
  | unlink entry =>
    rw [place] at moved holds
    cases moved
    obtain ⟨rest, list⟩ := List.head?_eq_some_iff.mp holds
    rw [untaken, untaken, place]
    show state.dx.requests.eraseP _ = state.dx.requests.tail
    rw [list]
    exact List.eraseP_cons_of_pos (decide_eq_true rfl)
  | free entry =>
    rw [place] at moved
    cases moved
    rw [untaken, untaken, place]
    rfl
  | exited | headOfEmpty =>
    rw [place] at moved
    cases moved

variable [DecidableEq Client]

/-- A step of the thread's run that is not its idle read takes nothing. -/
theorem taken_runNext (entry : DxrtRequestList) (dsp : Dxdsp) {pc : RunPc}
    (stays : ¬ (pc = .wait ∧ runNext entry.request dsp pc = .lock)) :
    (ThreadPc.running entry (runNext entry.request dsp pc)).taken =
      (ThreadPc.running entry pc).taken := by
  cases pc with
  | wait =>
    rw [runNext] at stays ⊢
    split at stays
    · next busy => rw [if_pos busy]
    · exact absurd ⟨rfl, rfl⟩ stays
  | lock | setId | slot | done => rfl
  | data msgBufOffset4 i =>
    rw [runNext]
    split <;> rfl
  | head msgBufOffset4 i =>
    rw [runNext]
    split <;> rfl

/-- The thread takes the head where its status read leaves the wait. -/
theorem threadRun_booked {state : State Client} {request : Object} {pc : RunPc}
    (holds : ThreadHolds state) (booked : Booked state)
    (inside : state.running .thread = some { request, pc }) :
    Booked (state.afterRun .thread request pc) := by
  obtain ⟨entry, place, rfl⟩ := running_thread inside
  have thread := thread_afterRun place
  have accepted : acceptedIds (state.afterRun .thread entry.request pc).log =
      acceptedIds state.log := filterMap_afterRun fun _ => rfl
  have log : (state.afterRun .thread entry.request pc).log = state.log ++
    leftBy { caller := .thread, reqId := entry.request.reqId } pc
      (runNext entry.request state.dx.dsp pc) := rfl
  by_cases leaves : pc = .wait ∧ runNext entry.request state.dx.dsp pc = .lock
  · rw [leftBy, if_pos leaves] at log
    obtain ⟨rfl, goes⟩ := leaves
    have taken : takenIds (state.afterRun .thread entry.request .wait).log =
        takenIds state.log ++ [entry.request.reqId] := by
      rw [log, takenIds, List.filterMap_append]
      rfl
    rw [ThreadHolds, place] at holds
    obtain ⟨rest, list⟩ := List.head?_eq_some_iff.mp holds
    have before : state.untaken = entry :: rest := by
      rw [untaken, place]
      exact list
    have after : (state.afterRun .thread entry.request .wait).untaken = rest := by
      rw [untaken, thread, goes]
      show state.dx.requests.tail = rest
      rw [list, List.tail_cons]
    rw [Booked, before] at booked
    rw [Booked, accepted, booked, taken, after, List.map_cons, List.append_assoc,
      List.singleton_append]
  · rw [leftBy, if_neg leaves, List.append_nil] at log
    refine booked.congr accepted (by rw [log]) ?_
    rw [untaken, untaken, thread, taken_runNext entry state.dx.dsp leaves, place]
    rfl

/-- A client that queues an entry adds it to what is to be taken. -/
theorem Booked.queue {state : State Client} (holds : ThreadHolds state) (booked : Booked state)
    (client : Client) (entry : DxrtRequestList) :
    Booked { state.setCall client (.wake entry.request.reqId) with
      dx := { state.dx with requests := state.dx.requests ++ [entry] }
      log := state.log ++ [.accepted client entry.request.reqId] } := by
  have accepted : acceptedIds (state.log ++ [.accepted client entry.request.reqId]) =
      acceptedIds state.log ++ [entry.request.reqId] := List.filterMap_append
  have taken : takenIds (state.log ++ [.accepted client entry.request.reqId]) =
      takenIds state.log := filterMap_append rfl
  have untaken : (if state.thread.taken then (state.dx.requests ++ [entry]).tail
      else state.dx.requests ++ [entry]) = state.untaken ++ [entry] := by
    rw [State.untaken]
    split
    · next taken =>
      -- The thread has taken the head, so there is one.
      have filled : state.dx.requests ≠ [] := by
        intro empty
        rw [ThreadHolds, empty] at holds
        cases place : state.thread with
        | running own pc | unlink own =>
          rw [place] at holds
          cases holds
        | _ =>
          rw [place] at taken
          cases taken
      exact List.tail_append_of_ne_nil filled
    · rfl
  show acceptedIds (state.log ++ [.accepted client entry.request.reqId]) =
    takenIds (state.log ++ [.accepted client entry.request.reqId]) ++
      (if state.thread.taken then (state.dx.requests ++ [entry]).tail
        else state.dx.requests ++ [entry]).map fun entry => entry.request.reqId
  rw [accepted, taken, untaken, show acceptedIds state.log = _ from booked, List.map_append,
    List.append_assoc]
  rfl

/-- The books of the list are kept by every step. -/
theorem Booked.step {state next : State Client} {action : Action Client}
    (holds : ThreadHolds state) (booked : Booked state)
    (moved : state.step action = some next) : Booked next := by
  cases action with
  | thread =>
    have same := threadStep_sameDsp moved
    obtain ⟨thread, requests, rfl⟩ := threadStep_eq_some moved
    exact booked.congr rfl rfl (threadStep_untaken holds moved)
  | client client disturbed =>
    rcases clientStep_cases moved with ⟨entry, -, rfl⟩ | ⟨reqId, -, rfl⟩ | same
    · exact booked.queue holds client entry
    · exact booked.congr (filterMap_append rfl) (filterMap_append rfl) rfl
    · exact booked.congr same.accepted (clientStep_sameDsp moved).taken same.untaken
  | writeInput client data =>
    obtain ⟨-, rfl⟩ := whenIdle_eq_some moved
    cases data <;> exact booked.congr rfl rfl rfl
  | write | program | readOutput | writeMem | poll | read =>
    have same := begins_sameQueue moved trivial
    exact booked.congr same.accepted (step_sameDsp rfl moved).taken same.untaken
  | stop =>
    cases moved
    exact booked
  | run caller =>
    obtain ⟨request, pc, inside, -, rfl⟩ := runStep_eq_some moved
    cases caller with
    | thread => exact threadRun_booked holds booked inside
    | input client =>
      refine booked.congr (filterMap_afterRun fun _ => rfl) ?_ rfl
      show takenIds (state.log ++ leftBy _ _ _) = takenIds state.log
      rw [leftBy, takenIds, List.filterMap_append]
      split <;> exact List.append_nil _
  | complete job =>
    obtain ⟨member, rfl⟩ := complete_eq_some moved
    exact booked.congr (filterMap_append rfl) (filterMap_append rfl) rfl
  | interrupt job =>
    obtain ⟨idle, member, rfl⟩ := interrupt_eq_some moved
    exact booked.congr rfl rfl rfl
  | irq =>
    rw [State.step] at moved
    cases place : state.irq with
    | idle =>
      rw [place] at moved
      cases moved
    | store | status | wake =>
      rw [place] at moved
      cases moved
      exact booked.congr (filterMap_append rfl) (filterMap_append rfl) rfl
    | status0 | status1 | load | clear0 | clear1 | event =>
      rw [place] at moved
      cases moved
      exact booked.congr rfl rfl rfl

/-! ### Answering a request -/

omit [DecidableEq Client] in
/-- A caller stands in the busy section with its own request. -/
theorem owns_phase (state : State Client) : BusyFlag.Owns Job.caller state.phase := by
  intro caller job stands
  rw [phase] at stands
  cases inside : state.running caller with
  | none =>
    rw [inside] at stands
    cases stands
  | some frame =>
    obtain ⟨request, pc⟩ := frame
    rw [inside, runningPhase] at stands
    cases pc with
    | wait | done => cases stands
    | lock | setId | slot | data =>
      cases stands
      rfl
    | head msgBufOffset4 i =>
      rw [RunPc.phase] at stands
      split at stands <;> cases stands
      rfl

omit [DecidableEq Client] in
/-- What the log shows of an event through a view is counted in the log itself. -/
theorem count_filterMap {Value : Type} [DecidableEq Value] [DecidableEq (Event Client)]
    {view : Event Client → Option Value} {value : Value} {event : Event Client}
    (shows : ∀ own, view own = some value ↔ own = event) (log : List (Event Client)) :
    (log.filterMap view).count value = log.count event := by
  rw [List.count, List.countP_filterMap, List.count]
  refine List.countP_congr fun own _ => ?_
  rw [beq_iff_eq, ← shows own]
  cases view own <;> simp

theorem entries_eq_count (log : List (Event Client)) (job : Job Client) :
    BusyFlag.entries (log.filterMap Event.passage) job = log.count (.left job) := by
  rw [BusyFlag.entries, List.filterMap_filterMap]
  refine count_filterMap (fun own => ?_) log
  cases own <;> simp [Event.passage, Passage.entry]

theorem releases_eq_count (log : List (Event Client)) (job : Job Client) :
    BusyFlag.releases (log.filterMap Event.passage) job = log.count (.released job) := by
  rw [BusyFlag.releases, List.filterMap_filterMap]
  refine count_filterMap (fun own => ?_) log
  cases own <;> simp [Event.passage, Passage.exit]

theorem takenIds_count (log : List (Event Client)) (reqId : UInt32) :
    (takenIds log).count reqId = log.count (.left { caller := .thread, reqId }) := by
  refine count_filterMap (fun own => ?_) log
  cases own with
  | left job =>
    obtain ⟨caller, own⟩ := job
    cases caller <;> simp [Event.takenId]
  | _ => simp [Event.takenId]

/-- What every run keeps of the books. -/
structure Accounts (state : State Client) : Prop where
  holds : ThreadHolds state
  booked : Booked state
  balanced : BusyFlag.Balanced Job.caller state.flag

theorem Accounts.step {state next : State Client} {action : Action Client}
    (accounts : Accounts state) (moved : state.step action = some next) : Accounts next where
  holds := accounts.holds.step moved
  booked := accounts.booked.step accounts.holds moved
  balanced := by
    rcases step_move moved with same | stepped
    · rw [same]
      exact accounts.balanced
    · exact accounts.balanced.move (owns_phase state) (owns_phase next) stepped

theorem Accounts.of_reaches {state : State Client}
    (reached : (driver Client).Reaches (fun _ _ => True) state) : Accounts state := by
  refine reached.invariant ?_ fun _ _ _ accounts _ moved => accounts.step moved
  rintro _ ⟨dsp, rfl⟩
  refine ⟨trivial, rfl, fun job => ?_⟩
  obtain ⟨caller, reqId⟩ := job
  cases caller <;> rfl

/-- No caller is inside the busy section at rest. -/
theorem Settled.count_phase {state : State Client} (settled : state.Settled) (job : Job Client) :
    (state.phase job.caller).count job = 0 := by
  rw [phase, settled.running]
  rfl

omit [DecidableEq Client] in
/-- At rest the DSP and the handler hold nothing. -/
theorem Settled.handed {state : State Client} (settled : state.Settled) :
    state.flag.handed = 0 := by
  rw [flag, settled.started, settled.raised, settled.irq]
  rfl

/-- Closed books: every request that left the busy wait has been answered, and unless the thread
has exited, so has every request that `write()` accepted. -/
structure Answered (state : State Client) : Prop where
  settled : state.Settled
  runs : ∀ job, state.log.count (.left job) = state.log.count (.released job)
  writes : state.thread ≠ .exited → ∀ reqId,
    (acceptedIds state.log).count reqId =
      state.log.count (.released { caller := .thread, reqId })

theorem Accounts.answered {state : State Client} (accounts : Accounts state)
    (settled : state.Settled) : Answered state := by
  have runs : ∀ job, state.log.count (.left job) = state.log.count (.released job) := by
    intro job
    have balance := accounts.balanced job
    have outside : (state.flag.phase job.caller).count job = 0 := settled.count_phase job
    rw [outside, settled.handed, Multiset.count_zero, State.flag, entries_eq_count,
      releases_eq_count] at balance
    exact balance
  refine ⟨settled, runs, fun live reqId => ?_⟩
  obtain ⟨waits, empty, -⟩ := settled.thread.resolve_left live
  have none : state.untaken = [] := by
    rw [untaken, empty]
    exact ite_self _
  have booked := accounts.booked
  rw [Booked, none, List.map_nil, List.append_nil] at booked
  rw [booked, takenIds_count, runs]

end State

variable [DecidableEq Client]

/-- In every run: what `write()` accepted is what the thread took through the busy wait and what it
has not taken, in this order, and every request that left the busy wait is answered, with the DSP
or the handler, or with its caller, each as often as it left the wait. -/
theorem requests_accounted {state : State Client}
    (reached : (driver Client).Reaches (fun _ _ => True) state) :
    (acceptedIds state.log =
      takenIds state.log ++ state.untaken.map fun entry => entry.request.reqId) ∧
    ∀ job, state.log.count (.left job) =
      state.log.count (.released job) +
        (state.started ++ state.raised ++ state.irq.held).count job +
        (state.phase job.caller).count job := by
  have accounts := State.Accounts.of_reaches reached
  refine ⟨accounts.booked, fun job => ?_⟩
  have balance := accounts.balanced job
  rw [State.flag, State.entries_eq_count, State.releases_eq_count, Multiset.coe_add,
    Multiset.coe_add, Multiset.coe_count] at balance
  exact balance

theorem requests_accounted_two_callers :
    ∃ state, (driver (Fin 2)).Reaches (fun _ _ => True) state ∧
      state.log =
        [.left ⟨.input 1, 2⟩, .left ⟨.input 0, 1⟩, .completed ⟨.input 0, 1⟩,
          .stored ⟨.input 0, 1⟩ 2] ∧
      ∀ job, state.log.count (.left job) =
        state.log.count (.released job) +
          (state.started ++ state.raised ++ state.irq.held).count job +
          (state.phase job.caller).count job := by
  obtain ⟨state, reached, log⟩ := exists_reached bothReadIdle
    (show ((driver (Fin 2)).run (fun _ _ => True) _ _).map State.log =
      some [.left ⟨.input 1, 2⟩, .left ⟨.input 0, 1⟩, .completed ⟨.input 0, 1⟩,
        .stored ⟨.input 0, 1⟩ 2] by decide +kernel)
  exact ⟨state, reached, log, (requests_accounted reached).2⟩

/-- Once no new call begins, a weakly fair run comes to rest with its books closed: with requests
that fit and no reset, and a DSP that completes what it was started with. -/
theorem requests_answered {dsp : Dxdsp} (vector : dsp.regDspBasePhyAddrRomRam ≠ dspBusy)
    {endless : (driver Client).Endless State.Ongoing}
    (reached : ((driver Client).startingAt (State.initial dsp)).Reaches State.Benign
      (endless.state 0))
    (fair : endless.WeaklyFair State.Urged State.Retests) :
    ∃ time, ∀ later, time ≤ later → (endless.state later).Answered := by
  obtain ⟨time, settles⟩ := State.comes_to_rest vector reached fair
  refine ⟨time, fun later order => ?_⟩
  have still := (endless.reaches reached.always later).of_startingAt ⟨dsp, rfl⟩
  exact (State.Accounts.of_reaches still).answered (settles later order)

theorem requests_answered_one :
    ∃ endless : (driver (Fin 1)).Endless State.Ongoing, endless.state 0 = submitting ∧
      ∃ time, ∀ later, time ≤ later → (endless.state later).Answered := by
  obtain ⟨final, ran, settled⟩ := exists_wholeWay
  have begun : (driver (Fin 1)).run State.Benign (State.initial boardDsp) [submitsOne] =
      some submitting := by
    have fits : State.Benign (State.initial boardDsp) submitsOne := by decide
    rw [Machine.run, if_pos fits]
    rfl
  have first : (Machine.Endless.ofRun ran).state 0 = submitting := Machine.stateAt_zero
  have reached : ((driver (Fin 1)).startingAt (State.initial boardDsp)).Reaches State.Benign
      ((Machine.Endless.ofRun ran).state 0) := by
    rw [first]
    exact Machine.reaches_startingAt_of_run begun
  have vector : boardDsp.regDspBasePhyAddrRomRam ≠ dspBusy := by decide
  exact ⟨.ofRun ran, first,
    requests_answered vector reached (Machine.Endless.weaklyFair_ofRun ran settled.stuck)⟩

end DxDsp
