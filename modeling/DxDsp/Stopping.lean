/-
This file stops the request thread. `kthread_stop` sets a flag, wakes the thread
and waits for it to return. Once the flag is set the thread finishes at most the
one request it has in hand and then leaves its loop; where a `dx_v3_dsp_run` can
come out of its busy wait, the thread does leave it. What is on the list by then
stays there: nothing takes it off, and nothing frees it.
-/

import DxDsp.RequestNodes
import DxDsp.Progress
import DxDsp.Removal

namespace DxDsp

open Library

variable {Client : Type}

def ThreadPc.returned : ThreadPc → Bool
  | .exited => true
  | _ => false

theorem ThreadPc.eq_exited {thread : ThreadPc} (returned : thread.returned = true) :
    thread = .exited := by
  cases thread <;> first | rfl | cases returned

namespace State

/-- The entry that a step of the thread frees. -/
def freed (state : State Client) : Action Client → Option Nat
  | .thread => state.thread.node
  | _ => none

/-- The entry that a thread that is to stop has still to free: the one it runs or has run, or the
first on the list where it is about to take it behind its last test of the flag. -/
def inHand (state : State Client) : Option Nat :=
  match state.thread with
  | .head => state.dx.requests.head?.map DxrtRequestList.node
  | .running entry _ | .unlink entry | .free entry => some entry.node
  | .loop | .wait | .waitStop | .woken | .exited | .headOfEmpty => none

variable [DecidableEq Client]

/-! ### One step of a thread that is to stop -/

omit [DecidableEq Client] in
theorem threadStep_inHand {state next : State Client} (holds : ThreadHolds state)
    (stopped : state.shouldStop = true) (moved : state.threadStep state.thread = some next) :
    (state.freed .thread).toList ++ next.inHand.toList = state.inHand.toList := by
  rw [freed, inHand, inHand]
  cases place : state.thread with
  | loop | waitStop | woken =>
    rw [place, threadStep, stopped] at moved
    cases moved
    rfl
  | wait =>
    rw [place] at moved
    cases moved
    dsimp only
    by_cases empty : state.dx.requests = []
    · rw [if_pos empty]
      rfl
    · rw [if_neg empty]
      rfl
  | head =>
    rw [ThreadHolds, place] at holds
    rw [place, threadStep] at moved
    split at moved
    · next empty => exact absurd empty holds
    · next entry rest list =>
      cases moved
      rw [list]
      rfl
  | running entry pc =>
    rw [place] at moved
    cases pc <;> cases moved
    rfl
  | unlink entry | free entry =>
    rw [place] at moved
    cases moved
    rfl
  | exited | headOfEmpty =>
    rw [place] at moved
    cases moved

/-- What another party does leaves the entry in hand, also where it is still the first on the
list. -/
theorem inHand_of_thread {state next : State Client} {action : Action Client}
    (holds : ThreadHolds state) (moved : state.step action = some next)
    (same : next.thread = state.thread) : next.inHand = state.inHand := by
  rw [inHand, inHand, same]
  cases place : state.thread with
  | head =>
    rw [ThreadHolds, place] at holds
    rcases step_requests moved with same | ⟨client, entry, -, appended, -⟩ | ⟨entry, unlinks, -⟩
    · dsimp only
      rw [same]
    · dsimp only
      rw [appended, List.head?_append_of_ne_nil _ holds]
    · rw [place] at unlinks
      cases unlinks
  | _ => rfl

/-- What a step frees is what the thread has in hand, and no longer has afterwards. -/
theorem step_inHand {state next : State Client} {action : Action Client}
    (holds : ThreadHolds state) (stopped : state.shouldStop = true)
    (moved : state.step action = some next) :
    (state.freed action).toList ++ next.inHand.toList = state.inHand.toList := by
  by_cases own : action = .thread
  · subst own
    exact threadStep_inHand holds stopped moved
  · have nothing : state.freed action = none := by
      cases action with
      | thread => exact absurd rfl own
      | _ => rfl
    rw [nothing, Option.toList_none, List.nil_append]
    by_cases ownRun : action = .run .thread
    · subst ownRun
      obtain ⟨request, pc, inside, -, rfl⟩ := runStep_eq_some moved
      obtain ⟨entry, place, -⟩ := running_thread inside
      rw [inHand, inHand, afterRun, threadMoved, place]
      rfl
    · rw [inHand_of_thread holds moved (step_thread moved own ownRun)]

theorem step_stopped {state next : State Client} {action : Action Client}
    (stopped : state.shouldStop = true) (moved : state.step action = some next) :
    next.shouldStop = true := by
  by_cases again : action = .stop
  · subst again
    cases moved
    rfl
  · rw [(step_leaves moved).flag again, stopped]

/-- Where the thread has returned nobody takes an entry off the list. -/
theorem step_keepsList {state next : State Client} {action : Action Client}
    (exited : state.thread = .exited) (moved : state.step action = some next) :
    state.dx.requests <+: next.dx.requests := by
  rcases step_requests moved with same | ⟨client, entry, -, appended, -⟩ | ⟨entry, unlinks, -⟩
  · rw [same]
  · rw [appended]
    exact List.prefix_append _ _
  · rw [exited] at unlinks
    cases unlinks

end State

/-! ### A run of a thread that is to stop -/

section Runs

variable [DecidableEq Client]

namespace State

theorem run_inHand {both final : State Client × List (LedgerEvent Nat)}
    {actions : List (Action Client)} (reached : (ledgered Client).Reaches KmallocFresh both)
    (stopped : both.1.shouldStop = true)
    (ran : (ledgered Client).run KmallocFresh both actions = some final) :
    (ledgered Client).notes (fun both => both.1.freed) both actions ++ final.1.inHand.toList =
      both.1.inHand.toList := by
  induction actions generalizing both with
  | nil =>
    rw [Machine.run, Option.some_inj] at ran
    rw [ran, Machine.notes, List.nil_append]
  | cons action rest inductionHypothesis =>
    obtain ⟨next, fresh, moved, later⟩ := Machine.run_cons_eq_some ran
    have holds := ThreadHolds.of_reaches (reached.of_recording fun _ _ _ => trivial)
    have stepped := (Machine.recording_step_eq_some moved).1
    have onward := inductionHypothesis (.step reached fresh moved) (step_stopped stopped stepped)
      later
    rw [Machine.notes_cons moved, List.append_assoc, onward]
    exact step_inHand holds stopped stepped

theorem run_exited {both final : State Client × List (LedgerEvent Nat)}
    {actions : List (Action Client)} (exited : both.1.thread = .exited)
    (ran : (ledgered Client).run KmallocFresh both actions = some final) :
    final.1.thread = .exited ∧ both.1.dx.requests <+: final.1.dx.requests := by
  induction actions generalizing both with
  | nil =>
    rw [Machine.run, Option.some_inj] at ran
    exact ran ▸ ⟨exited, List.prefix_rfl⟩
  | cons action rest inductionHypothesis =>
    obtain ⟨next, -, moved, later⟩ := Machine.run_cons_eq_some ran
    have stepped := (Machine.recording_step_eq_some moved).1
    obtain ⟨last, onward⟩ := inductionHypothesis (step_exited exited stepped) later
    exact ⟨last, (step_keepsList exited stepped).trans onward⟩

end State

/-- Once `kthread_stop` has set its flag, what the thread frees, however the run goes on, is the
entry it has in hand, once and unless it still has it; and when it has returned, all that is on the
list stays on the list and allocated for good. -/
theorem stopped_thread_leaves_the_list {both final : State Client × List (LedgerEvent Nat)}
    {actions : List (Action Client)} (reached : (ledgered Client).Reaches KmallocFresh both)
    (stopped : both.1.shouldStop = true)
    (ran : (ledgered Client).run KmallocFresh both actions = some final) :
    (ledgered Client).notes (fun both => both.1.freed) both actions ++ final.1.inHand.toList =
        both.1.inHand.toList ∧
      (both.1.thread = .exited →
        final.1.thread = .exited ∧ both.1.dx.requests <+: final.1.dx.requests ∧
          ∀ entry ∈ both.1.dx.requests, heldAfter entry.node false final.2 = some true) := by
  refine ⟨State.run_inHand reached stopped ran, fun exited => ?_⟩
  obtain ⟨still, kept⟩ := State.run_exited exited ran
  refine ⟨still, kept, fun entry listed => ?_⟩
  have entries := State.entries_of_reaches (reached.of_run actions ran)
  exact entries.kept.owned.inside .list (List.mem_map_of_mem (kept.subset listed))

/-! ### The thread returns -/

namespace State

theorem endless_stopped {endless : (driver Client).Endless Ongoing}
    (stopped : (endless.state 0).shouldStop = true) (time : Nat) :
    (endless.state time).shouldStop = true := by
  induction time with
  | zero => exact stopped
  | succ time inductionHypothesis =>
    cases taken : endless.taken time with
    | none => exact endless.stays time taken ▸ inductionHypothesis
    | some action => exact step_stopped inductionHypothesis (endless.moves time action taken)

/-- The thread in the busy wait over a mark that nobody is there to take away. -/
structure Spins (state : State Client) : Prop where
  busy : readDspStatus state.dx.dsp.regDspBase = dspBusy
  thread : ∃ entry, state.thread = .running entry .wait
  calls : ∀ client, state.calls client = .idle
  started : state.started = []
  raised : state.raised = []
  irq : state.irq = .idle

theorem Spins.stuck {state : State Client} (spins : state.Spins) : state.Stuck := by
  obtain ⟨busy, ⟨entry, thread⟩, calls, started, raised, irq⟩ := spins
  rintro action ⟨urged, goes, next, moved⟩
  replace moved : state.step action = some next := moved
  cases action with
  | client client disturbed =>
    rw [step, calls] at moved
    cases moved
  | run caller =>
    cases caller with
    | thread => exact goes ⟨by rw [running, thread]; rfl, busy⟩
    | input client =>
      obtain ⟨request, pc, inside, -, -⟩ := runStep_eq_some moved
      have place := running_input inside
      rw [calls] at place
      cases place
  | thread =>
    rw [step, thread] at moved
    cases moved
  | complete job =>
    obtain ⟨member, -⟩ := complete_eq_some moved
    rw [started] at member
    cases member
  | interrupt job =>
    obtain ⟨-, member, -⟩ := interrupt_eq_some moved
    rw [raised] at member
    cases member
  | irq =>
    rw [step, irq] at moved
    cases moved
  | _ => cases urged

/-- What a whole call of `write()` leaves. -/
def written (state : State Client) (client : Client) (entry : DxrtRequestList) : State Client :=
  { state with
    dx := { state.dx with requests := state.dx.requests ++ [entry] }
    log := state.log ++ [.accepted client entry.request.reqId] ++
      [.writeReturned client entry.request.reqId] }

theorem step_client {state : State Client} {client : Client} {disturbed : Bool} {call : CallPc}
    (place : state.calls client = call) :
    state.step (.client client disturbed) = state.clientStep client disturbed call := by
  rw [step, place]

theorem run_submit {state : State Client} {client : Client} (idle : state.calls client = .idle)
    (handled : state.dx.requestHandler = true) (node : Nat) (reqId : UInt8)
    (fits : Object.Fits (bareRequest reqId)) :
    (driver Client).run Benign state (submit client node reqId) =
      some (state.written client { node, request := bareRequest reqId }) := by
  let entry : DxrtRequestList := { node, request := bareRequest reqId }
  let queued : State Client :=
    { (state.setCall client (.queue entry)).setCall client (.wake entry.request.reqId) with
      dx := { state.dx with requests := state.dx.requests ++ [entry] }
      log := state.log ++ [.accepted client entry.request.reqId] }
  have begins : state.step (.write client (some node) sizeofDxrtDspRequest
      (some (bareRequest reqId))) = some (state.setCall client (.queue entry)) := by
    rw [step, whenIdle, idle, beginWrite, dxrtDevWritePrepare, handled]
    rfl
  have queues : (state.setCall client (.queue entry)).step (.client client false) = some queued :=
    (step_client (Function.update_self _ _ _)).trans rfl
  have returns : queued.step (.client client false) =
      some ((queued.setCall client .idle).record (.writeReturned client entry.request.reqId)) :=
    (step_client (Function.update_self _ _ _)).trans rfl
  have back : (queued.setCall client .idle).calls = state.calls := by
    show Function.update (Function.update (Function.update state.calls client _) client _) client
      .idle = state.calls
    rw [Function.update_idem, Function.update_idem, ← idle, Function.update_eq_self]
  have same : (queued.setCall client .idle).record (.writeReturned client entry.request.reqId) =
      state.written client entry :=
    congrArg (fun calls => { state.written client entry with calls }) back
  simp only [submit, Machine.run, driver, begins, queues, returns, same, Benign, if_true]
  exact if_pos fits

/-- Where the reset vector is the busy mark, a request taken behind the probe keeps the thread. -/
theorem exists_spins (client : Client) {dsp : Dxdsp}
    (vector : dsp.regDspBasePhyAddrRomRam = dspBusy) :
    ∃ state, ((driver Client).startingAt (initial dsp)).Reaches Benign state ∧
      state.shouldStop = true ∧ state.Spins := by
  let entry : DxrtRequestList := { node := 0, request := bareRequest 0 }
  have submitted := @run_submit _ _ (initial dsp) client rfl rfl 0 0 (by decide)
  have taken : (driver Client).run Benign ((initial dsp).written client entry)
      [.thread, .thread, .thread, .thread, .stop] =
        some { (initial dsp).written client entry with
          thread := .running entry .wait
          shouldStop := true } := rfl
  refine ⟨_, Machine.reaches_startingAt_of_run (Machine.run_append submitted taken), rfl, ?_⟩
  exact ⟨vector, ⟨entry, rfl⟩, fun _ => rfl, rfl, rfl, rfl⟩

end State

/-- With requests that fit and no reset, and a DSP that completes what it was started with,
`kthread_stop` returns exactly if the reset vector is not the busy mark: then in every weakly fair
endless run in which no new call begins, a thread that is to stop has returned from some time on. -/
theorem kthread_stop_returns_iff (client : Client) (dsp : Dxdsp) :
    (∀ endless : (driver Client).Endless State.Ongoing,
        ((driver Client).startingAt (State.initial dsp)).Reaches State.Benign
            (endless.state 0) →
          (endless.state 0).shouldStop = true →
            endless.WeaklyFair State.Urged State.Retests →
              ∃ time, ∀ later, time ≤ later → (endless.state later).thread = .exited) ↔
      dsp.regDspBasePhyAddrRomRam ≠ dspBusy := by
  constructor
  · intro returns vector
    obtain ⟨state, reached, stopped, spins⟩ := State.exists_spins client vector
    have still : (driver Client).run (fun _ action => State.Ongoing action) state [] =
      some state := rfl
    obtain ⟨time, exits⟩ := returns (.ofRun still) reached stopped
      (Machine.Endless.weaklyFair_ofRun still spins.stuck)
    obtain ⟨entry, runs⟩ := spins.thread
    have exited : state.thread = .exited := exits time (Nat.le_refl _)
    rw [runs] at exited
    cases exited
  · intro vector endless reached stopped fair
    obtain ⟨time, settles⟩ := State.comes_to_rest vector reached fair
    refine ⟨time, fun later order => (settles later order).thread.resolve_right ?_⟩
    rintro ⟨-, -, flag⟩
    rw [State.endless_stopped stopped later] at flag
    cases flag

end Runs

/-- Two requests of a client, the first in the hand of the thread when it is told to stop. -/
def stopsWithOneLeft : List (Action (Fin 1)) :=
  submit 0 8 1 ++ submit 0 16 2 ++ [.thread, .thread, .thread, .thread, .stop]

/-- The thread ends its run, frees the first entry and returns. -/
def endsItsRun : List (Action (Fin 1)) :=
  runToEnd .thread ++ [.thread, .thread, .thread, .thread]

/-- The thread frees the first entry, at 8, and the second, at 16, stays allocated whatever comes
after it. -/
theorem stopped_thread_leaves_the_second :
    ∃ stopping exited final : State (Fin 1) × List (LedgerEvent Nat),
      stopping.1.inHand = some 8 ∧
        (ledgered (Fin 1)).notes (fun both => both.1.freed) stopping endsItsRun = [8] ∧
          (ledgered (Fin 1)).run KmallocFresh stopping endsItsRun = some exited ∧
            (ledgered (Fin 1)).run KmallocFresh exited (submit 0 24 3) = some final ∧
              heldAfter 16 false final.2 = some true := by
  obtain ⟨stopping, begun, rest⟩ := Option.bind_eq_some_iff.mp
    (show (((ledgered (Fin 1)).run KmallocFresh (State.initial boardDsp, [])
        stopsWithOneLeft).bind fun stopping =>
          ((ledgered (Fin 1)).run KmallocFresh stopping endsItsRun).bind fun exited =>
            ((ledgered (Fin 1)).run KmallocFresh exited (submit 0 24 3)).map fun _ =>
              (stopping.1.shouldStop && exited.1.shouldStop, stopping.1.inHand,
                exited.1.thread.returned, exited.1.dx.requests.map (·.node))) =
          some (true, some 8, true, [16]) by decide +kernel)
  obtain ⟨exited, ended, rest⟩ := Option.bind_eq_some_iff.mp rest
  obtain ⟨final, later, seen⟩ := Option.map_eq_some_iff.mp rest
  simp only [Prod.mk.injEq] at seen
  obtain ⟨flags, before, returned, listed⟩ := seen
  obtain ⟨stopped, still⟩ := Bool.and_eq_true_iff.mp flags
  have returns := ThreadPc.eq_exited returned
  have empty : exited.1.inHand = none := by rw [State.inHand, returns]
  have probed : (ledgered (Fin 1)).Reaches KmallocFresh (State.initial boardDsp, []) :=
    .start ⟨⟨boardDsp, rfl⟩, rfl⟩
  have reached := probed.of_run _ begun
  have freed := (stopped_thread_leaves_the_list reached stopped ended).1
  rw [before, empty, Option.toList_none, List.append_nil] at freed
  obtain ⟨entry, member, node⟩ := List.mem_map.mp (listed ▸ List.mem_singleton_self 16)
  have left := ((stopped_thread_leaves_the_list (reached.of_run _ ended) still later).2
    returns).2.2 entry member
  exact ⟨stopping, exited, final, before, freed, ended, later, node ▸ left⟩

end DxDsp
