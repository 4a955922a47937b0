/-
This file shows that the driver whose waiters sleep deadlocks no more than the
driver whose waiters test all the time. Where the driver could get something
done, either nobody it takes for that is asleep, or who sleeps has a wake-up to
come, and who owes the wake-up is awake to give it.
-/

import DxDsp.Wakeups

namespace DxDsp

open Library

variable {Client : Type} [DecidableEq Client]

namespace Sleepers

/-! ### Where the sleepers are -/

/-- The thread sleeps in its wait, a client in READ_OUTPUT or in `poll(2)`, and a wake-up of the
readers is owed inside TERMINATE only. -/
structure Placed (sleepers : Sleepers Client) : Prop where
  thread : sleepers.thread = .asleep → sleepers.driver.thread = .wait
  client : ∀ client, sleepers.client client = .asleep →
    sleepers.driver.calls client = .idle ∨ sleepers.driver.calls client = .output .wait
  signalling : ∀ client, sleepers.signalling client = true →
    ∃ steps, sleepers.driver.calls client = .program steps

omit [DecidableEq Client] in
/-- Who begins a call does not sleep. -/
theorem steps_mover {sleepers : Sleepers Client} {action : Action Client} {client : Client}
    (steps : sleepers.Steps action = true) (moves : State.mover action = some client) :
    sleepers.client client = .awake ∨ action = .run (.input client) ∨
      ∃ disturbed, action = .client client disturbed := by
  cases action with
  | write other | writeInput other | readOutput other | program other =>
    obtain rfl : other = client := Option.some.inj moves
    exact Or.inl (of_decide_eq_true steps)
  | client other disturbed =>
    obtain rfl : other = client := Option.some.inj moves
    exact Or.inr (Or.inr ⟨disturbed, rfl⟩)
  | run caller =>
    cases caller with
    | thread => cases moves
    | input other =>
      obtain rfl : other = client := Option.some.inj moves
      exact Or.inr (Or.inl rfl)
  | _ => cases moves

theorem signalling_wakes {sleepers : Sleepers Client} {action : Action Client} {client : Client}
    (raised : (sleepers.wakes action).signalling client = true) :
    sleepers.signalling client = true ∨ ∃ disturbed rest, action = .client client disturbed ∧
      sleepers.driver.calls client = .program (.irqEvent true :: rest) := by
  cases action with
  | client other disturbed =>
    rw [wakes] at raised
    cases place : sleepers.driver.calls other with
    | program steps =>
      rw [place] at raised
      cases steps with
      | nil => exact Or.inl raised
      | cons effect rest =>
        by_cases signals : effect = .irqEvent true
        · subst signals
          by_cases own : client = other
          · subst own
            exact Or.inr ⟨disturbed, rest, rfl, place⟩
          · exact Or.inl ((Function.update_of_ne own _ _).symm.trans raised)
        · cases effect with
          | irqEvent value =>
            cases value with
            | true => exact absurd rfl signals
            | false => exact Or.inl raised
          | _ => exact Or.inl raised
    | output pc =>
      rw [place] at raised
      cases pc <;> exact Or.inl raised
    | _ =>
      rw [place] at raised
      exact Or.inl raised
  | irq =>
    rw [wakes] at raised
    cases place : sleepers.driver.irq <;> rw [place] at raised <;> exact Or.inl raised
  | _ => exact Or.inl raised

theorem Placed.drive_thread {sleepers : Sleepers Client} (placed : sleepers.Placed)
    {action : Action Client} {driver : State Client} (steps : sleepers.Steps action = true)
    (moved : sleepers.driver.step action = some driver)
    (asleep : (sleepers.wakes action).thread = .asleep) : driver.thread = .wait := by
  by_cases own : action = .thread
  · subst own
    obtain ⟨place, goesOn, -⟩ := threadAfter_asleep (of_decide_eq_true steps) asleep
    rw [State.step, place] at moved
    cases moved
    rw [goesOn]
    rfl
  · have before : sleepers.driver.thread = .wait := by
      rcases (sleepers.wakes_wakes action).thread own with same | woken
      · exact placed.thread (same.symm.trans asleep)
      · exact Sleep.noConfusion (woken.symm.trans asleep)
    have waits : sleepers.driver.waitsForRequest = true := by
      rw [State.waitsForRequest, before]
    exact ((State.step_leaves moved).thread own (Or.inl waits)).trans before

theorem Placed.drive_client {sleepers : Sleepers Client} (placed : sleepers.Placed)
    {action : Action Client} {driver : State Client} (steps : sleepers.Steps action = true)
    (moved : sleepers.driver.step action = some driver) {client : Client}
    (asleep : (sleepers.wakes action).client client = .asleep) :
    driver.calls client = .idle ∨ driver.calls client = .output .wait := by
  have before := (sleepers.wakes_wakes action).client client asleep
  have place := placed.client client before
  rcases State.step_calls moved with calls | ⟨mover, call, moves, calls, -⟩
  · rw [calls]
    exact place
  · have apart : client ≠ mover := by
      rintro rfl
      rcases steps_mover steps moves with awake | rfl | ⟨disturbed, rfl⟩
      · exact Sleep.noConfusion (awake.symm.trans before)
      · obtain ⟨request, pc, inside, -⟩ := State.runStep_eq_some moved
        rw [State.running_input inside] at place
        rcases place with place | place <;> cases place
      · rcases place with idle | waits
        · rw [State.step, idle] at moved
          cases moved
        · rw [wakes, waits] at asleep
          exact (asleep_of_setClient (by simp) asleep).1 rfl
    rw [calls, Function.update_of_ne apart]
    exact place

theorem Placed.drive_signalling {sleepers : Sleepers Client} (placed : sleepers.Placed)
    {action : Action Client} {driver : State Client} (steps : sleepers.Steps action = true)
    (moved : sleepers.driver.step action = some driver) {client : Client}
    (raised : (sleepers.wakes action).signalling client = true) :
    ∃ steps, driver.calls client = .program steps := by
  rcases signalling_wakes raised with before | ⟨disturbed, rest, rfl, place⟩
  · obtain ⟨rest, place⟩ := placed.signalling client before
    rcases State.step_calls moved with calls | ⟨mover, call, moves, calls, -⟩
    · exact ⟨rest, (congrFun calls client).trans place⟩
    · have apart : client ≠ mover := by
        rintro rfl
        rcases State.mover_place moved moves with idle | ⟨request, pc, input⟩ | ⟨disturbed, rfl⟩
        · exact CallPc.noConfusion (idle.symm.trans place)
        · exact CallPc.noConfusion (input.symm.trans place)
        · rw [Steps, before, Bool.not_true, Bool.and_false] at steps
          cases steps
      exact ⟨rest, (congrFun calls client).trans ((Function.update_of_ne apart _ _).trans place)⟩
  · rw [State.step, place, State.clientStep, if_neg (by simp)] at moved
    cases moved
    exact ⟨rest, Function.update_self _ _ _⟩

omit [DecidableEq Client] in
/-- A step of the queues leaves the calls and the thread where they are. -/
theorem Placed.of_driver {sleepers next : Sleepers Client} (placed : sleepers.Placed)
    (thread : next.thread = .asleep → sleepers.thread = .asleep)
    (client : ∀ client, next.client client = .asleep → sleepers.client client = .asleep ∨
      sleepers.driver.calls client = .idle ∨ sleepers.driver.calls client = .output .wait)
    (signalling : ∀ client, next.signalling client = true → sleepers.signalling client = true)
    (place : next.driver.thread = sleepers.driver.thread)
    (calls : next.driver.calls = sleepers.driver.calls) : next.Placed := by
  refine ⟨fun asleep => place.trans (placed.thread (thread asleep)), fun other asleep => ?_,
    fun other raised => ?_⟩
  · rw [calls]
    exact (client other asleep).elim (placed.client other) id
  · rw [calls]
    exact placed.signalling other (signalling other raised)

theorem asleep_setClient {sleepers : Sleepers Client} {client other : Client} {sleep : Sleep}
    (place : sleepers.driver.calls client = .idle ∨ sleepers.driver.calls client = .output .wait)
    (asleep : (sleepers.setClient client sleep).client other = .asleep) :
    sleepers.client other = .asleep ∨ sleepers.driver.calls other = .idle ∨
      sleepers.driver.calls other = .output .wait := by
  by_cases own : other = client
  · exact Or.inr (own ▸ place)
  · exact Or.inl ((Function.update_of_ne own _ _).symm.trans asleep)

theorem Placed.step {sleepers next : Sleepers Client} {action : SleepAction Client}
    (placed : sleepers.Placed) (moved : sleepers.step action = some next) : next.Placed := by
  cases action with
  | drive action =>
    obtain ⟨steps, driver, goes, rfl⟩ := drive_eq_some moved
    exact ⟨fun asleep => placed.drive_thread steps goes asleep,
      fun _ asleep => placed.drive_client steps goes asleep,
      fun _ raised => placed.drive_signalling steps goes raised⟩
  | joinThread =>
    rw [Sleepers.step] at moved
    split at moved <;> cases moved
    exact placed.of_driver (fun queued => by cases queued) (fun _ => Or.inl) (fun _ => id) rfl rfl
  | joinClient client =>
    rw [Sleepers.step] at moved
    split at moved <;> cases moved <;>
      exact placed.of_driver id
        (fun _ asleep => Or.inl (asleep_of_setClient (by simp) asleep).2) (fun _ => id) rfl rfl
  | doze client =>
    rw [Sleepers.step] at moved
    split at moved
    · next waits _ =>
      split at moved <;> cases moved
      exact placed.of_driver id (fun _ => asleep_setClient (Or.inr waits)) (fun _ => id) rfl rfl
    · cases moved
  | poll client =>
    rw [Sleepers.step] at moved
    split at moved
    · obtain ⟨driver, goes, rfl⟩ := Option.map_eq_some_iff.mp moved
      obtain ⟨idle, rfl⟩ := State.whenIdle_eq_some goes
      exact placed.of_driver id (fun _ => asleep_setClient (Or.inl idle)) (fun _ => id) rfl rfl
    · cases moved
  | giveUp client =>
    rw [Sleepers.step] at moved
    split at moved <;> cases moved
    exact placed.of_driver id (fun _ asleep => Or.inl (asleep_of_setClient (by simp) asleep).2)
      (fun _ => id) rfl rfl
  | wakeThread =>
    rw [Sleepers.step] at moved
    split at moved <;> cases moved
    exact placed.of_driver (fun awake => by cases awake) (fun _ => Or.inl) (fun _ => id) rfl rfl
  | wakeReaders client =>
    rw [Sleepers.step] at moved
    split at moved <;> cases moved
    refine placed.of_driver id (fun _ awake => by cases awake) (fun other raised => ?_) rfl rfl
    by_cases own : other = client
    · rw [own] at raised
      exact absurd ((Function.update_self _ _ _).symm.trans raised) Bool.false_ne_true
    · exact (Function.update_of_ne own _ _).symm.trans raised

theorem placed_of_reaches {sleepers : Sleepers Client}
    (reached : (sleepingDriver Client).Reaches (fun _ _ => True) sleepers) : sleepers.Placed := by
  induction reached with
  | start begins =>
    obtain ⟨dsp, rfl⟩ := begins
    exact ⟨fun asleep => Sleep.noConfusion asleep, fun _ asleep => Sleep.noConfusion asleep,
      fun _ raised => absurd raised Bool.false_ne_true⟩
  | step _ _ moved inductionHypothesis => exact inductionHypothesis.step moved

/-- The driver under the waiters is a driver at work. -/
theorem driver_step {sleepers next : Sleepers Client} {action : SleepAction Client}
    (moved : sleepers.step action = some next) :
    next.driver = sleepers.driver ∨
      ∃ own, sleepers.driver.step own = some next.driver := by
  cases action with
  | drive action =>
    obtain ⟨-, driver, goes, rfl⟩ := drive_eq_some moved
    exact Or.inr ⟨action, goes⟩
  | poll client =>
    rw [step] at moved
    split at moved
    · obtain ⟨driver, goes, rfl⟩ := Option.map_eq_some_iff.mp moved
      exact Or.inr ⟨.poll client, goes⟩
    · cases moved
  | joinThread | joinClient | giveUp | wakeThread | wakeReaders =>
    rw [step] at moved
    split at moved <;> cases moved <;> exact Or.inl rfl
  | doze client =>
    rw [step] at moved
    split at moved
    · split at moved <;> cases moved
      exact Or.inl rfl
    · cases moved

theorem driver_reaches {dsp : Dxdsp} {sleepers : Sleepers Client}
    (reached : ((sleepingDriver Client).startingAt (initial dsp)).Reaches (fun _ _ => True)
      sleepers) :
    ((DxDsp.driver Client).startingAt (State.initial dsp)).Reaches (fun _ _ => True)
      sleepers.driver := by
  induction reached with
  | start begins => exact .start (congrArg Sleepers.driver begins)
  | step _ _ moved inductionHypothesis =>
    rcases driver_step moved with same | ⟨own, goes⟩
    · exact same ▸ inductionHypothesis
    · exact .step inductionHypothesis trivial goes

/-! ### The sleepers never deadlock -/

/-- The steps that are taken of themselves. A client may stay off its queue, and nothing need make
a signal or a timeout come. -/
def Urged : SleepAction Client → Prop
  | .drive action => State.Urged action
  | .wakeThread | .wakeReaders _ => True
  | _ => False

/-- The tests that a waiter makes again before it sleeps, and the status reads of a busy DSP. -/
def Retests (sleepers : Sleepers Client) : SleepAction Client → Prop
  | .drive action => sleepers.driver.Retests action
  | _ => False

/-- An action that would get something done. -/
def Ready (sleepers : Sleepers Client) (action : SleepAction Client) : Prop :=
  (sleepingDriver Client).Ready Urged Retests sleepers action

/-- The driver is at rest, and no wake-up is to come. -/
structure Settled (sleepers : Sleepers Client) : Prop where
  driver : sleepers.driver.Settled
  stopping : sleepers.stopping = false
  signalling : ∀ client, sleepers.signalling client = false

theorem ready_wakeThread {sleepers : Sleepers Client} (stopping : sleepers.stopping = true) :
    sleepers.Ready .wakeThread :=
  ⟨trivial, id, _, if_pos stopping⟩

theorem ready_wakeReaders {sleepers : Sleepers Client} {client : Client}
    (raised : sleepers.signalling client = true) : sleepers.Ready (.wakeReaders client) :=
  ⟨trivial, id, _, if_pos raised⟩

theorem ready_drive {sleepers : Sleepers Client} {action : Action Client}
    (steps : sleepers.Steps action = true) (ready : sleepers.driver.Ready action) :
    sleepers.Ready (.drive action) := by
  obtain ⟨urged, goes, driver, moved⟩ := ready
  exact ⟨urged, goes, _, drive_of_step steps moved⟩

/-- A client whose wake-up of the thread is to come is awake to give it. -/
theorem ready_due_request {sleepers : Sleepers Client} (placed : sleepers.Placed)
    (due : sleepers.queue.due .request) : ∃ action, sleepers.Ready action := by
  obtain ⟨client, reqId, place⟩ := due
  have awake : sleepers.client client ≠ .asleep := by
    intro asleep
    rcases placed.client client asleep with idle | waits
    · exact CallPc.noConfusion (idle.symm.trans place)
    · exact CallPc.noConfusion (waits.symm.trans place)
  have quiet : sleepers.signalling client = false := by
    by_contra raised
    obtain ⟨rest, program⟩ := placed.signalling client (Bool.not_eq_false _ ▸ raised)
    exact CallPc.noConfusion (program.symm.trans place)
  have steps : sleepers.Steps (.client client false) = true := by
    rw [Steps, quiet, decide_eq_true awake]
    rfl
  have moves : ∃ next,
      sleepers.driver.clientStep client false (sleepers.driver.calls client) = some next := by
    rw [place]
    exact ⟨_, rfl⟩
  exact ⟨_, ready_drive steps ⟨rfl, id, moves⟩⟩

/-- Where something is ready in the driver, something is ready among the sleepers: the step itself,
or the wake-up of who would take it. -/
theorem exists_ready {sleepers : Sleepers Client} (attended : sleepers.queue.Attended)
    (placed : sleepers.Placed) {action : Action Client} (ready : sleepers.driver.Ready action) :
    ∃ action, sleepers.Ready action := by
  by_cases steps : sleepers.Steps action = true
  · exact ⟨_, ready_drive steps ready⟩
  · obtain ⟨urged, goes, driver, moved⟩ := ready
    cases action with
    | thread =>
      have asleep : sleepers.thread = .asleep := by
        by_contra awake
        exact steps (decide_eq_true awake)
      have waits : sleepers.driver.waitsForRequest = true := by
        rw [State.waitsForRequest, placed.thread asleep]
      by_cases empty : sleepers.driver.dx.requests = []
      · have stop : sleepers.driver.shouldStop = true := by
          by_contra goesOn
          exact goes ⟨waits, empty, Bool.not_eq_true _ ▸ goesOn⟩
        exact ⟨_, ready_wakeThread (attended .thread .stop asleep stop)⟩
      · exact ready_due_request placed (attended .thread .request (Or.inl asleep) empty)
    | client client disturbed =>
      obtain rfl : disturbed = false := urged
      by_cases raised : sleepers.signalling client = true
      · exact ⟨_, ready_wakeReaders raised⟩
      · have asleep : sleepers.client client = .asleep := by
          by_contra awake
          refine steps ?_
          rw [Steps, decide_eq_true awake, Bool.eq_false_of_not_eq_true raised]
          rfl
        have event : sleepers.driver.dx.dsp.irqEvent = true := by
          replace moved : sleepers.driver.clientStep client false
            (sleepers.driver.calls client) = some driver := moved
          rcases placed.client client asleep with idle | waits
          · rw [idle] at moved
            cases moved
          · by_contra down
            rw [waits, State.clientStep, State.outputStep, if_neg (by simp), if_neg down] at moved
            cases moved
        rcases attended (.client client) .event asleep event with ⟨job, place⟩ | ⟨other, raised⟩
        · have moves : ∃ next, sleepers.driver.irqStep sleepers.driver.irq = some next := by
            rw [place]
            exact ⟨_, rfl⟩
          exact ⟨_, @ready_drive _ _ _ .irq rfl ⟨trivial, id, moves⟩⟩
        · exact ⟨_, ready_wakeReaders raised⟩
    | run | complete | interrupt | irq => exact absurd rfl steps
    | _ => exact urged.elim

/-- The step of the driver is a benign one. -/
def Benign (sleepers : Sleepers Client) : SleepAction Client → Prop
  | .drive action => sleepers.driver.Benign action
  | _ => True

/-- A busy mark from the start keeps the driver under the sleepers from getting anything done. -/
theorem reaches_waitsFromStart (client : Client) (dsp : Dxdsp) :
    ((sleepingDriver Client).startingAt (initial dsp)).Reaches Benign
      { initial dsp with driver := State.waitsFromStart client dsp } := by
  have fits : Object.Fits (bareRequest 0) := by decide
  have begun : ((sleepingDriver Client).startingAt (initial dsp)).Reaches Benign
      { initial dsp with
        driver := (State.initial dsp).setCall client (.input (bareRequest 0) .wait) } :=
    @Machine.Reaches.step _ _ _ _ _ _ (.drive (.writeInput client (.holds (bareRequest 0))))
      (.start rfl) fits rfl
  exact @Machine.Reaches.step _ _ _ _ _ _ (.drive .thread) begun trivial rfl

end Sleepers

/-- Putting the waiters to sleep costs the driver no progress: with requests that fit and no reset,
and a DSP that completes what it was started with, exactly if the reset vector is not the busy mark,
in every state of every run that is not at rest some step or some wake-up that needs no signal gets
something done. -/
theorem sleeping_driver_never_deadlocks_iff (client : Client) (dsp : Dxdsp) :
    (∀ sleepers : Sleepers Client,
        ((sleepingDriver Client).startingAt (Sleepers.initial dsp)).Reaches Sleepers.Benign
          sleepers → ¬ sleepers.Settled → ∃ action, sleepers.Ready action) ↔
      dsp.regDspBasePhyAddrRomRam ≠ dspBusy := by
  constructor
  · intro live vector
    obtain ⟨action, urged, goes, next, moved⟩ := live _
      (Sleepers.reaches_waitsFromStart client dsp) fun settled => by
        have place := State.waitsFromStart_calls client dsp
        rcases settled.driver.calls client with idle | waits
        · exact CallPc.noConfusion (idle.symm.trans place)
        · exact CallPc.noConfusion (waits.1.symm.trans place)
    cases action with
    | drive action =>
      obtain ⟨-, driver, drives, -⟩ := Sleepers.drive_eq_some moved
      exact State.waitsFromStart_stuck vector action ⟨urged, goes, driver, drives⟩
    | wakeThread | wakeReaders => cases moved
    | _ => exact urged.elim
  · intro vector sleepers reached unsettled
    have probed : (sleepingDriver Client).Reaches (fun _ _ => True) sleepers :=
      reached.always.of_startingAt ⟨dsp, rfl⟩
    by_cases rests : sleepers.driver.Settled
    · by_contra blocked
      refine unsettled ⟨rests, ?_, fun other => ?_⟩
      · by_contra stopping
        exact blocked ⟨_, Sleepers.ready_wakeThread (Bool.eq_true_of_not_eq_false stopping)⟩
      · by_contra raised
        exact blocked ⟨_, Sleepers.ready_wakeReaders (Bool.eq_true_of_not_eq_false raised)⟩
    · have driven := Sleepers.driver_reaches reached.always
      obtain ⟨clients, alive⟩ := State.Alive.of_reaches vector driven
      obtain ⟨action, ready⟩ := State.neverStuck clients _ alive rests
      exact Sleepers.exists_ready (Sleepers.attended_of_reaches probed)
        (Sleepers.placed_of_reaches probed) ready

end DxDsp
