/-
This file is about TERMINATE and the readers it is to release. It sets the event
flag and wakes every thread blocked in READ_OUTPUT, but each of them clears the
flag on its way out, and a thread that re-tests the flag after that goes back to
sleep. So TERMINATE releases one reader.
-/

import DxDsp.Driver
import DxDsp.Library.Observation

namespace DxDsp

open Library

variable {Client : Type} [DecidableEq Client]

namespace State

/-- The thread is blocked in the wait of READ_OUTPUT. -/
def Blocked (state : State Client) (client : Client) : Prop :=
  state.calls client = .output .wait

/-- A step of the wake-up of a thread that is blocked in `woken`: it re-tests the flag and leaves
the wait, or clears the flag. -/
def WakesUp (woken state : State Client) (action : Action Client) : Prop :=
  ∃ client, woken.Blocked client ∧ action = .client client false ∧
    (state.calls client = .output .wait ∨ state.calls client = .output .clear)

/-- Whatever the order of the wake-ups, no thread that was blocked is left in the wait with the flag
cleared. -/
def ReleasesAll (woken : State Client) : Prop :=
  ∀ state, ((driver Client).startingAt woken).Reaches woken.WakesUp state →
    ∀ client, woken.Blocked client → state.Blocked client → state.dx.dsp.irqEvent = true

/-- TERMINATE is about to set the event flag, and the state it leaves has set it. -/
structure Terminates (client : Client) (before woken : State Client) : Prop where
  stands : before.calls client = .program dxrtTerminate
  moved : before.step (.client client false) = some woken

theorem Terminates.woken_eq {client : Client} {before woken : State Client}
    (terminates : Terminates client before woken) :
    woken = { before.setCall client (.program [.error 99]) with
      dx := (Micro.irqEvent true).apply before.dx } := by
  have moved := terminates.moved
  rw [step, terminates.stands] at moved
  exact (Option.some.inj moved).symm

theorem Terminates.irqEvent {client : Client} {before woken : State Client}
    (terminates : Terminates client before woken) : woken.dx.dsp.irqEvent = true := by
  rw [terminates.woken_eq]
  rfl

/-- Setting the flag leaves the blocked threads where they are. -/
theorem Terminates.blocked_iff {client : Client} {before woken : State Client}
    (terminates : Terminates client before woken) (other : Client) :
    woken.Blocked other ↔ before.Blocked other := by
  rw [terminates.woken_eq, Blocked, Blocked]
  show Function.update before.calls client _ other = _ ↔ _
  by_cases same : other = client
  · rw [same, Function.update_self, terminates.stands]
    exact iff_of_false (by simp) (by simp)
  · rw [Function.update_of_ne same]

/-! ### One step of a wake-up -/

/-- The re-test of a blocked thread: it goes through exactly when the flag is set. -/
theorem step_wait_iff {state next : State Client} {client : Client}
    (stands : state.Blocked client) :
    state.step (.client client false) = some next ↔
      state.dx.dsp.irqEvent = true ∧ next = state.setCall client (.output .clear) := by
  rw [step, stands, clientStep, outputStep, if_neg (by decide)]
  by_cases set : state.dx.dsp.irqEvent = true
  · rw [if_pos set, Option.some_inj]
    exact ⟨fun same => ⟨set, same.symm⟩, fun moved => moved.2.symm⟩
  · rw [if_neg set]
    exact iff_of_false (by simp) fun moved => set moved.1

/-- The clearing of the flag. -/
theorem step_clear {state : State Client} {client : Client}
    (stands : state.calls client = .output .clear) :
    state.step (.client client false) =
      some { state.setCall client (.output .take) with
        dx := { state.dx with dsp := { state.dx.dsp with irqEvent := false } } } := by
  rw [step, stands]
  rfl

/-! ### One blocked thread -/

/-- The only thread that is woken, on its way out of the wait. -/
def Leaving (state : State Client) (client : Client) : Prop :=
  (state.Blocked client ∧ state.dx.dsp.irqEvent = true) ∨
    state.calls client = .output .clear ∨ state.calls client = .output .take

theorem leaving_step {woken state next : State Client} {client : Client}
    {action : Action Client} (alone : ∀ other, woken.Blocked other → other = client)
    (leaving : state.Leaving client) (wakes : woken.WakesUp state action)
    (moved : state.step action = some next) : next.Leaving client := by
  obtain ⟨other, blocked, rfl, stands⟩ := wakes
  obtain rfl := alone other blocked
  rcases stands with wait | clear
  · obtain ⟨-, rfl⟩ := (step_wait_iff wait).mp moved
    exact Or.inr (Or.inl (Function.update_self _ _ _))
  · rw [step_clear clear] at moved
    cases moved
    exact Or.inr (Or.inr (Function.update_self _ _ _))

theorem releasesAll_of_alone {woken : State Client} {client : Client}
    (set : woken.dx.dsp.irqEvent = true) (alone : ∀ other, woken.Blocked other → other = client) :
    woken.ReleasesAll := by
  intro state reached other blocked still
  obtain rfl := alone other blocked
  have leaving : state.Leaving other := by
    refine reached.invariant ?_ fun _ _ _ => leaving_step alone
    rintro _ rfl
    exact Or.inl ⟨blocked, set⟩
  rcases leaving with ⟨-, set⟩ | clear | take
  · exact set
  · rw [Blocked, clear] at still
    cases still
  · rw [Blocked, take] at still
    cases still

/-! ### Two blocked threads -/

theorem not_releasesAll_of_two {woken : State Client} {first second : Client}
    (set : woken.dx.dsp.irqEvent = true) (firstBlocked : woken.Blocked first)
    (secondBlocked : woken.Blocked second) (apart : second ≠ first) : ¬ woken.ReleasesAll := by
  intro releases
  -- The first thread leaves the wait and clears the flag before the second re-tests it.
  have left : ((driver Client).startingAt woken).Reaches woken.WakesUp
      (woken.setCall first (.output .clear)) :=
    .step (.start rfl) ⟨first, firstBlocked, rfl, Or.inl firstBlocked⟩
      ((step_wait_iff firstBlocked).mpr ⟨set, rfl⟩)
  have clears : (woken.setCall first (.output .clear)).calls first = .output .clear :=
    Function.update_self _ _ _
  have cleared := Machine.Reaches.step left ⟨first, firstBlocked, rfl, Or.inr clears⟩
    (step_clear clears)
  have waits : (Function.update (Function.update woken.calls first (.output .clear)) first
      (.output .take)) second = .output .wait := by
    rw [Function.update_of_ne apart, Function.update_of_ne apart]
    exact secondBlocked
  exact absurd (releases _ cleared second secondBlocked waits) (by simp)

end State

/-- TERMINATE releases every blocked reader exactly when there is at most one. -/
theorem terminate_releases_iff {client : Client} {before woken : State Client}
    (terminates : State.Terminates client before woken) :
    woken.ReleasesAll ↔
      ∀ first second, before.Blocked first → before.Blocked second → first = second := by
  constructor
  · intro releases first second firstBlocked secondBlocked
    by_contra apart
    exact State.not_releasesAll_of_two terminates.irqEvent
      ((terminates.blocked_iff _).mpr secondBlocked) ((terminates.blocked_iff _).mpr firstBlocked)
      apart releases
  · intro alone
    by_cases some : ∃ reader, before.Blocked reader
    · obtain ⟨reader, blocked⟩ := some
      have only : ∀ other, woken.Blocked other → other = reader := fun other otherBlocked =>
        alone other reader ((terminates.blocked_iff other).mp otherBlocked) blocked
      exact State.releasesAll_of_alone terminates.irqEvent only
    · intro state _ other blocked
      exact absurd ⟨other, (terminates.blocked_iff other).mp blocked⟩ some

/-! ### Runs on the board -/

/-- What a call is doing, as far as a run on the board is asked for it. -/
def CallPc.waits : CallPc → Bool
  | .output .wait => true
  | _ => false

def CallPc.terminating : CallPc → Bool
  | .program steps => steps == dxrtTerminate
  | _ => false

theorem CallPc.waits_iff {call : CallPc} : call.waits = true ↔ call = .output .wait := by
  cases call with
  | output pc => cases pc <;> simp [waits]
  | _ => simp [waits]

theorem CallPc.eq_of_terminating {call : CallPc} (terminating : call.terminating = true) :
    call = .program dxrtTerminate := by
  cases call with
  | program steps => exact congrArg CallPc.program (eq_of_beq terminating)
  | _ => cases terminating

/-- The readers block one after the other, and the last client calls TERMINATE. -/
def blocksThenTerminates (readers : List (Fin 3)) : List (Action (Fin 3)) :=
  readers.flatMap (fun reader => [.readOutput reader .writable, .client reader false]) ++
    [.program 2 dxrtTerminate]

/-- A TERMINATE on the board, by which of the other clients are blocked in front of it. -/
theorem exists_terminates {readers : List (Fin 3)} {first second : Bool}
    (ran : ((driver (Fin 3)).run (fun _ _ => True) (State.initial boardDsp)
        (blocksThenTerminates readers)).map (fun before =>
          ((before.calls 2).terminating, (before.calls 0).waits, (before.calls 1).waits)) =
      some (true, first, second)) :
    ∃ before woken, (driver (Fin 3)).Reaches (fun _ _ => True) before ∧
      State.Terminates 2 before woken ∧ (before.Blocked 0 ↔ first = true) ∧
      (before.Blocked 1 ↔ second = true) ∧ ¬ before.Blocked 2 := by
  obtain ⟨before, reached, seen⟩ := exists_reached _ ran
  simp only [Prod.mk.injEq] at seen
  obtain ⟨terminating, firstWaits, secondWaits⟩ := seen
  have stands := CallPc.eq_of_terminating terminating
  have moved : before.step (.client 2 false) = some { before.setCall 2 (.program [.error 99]) with
      dx := (Micro.irqEvent true).apply before.dx } := by
    rw [State.step, stands]
    rfl
  refine ⟨before, _, reached, ⟨stands, moved⟩, ?_, ?_, ?_⟩
  · rw [State.Blocked, ← CallPc.waits_iff, firstWaits]
  · rw [State.Blocked, ← CallPc.waits_iff, secondWaits]
  · rw [State.Blocked, stands]
    exact CallPc.noConfusion

/-- One blocked reader is released. -/
theorem terminate_releases_one :
    ∃ before woken, (driver (Fin 3)).Reaches (fun _ _ => True) before ∧
      State.Terminates 2 before woken ∧ before.Blocked 0 ∧ woken.ReleasesAll := by
  obtain ⟨before, woken, reached, terminates, first, second, last⟩ :=
    @exists_terminates [0] true false (by decide +kernel)
  have only : ∀ reader, before.Blocked reader → reader = 0 := by
    intro reader blocked
    match reader with
    | 0 => rfl
    | 1 => exact absurd (second.mp blocked) (by decide)
    | 2 => exact absurd blocked last
  refine ⟨before, woken, reached, terminates, first.mpr rfl,
    (terminate_releases_iff terminates).mpr fun reader other blocked otherBlocked => ?_⟩
  rw [only reader blocked, only other otherBlocked]

/-- Of two blocked readers one is left behind. -/
theorem terminate_leaves_one :
    ∃ before woken, (driver (Fin 3)).Reaches (fun _ _ => True) before ∧
      State.Terminates 2 before woken ∧ ¬ woken.ReleasesAll := by
  obtain ⟨before, woken, reached, terminates, first, second, -⟩ :=
    @exists_terminates [0, 1] true true (by decide +kernel)
  have apart : (1 : Fin 3) ≠ 0 := by decide
  exact ⟨before, woken, reached, terminates, State.not_releasesAll_of_two terminates.irqEvent
    ((terminates.blocked_iff 0).mpr (first.mpr rfl))
    ((terminates.blocked_iff 1).mpr (second.mpr rfl)) apart⟩

end DxDsp
