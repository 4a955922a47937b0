/-
This file is about a READ_OUTPUT that a signal interrupts. The wait is left with
an error, but the call goes on: it clears the event flag, finds the list empty
and returns -1. A signal ends the wait only after a test that found the flag
clear, so an interrupt that raises the flag between that test and the clearing is
forgotten, and the next reader or poller waits for a completion that has been.
-/

import DxDsp.Driver
import DxDsp.Library.Observation

namespace DxDsp

open Library

variable {Client : Type} [DecidableEq Client]

/-! ### One call among interrupts -/

/-- The steps of the reader, of the interrupts, and of the thread and the DSP that lead to them. -/
def Action.besideRead (reader : Client) : Action Client → Bool
  | .client own _ => own = reader
  | .run .thread | .thread | .complete _ | .interrupt _ | .irq => true
  | .write .. | .writeInput .. | .program .. | .readOutput .. | .writeMem .. | .poll _ | .read ..
  | .run (.input _) | .stop => false

/-- What happens to the event flag, or to the wait for it, in the time of a call. -/
inductive FlagNote
  | signalled
  | raised
  | cleared
deriving DecidableEq, Repr

/-- What the reader's next step does. The wait tests the flag last, so it is ended by a signal only
where it leaves on a clear flag. -/
def CallPc.flagNote (irqEvent : Bool) : CallPc → Option FlagNote
  | .output .wait => if irqEvent then none else some .signalled
  | .output .clear => some .cleared
  | _ => none

def IrqPc.flagNote : IrqPc Client → Option FlagNote
  | .event _ => some .raised
  | _ => none

namespace State

def noteFlag (reader : Client) (state : State Client) : Action Client → Option FlagNote
  | .client client _ =>
    if client = reader then (state.calls client).flagNote state.dx.dsp.irqEvent else none
  | .irq => state.irq.flagNote
  | _ => none

/-- The notes of a list of actions. -/
def flagNotes (reader : Client) (state : State Client) (actions : List (Action Client)) :
    List FlagNote :=
  (driver Client).notes (noteFlag reader) state actions

/-- The rest of a call of READ_OUTPUT, up to the step that returns. -/
inductive Returns (reader : Client) :
    State Client → List (Action Client) → State Client → Int → Prop
  | take {state after : State Client} {disturbed : Bool} {ret : Int}
      {copied : Option DxrtResponse} (place : state.calls reader = .output .take)
      (moved : state.step (.client reader disturbed) = some after)
      (logged : after.log = state.log ++ [.output reader ret copied]) :
      Returns reader state [.client reader disturbed] after ret
  | step {state next after : State Client} {action : Action Client}
      {actions : List (Action Client)} {ret : Int} (own : action.besideRead reader = true)
      (moved : state.step action = some next) (inside : next.calls reader ≠ .idle)
      (rest : Returns reader next actions after ret) :
      Returns reader state (action :: actions) after ret

/-! ### What the steps do -/

/-- A step beside the reader, with what it notes. -/
structure Beside (reader : Client) (state next : State Client) (note : Option FlagNote) : Prop where
  calls : next.calls reader = state.calls reader
  responses : next.dx.responses = state.dx.responses
  event : note = none ∧ next.dx.dsp.irqEvent = state.dx.dsp.irqEvent ∨
    note = some .raised ∧ next.dx.dsp.irqEvent = true

/-- A step in the time of the call is the reader's own, or one beside it. -/
theorem own_or_beside {reader : Client} {state next : State Client} {action : Action Client}
    (own : action.besideRead reader = true) (moved : state.step action = some next) :
    (∃ disturbed, action = .client reader disturbed) ∨
      Beside reader state next (state.noteFlag reader action) := by
  cases action with
  | client client disturbed =>
    rw [Action.besideRead, decide_eq_true_eq] at own
    exact Or.inl ⟨disturbed, own ▸ rfl⟩
  | run caller =>
    cases caller with
    | input client => cases own
    | thread =>
      obtain ⟨request, pc, inside, -, rfl⟩ := runStep_eq_some moved
      exact Or.inr ⟨rfl, rfl, Or.inl ⟨rfl, runEffect_irqEvent request state.dx.dsp pc⟩⟩
  | thread =>
    obtain ⟨thread, requests, rfl⟩ := threadStep_eq_some moved
    exact Or.inr ⟨rfl, rfl, Or.inl ⟨rfl, rfl⟩⟩
  | complete job =>
    obtain ⟨-, rfl⟩ := complete_eq_some moved
    exact Or.inr ⟨rfl, rfl, Or.inl ⟨rfl, rfl⟩⟩
  | interrupt job =>
    obtain ⟨-, -, rfl⟩ := interrupt_eq_some moved
    exact Or.inr ⟨rfl, rfl, Or.inl ⟨rfl, rfl⟩⟩
  | irq =>
    have stepped : state.irqStep state.irq = some next := moved
    rw [noteFlag]
    cases place : state.irq with
    | idle =>
      rw [place] at stepped
      cases stepped
    | event job =>
      rw [place] at stepped
      cases stepped
      exact Or.inr ⟨rfl, rfl, Or.inr ⟨rfl, rfl⟩⟩
    | _ =>
      rw [place] at stepped
      cases stepped
      exact Or.inr ⟨rfl, rfl, Or.inl ⟨rfl, rfl⟩⟩
  | _ => cases own

/-- The reader's own step, at the program point it stands at. -/
theorem readerStep {reader : Client} {state next : State Client} {disturbed : Bool}
    (moved : state.step (.client reader disturbed) = some next) {pc : OutputPc}
    (place : state.calls reader = .output pc) :
    state.outputStep reader disturbed pc = some next := by
  have stepped : state.clientStep reader disturbed (state.calls reader) = some next := moved
  rwa [place] at stepped

theorem noteFlag_reader {reader : Client} {state : State Client} {disturbed : Bool}
    {call : CallPc} (place : state.calls reader = call) :
    state.noteFlag reader (.client reader disturbed) = call.flagNote state.dx.dsp.irqEvent := by
  rw [noteFlag, if_pos rfl, place]

theorem flagNotes_cons {reader : Client} {state next : State Client} {action : Action Client}
    (moved : state.step action = some next) (actions : List (Action Client)) :
    state.flagNotes reader (action :: actions) =
      (state.noteFlag reader action).toList ++ next.flagNotes reader actions :=
  Machine.notes_cons moved actions

/-! ### From each program point to the return -/

/-- The notes behind the clearing of the flag. -/
def behindClear (notes : List FlagNote) : List FlagNote :=
  (notes.dropWhile fun note => note ≠ .cleared).tail

/-- What a call does to the list. -/
structure ListOutcome (state after : State Client) (ret : Int) : Prop where
  kept : ret < 0 → after.dx.responses = state.dx.responses
  failed : state.dx.responses = [] → ret < 0

omit [DecidableEq Client] in
theorem ListOutcome.of_same {state next after : State Client} {ret : Int}
    (same : next.dx.responses = state.dx.responses) (outcome : ListOutcome next after ret) :
    ListOutcome state after ret :=
  ⟨fun failed => (outcome.kept failed).trans same,
    fun empty => outcome.failed (same.trans empty)⟩

/-- Behind the clearing only interrupts touch the flag, and only a success touches the list. -/
structure Taken (reader : Client) (state after : State Client) (actions : List (Action Client))
    (ret : Int) : Prop where
  list : ListOutcome state after ret
  event : after.dx.dsp.irqEvent = true ↔
    state.dx.dsp.irqEvent = true ∨ .raised ∈ state.flagNotes reader actions
  unsignalled : .signalled ∉ state.flagNotes reader actions

/-- The locked section returns: with an error and the list as it was, or with an entry of it. -/
theorem takeStep_eq_some {reader : Client} {state next : State Client} {disturbed : Bool}
    (stepped : state.outputStep reader disturbed .take = some next) :
    next.calls reader = .idle ∧ next.dx.dsp.irqEvent = state.dx.dsp.irqEvent ∧
      ∃ ret copied, next.log = state.log ++ [.output reader ret copied] ∧
        (ret < 0 ∧ next.dx.responses = state.dx.responses ∨
          ret = 0 ∧ state.dx.responses ≠ []) := by
  rw [outputStep] at stepped
  split at stepped
  · cases stepped
  · split at stepped
    · cases stepped
      exact ⟨Function.update_self .., rfl, -1, none, rfl, Or.inl ⟨by decide, rfl⟩⟩
    · next response rest list =>
      have nonempty : state.dx.responses ≠ [] := by
        rw [list]
        exact List.cons_ne_nil _ _
      split at stepped
      · cases stepped
        exact ⟨Function.update_self .., rfl, -efault, none, rfl, Or.inl ⟨by decide, rfl⟩⟩
      · cases stepped
        exact ⟨Function.update_self .., rfl, 0, some response, rfl, Or.inr ⟨rfl, nonempty⟩⟩

theorem Returns.taken {reader : Client} {state after : State Client}
    {actions : List (Action Client)} {ret : Int} (returns : Returns reader state actions after ret)
    (place : state.calls reader = .output .take) : Taken reader state after actions ret := by
  induction returns with
  | @take state after disturbed ret copied own moved logged =>
    have stepped := readerStep moved place
    have notes : state.flagNotes reader [.client reader disturbed] = [] := by
      rw [flagNotes_cons moved, noteFlag_reader place]
      rfl
    obtain ⟨-, event, own, _, log, outcome⟩ := takeStep_eq_some stepped
    have same : own = ret := by
      have last := List.append_cancel_left (log.symm.trans logged)
      cases last
      rfl
    subst same
    refine ⟨⟨fun failed => ?_, fun empty => ?_⟩, ?_, ?_⟩
    · rcases outcome with ⟨-, kept⟩ | ⟨success, -⟩
      · exact kept
      · omega
    · rcases outcome with ⟨failed, -⟩ | ⟨-, nonempty⟩
      · exact failed
      · exact absurd empty nonempty
    · rw [notes, event]
      simp
    · rw [notes]
      exact List.not_mem_nil
  | @step state next after action actions ret own moved inside rest inductionHypothesis =>
    rcases own_or_beside own moved with ⟨disturbed, rfl⟩ | beside
    · exact absurd (takeStep_eq_some (readerStep moved place)).1 inside
    · have later := inductionHypothesis (beside.calls.trans place)
      refine ⟨.of_same beside.responses later.list, ?_, ?_⟩
      · rw [flagNotes_cons moved, List.mem_append, later.event]
        rcases beside.event with ⟨note, same⟩ | ⟨note, raised⟩
        · rw [note, same]
          simp
        · rw [note, raised]
          simp
      · rw [flagNotes_cons moved, List.mem_append]
        rintro (now | signalled)
        · rcases beside.event with ⟨note, -⟩ | ⟨note, -⟩
          · rw [note] at now
            cases now
          · rw [note] at now
            simp at now
        · exact later.unsignalled signalled

/-- Up to the clearing the flag is what the interrupts behind it make of it. -/
structure Cleared (reader : Client) (state after : State Client) (actions : List (Action Client))
    (ret : Int) : Prop where
  list : ListOutcome state after ret
  event : after.dx.dsp.irqEvent = true ↔ .raised ∈ behindClear (state.flagNotes reader actions)

theorem Cleared.of_beside {reader : Client} {state next after : State Client}
    {action : Action Client} {actions : List (Action Client)} {ret : Int}
    (moved : state.step action = some next)
    (beside : Beside reader state next (state.noteFlag reader action))
    (cleared : Cleared reader next after actions ret) :
    Cleared reader state after (action :: actions) ret := by
  refine ⟨.of_same beside.responses cleared.list, ?_⟩
  rw [cleared.event, flagNotes_cons moved]
  rcases beside.event with ⟨note, -⟩ | ⟨note, -⟩ <;> rw [note] <;> rfl

theorem Returns.cleared {reader : Client} {state after : State Client}
    {actions : List (Action Client)} {ret : Int} (returns : Returns reader state actions after ret)
    (place : state.calls reader = .output .clear) : Cleared reader state after actions ret := by
  induction returns with
  | take own => cases own.symm.trans place
  | @step state next after action actions ret own moved inside rest inductionHypothesis =>
    rcases own_or_beside own moved with ⟨disturbed, rfl⟩ | beside
    · have stepped := readerStep moved place
      injection stepped with stepped
      have taking : next.calls reader = .output .take := by
        rw [← stepped]
        exact Function.update_self ..
      have responses : next.dx.responses = state.dx.responses :=
        congrArg (·.dx.responses) stepped.symm
      have event : next.dx.dsp.irqEvent = false := congrArg (·.dx.dsp.irqEvent) stepped.symm
      have taken := rest.taken taking
      refine ⟨.of_same responses taken.list, ?_⟩
      rw [taken.event, event, flagNotes_cons moved, noteFlag_reader place]
      exact or_iff_right Bool.false_ne_true
    · exact (inductionHypothesis (beside.calls.trans place)).of_beside moved beside

theorem waitStep_eq_some {reader : Client} {state next : State Client} {disturbed : Bool}
    (stepped : state.outputStep reader disturbed .wait = some next) :
    next = state.setCall reader (.output .clear) := by
  rw [outputStep] at stepped
  split at stepped
  · exact (Option.some.inj stepped).symm
  · split at stepped
    · exact (Option.some.inj stepped).symm
    · cases stepped

theorem Returns.waited {reader : Client} {state after : State Client}
    {actions : List (Action Client)} {ret : Int} (returns : Returns reader state actions after ret)
    (place : state.calls reader = .output .wait) : Cleared reader state after actions ret := by
  induction returns with
  | take own => cases own.symm.trans place
  | @step state next after action actions ret own moved inside rest inductionHypothesis =>
    rcases own_or_beside own moved with ⟨disturbed, rfl⟩ | beside
    · have stepped := waitStep_eq_some (readerStep moved place)
      have clearing : next.calls reader = .output .clear := by
        rw [stepped]
        exact Function.update_self ..
      have responses : next.dx.responses = state.dx.responses := congrArg (·.dx.responses) stepped
      have cleared := rest.cleared clearing
      refine ⟨.of_same responses cleared.list, ?_⟩
      rw [cleared.event, flagNotes_cons moved, noteFlag_reader place, CallPc.flagNote]
      split <;> rfl
    · exact (inductionHypothesis (beside.calls.trans place)).of_beside moved beside

/-- From the entry on: a signal ends the wait only where there is one. -/
structure Tested (reader : Client) (state after : State Client) (actions : List (Action Client))
    (ret : Int) : Prop where
  list : ListOutcome state after ret
  signalled : .signalled ∈ state.flagNotes reader actions →
    state.dx.responses = [] ∧
      (after.dx.dsp.irqEvent = true ↔ .raised ∈ behindClear (state.flagNotes reader actions))

theorem Returns.tested {reader : Client} {state after : State Client}
    {actions : List (Action Client)} {ret : Int} (returns : Returns reader state actions after ret)
    (place : state.calls reader = .output .test) : Tested reader state after actions ret := by
  induction returns with
  | take own => cases own.symm.trans place
  | @step state next after action actions ret own moved inside rest inductionHypothesis =>
    rcases own_or_beside own moved with ⟨disturbed, rfl⟩ | beside
    · have notes : state.flagNotes reader (.client reader disturbed :: actions) =
          next.flagNotes reader actions := by
        rw [flagNotes_cons moved, noteFlag_reader place]
        rfl
      have stepped := readerStep moved place
      injection stepped with stepped
      have responses : next.dx.responses = state.dx.responses :=
        congrArg (·.dx.responses) stepped.symm
      have calls : next.calls reader =
          .output (if state.dx.responses = [] then .wait else .take) := by
        rw [← stepped]
        exact Function.update_self ..
      by_cases empty : state.dx.responses = []
      · rw [if_pos empty] at calls
        have waited := rest.waited calls
        exact ⟨.of_same responses waited.list, fun _ => ⟨empty, notes ▸ waited.event⟩⟩
      · rw [if_neg empty] at calls
        have taken := rest.taken calls
        exact ⟨.of_same responses taken.list,
          fun signalled => absurd (notes ▸ signalled) taken.unsignalled⟩
    · have later := inductionHypothesis (beside.calls.trans place)
      refine ⟨.of_same beside.responses later.list, fun signalled => ?_⟩
      rw [flagNotes_cons moved] at signalled ⊢
      rcases beside.event with ⟨note, -⟩ | ⟨note, -⟩
      · rw [note] at signalled ⊢
        have outcome := later.signalled signalled
        exact ⟨beside.responses.symm.trans outcome.1, outcome.2⟩
      · rw [note] at signalled ⊢
        have outcome := later.signalled (by simpa using signalled)
        exact ⟨beside.responses.symm.trans outcome.1, outcome.2⟩

/-! ### A failed call -/

/-- A call that fails leaves the list, and after a signal the completion of every interrupt in its
time. -/
structure ConsumesNothing (reader : Client) (entered after : State Client)
    (actions : List (Action Client)) (ret : Int) : Prop where
  event : .signalled ∈ entered.flagNotes reader actions → ret < 0 →
    .raised ∈ entered.flagNotes reader actions → after.dx.dsp.irqEvent = true
  responses : ret < 0 → after.dx.responses = entered.dx.responses

theorem Tested.consumesNothing_iff {reader : Client} {entered after : State Client}
    {actions : List (Action Client)} {ret : Int}
    (tested : Tested reader entered after actions ret) :
    ConsumesNothing reader entered after actions ret ↔
      (.signalled ∈ entered.flagNotes reader actions →
        .raised ∈ entered.flagNotes reader actions →
        .raised ∈ behindClear (entered.flagNotes reader actions)) := by
  constructor
  · intro nothing signalled raised
    obtain ⟨empty, event⟩ := tested.signalled signalled
    exact event.mp (nothing.event signalled (tested.list.failed empty) raised)
  · intro behind
    refine ⟨fun signalled _ raised => ?_, tested.list.kept⟩
    exact (tested.signalled signalled).2.mpr (behind signalled raised)

/-- Entering READ_OUTPUT changes nothing in the device; with a buffer the call stands before its
first test. -/
theorem readOutput_eq_some {reader : Client} {data : UserTarget} {before entered : State Client}
    (enters : before.step (.readOutput reader data) = some entered) :
    entered.dx = before.dx ∧ (data ≠ .null → entered.calls reader = .output .test) := by
  obtain ⟨-, rfl⟩ := whenIdle_eq_some enters
  cases data with
  | null => exact ⟨rfl, fun buffer => absurd rfl buffer⟩
  | fault | writable => exact ⟨rfl, fun _ => Function.update_self ..⟩

end State

/-- A READ_OUTPUT without a buffer changes nothing. One with a buffer, if it fails, consumes nothing
exactly when no signal ended its wait, no interrupt raised the flag in its time, or one did behind
the clearing. -/
theorem failed_output_consumes_nothing_iff {reader : Client} {data : UserTarget}
    {before entered : State Client}
    (enters : before.step (.readOutput reader data) = some entered) :
    entered.dx = before.dx ∧
      (data ≠ .null → ∀ actions after ret, State.Returns reader entered actions after ret →
        (State.ConsumesNothing reader entered after actions ret ↔
          (.signalled ∈ entered.flagNotes reader actions →
            .raised ∈ entered.flagNotes reader actions →
            .raised ∈ State.behindClear (entered.flagNotes reader actions)))) := by
  obtain ⟨same, tests⟩ := State.readOutput_eq_some enters
  exact ⟨same, fun buffer _ _ _ returns => (returns.tested (tests buffer)).consumesNothing_iff⟩

/-! ### The interrupt in between -/

namespace State

theorem step_reader {reader : Client} {state : State Client} {pc : OutputPc}
    (place : state.calls reader = .output pc) (disturbed : Bool) :
    state.step (.client reader disturbed) = state.outputStep reader disturbed pc := by
  show state.clientStep reader disturbed (state.calls reader) = _
  rw [place]
  rfl

theorem ofReader (reader : Client) (disturbed : Bool) :
    (Action.client reader disturbed).besideRead reader = true :=
  decide_eq_true rfl

/-- On an empty list and a clear flag a reader may be signalled out of its wait. -/
theorem exists_signalled {reader : Client} {before : State Client}
    (idle : before.calls reader = .idle) (empty : before.dx.responses = [])
    (clear : before.dx.dsp.irqEvent = false) :
    ∃ entered signalled, before.step (.readOutput reader .writable) = some entered ∧
      signalled = before.setCall reader (.output .clear) ∧
      (∀ actions after ret, Returns reader signalled actions after ret →
        Returns reader entered (.client reader false :: .client reader true :: actions) after
          ret) ∧
      ∀ actions, entered.flagNotes reader
        (.client reader false :: .client reader true :: actions) =
          .signalled :: signalled.flagNotes reader actions := by
  let tested := before.setCall reader (.output .test)
  let waiting := tested.setCall reader (.output .wait)
  let signalled := waiting.setCall reader (.output .clear)
  have atTest : tested.calls reader = .output .test := Function.update_self ..
  have atWait : waiting.calls reader = .output .wait := Function.update_self ..
  have atClear : signalled.calls reader = .output .clear := Function.update_self ..
  have enters : before.step (.readOutput reader .writable) = some tested := by
    show before.whenIdle reader tested = _
    rw [whenIdle, idle]
  have tests : tested.step (.client reader false) = some waiting := by
    rw [step_reader atTest, outputStep, if_pos (by exact empty)]
  have leaves : waiting.step (.client reader true) = some signalled := step_reader atWait true
  have same : signalled = before.setCall reader (.output .clear) := by
    simp [signalled, waiting, tested, setCall]
  refine ⟨tested, signalled, enters, same, fun actions after ret returns => ?_, fun actions => ?_⟩
  · refine .step (ofReader reader _) tests (by rw [atWait]; simp) ?_
    exact .step (ofReader reader _) leaves (by rw [atClear]; simp) returns
  · have event : waiting.dx.dsp.irqEvent = false := clear
    rw [flagNotes_cons tests, flagNotes_cons leaves, noteFlag_reader atTest,
      noteFlag_reader atWait, event]
    rfl

/-- Behind its wait a reader of an empty list clears the flag and returns -1. -/
theorem exists_returns {reader : Client} {state : State Client}
    (place : state.calls reader = .output .clear) (empty : state.dx.responses = [])
    (free : state.responsesHeld = false) :
    ∃ after, Returns reader state [.client reader false, .client reader false] after (-1) ∧
      state.flagNotes reader [.client reader false, .client reader false] = [.cleared] ∧
      after.dx.dsp.irqEvent = false := by
  let cleared : State Client := { state.setCall reader (.output .take) with
    dx := { state.dx with dsp := { state.dx.dsp with irqEvent := false } } }
  let after := (cleared.setCall reader .idle).record (.output reader (-1) none)
  have atTake : cleared.calls reader = .output .take := Function.update_self ..
  have clears : state.step (.client reader false) = some cleared := step_reader place false
  have returns : cleared.step (.client reader false) = some after := by
    have held : ¬ cleared.responsesHeld = true := by
      show ¬ state.responsesHeld = true
      rw [free]
      exact Bool.false_ne_true
    have list : cleared.dx.responses = [] := empty
    rw [step_reader atTake, outputStep, if_neg held, list]
  refine ⟨after, ?_, ?_, rfl⟩
  · refine .step (ofReader reader _) clears (by rw [atTake]; simp) ?_
    exact .take atTake returns rfl
  · rw [flagNotes_cons clears, flagNotes_cons returns, noteFlag_reader place,
      noteFlag_reader atTake]
    rfl

/-- The handler raises the flag behind the signal, and the reader clears it. -/
theorem exists_forgotten {reader : Client} {before : State Client}
    (idle : before.calls reader = .idle) (empty : before.dx.responses = [])
    (free : before.responsesHeld = false) (clear : before.dx.dsp.irqEvent = false)
    (raising : before.irq.flagNote = some .raised) :
    ∃ entered actions after, before.step (.readOutput reader .writable) = some entered ∧
      Returns reader entered actions after (-1) ∧
      entered.flagNotes reader actions = [.signalled, .raised, .cleared] ∧
      after.dx.dsp.irqEvent = false := by
  obtain ⟨entered, signalled, enters, same, returnsFront, notesFront⟩ :=
    exists_signalled idle empty clear
  obtain ⟨job, irq⟩ : ∃ job, before.irq = .event job := by
    cases place : before.irq with
    | event job => exact ⟨job, rfl⟩
    | _ =>
      rw [place] at raising
      cases raising
  let raised : State Client := { signalled with
    irq := .wake job
    dx := { signalled.dx with dsp := { signalled.dx.dsp with irqEvent := true } } }
  have raises : signalled.step .irq = some raised := by
    subst same
    show (before.setCall reader (.output .clear)).irqStep before.irq = _
    rw [irq]
    rfl
  have place : raised.calls reader = .output .clear := by
    show signalled.calls reader = _
    rw [same]
    exact Function.update_self ..
  have list : raised.dx.responses = [] := by
    show signalled.dx.responses = _
    rw [same]
    exact empty
  have lock : raised.responsesHeld = false := by
    show signalled.responsesHeld = _
    rw [same]
    exact free
  obtain ⟨after, returns, notes, event⟩ := exists_returns place list lock
  have handler : signalled.noteFlag reader .irq = some .raised := by
    rw [same]
    exact raising
  refine ⟨entered, _, after, enters, returnsFront _ after (-1)
    (.step rfl raises (by rw [place]; simp) returns), ?_, event⟩
  rw [notesFront, flagNotes_cons raises, notes, handler]
  rfl

end State

/-- A signal alone: the call fails and nothing was there to be consumed. -/
theorem failed_output_consumes_nothing_alone :
    ∃ (entered : State (Fin 1)) (actions : List (Action (Fin 1))) (after : State (Fin 1)),
      (State.initial boardDsp).step (.readOutput 0 .writable) = some entered ∧
      State.Returns 0 entered actions after (-1) ∧
      .signalled ∈ entered.flagNotes 0 actions ∧
      State.ConsumesNothing 0 entered after actions (-1) := by
  have idle : (State.initial boardDsp : State (Fin 1)).calls 0 = .idle := rfl
  obtain ⟨entered, signalled, enters, same, returnsFront, notesFront⟩ :=
    State.exists_signalled idle rfl rfl
  have place : signalled.calls 0 = .output .clear := same ▸ rfl
  obtain ⟨after, returns, notes, -⟩ := State.exists_returns place (same ▸ rfl) (same ▸ rfl)
  have quiet := (notesFront _).trans (congrArg _ notes)
  refine ⟨entered, _, after, enters, returnsFront _ after (-1) returns, quiet ▸ .head _, ?_⟩
  refine ((failed_output_consumes_nothing_iff enters).2 (by decide) _ after (-1)
    (returnsFront _ after (-1) returns)).mpr fun _ raised => ?_
  rw [quiet] at raised
  exact absurd raised (by decide)

def CallPc.isIdle : CallPc → Bool
  | .idle => true
  | _ => false

theorem CallPc.eq_idle {call : CallPc} (idle : call.isIdle = true) : call = .idle := by
  cases call <;> first | rfl | cases idle

/-- One request is completed, and its handler stands before the flag. -/
def handlerAtFlag : List (Action (Fin 2)) :=
  submit 0 1 1 ++ List.replicate 4 .thread ++ runToEnd .thread ++
    [.complete ⟨.thread, 1⟩, .interrupt ⟨.thread, 1⟩] ++ List.replicate 7 .irq

/-- A signal ends the wait of a second client while the handler raises the flag: the completion is
forgotten. -/
theorem failed_output_forgets :
    ∃ (before entered : State (Fin 2)) (actions : List (Action (Fin 2))) (after : State (Fin 2)),
      (driver (Fin 2)).run (fun _ _ => True) (State.initial boardDsp) handlerAtFlag = some before ∧
      before.step (.readOutput 1 .writable) = some entered ∧
      State.Returns 1 entered actions after (-1) ∧
      ¬ State.ConsumesNothing 1 entered after actions (-1) := by
  have seen : ((driver (Fin 2)).run (fun _ _ => True) (State.initial boardDsp)
      handlerAtFlag).map (fun before => ((before.calls 1).isIdle, before.dx.responses,
        before.responsesHeld, before.dx.dsp.irqEvent, before.irq.flagNote)) =
      some (true, [], false, false, some .raised) := by
    decide +kernel
  obtain ⟨before, ran, view⟩ := Option.map_eq_some_iff.mp seen
  simp only [Prod.mk.injEq] at view
  obtain ⟨idle, empty, free, clear, raising⟩ := view
  obtain ⟨entered, actions, after, enters, returns, notes, event⟩ :=
    State.exists_forgotten (CallPc.eq_idle idle) empty free clear raising
  refine ⟨before, entered, actions, after, ran, enters, returns, fun nothing => ?_⟩
  have raised := nothing.event (by rw [notes]; decide) (by decide) (by rw [notes]; decide)
  rw [event] at raised
  cases raised

end DxDsp
