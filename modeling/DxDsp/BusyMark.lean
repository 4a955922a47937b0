/-
This file reads the driver as users of a busy flag: the status register is the
flag, the callers of `dx_v3_dsp_run` are its users, `dsp->req_id` is what they
publish, and the interrupt handler's write of status 0 is the release. The test
and the set of the flag are separate steps, so the discipline of the flag is a
condition on the runs: the status is read idle only where no other caller stands
between its own idle read and its write of the busy mark.
-/

import DxDsp.Driver
import DxDsp.Library.BusyFlag
import Mathlib.Data.Fintype.Basic

namespace DxDsp

open Library

variable {Client : Type}

/-! ### The driver as a busy flag -/

/-- Where a run stands with respect to the busy mark. -/
def RunPc.phase (job : Job Client) : RunPc → Phase (Job Client)
  | .wait | .done => .outside
  | .lock => .decided job
  | .setId => .marked job
  | .slot | .data _ _ => .published job
  | .head _ i => if i < 2 then .published job else .outside

def runningPhase (caller : Caller Client) : Option Running → Phase (Job Client)
  | none => .outside
  | some { request, pc } => pc.phase { caller, reqId := request.reqId }

/-- The request whose status write the handler still owes. -/
def IrqPc.held : IrqPc Client → List (Job Client)
  | .idle | .event _ | .wake _ => []
  | .status0 job | .status1 job | .load job | .store job _ | .clear0 job | .clear1 job
  | .status job => [job]

/-- The actions of clients and of the thread outside `dx_v3_dsp_run`. -/
def Action.clientSide : Action Client → Bool
  | .run _ | .complete _ | .interrupt _ | .irq => false
  | _ => true

/-- The events that these do not cause. -/
def Event.dspSide : Event Client → Bool
  | .left _ | .completed _ | .stored _ _ | .released _ | .finished _ => true
  | _ => false

def Event.passage : Event Client → Option (Passage (Job Client))
  | .left job => some (.entered job)
  | .released job => some (.released job)
  | _ => none

variable [DecidableEq Client]

namespace State

def phase (state : State Client) (caller : Caller Client) : Phase (Job Client) :=
  runningPhase caller (state.running caller)

def flag (state : State Client) : BusyFlag (Caller Client) (Job Client) UInt32 where
  busy := readDspStatus state.dx.dsp.regDspBase = dspBusy
  phase := state.phase
  handed := state.started + state.raised + state.irq.held
  tag := state.dx.dsp.reqId
  history := state.log.filterMap Event.passage

/-! ### Steps the flag does not see -/

theorem phase_of_running {state next : State Client} {caller : Caller Client}
    {frame : Option Running}
    (running : next.running = Function.update state.running caller frame) :
    next.phase = Function.update state.phase caller (runningPhase caller frame) := by
  funext other
  rw [phase, running]
  by_cases same : other = caller
  · subst same
    rw [Function.update_self, Function.update_self]
  · rw [Function.update_of_ne same, Function.update_of_ne same, phase]

/-- A call that is outside the busy section before and after. -/
theorem phase_setCall {state : State Client} {client : Client} {call next : CallPc}
    (place : state.calls client = call)
    (before : runningPhase (.input client) call.frame = .outside)
    (after : runningPhase (.input client) next.frame = .outside) :
    (state.setCall client next).phase = state.phase := by
  rw [phase_of_running (running_setCall state client next), after, Function.update_eq_self_iff,
    phase, running, place, before]

/-- A step on the client side: whatever it changes, the DSP, the handler and the busy section are
as before. -/
structure SameDsp (state next : State Client) : Prop where
  phase : next.phase = state.phase
  status : readDspStatus next.dx.dsp.regDspBase = readDspStatus state.dx.dsp.regDspBase
  tag : next.dx.dsp.reqId = state.dx.dsp.reqId
  started : next.started = state.started
  raised : next.raised = state.raised
  irq : next.irq = state.irq
  log : next.log.filter Event.dspSide = state.log.filter Event.dspSide

omit [DecidableEq Client] in
/-- The usual client step: it says what it logs, and where it moves a call, why the call stays
outside. -/
theorem SameDsp.quiet {state next : State Client}
    (log : next.log.filter Event.dspSide = state.log.filter Event.dspSide)
    (phase : next.phase = state.phase := by rfl)
    (status : readDspStatus next.dx.dsp.regDspBase =
      readDspStatus state.dx.dsp.regDspBase := by rfl)
    (tag : next.dx.dsp.reqId = state.dx.dsp.reqId := by rfl)
    (started : next.started = state.started := by rfl)
    (raised : next.raised = state.raised := by rfl) (irq : next.irq = state.irq := by rfl) :
    SameDsp state next :=
  ⟨phase, status, tag, started, raised, irq, log⟩

omit [DecidableEq Client] in
theorem filter_append {log : List (Event Client)} {event : Event Client}
    (quiet : event.dspSide = false) :
    (log ++ [event]).filter Event.dspSide = log.filter Event.dspSide := by
  rw [List.filter_append, List.filter_singleton, quiet]
  exact List.append_nil _

omit [DecidableEq Client] in
/-- A view that sees only some events can be taken of these alone. -/
theorem filterMap_eq_filterMap_filter {Value : Type} {side : Event Client → Bool}
    {view : Event Client → Option Value} (blind : ∀ event, side event = false → view event = none)
    (log : List (Event Client)) : log.filterMap view = (log.filter side).filterMap view := by
  rw [List.filterMap_filter]
  refine List.filterMap_congr fun event _ => ?_
  cases own : side event with
  | false => exact blind event own
  | true => rfl

omit [DecidableEq Client] in
/-- What is read off the DSP side of the log is as before. -/
theorem SameDsp.filterMap {state next : State Client} (same : SameDsp state next) {Value : Type}
    {view : Event Client → Option Value}
    (blind : ∀ event, event.dspSide = false → view event = none) :
    next.log.filterMap view = state.log.filterMap view := by
  rw [filterMap_eq_filterMap_filter blind, same.log, ← filterMap_eq_filterMap_filter blind]

omit [DecidableEq Client] in
theorem flag_congr {state next : State Client} (phase : next.phase = state.phase)
    (status : readDspStatus next.dx.dsp.regDspBase = readDspStatus state.dx.dsp.regDspBase)
    (tag : next.dx.dsp.reqId = state.dx.dsp.reqId) (handed : next.flag.handed = state.flag.handed)
    (passages : next.log.filterMap Event.passage = state.log.filterMap Event.passage) :
    next.flag = state.flag := by
  rw [flag, flag, BusyFlag.mk.injEq]
  exact ⟨by rw [status], phase, handed, tag, passages⟩

omit [DecidableEq Client] in
theorem SameDsp.flag {state next : State Client} (same : SameDsp state next) :
    next.flag = state.flag := by
  refine flag_congr same.phase same.status same.tag ?_ ?_
  · rw [State.flag, State.flag, same.started, same.raised, same.irq]
  · refine same.filterMap fun event quiet => ?_
    cases event <;> first | rfl | cases quiet

omit [DecidableEq Client] in
theorem filterMap_append {log : List (Event Client)} {event : Event Client} {Value : Type}
    {view : Event Client → Option Value} (blind : view event = none) :
    (log ++ [event]).filterMap view = log.filterMap view := by
  rw [List.filterMap_append, List.filterMap_cons_none blind, List.filterMap_nil, List.append_nil]

theorem outputStep_sameDsp {state next : State Client} {client : Client} {disturbed : Bool}
    {pc : OutputPc} (place : state.calls client = .output pc)
    (moved : state.outputStep client disturbed pc = some next) : SameDsp state next := by
  cases pc with
  | test =>
    cases moved
    exact .quiet rfl (phase_setCall place rfl rfl)
  | wait =>
    rw [outputStep] at moved
    split at moved
    · cases moved
      exact .quiet rfl (phase_setCall place rfl rfl)
    · split at moved
      · cases moved
        exact .quiet rfl (phase_setCall place rfl rfl)
      · cases moved
  | clear =>
    cases moved
    exact .quiet rfl (phase_setCall place rfl rfl)
  | take =>
    have returned : (state.setCall client .idle).phase = state.phase := phase_setCall place rfl rfl
    rw [outputStep] at moved
    split at moved
    · cases moved
    · split at moved
      · cases moved
        exact .quiet (filter_append rfl) returned
      · split at moved
        · cases moved
          exact .quiet (filter_append rfl) returned
        · cases moved
          exact .quiet (filter_append rfl) returned

theorem clientStep_sameDsp {state next : State Client} {client : Client} {disturbed : Bool}
    (moved : state.clientStep client disturbed (state.calls client) = some next) :
    SameDsp state next := by
  cases place : state.calls client with
  | idle =>
    rw [place] at moved
    cases moved
  | queue entry =>
    rw [place] at moved
    cases moved
    exact .quiet (filter_append rfl) (phase_setCall place rfl rfl)
  | wake reqId =>
    rw [place] at moved
    cases moved
    exact .quiet (filter_append rfl) (phase_setCall place rfl rfl)
  | input request pc =>
    rw [place] at moved
    cases pc with
    | done =>
      cases moved
      exact .quiet rfl (phase_setCall place rfl rfl)
    | _ => cases moved
  | program steps =>
    rw [place] at moved
    cases steps with
    | nil =>
      cases moved
      exact .quiet rfl (phase_setCall place rfl rfl)
    | cons effect rest =>
      rw [clientStep] at moved
      split at moved
      · cases moved
      · cases moved
        have dsp := effect.apply_dsp state.dx
        have phases : (state.setCall client (.program rest)).phase = state.phase :=
          phase_setCall place rfl rfl
        exact .quiet rfl phases (congrArg readDspStatus dsp.1) dsp.2
  | output pc =>
    rw [place] at moved
    exact outputStep_sameDsp place moved

omit [DecidableEq Client] in
/-- The thread outside `dx_v3_dsp_run` moves no flag. -/
theorem threadStep_sameDsp {state next : State Client}
    (moved : state.threadStep state.thread = some next) : SameDsp state next := by
  have phases : ∀ {after : State Client}, after.calls = state.calls →
      runningPhase (.thread : Caller Client) after.thread.frame =
        runningPhase .thread state.thread.frame → after.phase = state.phase := by
    intro after calls thread
    funext caller
    cases caller with
    | thread => exact thread
    | input client => rw [phase, phase, running, running, calls]
  cases place : state.thread with
  | loop | woken | waitStop =>
    rw [place] at moved
    cases moved
    refine .quiet rfl (phases rfl ?_)
    rw [place]
    cases state.shouldStop <;> rfl
  | wait =>
    rw [place] at moved
    cases moved
    refine .quiet rfl (phases rfl ?_)
    rw [place]
    by_cases empty : state.dx.requests = []
    · rw [if_pos empty]
      rfl
    · rw [if_neg empty]
      rfl
  | head =>
    rw [place, threadStep] at moved
    split at moved
    · cases moved
      refine .quiet rfl (phases rfl ?_)
      rw [place]
      rfl
    · cases moved
      refine .quiet rfl (phases rfl ?_)
      rw [place]
      rfl
  | running entry pc =>
    rw [place] at moved
    cases pc with
    | done =>
      cases moved
      refine .quiet rfl (phases rfl ?_)
      rw [place]
      rfl
    | _ => cases moved
  | unlink entry | free entry =>
    rw [place] at moved
    cases moved
    refine .quiet rfl (phases rfl ?_)
    rw [place]
    rfl
  | exited | headOfEmpty =>
    rw [place] at moved
    cases moved

omit [DecidableEq Client] in
theorem sameDsp_refl (state : State Client) : SameDsp state state :=
  .quiet rfl

theorem step_sameDsp {state next : State Client} {action : Action Client}
    (side : action.clientSide = true) (moved : state.step action = some next) :
    SameDsp state next := by
  cases action with
  | write client node len data =>
    obtain ⟨idle, rfl⟩ := whenIdle_eq_some moved
    rw [beginWrite]
    split
    · exact .quiet rfl (phase_setCall idle rfl rfl)
    · exact .quiet (filter_append rfl)
  | writeInput client data =>
    obtain ⟨idle, rfl⟩ := whenIdle_eq_some moved
    cases data with
    | holds request => exact .quiet rfl (phase_setCall idle rfl rfl)
    | null | fault => exact sameDsp_refl state
  | program client steps =>
    rw [step] at moved
    split at moved
    · obtain ⟨idle, rfl⟩ := whenIdle_eq_some moved
      exact .quiet rfl (phase_setCall idle rfl rfl)
    · cases moved
  | readOutput client data =>
    obtain ⟨idle, rfl⟩ := whenIdle_eq_some moved
    cases data with
    | null => exact .quiet (filter_append rfl)
    | fault | writable => exact .quiet rfl (phase_setCall idle rfl rfl)
  | writeMem client data source =>
    obtain ⟨idle, rfl⟩ := whenIdle_eq_some moved
    have dsp := dxrtWriteMem_registers state.dx data source
    exact .quiet rfl rfl (congrArg readDspStatus dsp.1) dsp.2
  | poll client =>
    obtain ⟨idle, rfl⟩ := whenIdle_eq_some moved
    exact .quiet (filter_append rfl)
  | read client len fault =>
    obtain ⟨idle, rfl⟩ := whenIdle_eq_some moved
    rw [readStep]
    split
    · exact .quiet (filter_append rfl)
    · exact sameDsp_refl state
  | client client disturbed => exact clientStep_sameDsp moved
  | thread => exact threadStep_sameDsp moved
  | stop =>
    cases moved
    exact .quiet rfl
  | run | complete | interrupt | irq => cases side

/-! ### Steps of the flag -/

/-- A run logs nothing but its idle read. -/
theorem log_afterRun (state : State Client) (caller : Caller Client) (request : Object)
    (pc : RunPc) :
    (state.afterRun caller request pc).log = state.log ∨
      ∃ job, (state.afterRun caller request pc).log = state.log ++ [.left job] := by
  show state.log ++ leftBy _ _ _ = _ ∨ ∃ job, state.log ++ leftBy _ _ _ = _
  rw [leftBy]
  split
  · exact Or.inr ⟨_, rfl⟩
  · exact Or.inl (List.append_nil _)

theorem filterMap_afterRun {state : State Client} {caller : Caller Client} {request : Object}
    {pc : RunPc} {Value : Type} {view : Event Client → Option Value}
    (blind : ∀ job, view (.left job) = none) :
    (state.afterRun caller request pc).log.filterMap view = state.log.filterMap view := by
  rcases log_afterRun state caller request pc with log | ⟨job, log⟩
  · rw [log]
  · rw [log, filterMap_append (blind job)]

theorem flag_afterRun {state : State Client} {caller : Caller Client} {request : Object}
    {pc : RunPc} (inside : state.running caller = some { request, pc }) :
    (state.afterRun caller request pc).flag =
      { busy := readDspStatus (runEffect request state.dx.dsp pc).regDspBase = dspBusy
        phase := Function.update state.phase caller
          ((runNext request state.dx.dsp pc).phase { caller, reqId := request.reqId })
        handed := startedBy { caller, reqId := request.reqId } pc + state.flag.handed
        tag := (runEffect request state.dx.dsp pc).reqId
        history := state.log.filterMap Event.passage ++
          (leftBy { caller, reqId := request.reqId } pc
            (runNext request state.dx.dsp pc)).filterMap Event.passage } := by
  have handed : ∀ own : List (Job Client), ((state.started ++ own : List (Job Client)) :
      Multiset (Job Client)) + state.raised + state.irq.held = own + state.flag.handed := by
    intro own
    rw [← Multiset.coe_add, Multiset.add_comm (state.started : Multiset (Job Client)),
      Multiset.add_assoc, Multiset.add_assoc, flag, Multiset.add_assoc]
  rw [flag, phase_of_running (running_afterRun inside)]
  show BusyFlag.mk _ _ (_ + _ + _) _ ((state.log ++ _).filterMap _) = _
  rw [List.filterMap_append]
  exact congrArg (BusyFlag.mk _ _ · _ _) (handed _)

/-- A step that starts nothing and leaves no wait. -/
theorem flag_afterRun_inner {state : State Client} {caller : Caller Client} {request : Object}
    {pc : RunPc} (inside : state.running caller = some { request, pc })
    (starts : startedBy ({ caller, reqId := request.reqId } : Job Client) pc = [])
    (leaves : leftBy ({ caller, reqId := request.reqId } : Job Client) pc
      (runNext request state.dx.dsp pc) = []) :
    (state.afterRun caller request pc).flag =
      { state.flag with
        busy := readDspStatus (runEffect request state.dx.dsp pc).regDspBase = dspBusy
        phase := Function.update state.phase caller
          ((runNext request state.dx.dsp pc).phase { caller, reqId := request.reqId })
        tag := (runEffect request state.dx.dsp pc).reqId } := by
  rw [flag_afterRun inside, starts, leaves, Multiset.coe_nil, Multiset.zero_add, List.filterMap_nil,
    List.append_nil]
  rfl

omit [DecidableEq Client] in
theorem phase_eq_of_running {state : State Client} {caller : Caller Client} {request : Object}
    {pc : RunPc} (inside : state.running caller = some { request, pc }) :
    state.phase caller = pc.phase { caller, reqId := request.reqId } := by
  rw [phase, inside, runningPhase]

/-- A step that stays in its phase, starts nothing and leaves no wait. -/
theorem flag_afterRun_same {state : State Client} {caller : Caller Client} {request : Object}
    {pc : RunPc} (inside : state.running caller = some { request, pc }) (notLock : pc ≠ .lock)
    (notSetId : pc ≠ .setId)
    (stays : (runNext request state.dx.dsp pc).phase { caller, reqId := request.reqId } =
      pc.phase { caller, reqId := request.reqId })
    (starts : startedBy ({ caller, reqId := request.reqId } : Job Client) pc = [])
    (leaves : leftBy ({ caller, reqId := request.reqId } : Job Client) pc
      (runNext request state.dx.dsp pc) = []) :
    (state.afterRun caller request pc).flag = state.flag := by
  obtain ⟨sram, effect⟩ := runEffect_sram request state.dx.dsp notLock notSetId
  rw [flag_afterRun_inner inside starts leaves, effect, stays, ← phase_eq_of_running inside,
    Function.update_eq_self]
  rfl

/-- The step of a run is one step of the flag, or none. -/
theorem afterRun_flag {state : State Client} {caller : Caller Client} {request : Object}
    {pc : RunPc} (inside : state.running caller = some { request, pc }) (unfinished : pc ≠ .done)
    (alone : pc = .wait → readDspStatus state.dx.dsp.regDspBase ≠ dspBusy →
      ∀ other own, state.phase other ≠ .decided own) :
    (state.afterRun caller request pc).flag = state.flag ∨
      BusyFlag.Step Job.reqId state.flag (state.afterRun caller request pc).flag := by
  have stands := phase_eq_of_running inside
  cases pc with
  | done => exact absurd rfl unfinished
  | wait =>
    by_cases busy : readDspStatus state.dx.dsp.regDspBase = dspBusy
    · left
      have waits : runNext request state.dx.dsp .wait = .wait := by rw [runNext, if_pos busy]
      refine flag_afterRun_same inside (by simp) (by simp) ?_ rfl ?_
      · rw [waits]
      · rw [waits, leftBy, if_neg (by simp)]
    · right
      have leaves : runNext request state.dx.dsp .wait = .lock := by rw [runNext, if_neg busy]
      have decided : BusyFlag.Step Job.reqId state.flag _ := .decide state.flag caller
        { caller, reqId := request.reqId } stands (decide_eq_false busy) (alone rfl busy)
      have starts : startedBy ({ caller, reqId := request.reqId } : Job Client) .wait = [] := rfl
      rw [flag_afterRun inside, leaves, starts, Multiset.coe_nil, Multiset.zero_add]
      exact decided
  | lock =>
    right
    have marked : BusyFlag.Step Job.reqId state.flag _ := .mark state.flag caller _ stands
    rw [flag_afterRun_inner inside rfl rfl]
    exact marked
  | setId =>
    right
    have published : BusyFlag.Step Job.reqId state.flag _ := .publish state.flag caller _ stands
    rw [flag_afterRun_inner inside rfl rfl]
    exact published
  | slot =>
    left
    exact flag_afterRun_same inside (by simp) (by simp) rfl rfl rfl
  | data msgBufOffset4 i =>
    left
    refine flag_afterRun_same inside (by simp) (by simp) ?_ rfl ?_
    · rw [runNext]
      split <;> rfl
    · rw [leftBy, if_neg (by simp)]
  | head msgBufOffset4 i =>
    by_cases second : i = 1
    · subst second
      right
      have submitted : BusyFlag.Step Job.reqId state.flag _ := .submit state.flag caller
        { caller, reqId := request.reqId } stands
      have handed : (startedBy ({ caller, reqId := request.reqId } : Job Client)
          (.head msgBufOffset4 1) : Multiset (Job Client)) + state.flag.handed =
            { caller, reqId := request.reqId } ::ₘ state.flag.handed := Multiset.singleton_add _ _
      have leaves : leftBy ({ caller, reqId := request.reqId } : Job Client)
          (.head msgBufOffset4 1) (runNext request state.dx.dsp (.head msgBufOffset4 1)) = [] := rfl
      rw [flag_afterRun inside, handed, leaves, List.filterMap_nil, List.append_nil]
      exact submitted
    · left
      refine flag_afterRun_same inside (by simp) (by simp) ?_ ?_ ?_
      · rw [runNext]
        split
        · next more =>
          have first : i = 0 := by omega
          subst first
          rfl
        · next finished => rw [RunPc.phase, RunPc.phase, if_neg finished]
      · rw [startedBy]
        exact fun _ last => second (RunPc.head.inj last).2
      · rw [leftBy, if_neg (by simp)]

/-- The handler releases the flag where it writes status 0, and nowhere else. -/
theorem irqStep_flag {state next : State Client} (moved : state.irqStep state.irq = some next) :
    next.flag = state.flag ∨ BusyFlag.Step Job.reqId state.flag next.flag := by
  cases place : state.irq with
  | idle =>
    rw [place] at moved
    cases moved
  | status0 job | status1 job | load job | clear0 job | clear1 job | event job =>
    left
    rw [place] at moved
    cases moved
    exact flag_congr rfl rfl rfl (by rw [flag, flag, place]; rfl) rfl
  | store job value | wake job =>
    left
    rw [place] at moved
    cases moved
    exact flag_congr rfl rfl rfl (by rw [flag, flag, place]; rfl) (filterMap_append rfl)
  | status job =>
    right
    rw [place] at moved
    cases moved
    have handed : state.flag.handed = job ::ₘ (state.started + state.raised) := by
      rw [flag, place]
      exact (Multiset.add_comm _ _).trans (Multiset.singleton_add _ _)
    have released : BusyFlag.Step Job.reqId state.flag _ := .release state.flag job _ handed
    have idle : ¬ readDspStatus (writeDspStatus state.dx.dsp.regDspBase 0x0) = dspBusy := by
      rw [readDspStatus_writeDspStatus]
      decide
    have held : state.started + state.raised + (IrqPc.event job).held =
        (state.started + state.raised : Multiset (Job Client)) := Multiset.add_zero _
    show BusyFlag.Step _ state.flag
      { busy := readDspStatus (writeDspStatus state.dx.dsp.regDspBase 0x0) = dspBusy
        phase := state.phase
        handed := state.started + state.raised + (IrqPc.event job).held
        tag := state.dx.dsp.reqId
        history := (state.log ++ [Event.released job]).filterMap Event.passage }
    rw [held, decide_eq_false idle, List.filterMap_append]
    exact released

theorem complete_handed {state : State Client} {job : Job Client} (member : job ∈ state.started) :
    ((state.started.erase job : List (Job Client)) : Multiset (Job Client)) +
      (state.raised ++ [job] : List (Job Client)) = state.started + state.raised := by
  rw [Multiset.coe_add, Multiset.coe_add, Multiset.coe_eq_coe]
  calc state.started.erase job ++ (state.raised ++ [job])
      _ |>.Perm (state.started.erase job ++ ([job] ++ state.raised)) :=
        List.perm_append_comm.append_left _
      _ |>.Perm (state.started ++ state.raised) := by
        rw [← List.append_assoc]
        exact ((List.perm_append_singleton _ _).trans
          (List.perm_cons_erase member).symm).append_right _

theorem interrupt_handed {state : State Client} {job : Job Client} (member : job ∈ state.raised) :
    ((state.raised.erase job : List (Job Client)) : Multiset (Job Client)) +
      ([job] : List (Job Client)) = state.raised := by
  rw [Multiset.coe_add, Multiset.coe_eq_coe]
  exact (List.perm_append_singleton _ _).trans (List.perm_cons_erase member).symm

/-! ### The condition, and the runs under it -/

/-- The status is read idle only where no other caller stands between its own idle read and its
write of the busy mark. -/
def CheckedAlone (state : State Client) : Action Client → Prop
  | .run caller =>
    (state.running caller).map Running.pc = some .wait →
      readDspStatus state.dx.dsp.regDspBase ≠ dspBusy →
        ∀ other, (state.running other).map Running.pc ≠ some .lock
  | _ => True

/-- A property of every caller is one of the thread and one of every client. -/
instance {Holds : Caller Client → Prop} [Decidable (Holds .thread)]
    [Decidable (∀ client, Holds (.input client))] : Decidable (∀ caller, Holds caller) :=
  decidable_of_iff (Holds .thread ∧ ∀ client, Holds (.input client))
    ⟨fun both caller => by
      cases caller with
      | thread => exact both.1
      | input client => exact both.2 client,
    fun all => ⟨all _, fun _ => all _⟩⟩

instance [Fintype Client] (state : State Client) (action : Action Client) :
    Decidable (CheckedAlone state action) :=
  match action with
  | .run _ =>
    inferInstanceAs (Decidable
      (_ → _ → ∀ other, (state.running other).map Running.pc ≠ some .lock))
  | .write .. | .writeInput .. | .program .. | .readOutput .. | .writeMem .. | .poll .. | .read ..
  | .client .. | .thread | .stop | .complete .. | .interrupt .. | .irq => isTrue trivial

omit [DecidableEq Client] in
theorem phase_eq_decided {state : State Client} {caller : Caller Client} {job : Job Client}
    (decided : state.phase caller = .decided job) :
    (state.running caller).map Running.pc = some .lock := by
  rw [phase] at decided
  cases inside : state.running caller with
  | none =>
    rw [inside] at decided
    cases decided
  | some frame =>
    rw [inside] at decided
    obtain ⟨request, pc⟩ := frame
    cases pc with
    | lock => rfl
    | wait | setId | slot | done | data => cases decided
    | head msgBufOffset4 i =>
      rw [runningPhase, RunPc.phase] at decided
      split at decided <;> cases decided

/-- Every step of the driver is one step of the flag, or none. -/
theorem step_flag {state next : State Client} {action : Action Client}
    (alone : CheckedAlone state action) (moved : state.step action = some next) :
    next.flag = state.flag ∨ BusyFlag.Step Job.reqId state.flag next.flag := by
  by_cases side : action.clientSide = true
  · exact Or.inl (step_sameDsp side moved).flag
  · cases action with
    | run caller =>
      obtain ⟨request, pc, inside, unfinished, rfl⟩ := runStep_eq_some moved
      refine afterRun_flag inside unfinished fun waits idle other own decided => ?_
      subst waits
      refine alone ?_ idle other (phase_eq_decided decided)
      rw [inside, Option.map_some]
    | complete job =>
      obtain ⟨member, rfl⟩ := complete_eq_some moved
      left
      refine flag_congr rfl rfl rfl ?_ (filterMap_append rfl)
      exact congrArg (· + (state.irq.held : Multiset (Job Client))) (complete_handed member)
    | interrupt job =>
      obtain ⟨idle, member, rfl⟩ := interrupt_eq_some moved
      left
      refine flag_congr rfl rfl rfl ?_ rfl
      show (state.started : Multiset (Job Client)) + _ + ([job] : List (Job Client)) = _
      rw [Multiset.add_assoc, interrupt_handed member, flag, idle, IrqPc.held, Multiset.coe_nil,
        Multiset.add_zero]
    | irq => exact irqStep_flag moved
    | _ => exact absurd rfl side

/-! ### Runs without the condition -/

omit [DecidableEq Client] in
theorem flag_busy {state : State Client} :
    state.flag.busy = true ↔ readDspStatus state.dx.dsp.regDspBase = dspBusy :=
  decide_eq_true_iff

/-- Every step of the driver is one step of the flag, or none, also where several callers have read
the status idle. -/
theorem step_move {state next : State Client} {action : Action Client}
    (moved : state.step action = some next) :
    next.flag = state.flag ∨ BusyFlag.Move Job.reqId state.flag next.flag := by
  by_cases alone : CheckedAlone state action
  · exact (step_flag alone moved).imp_right .step
  · -- The step is an idle read beside other ones.
    right
    cases action with
    | run caller =>
      obtain ⟨request, pc, inside, -, rfl⟩ := runStep_eq_some moved
      rw [CheckedAlone, inside, Option.map_some] at alone
      have waits : pc = .wait := by
        by_contra elsewhere
        exact alone fun stands => absurd (Option.some.inj stands) elsewhere
      have idle : readDspStatus state.dx.dsp.regDspBase ≠ dspBusy :=
        fun busy => alone fun _ other => absurd busy other
      subst waits
      have leaves : runNext request state.dx.dsp .wait = .lock := by rw [runNext, if_neg idle]
      have starts : startedBy ({ caller, reqId := request.reqId } : Job Client) .wait = [] := rfl
      have decided : BusyFlag.Move Job.reqId state.flag _ := .decide state.flag caller
        { caller, reqId := request.reqId } (phase_eq_of_running inside) (decide_eq_false idle)
      rw [flag_afterRun inside, leaves, starts, Multiset.coe_nil, Multiset.zero_add]
      exact decided
    | _ => exact absurd trivial alone

/-- The busy mark is owed its clearing in every run that starts without it. -/
theorem owed_step {state next : State Client} {action : Action Client}
    (owed : state.flag.Owed) (moved : state.step action = some next) : next.flag.Owed := by
  rcases step_move moved with same | stepped
  · rw [same]
    exact owed
  · exact stepped.owed

end State

end DxDsp
