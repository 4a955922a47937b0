/-
This file compares the two ways a request reaches `dx_v3_dsp_run`. `write()`
copies the whole request of 128 bytes into a list entry and the thread runs it;
WRITE_INPUT copies the 80 bytes of another structure to its stack and runs those.
Both are read as a request, so the words of a message behind the 80 bytes come
from whatever the stack holds there.
-/

import DxDsp.WritePath
import DxDsp.MessageSlot
import DxDsp.Library.Observation

namespace DxDsp

open Library

/-! ### What is submitted -/

/-- `copy_from_user(&req, msg->data, sizeof(req))` in `dxrt_write_input`. `stack` is kernel memory
from `req` on, as it was. -/
def dxrtWriteInputRequest (stack user : ByteMemory) : Object := stack.store 0 sizeofDxrtRequest user

/-- `copy_from_user(&(entry->request), buf, len)` in `dxrt_dev_write`, where the length is checked
to be that of a request. `heap` is kernel memory from `entry->request` on, as it was. -/
def dxrtDevWriteRequest (heap user : ByteMemory) : Object :=
  heap.store 0 sizeofDxrtDspRequest user

theorem word_store {memory user : ByteMemory} {size offset : Nat} (inside : offset + 4 ≤ size) :
    (memory.store 0 size user).word offset = user.word offset :=
  ByteMemory.word_eq_iff.mpr fun _ index => ByteMemory.store_of_lt (by omega)

theorem word_store_behind {memory user : ByteMemory} {size offset : Nat} (behind : size ≤ offset) :
    (memory.store 0 size user).word offset = memory.word offset :=
  ByteMemory.word_eq_iff.mpr fun _ _ => ByteMemory.store_of_le (by omega)

section Copies

variable {memory user : ByteMemory} {size : Nat} (front : msgDataOffset ≤ size)

include front

theorem reqId_store : Object.reqId (memory.store 0 size user) = Object.reqId user :=
  word_store (Nat.le_trans (by decide) front)

theorem messageSize_store :
    Object.messageSize (memory.store 0 size user) = Object.messageSize user := by
  have data : msgDataOffset = 12 := rfl
  have offset : messageSizeOffset = 6 := rfl
  rw [Object.messageSize, Object.messageSize, ByteMemory.halfword, ByteMemory.halfword,
    ByteMemory.store_of_lt (by omega), ByteMemory.store_of_lt (by omega)]

theorem dataWords_store : Object.dataWords (memory.store 0 size user) = Object.dataWords user := by
  rw [Object.dataWords, Object.dataWords, messageSize_store front]

theorem headWord_store {i : Nat} (header : i < 2) :
    Object.headWord (memory.store 0 size user) i = Object.headWord user i := by
  have data : msgDataOffset = 12 := rfl
  have offset : msgHeaderOffset = 4 := rfl
  exact word_store (by omega)

end Copies

/-! ### The writes of a run -/

/-- The access is a write to a register or to the SRAM. -/
def Access.toDevice : Access → Bool
  | .writeStatus _ | .writeSram _ _ => true
  | .readStatus | .storeReqId _ | .loadReqId | .readObject _ => false

/-- The register and SRAM writes of `dx_v3_dsp_run`. -/
def deviceWrites (object : Object) : List Access := (dxV3DspRun object).filter Access.toDevice

theorem filter_flatMap_pair (read write : Nat → Access) (reads : ∀ i, (read i).toDevice = false)
    (writes : ∀ i, (write i).toDevice = true) (indices : List Nat) :
    (indices.flatMap fun i => [read i, write i]).filter Access.toDevice = indices.map write := by
  induction indices with
  | nil => rfl
  | cons i rest inductionHypothesis =>
    rw [List.flatMap_cons, List.filter_append, inductionHypothesis, List.map_cons,
      List.filter_cons_of_neg (by simp [reads]), List.filter_cons_of_pos (writes i)]
    rfl

theorem deviceWrites_eq (object : Object) :
    deviceWrites object =
      .writeStatus dspBusy ::
        (List.range object.dataWords).map (fun i => writeDspMsgData (object.dataWord i)
          (messageMaxSize / 4 * object.reqId + UInt32.ofNat i)) ++
        (List.range 2).map fun i => writeDspMsgHead (object.headWord i)
          (messageMaxSize / 4 * object.reqId + UInt32.ofNat i) := by
  have data := filter_flatMap_pair (fun i => .readObject (msgDataOffset + 4 * i))
    (fun i => writeDspMsgData (object.dataWord i)
      (messageMaxSize / 4 * object.reqId + UInt32.ofNat i)) (fun _ => rfl) (fun _ => rfl)
    (List.range object.dataWords)
  have head := filter_flatMap_pair (fun i => .readObject (msgHeaderOffset + 4 * i))
    (fun i => writeDspMsgHead (object.headWord i)
      (messageMaxSize / 4 * object.reqId + UInt32.ofNat i)) (fun _ => rfl) (fun _ => rfl)
    (List.range 2)
  rw [deviceWrites, dxV3DspRun, List.filter_append, List.filter_append]
  exact congrArg₂ (· ++ ·) (congrArg (_ :: ·) data) head

/-- The front of a copied request is the user's, so only the payload words may differ. -/
theorem deviceWrites_store {memory user : ByteMemory} {size : Nat} (front : msgDataOffset ≤ size) :
    deviceWrites (memory.store 0 size user) =
      .writeStatus dspBusy ::
        (List.range (Object.dataWords user)).map (fun i =>
          writeDspMsgData (Object.dataWord (memory.store 0 size user) i)
            (messageMaxSize / 4 * Object.reqId user + UInt32.ofNat i)) ++
        (List.range 2).map fun i => writeDspMsgHead (Object.headWord user i)
          (messageMaxSize / 4 * Object.reqId user + UInt32.ofNat i) := by
  rw [deviceWrites_eq, dataWords_store front, reqId_store front, List.append_right_inj,
    List.map_inj_left]
  intro i header
  rw [headWord_store front (List.mem_range.mp header)]

/-- Where the shorter copy ends, in payload words. -/
def inputWords : Nat := (sizeofDxrtRequest - msgDataOffset) / 4

/-- The stack behind the shorter copy holds the user's words, as far as the message reaches. -/
def StackHoldsRest (stack user : ByteMemory) : Prop :=
  ∀ i, inputWords ≤ i → i < Object.dataWords user →
    Object.dataWord stack i = Object.dataWord user i

theorem deviceWrites_eq_iff {stack heap user : ByteMemory}
    (fits : (Object.messageSize user).toNat ≤ 116) :
    deviceWrites (dxrtWriteInputRequest stack user) =
        deviceWrites (dxrtDevWriteRequest heap user) ↔ StackHoldsRest stack user := by
  have words : Object.dataWords user = (Object.messageSize user).toNat / 4 := rfl
  have data : msgDataOffset = 12 := rfl
  have request : sizeofDxrtRequest = 80 := rfl
  have dspRequest : sizeofDxrtDspRequest = 128 := rfl
  have input : inputWords = 17 := rfl
  have writeCopies : ∀ i < Object.dataWords user,
      Object.dataWord (heap.store 0 sizeofDxrtDspRequest user) i = Object.dataWord user i :=
    fun i inside => word_store (by omega)
  have inputCopies : ∀ i < inputWords,
      Object.dataWord (stack.store 0 sizeofDxrtRequest user) i = Object.dataWord user i :=
    fun i inside => word_store (by omega)
  have inputLeaves : ∀ i, inputWords ≤ i →
      Object.dataWord (stack.store 0 sizeofDxrtRequest user) i = Object.dataWord stack i :=
    fun i behind => word_store_behind (by omega)
  rw [dxrtWriteInputRequest, dxrtDevWriteRequest, deviceWrites_store (by decide),
    deviceWrites_store (by decide), List.append_left_inj, List.cons_inj_right, List.map_inj_left]
  constructor
  · intro same i behind inside
    have word := (Access.writeSram.inj (same i (List.mem_range.mpr inside))).2
    rwa [inputLeaves i behind, writeCopies i inside] at word
  · intro rest i member
    have inside := List.mem_range.mp member
    rw [writeCopies i inside]
    by_cases copied : i < inputWords
    · rw [inputCopies i copied]
    · rw [inputLeaves i (by omega), rest i (by omega) inside]

/-! ### Runs of the driver -/

theorem RunsAlone.eq_nil {object : Object} {dsp after : Dxdsp} {accesses : List Access}
    {final : RunPc} (alone : RunsAlone object .done dsp accesses final after) : accesses = [] := by
  generalize start : RunPc.done = pc at alone
  induction alone with
  | refl => rfl
  | step _ inductionHypothesis =>
    subst start
    exact inductionHypothesis rfl

/-- The accesses of an undisturbed run to its end are determined. -/
theorem RunsAlone.unique {object : Object} {pc : RunPc} {dsp after otherAfter : Dxdsp}
    {accesses others : List Access} (alone : RunsAlone object pc dsp accesses .done after)
    (other : RunsAlone object pc dsp others .done otherAfter) : accesses = others := by
  generalize finish : RunPc.done = final at alone
  induction alone generalizing others with
  | refl =>
    subst finish
    exact other.eq_nil.symm
  | step rest inductionHypothesis =>
    cases other with
    | refl => exact (RunsAlone.step rest).eq_nil
    | step otherRest => rw [inductionHypothesis otherRest finish]

/-- The thread serves no entry. -/
def ThreadPc.betweenEntries : ThreadPc → Bool
  | .running _ _ | .unlink _ => false
  | .loop | .wait | .waitStop | .woken | .head | .free _ | .exited | .headOfEmpty => true

theorem ThreadPc.frame_of_betweenEntries {pc : ThreadPc} (between : pc.betweenEntries = true) :
    pc.frame = none := by
  cases pc with
  | running entry pc => cases between
  | _ => rfl

variable {Client : Type} [DecidableEq Client]

namespace State

/-- The writes of the step that a run makes next. -/
def noteWrites (state : State Client) : Action Client → Option (List Access)
  | .run caller => (state.running caller).map fun running =>
    (runAccesses running.request running.pc).filter Access.toDevice
  | _ => none

/-- The register and SRAM writes that `dx_v3_dsp_run` makes under a list of actions. -/
def writesOf (state : State Client) (actions : List (Action Client)) : List Access :=
  ((driver Client).notes noteWrites state actions).flatten

theorem writesOf_cons {state next : State Client} {action : Action Client}
    (quiet : state.noteWrites action = none)
    (moved : (driver Client).step state action = some next) (rest : List (Action Client)) :
    state.writesOf (action :: rest) = next.writesOf rest := by
  rw [writesOf, Machine.notes_cons moved, quiet]
  rfl

/-- What one caller's steps in a row write, when no one else acts. -/
theorem runsAlone_of_replicate {state final : State Client} {caller : Caller Client}
    {request : Object} {pc : RunPc} (inside : state.running caller = some { request, pc })
    {steps : Nat} (ran : (driver Client).run (fun _ _ => True) state
      (List.replicate steps (.run caller)) = some final) :
    ∃ accesses last, RunsAlone request pc state.dx.dsp accesses last final.dx.dsp ∧
      final.running caller = some { request, pc := last } ∧
      state.writesOf (List.replicate steps (.run caller)) =
        accesses.filter Access.toDevice := by
  induction steps generalizing state pc with
  | zero =>
    rw [List.replicate_zero, Machine.run, Option.some_inj] at ran
    subst ran
    exact ⟨[], pc, .refl _ _, inside, rfl⟩
  | succ steps inductionHypothesis =>
    rw [List.replicate_succ] at ran ⊢
    obtain ⟨next, -, moved, later⟩ := Machine.run_cons_eq_some ran
    obtain ⟨own, stands, runs, -, rfl⟩ := runStep_eq_some moved
    cases inside.symm.trans runs
    obtain ⟨accesses, last, alone, ends, writes⟩ :=
      inductionHypothesis (running_afterRun inside ▸ Function.update_self ..) later
    refine ⟨_, last, .step alone, ends, ?_⟩
    rw [writesOf, Machine.notes_cons moved, noteWrites, inside, List.filter_append, ← writes]
    rfl

/-- A list of actions brings the run of a request under a caller to its end. -/
def Serves (state : State Client) (actions : List (Action Client)) (caller : Caller Client)
    (request : Object) : Prop :=
  ∃ final, (driver Client).run (fun _ _ => True) state actions = some final ∧
    final.running caller = some { request, pc := .done }

/-- From the begin of its run to the end a caller on an idle DSP makes the writes of
`dx_v3_dsp_run`. -/
theorem writesOf_replicate {state : State Client} {caller : Caller Client} {request : Object}
    (idle : readDspStatus state.dx.dsp.regDspBase ≠ dspBusy)
    (inside : state.running caller = some { request, pc := .wait }) {steps : Nat}
    (serves : state.Serves (List.replicate steps (.run caller)) caller request) :
    state.writesOf (List.replicate steps (.run caller)) = deviceWrites request := by
  obtain ⟨final, ran, ended⟩ := serves
  obtain ⟨accesses, last, alone, ends, writes⟩ := runsAlone_of_replicate inside ran
  cases ends.symm.trans ended
  rw [writes, alone.unique (runsAlone_dxV3DspRun request state.dx.dsp idle), deviceWrites]

/-- An undisturbed run is one that the driver can make. -/
theorem exists_run_replicate {caller : Caller Client} {request : Object} {pc : RunPc}
    {dsp after : Dxdsp} {accesses : List Access}
    (alone : RunsAlone request pc dsp accesses .done after) :
    ∀ state : State Client, state.dx.dsp = dsp → state.running caller = some { request, pc } →
      ∃ steps, state.Serves (List.replicate steps (.run caller)) caller request := by
  generalize finish : RunPc.done = final at alone
  induction alone with
  | refl pc dsp =>
    intro state _ inside
    subst finish
    exact ⟨0, state, rfl, inside⟩
  | @step pc final dsp after accesses rest inductionHypothesis =>
    intro state same inside
    by_cases ended : pc = .done
    · subst ended
      exact ⟨0, state, rfl, inside⟩
    · subst same
      have moved : (driver Client).step state (.run caller) =
          some (state.afterRun caller request pc) := by
        show state.runStep caller = _
        rw [runStep, inside]
        exact if_neg ended
      obtain ⟨steps, last, ran, serves⟩ := inductionHypothesis finish
        (state.afterRun caller request pc) rfl (running_afterRun inside ▸ Function.update_self ..)
      refine ⟨steps + 1, last, ?_, serves⟩
      rw [List.replicate_succ, Machine.run, if_pos trivial, moved]
      exact ran

/-- A call of WRITE_INPUT with the run that it makes. -/
def inputActions (client : Client) (request : Object) (steps : Nat) : List (Action Client) :=
  .writeInput client (.holds request) :: List.replicate steps (.run (.input client))

theorem writesOf_inputActions {state : State Client} {client : Client} {request : Object}
    {steps : Nat} (idle : readDspStatus state.dx.dsp.regDspBase ≠ dspBusy)
    (serves : state.Serves (inputActions client request steps) (.input client) request) :
    state.writesOf (inputActions client request steps) = deviceWrites request := by
  obtain ⟨final, ran, ended⟩ := serves
  rw [inputActions] at ran ⊢
  obtain ⟨next, -, moved, later⟩ := Machine.run_cons_eq_some ran
  obtain ⟨-, rfl⟩ := whenIdle_eq_some moved
  have entered : (state.beginInput client (.holds request)).running (.input client) =
      some { request, pc := .wait } := by
    rw [beginInput, running_setCall, Function.update_self]
    rfl
  have still : readDspStatus (state.beginInput client (.holds request)).dx.dsp.regDspBase ≠
      dspBusy := idle
  rw [writesOf_cons rfl moved]
  exact writesOf_replicate still entered ⟨final, later, ended⟩

theorem exists_serves_inputActions {state : State Client} {client : Client} (request : Object)
    (idle : readDspStatus state.dx.dsp.regDspBase ≠ dspBusy) (free : state.calls client = .idle) :
    ∃ steps, state.Serves (inputActions client request steps) (.input client) request := by
  have entered : (state.beginInput client (.holds request)).running (.input client) =
      some { request, pc := .wait } := by
    rw [beginInput, running_setCall, Function.update_self]
    rfl
  have moved : (driver Client).step state (.writeInput client (.holds request)) =
      some (state.beginInput client (.holds request)) := by
    show state.whenIdle client _ = _
    rw [whenIdle, free]
  obtain ⟨steps, final, ran, serves⟩ := exists_run_replicate
    (runsAlone_dxV3DspRun request state.dx.dsp idle) (state.beginInput client (.holds request))
    rfl entered
  refine ⟨steps, final, ?_, serves⟩
  rw [inputActions, Machine.run, if_pos trivial, moved]
  exact ran

/-- A call of `write()`, and the thread that wakes and runs the entry. -/
def writeActions (client : Client) (node : Nat) (request : Object) (wakes steps : Nat) :
    List (Action Client) :=
  .write client (some node) sizeofDxrtDspRequest (some request) :: .client client false ::
    .client client false :: (List.replicate wakes .thread ++ List.replicate steps (.run .thread))

/-- The thread is about to run this entry or none, and the device is as given. -/
structure About (entry : DxrtRequestList) (dsp : Dxdsp) (state : State Client) : Prop where
  requests : state.dx.requests = [entry]
  dsp : state.dx.dsp = dsp
  thread : state.thread.betweenEntries = true ∨ state.thread = .running entry .wait

omit [DecidableEq Client] in
theorem About.step {entry : DxrtRequestList} {dsp : Dxdsp} {state next : State Client}
    (about : About entry dsp state) (moved : state.threadStep state.thread = some next) :
    About entry dsp next := by
  rcases about.thread with between | serving
  · cases place : state.thread with
    | running own pc | unlink own =>
      rw [place] at between
      cases between
    | exited | headOfEmpty =>
      rw [place] at moved
      cases moved
    | loop | wait | waitStop | woken | free =>
      rw [place] at moved
      cases moved
      refine ⟨about.requests, about.dsp, Or.inl ?_⟩
      first | rfl | (show ThreadPc.betweenEntries (if _ then _ else _) = true; split <;> rfl)
    | head =>
      rw [place, threadStep, about.requests] at moved
      cases moved
      exact ⟨about.requests, about.dsp, Or.inr rfl⟩
  · rw [serving] at moved
    cases moved

/-- Waking steps of the thread lead to the run of the entry without a write. -/
theorem About.wakes {entry : DxrtRequestList} {dsp : Dxdsp} {state final : State Client}
    (about : About entry dsp state) {wakes : Nat} {later : List (Action Client)}
    (ran : (driver Client).run (fun _ _ => True) state (List.replicate wakes .thread ++ later) =
      some final) :
    ∃ middle, About entry dsp middle ∧
      (driver Client).run (fun _ _ => True) middle later = some final ∧
      state.writesOf (List.replicate wakes .thread ++ later) = middle.writesOf later := by
  induction wakes generalizing state with
  | zero => exact ⟨state, about, ran, rfl⟩
  | succ wakes inductionHypothesis =>
    rw [List.replicate_succ, List.cons_append] at ran ⊢
    obtain ⟨next, -, moved, rest⟩ := Machine.run_cons_eq_some ran
    obtain ⟨middle, still, later, writes⟩ := inductionHypothesis (about.step moved) rest
    exact ⟨middle, still, later, (writesOf_cons rfl moved _).trans writes⟩

/-- The call of `write()` in front leaves its entry as the only one. -/
theorem about_writeActions {state final : State Client} {client : Client} {node : Nat}
    {request : Object} {later : List (Action Client)} (empty : state.dx.requests = [])
    (between : state.thread.betweenEntries = true)
    (ran : (driver Client).run (fun _ _ => True) state
      (.write client (some node) sizeofDxrtDspRequest (some request) :: .client client false ::
        .client client false :: later) = some final) :
    ∃ queued, About { node, request } state.dx.dsp queued ∧
      (driver Client).run (fun _ _ => True) queued later = some final ∧
      state.writesOf (.write client (some node) sizeofDxrtDspRequest (some request) ::
        .client client false :: .client client false :: later) = queued.writesOf later := by
  obtain ⟨prepared, -, begins, ran⟩ := Machine.run_cons_eq_some ran
  obtain ⟨queued, -, queues, ran⟩ := Machine.run_cons_eq_some ran
  obtain ⟨returned, -, returns, ran⟩ := Machine.run_cons_eq_some ran
  have writes := (writesOf_cons rfl begins _).trans
    ((writesOf_cons rfl queues _).trans (writesOf_cons rfl returns later))
  refine ⟨returned, ?_, ran, writes⟩
  obtain ⟨idle, rfl⟩ := whenIdle_eq_some begins
  cases handler : state.dx.requestHandler with
  | false =>
    have refused : state.beginWrite client (some node) sizeofDxrtDspRequest (some request) =
        state.record (.writeRefused client 0) := by
      rw [beginWrite, dxrtDevWritePrepare, handler]
      rfl
    rw [refused] at queues
    have stays : (state.record (.writeRefused client 0)).calls client = .idle := idle
    have moved : (state.record (.writeRefused client 0)).clientStep client false
        ((state.record (.writeRefused client 0)).calls client) = some queued := queues
    rw [stays] at moved
    cases moved
  | true =>
    have accepted : state.beginWrite client (some node) sizeofDxrtDspRequest (some request) =
        state.setCall client (.queue { node, request }) := by
      rw [beginWrite, dxrtDevWritePrepare, handler]
      rfl
    rw [accepted] at queues
    have inside : (state.setCall client (.queue { node, request })).calls client =
        .queue { node, request } := Function.update_self ..
    have moved : (state.setCall client (.queue { node, request })).clientStep client false
        ((state.setCall client (.queue { node, request })).calls client) = some queued := queues
    rw [inside] at moved
    injection moved with moved
    have calls : queued.calls client = .wake request.reqId := by
      rw [← moved]
      exact Function.update_self ..
    have left : queued.clientStep client false (queued.calls client) = some returned := returns
    rw [calls] at left
    injection left with left
    rw [← left, ← moved]
    exact ⟨by simp [setCall, record, empty], rfl, Or.inl between⟩

theorem writesOf_writeActions {state : State Client} {client : Client} {node : Nat}
    {request : Object} {wakes steps : Nat}
    (idle : readDspStatus state.dx.dsp.regDspBase ≠ dspBusy) (empty : state.dx.requests = [])
    (between : state.thread.betweenEntries = true)
    (serves : state.Serves (writeActions client node request wakes steps) .thread request) :
    state.writesOf (writeActions client node request wakes steps) = deviceWrites request := by
  obtain ⟨final, ran, ended⟩ := serves
  obtain ⟨queued, about, ran, writes⟩ := about_writeActions empty between ran
  obtain ⟨woken, about, ran, quiet⟩ := about.wakes ran
  have still : readDspStatus woken.dx.dsp.regDspBase ≠ dspBusy := by
    rw [about.dsp]
    exact idle
  rw [writeActions, writes, quiet]
  rcases about.thread with resting | serving
  · have outside : woken.running .thread = none :=
      ThreadPc.frame_of_betweenEntries resting
    cases steps with
    | zero =>
      rw [List.replicate_zero, Machine.run, Option.some_inj] at ran
      rw [← ran, outside] at ended
      cases ended
    | succ steps =>
      rw [List.replicate_succ] at ran
      obtain ⟨next, -, moved, -⟩ := Machine.run_cons_eq_some ran
      obtain ⟨own, pc, runs, -⟩ := runStep_eq_some moved
      cases outside.symm.trans runs
  · have inside : woken.running .thread = some { request, pc := .wait } := by
      rw [running, serving]
      rfl
    exact writesOf_replicate still inside ⟨final, ran, ended⟩

omit [DecidableEq Client] in
/-- On an empty list the thread serves no entry. -/
theorem ThreadHolds.betweenEntries {state : State Client} (holds : ThreadHolds state)
    (empty : state.dx.requests = []) : state.thread.betweenEntries = true := by
  rw [ThreadHolds, empty] at holds
  cases place : state.thread with
  | running entry pc | unlink entry =>
    rw [place] at holds
    cases holds
  | _ => rfl

end State

/-- With an idle DSP and an empty list, WRITE_INPUT and `write()` with the thread make the same
register and SRAM writes from one user buffer exactly when the stack behind the copy of WRITE_INPUT
holds the rest of the message. -/
theorem submissions_agree_iff {state : State Client} {client : Client} {node : Nat}
    {user stack heap : ByteMemory} {inputSteps wakes writeSteps : Nat}
    (reached : (driver Client).Reaches (fun _ _ => True) state)
    (idle : readDspStatus state.dx.dsp.regDspBase ≠ dspBusy) (empty : state.dx.requests = [])
    (fits : (Object.messageSize user).toNat ≤ 116)
    (input : state.Serves
      (State.inputActions client (dxrtWriteInputRequest stack user) inputSteps) (.input client)
      (dxrtWriteInputRequest stack user))
    (write : state.Serves
      (State.writeActions client node (dxrtDevWriteRequest heap user) wakes writeSteps) .thread
      (dxrtDevWriteRequest heap user)) :
    state.writesOf (State.inputActions client (dxrtWriteInputRequest stack user) inputSteps) =
        state.writesOf
          (State.writeActions client node (dxrtDevWriteRequest heap user) wakes writeSteps) ↔
      StackHoldsRest stack user := by
  have holds : State.ThreadHolds state :=
    reached.invariant (by rintro _ ⟨dsp, rfl⟩; trivial) fun _ _ _ holds _ moved => holds.step moved
  rw [State.writesOf_inputActions idle input,
    State.writesOf_writeActions idle empty (holds.betweenEntries empty) write]
  exact deviceWrites_eq_iff fits

/-! ### On the board -/

/-- The board behind a probe, with one client. -/
def probedBoard : State (Fin 1) := .initial boardDsp

theorem probedBoard_idle : readDspStatus probedBoard.dx.dsp.regDspBase ≠ dspBusy := by decide

theorem probedBoard_free : probedBoard.calls 0 = .idle := rfl

namespace State

/-- Behind a probe one client's `write()` wakes the thread, which runs the entry. -/
theorem exists_serves_board (request : Object) :
    ∃ steps, probedBoard.Serves (writeActions 0 1 request 4 steps) .thread
      request := by
  obtain ⟨woken, ran, dsp, inside⟩ : ∃ woken : State (Fin 1),
      (driver (Fin 1)).run (fun _ _ => True) probedBoard
        (writeActions 0 1 request 4 0) = some woken ∧
      woken.dx.dsp = (createDxrtDevice boardDsp).dsp ∧
      woken.running .thread = some { request, pc := .wait } := ⟨_, rfl, rfl, rfl⟩
  have idle : readDspStatus woken.dx.dsp.regDspBase ≠ dspBusy := by
    rw [dsp]
    decide
  obtain ⟨steps, final, later, serves⟩ :=
    exists_run_replicate (runsAlone_dxV3DspRun request _ idle) woken rfl inside
  have split : writeActions (0 : Fin 1) 1 request 4 steps =
      writeActions 0 1 request 4 0 ++ List.replicate steps (.run .thread) := by
    simp [writeActions]
  exact ⟨steps, final, split ▸ Machine.run_append ran later, serves⟩

end State

/-- A message of 72 bytes whose last payload word is 1. -/
def longMessage : ByteMemory := fun index => if index = 80 then 1 else requestBytes 1 72 index

/-- Behind a probe both submissions of a user buffer are served. -/
theorem exists_serves_both (stack user : ByteMemory) :
    ∃ inputSteps writeSteps,
      probedBoard.Serves (State.inputActions 0 (dxrtWriteInputRequest stack user) inputSteps)
        (.input 0) (dxrtWriteInputRequest stack user) ∧
      probedBoard.Serves
        (State.writeActions 0 1 (dxrtDevWriteRequest (fun _ => 0) user) 4 writeSteps) .thread
        (dxrtDevWriteRequest (fun _ => 0) user) := by
  obtain ⟨inputSteps, input⟩ := State.exists_serves_inputActions
    (dxrtWriteInputRequest stack user) probedBoard_idle probedBoard_free
  obtain ⟨writeSteps, write⟩ := State.exists_serves_board (dxrtDevWriteRequest (fun _ => 0) user)
  exact ⟨inputSteps, writeSteps, input, write⟩

/-- Over a stack that holds the rest of the message both make the same writes. -/
theorem submissions_agree_filled_stack :
    ∃ inputSteps writeSteps,
      probedBoard.Serves
        (State.inputActions 0 (dxrtWriteInputRequest longMessage longMessage) inputSteps)
        (.input 0) (dxrtWriteInputRequest longMessage longMessage) ∧
      probedBoard.Serves
        (State.writeActions 0 1 (dxrtDevWriteRequest (fun _ => 0) longMessage) 4 writeSteps)
        .thread (dxrtDevWriteRequest (fun _ => 0) longMessage) ∧
      probedBoard.writesOf
          (State.inputActions 0 (dxrtWriteInputRequest longMessage longMessage) inputSteps) =
        probedBoard.writesOf
          (State.writeActions 0 1 (dxrtDevWriteRequest (fun _ => 0) longMessage) 4
            writeSteps) := by
  obtain ⟨inputSteps, writeSteps, input, write⟩ := exists_serves_both longMessage longMessage
  exact ⟨inputSteps, writeSteps, input, write,
    (submissions_agree_iff (.start ⟨boardDsp, rfl⟩) probedBoard_idle rfl (by decide) input
      write).mpr fun _ _ _ => rfl⟩

/-- Over a stack of zeroes the eighteenth payload word differs. -/
theorem submissions_differ :
    ∃ inputSteps writeSteps,
      probedBoard.Serves
        (State.inputActions 0 (dxrtWriteInputRequest (fun _ => 0) longMessage) inputSteps)
        (.input 0) (dxrtWriteInputRequest (fun _ => 0) longMessage) ∧
      probedBoard.Serves
        (State.writeActions 0 1 (dxrtDevWriteRequest (fun _ => 0) longMessage) 4 writeSteps)
        .thread (dxrtDevWriteRequest (fun _ => 0) longMessage) ∧
      probedBoard.writesOf
          (State.inputActions 0 (dxrtWriteInputRequest (fun _ => 0) longMessage) inputSteps) ≠
        probedBoard.writesOf
          (State.writeActions 0 1 (dxrtDevWriteRequest (fun _ => 0) longMessage) 4
            writeSteps) := by
  obtain ⟨inputSteps, writeSteps, input, write⟩ := exists_serves_both (fun _ => 0) longMessage
  refine ⟨inputSteps, writeSteps, input, write, ?_⟩
  rw [State.writesOf_inputActions probedBoard_idle input,
    State.writesOf_writeActions probedBoard_idle rfl rfl write]
  intro same
  have rest := (deviceWrites_eq_iff (by decide)).mp same
  exact absurd (rest 17 (by decide) (by decide)) (by decide)

end DxDsp
