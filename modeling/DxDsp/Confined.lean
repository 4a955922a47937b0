/-
This file carries the bounds of a single run of `dx_v3_dsp_run` over to the driver
at work. A caller stores its message at the id that it reads back from
`dsp->req_id`, which may be the id of another caller: so as long as every submitted
request names one of the sixteen slots, every store lands in one of them, though
not in the caller's own. It is the own slot where the status is read idle by one
caller at a time.
-/

import DxDsp.InFlight
import DxDsp.MessageSlot
import DxDsp.Requests

namespace DxDsp

open Library

variable {Client : Type} [DecidableEq Client]

namespace State

/-- Only the store of a caller changes `dsp->req_id`. -/
theorem step_reqId {state next : State Client} {action : Action Client}
    (moved : state.step action = some next) :
    next.dx.dsp.reqId = state.dx.dsp.reqId ∨
      ∃ user request, state.running user = some { request, pc := .setId } ∧
        next.dx.dsp.reqId = request.reqId := by
  by_cases side : action.clientSide = true
  · exact Or.inl (step_sameDsp side moved).tag
  · cases action with
    | run user =>
      obtain ⟨request, pc, inside, -, rfl⟩ := runStep_eq_some moved
      by_cases setId : pc = .setId
      · subst setId
        exact Or.inr ⟨user, request, inside, rfl⟩
      · left
        by_cases lock : pc = .lock
        · rw [lock]
          rfl
        · obtain ⟨sram, effect⟩ := runEffect_sram request state.dx.dsp lock setId
          show (runEffect request state.dx.dsp pc).reqId = _
          rw [effect]
    | complete job =>
      obtain ⟨-, rfl⟩ := complete_eq_some moved
      exact Or.inl rfl
    | interrupt job =>
      obtain ⟨-, -, rfl⟩ := interrupt_eq_some moved
      exact Or.inl rfl
    | irq =>
      rw [step] at moved
      cases place : state.irq <;> rw [place] at moved <;> cases moved <;> exact Or.inl rfl
    | _ => exact absurd rfl side

/-- The id that a caller stores is its own. -/
theorem reqId_of_setId {state next : State Client} {caller : Caller Client} {request : Object}
    (moved : state.step (.run caller) = some next)
    (stands : state.running caller = some { request, pc := .setId }) :
    next.dx.dsp.reqId = request.reqId := by
  obtain ⟨own, pc, inside, -, rfl⟩ := runStep_eq_some moved
  rw [stands] at inside
  cases inside
  rfl

end State

/-! ### Where the stores land -/

/-- The slot that a caller in its two loops has chosen, in words. -/
def RunPc.slotOffset : RunPc → Option UInt32
  | .data msgBufOffset4 _ | .head msgBufOffset4 _ => some msgBufOffset4
  | .wait | .lock | .setId | .slot | .done => none

/-- The next step of a run stores into the slot of the id only. -/
def StoresInside (request : Object) (pc : RunPc) (reqId : UInt32) : Prop :=
  ∀ addr val, .writeSram addr val ∈ runAccesses request pc →
    Set.Ico addr.toNat (addr.toNat + 4) ⊆ messageSlot reqId

theorem StoresInside.of_slotOffset {request : Object} {pc : RunPc} {reqId : UInt32}
    (fits : request.messageSize.toNat ≤ 116) (mapped : reqId.toNat < 16)
    (chosen : ∀ offset, pc.slotOffset = some offset → runAccesses request pc ≠ [] →
      offset = messageMaxSize / 4 * reqId) :
    StoresInside request pc reqId := by
  have words : request.dataWords = request.messageSize.toNat / 4 := rfl
  have gap : (8 : UInt32).toNat = 8 := rfl
  have none : (0 : UInt32).toNat = 0 := rfl
  intro addr val stores
  cases pc with
  | wait | lock | setId | slot | done => simp [runAccesses] at stores
  | data msgBufOffset4 i =>
    obtain rfl := chosen _ rfl (List.ne_nil_of_mem stores)
    rw [runAccesses] at stores
    split at stores
    · simp only [dataAccesses, writeDspMsgData, List.mem_cons, reduceCtorEq, Access.writeSram.injEq,
        List.not_mem_nil, or_false, false_or] at stores
      exact word_subset_messageSlot mapped (by omega) stores.1
    · cases stores
  | head msgBufOffset4 i =>
    obtain rfl := chosen _ rfl (List.ne_nil_of_mem stores)
    rw [runAccesses] at stores
    split at stores
    · simp only [headAccesses, writeDspMsgHead, List.mem_cons, reduceCtorEq, Access.writeSram.injEq,
        List.not_mem_nil, or_false, false_or] at stores
      have unshifted := stores.1.trans (UInt32.add_zero _).symm
      exact word_subset_messageSlot mapped (by omega) unshifted
    · cases stores

theorem eq_setId_of_runNext {request : Object} {dsp : Dxdsp} {pc : RunPc}
    (slot : runNext request dsp pc = .slot) : pc = .setId := by
  cases pc with
  | setId => rfl
  | wait | data | head =>
    rw [runNext] at slot
    split at slot <;> cases slot
  | lock | slot | done => cases slot

/-- The slot is chosen once, by the id that is read back. -/
theorem slotOffset_runNext {request : Object} {dsp : Dxdsp} {pc : RunPc} {offset : UInt32}
    (chosen : (runNext request dsp pc).slotOffset = some offset) :
    pc.slotOffset = some offset ∨ pc = .slot ∧ offset = messageMaxSize / 4 * dsp.reqId := by
  cases pc with
  | slot => exact Or.inr ⟨rfl, (Option.some.inj chosen).symm⟩
  | data | head =>
    rw [runNext] at chosen
    split at chosen
    · exact Or.inl chosen
    · first
      | exact Or.inl chosen
      | cases chosen
  | wait =>
    rw [runNext] at chosen
    split at chosen <;> cases chosen
  | lock | setId | done => cases chosen

namespace State

/-- Every request in the driver fits, and every caller that has read back an id, or is about to, has
one of the sixteen. -/
structure Slotted (state : State Client) : Prop where
  requests : Requests Object.Fits state
  published : ∀ caller request, state.running caller = some { request, pc := .slot } →
    state.dx.dsp.reqId.toNat < 16
  chosen : ∀ caller request pc offset, state.running caller = some { request, pc } →
    pc.slotOffset = some offset →
      ∃ reqId : UInt32, reqId.toNat < 16 ∧ offset = messageMaxSize / 4 * reqId

omit [DecidableEq Client] in
/-- What a request has to meet that a harmless step submits. -/
theorem Benign.brings {state : State Client} {action : Action Client}
    (benign : state.Benign action) (request : Object) (brings : action.brings = some request) :
    request.Fits := by
  cases action with
  | write client node len data =>
    cases data with
    | none => cases brings
    | some own =>
      cases brings
      exact benign
  | writeInput client data =>
    cases data with
    | null | fault => cases brings
    | holds own =>
      cases brings
      exact benign
  | _ => cases brings

theorem Slotted.step {state next : State Client} {action : Action Client}
    (slotted : Slotted state) (benign : state.Benign action)
    (moved : state.step action = some next) : Slotted next where
  requests := slotted.requests.step benign.brings moved
  published caller request inside := by
    rcases running_step moved inside with wait | ⟨-, before⟩ | ⟨rfl, own, before, slot⟩
    · cases wait
    · rcases step_reqId moved with same | ⟨user, own, stands, stored⟩
      · rw [same]
        exact slotted.published caller request before
      · rw [stored]
        exact (slotted.requests.running stands).1
    · obtain rfl := eq_setId_of_runNext slot.symm
      rw [reqId_of_setId moved before]
      exact (slotted.requests.running before).1
  chosen caller request pc offset inside slot := by
    rcases running_step moved inside with rfl | ⟨-, before⟩ | ⟨rfl, own, before, rfl⟩
    · cases slot
    · exact slotted.chosen caller request pc offset before slot
    · rcases slotOffset_runNext slot with same | ⟨rfl, rfl⟩
      · exact slotted.chosen caller request own offset before same
      · exact ⟨state.dx.dsp.reqId, slotted.published caller request before, rfl⟩

theorem Slotted.of_reaches {state : State Client} (reached : (driver Client).Reaches Benign state) :
    Slotted state := by
  induction reached with
  | start begins =>
    obtain ⟨dsp, rfl⟩ := begins
    refine ⟨⟨nofun, nofun, nofun⟩, fun caller request inside => ?_,
      fun caller request pc offset inside => ?_⟩
    · cases caller <;> cases inside
    · cases caller <;> cases inside
  | step _ benign moved inductionHypothesis => exact inductionHypothesis.step benign moved

end State

/-- Where every submitted request names one of the sixteen slots and has a message of at most 116
bytes: whatever callers are inside `dx_v3_dsp_run` at once, every word that one of them stores lies
in one of the sixteen slots, and so in the mapped SRAM; and in a run in which the status is read
idle by one caller at a time it lies in the slot of the caller's own request. -/
theorem stores_confined {state : State Client}
    (reached : (driver Client).Reaches State.Benign state) {caller : Caller Client}
    {request : Object} {pc : RunPc} (stands : state.running caller = some { request, pc }) :
    (∃ reqId, StoresInside request pc reqId ∧ messageSlot reqId ⊆ Set.Ico 0 sramMappedSize) ∧
      ((driver Client).Reaches State.CheckedAlone state →
        StoresInside request pc request.reqId ∧
          messageSlot request.reqId ⊆ Set.Ico 0 sramMappedSize) := by
  have slotted := State.Slotted.of_reaches reached
  obtain ⟨mapped, fits⟩ := slotted.requests.running stands
  constructor
  · cases chosen : pc.slotOffset with
    | none =>
      refine ⟨request.reqId, .of_slotOffset fits mapped ?_, (messageSlot_subset_iff _).mpr mapped⟩
      rw [chosen]
      exact nofun
    | some offset =>
      obtain ⟨reqId, small, rfl⟩ := slotted.chosen caller request pc offset stands chosen
      refine ⟨reqId, .of_slotOffset fits small ?_, (messageSlot_subset_iff _).mpr small⟩
      rw [chosen]
      exact fun _ same _ => (Option.some.inj same).symm
  · intro alone
    have stored := (State.Storing.of_reaches alone).stored caller request pc stands
    refine ⟨.of_slotOffset fits mapped ?_, (messageSlot_subset_iff _).mpr mapped⟩
    intro offset chosen acts
    cases pc with
    | data =>
      cases chosen
      exact stored.1
    | head msgBufOffset4 i =>
      cases chosen
      by_cases early : i < 2
      · exact (stored early).1
      · rw [runAccesses, if_neg early] at acts
        exact absurd rfl acts
    | wait | lock | setId | slot | done => cases chosen

/-! ### Two callers at once -/

/-- Two callers read the status idle, and both store their id before the first reads it back. -/
def chosenTogether : List (Action (Fin 2)) :=
  [.writeInput 0 (.holds (requestBytes 1 4)), .writeInput 1 (.holds (requestBytes 2 4)),
    .run (.input 0), .run (.input 1)] ++ List.replicate 2 (.run (.input 0)) ++
    List.replicate 2 (.run (.input 1)) ++ [.run (.input 0)]

/-- The first caller is about to store its payload into the slot of the second. -/
theorem stores_confined_two_callers :
    ∃ state : State (Fin 2), (driver (Fin 2)).Reaches State.Benign state ∧
      state.running (.input 0) =
        some { request := requestBytes 1 4, pc := .data (messageMaxSize / 4 * 2) 0 } ∧
      ¬ StoresInside (requestBytes 1 4) (.data (messageMaxSize / 4 * 2) 0) 1 ∧
      ∃ reqId, StoresInside (requestBytes 1 4) (.data (messageMaxSize / 4 * 2) 0) reqId ∧
        messageSlot reqId ⊆ Set.Ico 0 sramMappedSize := by
  obtain ⟨state, reached, stands⟩ := @exists_reached (Fin 2) _ State.Benign _ chosenTogether _
    (fun state => state.running (.input 0))
    (some { request := requestBytes 1 4, pc := .data (messageMaxSize / 4 * 2) 0 }) rfl
  refine ⟨state, reached, stands, fun inside => ?_, (stores_confined reached stands).1⟩
  have stores : .writeSram 0x3F208 0 ∈
      runAccesses (requestBytes 1 4) (.data (messageMaxSize / 4 * 2) 0) := by decide
  have word := inside _ _ stores ⟨le_rfl, Nat.lt_add_of_pos_right (by decide)⟩
  rw [messageSlot, mem_cell] at word
  exact absurd word (by decide)

end DxDsp
