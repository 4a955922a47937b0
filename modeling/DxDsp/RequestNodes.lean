/-
This file follows the entries of the request list through the allocator.
`dxrt_dev_write` allocates an entry, frees it where it refuses the call, and
otherwise hangs it on the list; the request thread takes it off behind
`dx_v3_dsp_run` and frees it. An entry that is allocated is with its writer, on
the list, or with the thread between `list_del` and `kfree`, and in one of these
places only.
-/

import DxDsp.Calls
import DxDsp.Wakeups
import DxDsp.Library.Custody
import DxDsp.Library.Observation

namespace DxDsp

open Library

variable {Client : Type}

/-! ### The places of an entry and the calls of the allocator -/

/-- Where the address of an allocated entry is kept. -/
inductive NodePlace (Client : Type)
  | writer (client : Client)
  | list
  | thread
deriving DecidableEq

/-- The entry that only `dxrt_dev_write` knows of. -/
def CallPc.node : CallPc → Option Nat
  | .queue entry => some entry.node
  | _ => none

/-- A call in progress that holds no entry comes to hold none. -/
theorem CallStep.node_eq_none {ownRun : Prop} {call after : CallPc}
    (stepped : CallStep ownRun call after) (busy : call ≠ .idle) (before : call.node = none) :
    after.node = none := by
  cases stepped with
  | stays => exact before
  | write => exact absurd rfl busy
  | _ => rfl

/-- The entry that only the thread knows of. -/
def ThreadPc.node : ThreadPc → Option Nat
  | .free entry => some entry.node
  | _ => none

/-- What `dxrt_dev_write` does to the allocator before it takes its lock. Without a request handler
it does not come to `kmalloc`. -/
def writeEvents (dx : Dxdev) (node : Option Nat) (len : Nat) (data : Option Object) :
    List (LedgerEvent Nat) :=
  if dx.requestHandler then
    match node with
    | none => []
    | some node =>
      match dxrtDevWritePrepare dx (some node) len data with
      | .ok _ => [.acquired node]
      | .error _ => [.acquired node, .released node]
  else []

/-- The entry that `dxrt_dev_write` goes on with is the one it allocated. -/
theorem dxrtDevWritePrepare_node {dx : Dxdev} {node : Nat} {len : Nat} {data : Option Object}
    {entry : DxrtRequestList}
    (prepared : dxrtDevWritePrepare dx (some node) len data = .ok entry) : entry.node = node := by
  rw [dxrtDevWritePrepare.eq_def] at prepared
  split at prepared
  · dsimp only at prepared
    split at prepared
    · cases prepared
    · split at prepared
      · cases prepared
      · cases prepared
        rfl
  · cases prepared

namespace State

/-- The addresses kept in each place. -/
def nodesAt (state : State Client) : NodePlace Client → Set Nat
  | .writer client => {node | (state.calls client).node = some node}
  | .list => {node | node ∈ state.dx.requests.map (·.node)}
  | .thread => {node | state.thread.node = some node}

/-- What a step does to the allocator. -/
def nodeEvents (state : State Client) : Action Client → List (LedgerEvent Nat)
  | .write _ node len data => writeEvents state.dx node len data
  | .thread => (state.thread.node.map LedgerEvent.released).toList
  | _ => []

end State

/-- The driver with the ledger of its entries. -/
abbrev ledgered (Client : Type) [DecidableEq Client] :
    Machine (State Client × List (LedgerEvent Nat)) (Action Client) :=
  (driver Client).recording State.nodeEvents

/-- What `kmalloc` promises: it returns no address that is allocated. -/
def KmallocFresh (both : State Client × List (LedgerEvent Nat)) : Action Client → Prop
  | .write _ (some node) _ _ => heldAfter node false both.2 ≠ some true
  | _ => True

instance (both : State Client × List (LedgerEvent Nat)) :
    (action : Action Client) → Decidable (KmallocFresh both action)
  | .write _ (some node) _ _ =>
    inferInstanceAs (Decidable (heldAfter node false both.2 ≠ some true))
  | .write _ none _ _ => isTrue trivial
  | .writeInput .. | .program .. | .readOutput .. | .writeMem .. | .poll .. | .read ..
  | .client .. | .run .. | .thread | .stop | .complete .. | .interrupt .. | .irq => isTrue trivial

namespace State

/-! ### What a step does with the entries -/

/-- A step that moves no entry. -/
structure SameNodes (state next : State Client) : Prop where
  calls : ∀ client, (next.calls client).node = (state.calls client).node
  requests : next.dx.requests = state.dx.requests
  thread : next.thread.node = state.thread.node

theorem SameNodes.nodesAt {state next : State Client} (same : SameNodes state next) :
    next.nodesAt = state.nodesAt := by
  funext place
  cases place with
  | writer client =>
    rw [State.nodesAt, same.calls]
    rfl
  | list =>
    rw [State.nodesAt, same.requests]
    rfl
  | thread =>
    rw [State.nodesAt, same.thread]
    rfl

variable [DecidableEq Client]

/-- All that a step can do with an entry, and what it asks of the allocator. -/
inductive NodeStep (state next : State Client) : List (LedgerEvent Nat) → Prop
  | leaves (same : SameNodes state next) : NodeStep state next []
  | refuses (node : Nat) (same : SameNodes state next) :
    NodeStep state next [.acquired node, .released node]
  | allocates (client : Client) (entry : DxrtRequestList)
    (before : (state.calls client).node = none)
    (calls : next.calls = Function.update state.calls client (.queue entry))
    (requests : next.dx.requests = state.dx.requests) (thread : next.thread = state.thread) :
    NodeStep state next [.acquired entry.node]
  | queues (client : Client) (entry : DxrtRequestList) (call : CallPc)
    (before : state.calls client = .queue entry)
    (calls : next.calls = Function.update state.calls client call) (after : call.node = none)
    (requests : next.dx.requests = state.dx.requests ++ [entry])
    (thread : next.thread = state.thread) : NodeStep state next []
  | unlinks (entry : DxrtRequestList) (before : state.thread = .unlink entry)
    (calls : next.calls = state.calls) (requests : next.dx.requests = state.unlinked entry)
    (thread : next.thread.node = some entry.node) : NodeStep state next []
  | frees (entry : DxrtRequestList) (before : state.thread.node = some entry.node)
    (calls : next.calls = state.calls) (requests : next.dx.requests = state.dx.requests)
    (thread : next.thread.node = none) : NodeStep state next [.released entry.node]

omit [DecidableEq Client] in
theorem SameNodes.of_eq {state next : State Client} (calls : next.calls = state.calls)
    (requests : next.dx.requests = state.dx.requests) (thread : next.thread = state.thread) :
    SameNodes state next where
  calls client := by rw [calls]
  requests := requests
  thread := by rw [thread]

/-- A call that goes on without an entry. -/
theorem SameNodes.of_update {state next : State Client} {client : Client} {call : CallPc}
    (calls : next.calls = Function.update state.calls client call)
    (own : call.node = (state.calls client).node)
    (requests : next.dx.requests = state.dx.requests) (thread : next.thread = state.thread) :
    SameNodes state next where
  calls other := by
    rw [calls]
    by_cases same : other = client
    · rw [same, Function.update_self, own]
    · rw [Function.update_of_ne same]
  requests := requests
  thread := by rw [thread]

/-! ### One lemma for each kind of step -/

theorem clientStep_node {state next : State Client} {client : Client} {disturbed : Bool}
    (moved : state.clientStep client disturbed (state.calls client) = some next) :
    NodeStep state next [] := by
  have thread : next.thread = state.thread :=
    @step_thread _ _ state next (.client client disturbed) moved nofun nofun
  by_cases queues : ∃ entry, state.calls client = .queue entry
  · obtain ⟨entry, place⟩ := queues
    rw [place] at moved
    cases moved
    exact .queues client entry (.wake entry.request.reqId) place rfl rfl rfl rfl
  · obtain ⟨after, calls, stepped⟩ := clientStep_call moved
    have without : (state.calls client).node = none := by
      cases place : state.calls client with
      | queue entry => exact absurd ⟨entry, place⟩ queues
      | _ => rfl
    have busy : state.calls client ≠ .idle := by
      intro idle
      rw [idle] at moved
      cases moved
    have own : after.node = (state.calls client).node :=
      ((stepped True).node_eq_none busy without).trans without.symm
    refine .leaves (.of_update calls own ?_ thread)
    refine (clientStep_requests moved).resolve_right ?_
    rintro ⟨entry, place, -⟩
    exact queues ⟨entry, place⟩

theorem threadStep_node {state next : State Client}
    (moved : state.threadStep state.thread = some next) :
    NodeStep state next (state.nodeEvents .thread) := by
  rw [nodeEvents]
  cases place : state.thread with
  | loop | wait | waitStop | woken =>
    rw [place] at moved
    cases moved
    refine .leaves ⟨fun _ => rfl, rfl, ?_⟩
    rw [place]
    dsimp only
    split <;> rfl
  | head =>
    rw [place, threadStep] at moved
    split at moved <;> cases moved <;> exact .leaves ⟨fun _ => rfl, rfl, by rw [place]; rfl⟩
  | running entry pc =>
    rw [place] at moved
    cases pc <;> cases moved
    exact .leaves ⟨fun _ => rfl, rfl, by rw [place]; rfl⟩
  | unlink entry =>
    rw [place] at moved
    cases moved
    exact .unlinks entry place rfl rfl rfl
  | free entry =>
    rw [place] at moved
    cases moved
    exact .frees entry (congrArg ThreadPc.node place) rfl rfl rfl
  | exited | headOfEmpty =>
    rw [place] at moved
    cases moved

/-- `dxrt_dev_write` up to its lock. -/
theorem beginWrite_node (state : State Client) {client : Client} {node : Option Nat} {len : Nat}
    {data : Option Object} (idle : state.calls client = .idle) :
    NodeStep state (state.beginWrite client node len data)
      (writeEvents state.dx node len data) := by
  have without : (state.calls client).node = none := congrArg CallPc.node idle
  rw [beginWrite, writeEvents.eq_def]
  cases handled : state.dx.requestHandler with
  | false =>
    rw [dxrtDevWritePrepare.eq_def, handled]
    exact .leaves (.of_eq rfl rfl rfl)
  | true =>
    cases node with
    | none =>
      rw [dxrtDevWritePrepare.eq_def, handled]
      exact .leaves (.of_eq rfl rfl rfl)
    | some node =>
      rw [if_pos rfl]
      dsimp only
      cases prepared : dxrtDevWritePrepare state.dx (some node) len data with
      | error ret => exact .refuses node (.of_eq rfl rfl rfl)
      | ok entry =>
        have address : entry.node = node := dxrtDevWritePrepare_node prepared
        rw [← address]
        exact .allocates client entry without rfl rfl rfl

theorem step_node {state next : State Client} {action : Action Client}
    (moved : state.step action = some next) : NodeStep state next (state.nodeEvents action) := by
  cases action with
  | write client node len data =>
    obtain ⟨idle, rfl⟩ := whenIdle_eq_some moved
    exact state.beginWrite_node idle
  | writeInput client data | readOutput client data =>
    obtain ⟨idle, rfl⟩ := whenIdle_eq_some moved
    have without : (state.calls client).node = none := congrArg CallPc.node idle
    cases data <;>
      first
        | exact .leaves (.of_eq rfl rfl rfl)
        | exact .leaves (.of_update rfl without.symm rfl rfl)
  | program client steps =>
    rw [step] at moved
    split at moved
    · obtain ⟨idle, rfl⟩ := whenIdle_eq_some moved
      have without : (state.calls client).node = none := congrArg CallPc.node idle
      exact .leaves (.of_update rfl without.symm rfl rfl)
    · cases moved
  | writeMem client data source =>
    obtain ⟨-, rfl⟩ := whenIdle_eq_some moved
    exact .leaves (.of_eq rfl (dxrtWriteMem_requests state.dx data source) rfl)
  | poll client =>
    obtain ⟨-, rfl⟩ := whenIdle_eq_some moved
    exact .leaves (.of_eq rfl rfl rfl)
  | read client len fault =>
    obtain ⟨-, rfl⟩ := whenIdle_eq_some moved
    rw [readStep]
    split <;> exact .leaves (.of_eq rfl rfl rfl)
  | client client disturbed => exact clientStep_node moved
  | run caller =>
    obtain ⟨request, pc, inside, -, rfl⟩ := runStep_eq_some moved
    cases caller with
    | thread =>
      obtain ⟨entry, place, -⟩ := running_thread inside
      refine .leaves ⟨fun _ => rfl, rfl, ?_⟩
      rw [afterRun, threadMoved, place]
      rfl
    | input client =>
      refine .leaves (.of_update rfl ?_ rfl rfl)
      rw [running_input inside]
      rfl
  | thread => exact threadStep_node moved
  | stop =>
    cases moved
    exact .leaves (.of_eq rfl rfl rfl)
  | complete job =>
    obtain ⟨-, rfl⟩ := complete_eq_some moved
    exact .leaves (.of_eq rfl rfl rfl)
  | interrupt job =>
    obtain ⟨-, -, rfl⟩ := interrupt_eq_some moved
    exact .leaves (.of_eq rfl rfl rfl)
  | irq =>
    rw [step] at moved
    cases place : state.irq <;> rw [place] at moved <;> cases moved <;>
      exact .leaves (.of_eq rfl rfl rfl)

/-! ### The places behind a step -/

section Places

variable {state next : State Client} {client : Client} {entry : DxrtRequestList}

theorem nodesAt_allocate (before : (state.calls client).node = none)
    (calls : next.calls = Function.update state.calls client (.queue entry))
    (requests : next.dx.requests = state.dx.requests) (thread : next.thread = state.thread) :
    next.nodesAt = Function.update state.nodesAt (.writer client)
      (insert entry.node (state.nodesAt (.writer client))) := by
  funext place
  cases place with
  | writer own =>
    by_cases same : own = client
    · subst same
      rw [Function.update_self, nodesAt, nodesAt, calls, Function.update_self, before]
      ext node
      simp [CallPc.node, eq_comm]
    · have apart : NodePlace.writer own ≠ .writer client := fun equal => same (by cases equal; rfl)
      rw [Function.update_of_ne apart, nodesAt, nodesAt, calls, Function.update_of_ne same]
  | list => rw [Function.update_of_ne (by simp), nodesAt, nodesAt, requests]
  | thread => rw [Function.update_of_ne (by simp), nodesAt, nodesAt, thread]

theorem nodesAt_queue {call : CallPc} (before : state.calls client = .queue entry)
    (calls : next.calls = Function.update state.calls client call) (after : call.node = none)
    (requests : next.dx.requests = state.dx.requests ++ [entry])
    (thread : next.thread = state.thread) :
    next.nodesAt = Function.update
      (Function.update state.nodesAt (.writer client)
        (state.nodesAt (.writer client) \ {entry.node})) .list
      (insert entry.node (state.nodesAt .list)) := by
  funext place
  cases place with
  | writer own =>
    rw [Function.update_of_ne (by simp)]
    by_cases same : own = client
    · subst same
      rw [Function.update_self, nodesAt, nodesAt, calls, Function.update_self, before, after]
      ext node
      simp [CallPc.node, eq_comm]
    · have apart : NodePlace.writer own ≠ .writer client := fun equal => same (by cases equal; rfl)
      rw [Function.update_of_ne apart, nodesAt, nodesAt, calls, Function.update_of_ne same]
  | list =>
    rw [Function.update_self, nodesAt, nodesAt, requests]
    ext node
    simp [or_comm, eq_comm]
  | thread =>
    rw [Function.update_of_ne (by simp), Function.update_of_ne (by simp), nodesAt, nodesAt, thread]

omit [DecidableEq Client] in
/-- `list_del` takes off the entry at the head. -/
theorem unlinked_head (first : state.dx.requests.head? = some entry) :
    state.dx.requests = entry :: state.unlinked entry := by
  obtain ⟨rest, list⟩ := List.head?_eq_some_iff.mp first
  rw [unlinked, list, List.eraseP_cons_of_pos (by simp)]

theorem nodesAt_unlink (first : state.dx.requests.head? = some entry)
    (nodup : (state.dx.requests.map (·.node)).Nodup) (before : state.thread.node = none)
    (calls : next.calls = state.calls) (requests : next.dx.requests = state.unlinked entry)
    (thread : next.thread.node = some entry.node) :
    next.nodesAt = Function.update
      (Function.update state.nodesAt .list (state.nodesAt .list \ {entry.node})) .thread
      (insert entry.node (state.nodesAt .thread)) := by
  have list := unlinked_head first
  funext place
  cases place with
  | writer own =>
    rw [Function.update_of_ne (by simp), Function.update_of_ne (by simp), nodesAt, nodesAt, calls]
  | list =>
    rw [Function.update_of_ne (by simp), Function.update_self, nodesAt, nodesAt, requests]
    rw [list, List.map_cons, List.nodup_cons] at nodup
    ext node
    rw [list, List.map_cons]
    constructor
    · intro member
      exact ⟨List.mem_cons_of_mem _ member, fun same => nodup.1 (same ▸ member)⟩
    · rintro ⟨member, apart⟩
      exact (List.mem_cons.mp member).resolve_left apart
  | thread =>
    rw [Function.update_self, nodesAt, nodesAt, thread, before]
    ext node
    simp [eq_comm]

theorem nodesAt_free (before : state.thread.node = some entry.node)
    (calls : next.calls = state.calls) (requests : next.dx.requests = state.dx.requests)
    (thread : next.thread.node = none) :
    next.nodesAt =
      Function.update state.nodesAt .thread (state.nodesAt .thread \ {entry.node}) := by
  funext place
  cases place with
  | writer own => rw [Function.update_of_ne (by simp), nodesAt, nodesAt, calls]
  | list => rw [Function.update_of_ne (by simp), nodesAt, nodesAt, requests]
  | thread =>
    rw [Function.update_self, nodesAt, nodesAt, thread, before]
    ext node
    simp [eq_comm]

end Places

/-! ### The invariant -/

/-- The allocated entries are kept, and none is on the list twice. -/
structure Entries (state : State Client) (ledger : List (LedgerEvent Nat)) : Prop where
  kept : Kept state.nodesAt ledger
  nodup : (state.dx.requests.map (·.node)).Nodup

omit [DecidableEq Client] in
theorem entries_initial (dsp : Dxdsp) : Entries (initial dsp : State Client) [] where
  kept := by
    have nowhere : (initial dsp : State Client).nodesAt = fun _ => ∅ := by
      funext place
      cases place <;> exact Set.eq_empty_of_forall_notMem nofun
    rw [nowhere]
    exact Kept.empty
  nodup := List.nodup_nil

theorem Entries.step {state next : State Client} {ledger events : List (LedgerEvent Nat)}
    (entries : Entries state ledger) (holds : ThreadHolds state)
    (fresh : ∀ node, .acquired node ∈ events → heldAfter node false ledger ≠ some true)
    (stepped : NodeStep state next events) : Entries next (ledger ++ events) := by
  obtain ⟨kept, nodup⟩ := entries
  have unclaimed : ∀ node, .acquired node ∈ events → ∀ place, node ∉ state.nodesAt place :=
    fun node allocated place member => fresh node allocated (kept.owned.inside place member)
  cases stepped with
  | leaves same =>
    rw [List.append_nil]
    exact ⟨same.nodesAt ▸ kept, same.requests ▸ nodup⟩
  | refuses node same =>
    have allocated : .acquired node ∈ [LedgerEvent.acquired node, .released node] := by simp
    exact ⟨same.nodesAt ▸ kept.bounce .list (unclaimed node allocated), same.requests ▸ nodup⟩
  | allocates client entry before calls requests thread =>
    have allocated : .acquired entry.node ∈ [LedgerEvent.acquired entry.node] := by simp
    refine ⟨?_, requests ▸ nodup⟩
    rw [nodesAt_allocate before calls requests thread]
    exact kept.acquire (.writer client) (unclaimed entry.node allocated)
  | queues client entry call before calls after requests thread =>
    have claimed : entry.node ∈ state.nodesAt (.writer client) := by
      rw [nodesAt, before]
      exact rfl
    rw [List.append_nil]
    refine ⟨?_, ?_⟩
    · rw [nodesAt_queue before calls after requests thread]
      exact kept.transfer claimed (by simp)
    · -- the entry was with its writer, so it is not on the list yet
      have absent : entry.node ∉ state.nodesAt .list := fun member =>
        absurd (kept.owned.client_unique claimed member) (by simp)
      rw [requests, List.map_append]
      exact nodup.append (List.nodup_singleton _)
        (List.disjoint_singleton.mpr absent)
  | unlinks entry before calls requests thread =>
    have first : state.dx.requests.head? = some entry := by
      rw [ThreadHolds, before] at holds
      exact holds
    have list := unlinked_head first
    have claimed : entry.node ∈ state.nodesAt .list := by
      rw [nodesAt, list]
      exact List.mem_cons_self
    rw [List.append_nil]
    refine ⟨?_, ?_⟩
    · rw [nodesAt_unlink first nodup (congrArg ThreadPc.node before) calls requests thread]
      exact kept.transfer claimed (by simp)
    · rw [list, List.map_cons, List.nodup_cons] at nodup
      rw [requests]
      exact nodup.2
  | frees entry before calls requests thread =>
    have claimed : entry.node ∈ state.nodesAt .thread := before
    refine ⟨?_, requests ▸ nodup⟩
    rw [nodesAt_free before calls requests thread]
    exact kept.release claimed

omit [DecidableEq Client] in
/-- What a step takes from the allocator is what `kmalloc` returned there. -/
theorem fresh_of_kmalloc {both : State Client × List (LedgerEvent Nat)}
    {action : Action Client} (kmalloc : KmallocFresh both action) (node : Nat)
    (allocated : .acquired node ∈ both.1.nodeEvents action) :
    heldAfter node false both.2 ≠ some true := by
  cases action with
  | write client address len data =>
    rw [nodeEvents, writeEvents.eq_def] at allocated
    split at allocated
    · cases address with
      | none => cases allocated
      | some address =>
        dsimp only at allocated
        have same : node = address := by
          split at allocated <;> simpa using allocated
        rw [same]
        exact kmalloc
    · cases allocated
  | thread =>
    rw [nodeEvents] at allocated
    cases place : both.1.thread.node <;> rw [place] at allocated <;> simp at allocated
  | _ => cases allocated

theorem entries_of_reaches {both : State Client × List (LedgerEvent Nat)}
    (reached : (ledgered Client).Reaches KmallocFresh both) : Entries both.1 both.2 := by
  induction reached with
  | start begins =>
    obtain ⟨⟨dsp, probed⟩, empty⟩ := begins
    rw [probed, empty]
    exact entries_initial dsp
  | step before kmalloc moved inductionHypothesis =>
    obtain ⟨stepped, ledger⟩ := Machine.recording_step_eq_some moved
    have holds := ThreadHolds.of_reaches (before.of_recording fun _ _ _ => trivial)
    rw [ledger]
    exact inductionHypothesis.step holds (fresh_of_kmalloc kmalloc) (step_node stepped)

end State

variable [DecidableEq Client]

/-- In every run in which `kmalloc` returns nothing that is allocated, no entry is freed twice or
freed without having been allocated; an entry is allocated exactly if it is with its writer, on the
list or with the thread, in one of these places only and on the list only once; and the one whose
request the thread hands to `dx_v3_dsp_run` is allocated. -/
theorem request_nodes_kept {both : State Client × List (LedgerEvent Nat)}
    (reached : (ledgered Client).Reaches KmallocFresh both) :
    (∀ node, heldAfter node false both.2 ≠ none) ∧
      (∀ node, heldAfter node false both.2 = some true ↔
        ∃ place, node ∈ both.1.nodesAt place) ∧
      (Pairwise fun first second => Disjoint (both.1.nodesAt first) (both.1.nodesAt second)) ∧
      (both.1.dx.requests.map (·.node)).Nodup ∧
      ∀ entry pc, both.1.thread = .running entry pc →
        heldAfter entry.node false both.2 = some true := by
  have entries := State.entries_of_reaches reached
  have holds := State.ThreadHolds.of_reaches (reached.of_recording fun _ _ _ => trivial)
  refine ⟨entries.kept.inOrder, entries.kept.mem_allocated_iff, entries.kept.owned.apart,
    entries.nodup, fun entry pc runs => ?_⟩
  rw [State.ThreadHolds, runs] at holds
  have listed : entry.node ∈ both.1.nodesAt .list := by
    rw [State.nodesAt, State.unlinked_head holds]
    exact List.mem_cons_self
  exact entries.kept.owned.inside .list listed

/-- A refused `write()` of one client, a `write()` in progress, and one whose entry the thread
runs. The address of the refused call is allocated again. -/
def threeWrites : List (Action (Fin 2)) :=
  [.write 1 (some 8) 0 none] ++ submit 0 8 1 ++ [.thread, .thread, .thread, .thread] ++
    [.write 1 (some 16) sizeofDxrtDspRequest (some (bareRequest 2))]

/-- The thread runs the entry at 8, and the writer holds the one at 16. -/
theorem request_nodes_kept_two_clients :
    ∃ both : State (Fin 2) × List (LedgerEvent Nat),
      both.1.thread.frame ≠ none ∧ both.2 = [.acquired 8, .released 8, .acquired 8, .acquired 16] ∧
        ∃ place, 16 ∈ both.1.nodesAt place := by
  obtain ⟨both, ran, seen⟩ := Option.map_eq_some_iff.mp
    (show ((ledgered (Fin 2)).run KmallocFresh (State.initial boardDsp, []) threeWrites).map
        (fun both => (both.1.thread.frame.isSome, both.2)) =
          some (true, [.acquired 8, .released 8, .acquired 8, .acquired 16]) by decide +kernel)
  obtain ⟨runs, ledger⟩ := Prod.mk.inj seen
  have probed : (ledgered (Fin 2)).Reaches KmallocFresh (State.initial boardDsp, []) :=
    .start ⟨⟨boardDsp, rfl⟩, rfl⟩
  have held : heldAfter 16 false both.2 = some true := by
    rw [ledger]
    decide
  exact ⟨both, Option.isSome_iff_ne_none.mp runs, ledger,
    ((request_nodes_kept (probed.of_run _ ran)).2.1 16).mp held⟩

end DxDsp
