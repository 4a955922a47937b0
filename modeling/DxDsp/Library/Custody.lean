/-
This file ties a ledger of allocations to the places where the allocated things
are kept. What the ledger says is allocated is in exactly one place, and what is
in a place is allocated: nothing leaks, nothing dangles, and nothing is freed
twice. An allocation puts a thing into a place, a transfer moves it to another
one, and a release frees it out of the place it is in.
-/

import DxDsp.Library.Acquisition
import DxDsp.Library.Ownership

namespace DxDsp.Library

variable {Place Resource : Type} [DecidableEq Resource]

/-- What the ledger says is allocated. -/
def allocated (ledger : List (LedgerEvent Resource)) : Set Resource :=
  {resource | heldAfter resource false ledger = some true}

/-- The ledger is in order, and what is allocated is in exactly one place. -/
structure Kept (claims : Place → Set Resource) (ledger : List (LedgerEvent Resource)) : Prop where
  owned : Owned (allocated ledger) claims
  whole : ∀ resource ∈ allocated ledger, ∃ place, resource ∈ claims place
  inOrder : ∀ resource, heldAfter resource false ledger ≠ none

theorem heldAfter_append_singleton (resource : Resource) (ledger : List (LedgerEvent Resource))
    (event : LedgerEvent Resource) :
    heldAfter resource false (ledger ++ [event]) =
      (heldAfter resource false ledger).bind (event.after resource) := by
  rw [heldAfter_append]
  refine congrArg _ (funext fun held => ?_)
  rw [heldAfter]
  exact Option.bind_fun_some _

namespace Kept

variable {claims : Place → Set Resource} {ledger : List (LedgerEvent Resource)}

theorem empty : Kept (fun _ : Place => (∅ : Set Resource)) [] where
  owned := by
    have none : allocated ([] : List (LedgerEvent Resource)) = ∅ :=
      Set.eq_empty_of_forall_notMem fun _ held => by cases held
    rw [none]
    exact Owned.empty
  whole _ held := by cases held
  inOrder _ := by simp [heldAfter]

theorem mem_allocated_iff (kept : Kept claims ledger) (resource : Resource) :
    resource ∈ allocated ledger ↔ ∃ place, resource ∈ claims place :=
  ⟨kept.whole resource, fun ⟨place, member⟩ => kept.owned.inside place member⟩

/-- What is in no place is free. -/
theorem free (kept : Kept claims ledger) {resource : Resource}
    (fresh : ∀ place, resource ∉ claims place) : heldAfter resource false ledger = some false := by
  cases held : heldAfter resource false ledger with
  | none => exact absurd held (kept.inOrder resource)
  | some own =>
    cases own with
    | false => rfl
    | true =>
      obtain ⟨place, member⟩ := kept.whole resource held
      exact absurd member (fresh place)

theorem allocated_acquire (kept : Kept claims ledger) {resource : Resource}
    (fresh : ∀ place, resource ∉ claims place) :
    allocated (ledger ++ [.acquired resource]) = insert resource (allocated ledger) := by
  ext other
  rw [allocated, Set.mem_ofPred_eq, heldAfter_append_singleton, Set.mem_insert_iff]
  by_cases same : other = resource
  · subst same
    rw [kept.free fresh, Option.bind_some, LedgerEvent.after, if_pos rfl]
    exact iff_of_true rfl (Or.inl rfl)
  · have apart : resource ≠ other := Ne.symm same
    rw [show (LedgerEvent.acquired resource).after other = some from
      funext fun held => by rw [LedgerEvent.after, if_neg apart], Option.bind_fun_some]
    exact ⟨Or.inr, fun member => member.resolve_left same⟩

theorem allocated_release {resource : Resource} (held : resource ∈ allocated ledger) :
    allocated (ledger ++ [.released resource]) = allocated ledger \ {resource} := by
  ext other
  rw [allocated, Set.mem_ofPred_eq, heldAfter_append_singleton]
  by_cases same : other = resource
  · subst same
    rw [show heldAfter other false ledger = some true from held, Option.bind_some,
      LedgerEvent.after, if_pos rfl]
    exact iff_of_false (by simp) fun member => member.2 rfl
  · have apart : resource ≠ other := Ne.symm same
    rw [show (LedgerEvent.released resource).after other = some from
      funext fun held => by rw [LedgerEvent.after, if_neg apart], Option.bind_fun_some]
    exact ⟨fun member => ⟨member, same⟩, fun member => member.1⟩

theorem inOrder_append {event : LedgerEvent Resource} (kept : Kept claims ledger)
    {resource : Resource} {held : Bool} (before : heldAfter resource false ledger = some held)
    (accepted : event.after resource held ≠ none)
    (others : ∀ other, other ≠ resource → event.after other = some) (other : Resource) :
    heldAfter other false (ledger ++ [event]) ≠ none := by
  rw [heldAfter_append_singleton]
  by_cases same : other = resource
  · subst same
    rw [before, Option.bind_some]
    exact accepted
  · rw [others other same, Option.bind_fun_some]
    exact kept.inOrder other

variable [DecidableEq Place]

theorem acquire (kept : Kept claims ledger) (place : Place) {resource : Resource}
    (fresh : ∀ place, resource ∉ claims place) :
    Kept (Function.update claims place (insert resource (claims place)))
      (ledger ++ [.acquired resource]) where
  owned := by
    rw [kept.allocated_acquire fresh]
    refine kept.owned.claim place fun held => ?_
    obtain ⟨own, member⟩ := kept.whole resource held
    exact fresh own member
  whole other held := by
    rw [kept.allocated_acquire fresh] at held
    rcases Set.mem_insert_iff.mp held with rfl | before
    · exact ⟨place, by rw [Function.update_self]; exact Set.mem_insert _ _⟩
    · obtain ⟨own, member⟩ := kept.whole other before
      refine ⟨own, ?_⟩
      by_cases same : own = place
      · rw [same, Function.update_self]
        exact Set.mem_insert_of_mem _ (same ▸ member)
      · rwa [Function.update_of_ne same]
  inOrder := by
    refine kept.inOrder_append (kept.free fresh) (by simp [LedgerEvent.after]) fun other apart => ?_
    exact funext fun held => by rw [LedgerEvent.after, if_neg (Ne.symm apart)]

theorem transfer (kept : Kept claims ledger) {giver taker : Place} {resource : Resource}
    (claimed : resource ∈ claims giver) (different : taker ≠ giver) :
    Kept (Function.update (Function.update claims giver (claims giver \ {resource})) taker
      (insert resource (claims taker))) ledger where
  owned := kept.owned.transfer claimed different
  whole other held := by
    obtain ⟨own, member⟩ := kept.whole other held
    by_cases moved : other = resource
    · exact ⟨taker, by rw [Function.update_self]; exact Or.inl moved⟩
    · refine ⟨own, ?_⟩
      by_cases atTaker : own = taker
      · rw [atTaker, Function.update_self]
        exact Or.inr (atTaker ▸ member)
      · rw [Function.update_of_ne atTaker]
        by_cases atGiver : own = giver
        · rw [atGiver, Function.update_self]
          exact ⟨atGiver ▸ member, moved⟩
        · rwa [Function.update_of_ne atGiver]
  inOrder := kept.inOrder

theorem release (kept : Kept claims ledger) {place : Place} {resource : Resource}
    (claimed : resource ∈ claims place) :
    Kept (Function.update claims place (claims place \ {resource}))
      (ledger ++ [.released resource]) where
  owned := by
    rw [allocated_release (kept.owned.inside place claimed)]
    exact kept.owned.release claimed
  whole other held := by
    rw [allocated_release (kept.owned.inside place claimed)] at held
    obtain ⟨own, member⟩ := kept.whole other held.1
    refine ⟨own, ?_⟩
    by_cases same : own = place
    · rw [same, Function.update_self]
      exact ⟨same ▸ member, held.2⟩
    · rwa [Function.update_of_ne same]
  inOrder := by
    refine kept.inOrder_append (kept.owned.inside place claimed) (by simp [LedgerEvent.after])
      fun other apart => ?_
    exact funext fun held => by rw [LedgerEvent.after, if_neg (Ne.symm apart)]

/-- What is freed as soon as it is allocated comes into no place. -/
theorem bounce (kept : Kept claims ledger) (place : Place) {resource : Resource}
    (fresh : ∀ place, resource ∉ claims place) :
    Kept claims (ledger ++ [.acquired resource, .released resource]) := by
  have inPlace : resource ∈
      Function.update claims place (insert resource (claims place)) place := by
    rw [Function.update_self]
    exact Set.mem_insert _ _
  have back := (kept.acquire place fresh).release inPlace
  rw [Function.update_idem, Function.update_self, Set.insert_sdiff_self_of_notMem (fresh place),
    Function.update_eq_self, List.append_assoc] at back
  exact back

end Kept

end DxDsp.Library
