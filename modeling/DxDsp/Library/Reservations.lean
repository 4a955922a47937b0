/-
This file is the abstract reservation of slots: a call is granted a slot that is
not taken, anyone may free a taken slot, and a call may revoke its own grant
later. A revocation does not look whose the slot is by then, so it is harmless
only under a discipline: the slot is not taken, or its last grant is the call's
own. Under that discipline no slot is granted twice without a free or the first
call's own revocation in between, and no revocation takes a slot from another
call.
-/

import DxDsp.Library.History
import Mathlib.Data.Set.Insert

namespace DxDsp.Library

/-- What happens to a slot. -/
inductive Lease (Call Slot : Type)
  | granted (call : Call) (slot : Slot)
  | freed (slot : Slot)
  | revoked (call : Call) (slot : Slot)

structure Reservations (Call Slot : Type) where
  taken : Set Slot
  history : List (Lease Call Slot)

namespace Reservations

variable {Call Slot : Type} [DecidableEq Slot]

/-- The call the slot was last granted to, unless it was freed or revoked since. -/
def owner (slot : Slot) (history : List (Lease Call Slot)) : Option Call :=
  history.foldl (fun current lease =>
    match lease with
    | .granted call own => if own = slot then some call else current
    | .freed own | .revoked _ own => if own = slot then none else current) none

/-- The call the slot was last granted to. -/
def lastGrant (slot : Slot) (history : List (Lease Call Slot)) : Option Call :=
  history.foldl (fun current lease =>
    match lease with
    | .granted call own => if own = slot then some call else current
    | .freed _ | .revoked _ _ => current) none

theorem owner_append (slot : Slot) (history : List (Lease Call Slot)) (lease : Lease Call Slot) :
    owner slot (history ++ [lease]) =
      match lease with
      | .granted call own => if own = slot then some call else owner slot history
      | .freed own | .revoked _ own => if own = slot then none else owner slot history := by
  rw [owner, List.foldl_append]
  rfl

theorem lastGrant_append (slot : Slot) (history : List (Lease Call Slot))
    (lease : Lease Call Slot) :
    lastGrant slot (history ++ [lease]) =
      match lease with
      | .granted call own => if own = slot then some call else lastGrant slot history
      | .freed _ | .revoked _ _ => lastGrant slot history := by
  rw [lastGrant, List.foldl_append]
  rfl

/-- The disciplined protocol. -/
inductive Step : Reservations Call Slot → Reservations Call Slot → Prop
  | grant (reservations : Reservations Call Slot) (call : Call) (slot : Slot)
      (free : slot ∉ reservations.taken) :
      Step reservations
        { taken := insert slot reservations.taken
          history := reservations.history ++ [.granted call slot] }
  | free (reservations : Reservations Call Slot) (slot : Slot) (taken : slot ∈ reservations.taken) :
      Step reservations
        { taken := reservations.taken \ {slot}
          history := reservations.history ++ [.freed slot] }
  | revoke (reservations : Reservations Call Slot) (call : Call) (slot : Slot)
      (own : slot ∈ reservations.taken → lastGrant slot reservations.history = some call) :
      Step reservations
        { taken := reservations.taken \ {slot}
          history := reservations.history ++ [.revoked call slot] }

/-- What the discipline gives. -/
structure Tracked (reservations : Reservations Call Slot) : Prop where
  owned : ∀ slot call, owner slot reservations.history = some call →
    slot ∈ reservations.taken ∧ lastGrant slot reservations.history = some call
  ended : ∀ before after call slot, reservations.history = before ++ .granted call slot :: after →
    .freed slot ∈ after ∨ .revoked call slot ∈ after ∨
      slot ∈ reservations.taken ∧ lastGrant slot reservations.history = some call
  separated : ∀ before between after first second slot,
    reservations.history =
        before ++ .granted first slot :: between ++ .granted second slot :: after →
      .freed slot ∈ between ∨ .revoked first slot ∈ between
  ownRevoked : ∀ before after call slot,
    reservations.history = before ++ .revoked call slot :: after →
      ∀ other, owner slot before = some other → other = call

theorem tracked_empty : Tracked ({ taken := ∅, history := [] } : Reservations Call Slot) where
  owned _ _ owned := by cases owned
  ended before after call slot split := by simp at split
  separated before between after first second slot split := by simp at split
  ownRevoked before after call slot split := by simp at split

/-- A slot that is not taken has no grant that is still running. -/
theorem Tracked.ended_of_not_taken {reservations : Reservations Call Slot}
    (tracked : Tracked reservations) {slot : Slot} (free : slot ∉ reservations.taken)
    {before after : List (Lease Call Slot)} {call : Call}
    (split : reservations.history = before ++ .granted call slot :: after) :
    .freed slot ∈ after ∨ .revoked call slot ∈ after := by
  rcases tracked.ended before after call slot split with freed | revoked | running
  · exact Or.inl freed
  · exact Or.inr revoked
  · exact absurd running.1 free

theorem Tracked.grant {reservations : Reservations Call Slot} (tracked : Tracked reservations)
    (call : Call) {slot : Slot} (free : slot ∉ reservations.taken) :
    Tracked
      { taken := insert slot reservations.taken
        history := reservations.history ++ [.granted call slot] } where
  owned own holder owned := by
    rw [owner_append] at owned
    rw [lastGrant_append]
    dsimp only at owned ⊢
    by_cases same : slot = own
    · subst same
      rw [if_pos rfl] at owned
      exact ⟨Set.mem_insert _ _, (if_pos rfl).trans owned⟩
    · rw [if_neg same] at owned
      obtain ⟨taken, last⟩ := tracked.owned own holder owned
      exact ⟨Set.mem_insert_of_mem _ taken, (if_neg same).trans last⟩
  ended before after holder own split := by
    rcases append_singleton_eq_split split with ⟨_, _, new⟩ | ⟨rest, rfl, old⟩
    · cases new
      exact Or.inr (Or.inr ⟨Set.mem_insert _ _, by rw [lastGrant_append]; exact if_pos rfl⟩)
    · by_cases same : slot = own
      · subst same
        rcases tracked.ended_of_not_taken free old with freed | revoked
        · exact Or.inl (List.mem_append_left _ freed)
        · exact Or.inr (Or.inl (List.mem_append_left _ revoked))
      · rcases tracked.ended before rest holder own old with freed | revoked | running
        · exact Or.inl (List.mem_append_left _ freed)
        · exact Or.inr (Or.inl (List.mem_append_left _ revoked))
        · refine Or.inr (Or.inr ⟨Set.mem_insert_of_mem _ running.1, ?_⟩)
          rw [lastGrant_append]
          exact (if_neg same).trans running.2
  separated before between after first second own split := by
    rcases append_singleton_eq_split_two split with ⟨_, old, new⟩ | ⟨rest, _, old⟩
    · cases new
      exact tracked.ended_of_not_taken free old
    · exact tracked.separated before between rest first second own old
  ownRevoked before after holder own split := by
    rcases append_singleton_eq_split split with ⟨_, _, new⟩ | ⟨rest, _, old⟩
    · cases new
    · exact tracked.ownRevoked before rest holder own old

/-- A free, or a revocation under the discipline, ends the running grant of its slot and of no
other. -/
theorem Tracked.release {reservations : Reservations Call Slot} (tracked : Tracked reservations)
    {slot : Slot} {lease : Lease Call Slot}
    (releases : lease = .freed slot ∨ ∃ call, lease = .revoked call slot ∧
      (slot ∈ reservations.taken → lastGrant slot reservations.history = some call)) :
    Tracked
      { taken := reservations.taken \ {slot}
        history := reservations.history ++ [lease] } := by
  have ownerAfter : ∀ own, owner own (reservations.history ++ [lease]) =
      if slot = own then none else owner own reservations.history := by
    intro own
    rcases releases with rfl | ⟨call, rfl, _⟩ <;> rw [owner_append]
  have lastAfter : ∀ own, lastGrant own (reservations.history ++ [lease]) =
      lastGrant own reservations.history := by
    intro own
    rcases releases with rfl | ⟨call, rfl, _⟩ <;> rw [lastGrant_append]
  have notGranted : ∀ call own, lease ≠ .granted call own := by
    rcases releases with rfl | ⟨call, rfl, _⟩ <;> simp
  refine ⟨?_, ?_, ?_, ?_⟩
  · intro own holder owned
    rw [ownerAfter] at owned
    rw [lastAfter]
    by_cases same : slot = own
    · rw [if_pos same] at owned
      cases owned
    · rw [if_neg same] at owned
      obtain ⟨taken, last⟩ := tracked.owned own holder owned
      exact ⟨⟨taken, Ne.symm same⟩, last⟩
  · intro before after holder own split
    rcases append_singleton_eq_split split with ⟨_, _, new⟩ | ⟨rest, rfl, old⟩
    · exact absurd new.symm (notGranted holder own)
    · rcases tracked.ended before rest holder own old with freed | revoked | ⟨taken, last⟩
      · exact Or.inl (List.mem_append_left _ freed)
      · exact Or.inr (Or.inl (List.mem_append_left _ revoked))
      · by_cases same : slot = own
        · subst same
          rcases releases with rfl | ⟨call, rfl, lastOwn⟩
          · exact Or.inl (List.mem_append_right _ List.mem_cons_self)
          · -- the grant that still runs is the last one, which is the revoking call's own
            cases (lastOwn taken).symm.trans last
            exact Or.inr (Or.inl (List.mem_append_right _ List.mem_cons_self))
        · exact Or.inr (Or.inr ⟨⟨taken, Ne.symm same⟩, (lastAfter own).trans last⟩)
  · intro before between after first second own split
    rcases append_singleton_eq_split_two split with ⟨_, _, new⟩ | ⟨rest, _, old⟩
    · exact absurd new.symm (notGranted second own)
    · exact tracked.separated before between rest first second own old
  · intro before after holder own split
    rcases append_singleton_eq_split split with ⟨_, rfl, new⟩ | ⟨rest, _, old⟩
    · rcases releases with rfl | ⟨call, rfl, lastOwn⟩
      · cases new
      · cases new
        intro other owned
        obtain ⟨taken, last⟩ := tracked.owned slot other owned
        exact Option.some.inj (last.symm.trans (lastOwn taken))
    · exact tracked.ownRevoked before rest holder own old

theorem Tracked.step {reservations next : Reservations Call Slot} (tracked : Tracked reservations)
    (moved : Step reservations next) : Tracked next := by
  cases moved with
  | grant call slot free => exact tracked.grant call free
  | free slot => exact tracked.release (Or.inl rfl)
  | revoke call slot own => exact tracked.release (Or.inr ⟨call, rfl, own⟩)

end Reservations

end DxDsp.Library
