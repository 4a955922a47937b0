/-
This file holds ownership: slots are taken, and each client claims some of the
taken slots, no two clients the same one. A client may claim a slot that is not
taken and release one it claims; both keep the claims apart.
-/

import Mathlib.Data.Set.Insert
import Mathlib.Data.Set.Lattice
import Mathlib.Logic.Pairwise
import Mathlib.Order.CompletePartialOrder

namespace DxDsp.Library

variable {Client Slot : Type}

/-- Every claimed slot is taken, and no slot is claimed twice. -/
structure Owned (taken : Set Slot) (claims : Client → Set Slot) : Prop where
  inside : ∀ client, claims client ⊆ taken
  apart : Pairwise fun first second => Disjoint (claims first) (claims second)

namespace Owned

variable {taken : Set Slot} {claims : Client → Set Slot}

theorem empty : Owned (∅ : Set Slot) (fun _ : Client => ∅) where
  inside _ := subset_rfl
  apart _ _ _ := Set.disjoint_empty _

/-- A slot has one claimant. -/
theorem client_unique (owned : Owned taken claims) {first second : Client} {slot : Slot}
    (firstClaims : slot ∈ claims first) (secondClaims : slot ∈ claims second) : first = second := by
  by_contra different
  exact Set.disjoint_left.mp (owned.apart different) firstClaims secondClaims

variable [DecidableEq Client]

theorem claim (owned : Owned taken claims) (client : Client) {slot : Slot} (free : slot ∉ taken) :
    Owned (insert slot taken) (Function.update claims client (insert slot (claims client))) where
  inside own := by
    by_cases same : own = client
    · subst same
      rw [Function.update_self]
      exact Set.insert_subset_insert (owned.inside own)
    · rw [Function.update_of_ne same]
      exact (owned.inside own).trans (Set.subset_insert _ _)
  apart := by
    have unclaimed : ∀ own, slot ∉ claims own := fun own member => free (owned.inside own member)
    intro first second different
    by_cases isFirst : first = client
    · subst isFirst
      rw [Function.update_self, Function.update_of_ne different.symm]
      exact Set.disjoint_insert_left.mpr ⟨unclaimed second, owned.apart different⟩
    · by_cases isSecond : second = client
      · subst isSecond
        rw [Function.update_self, Function.update_of_ne different]
        exact Set.disjoint_insert_right.mpr ⟨unclaimed first, owned.apart different⟩
      · rw [Function.update_of_ne isFirst, Function.update_of_ne isSecond]
        exact owned.apart different

theorem release (owned : Owned taken claims) {client : Client} {slot : Slot}
    (claimed : slot ∈ claims client) :
    Owned (taken \ {slot}) (Function.update claims client (claims client \ {slot})) where
  inside own := by
    by_cases same : own = client
    · subst same
      rw [Function.update_self]
      exact fun _ member => ⟨owned.inside own member.1, member.2⟩
    · rw [Function.update_of_ne same]
      intro other member
      refine ⟨owned.inside own member, ?_⟩
      rintro rfl
      exact same (owned.client_unique member claimed)
  apart := by
    have smaller : ∀ own, Function.update claims client (claims client \ {slot}) own ⊆
        claims own := by
      intro own
      by_cases same : own = client
      · subst same
        rw [Function.update_self]
        exact fun _ member => member.1
      · rw [Function.update_of_ne same]
    intro first second different
    exact (owned.apart different).mono (smaller first) (smaller second)

/-- A slot changes hands. -/
theorem transfer (owned : Owned taken claims) {giver taker : Client} {slot : Slot}
    (claimed : slot ∈ claims giver) (different : taker ≠ giver) :
    Owned taken (Function.update (Function.update claims giver (claims giver \ {slot})) taker
      (insert slot (claims taker))) := by
  have given := (owned.release claimed).claim taker fun member : slot ∈ _ => member.2 rfl
  rw [Set.insert_sdiff_singleton, Set.insert_eq_of_mem (owned.inside giver claimed),
    Function.update_of_ne different] at given
  exact given

end Owned

end DxDsp.Library
