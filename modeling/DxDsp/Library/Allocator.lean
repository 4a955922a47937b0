/-
This file is the abstract allocator: a set of outstanding slots out of `count`,
a grant that takes the lowest slot not outstanding, and a release. Slots are
cells of equal size, so outstanding slots never share an address.
-/

import DxDsp.Library.Cells
import Mathlib.Data.Fintype.Basic
import Mathlib.Data.Finset.Lattice.Fold
import Mathlib.Data.Fin.Basic

namespace DxDsp.Library.Allocator

variable {count : Nat}

/-- The lowest slot that is not outstanding. -/
def grant (outstanding : Finset (Fin count)) : Option (Fin count) :=
  Fin.find? fun slot => decide (slot ∉ outstanding)

theorem grant_eq_some_iff {outstanding : Finset (Fin count)} {slot : Fin count} :
    grant outstanding = some slot ↔ slot ∉ outstanding ∧ ∀ lower < slot, lower ∈ outstanding := by
  simp [grant]

theorem grant_eq_none_iff {outstanding : Finset (Fin count)} :
    grant outstanding = none ↔ ∀ slot, slot ∈ outstanding := by
  simp [grant]

/-- Outstanding slots share no address and lie in the region the slots make up. -/
theorem outstanding_cells (outstanding : Finset (Fin count)) (base unit : Nat) :
    (outstanding : Set (Fin count)).PairwiseDisjoint (fun slot => cell base unit slot) ∧
      ∀ slot ∈ outstanding, cell base unit slot ⊆ Set.Ico base (base + count * unit) := by
  constructor
  · intro first _ second _ different
    exact cell_disjoint fun same => different (Fin.ext same)
  · intro slot _
    exact cell_subset slot.isLt

end DxDsp.Library.Allocator
