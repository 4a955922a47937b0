/-
This file holds arrays of equal cells as sets of addresses: cell `index` of
`unit` bytes starts `index * unit` bytes behind the base. Different cells are
disjoint, and the first `count` of them lie in the array they make up.
-/

import Mathlib.Data.Set.Lattice
import Mathlib.Order.CompletePartialOrder
import Mathlib.Order.Interval.Set.Basic
import Mathlib.Order.Disjoint

namespace DxDsp.Library

/-- The addresses of one cell. -/
def cell (base unit index : Nat) : Set Nat :=
  Set.Ico (base + index * unit) (base + index * unit + unit)

theorem mem_cell {base unit index address : Nat} :
    address ∈ cell base unit index ↔
      base + index * unit ≤ address ∧ address < base + index * unit + unit := Iff.rfl

/-- An address lies in at most one cell. -/
theorem cell_index_unique {base unit first second address : Nat}
    (inFirst : address ∈ cell base unit first) (inSecond : address ∈ cell base unit second) :
    first = second := by
  rw [mem_cell] at inFirst inSecond
  have left : first < second + 1 := by
    refine Nat.lt_of_mul_lt_mul_right (a := unit) ?_
    rw [Nat.succ_mul]
    omega
  have right : second < first + 1 := by
    refine Nat.lt_of_mul_lt_mul_right (a := unit) ?_
    rw [Nat.succ_mul]
    omega
  omega

theorem cell_disjoint {base unit first second : Nat} (different : first ≠ second) :
    Disjoint (cell base unit first) (cell base unit second) := by
  rw [Set.disjoint_left]
  intro address inFirst inSecond
  exact different (cell_index_unique inFirst inSecond)

/-- The first `count` cells lie in the array they make up. -/
theorem cell_subset {base unit index count : Nat} (inside : index < count) :
    cell base unit index ⊆ Set.Ico base (base + count * unit) := by
  intro address member
  rw [mem_cell] at member
  have last : (index + 1) * unit ≤ count * unit := Nat.mul_le_mul_right unit inside
  rw [Nat.succ_mul] at last
  exact ⟨by omega, by omega⟩

end DxDsp.Library
