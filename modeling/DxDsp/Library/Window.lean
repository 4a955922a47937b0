/-
This file compares two ways to test that a range of addresses lies in a window:
in exact integers, and with both ends of the range reduced modulo a power of two
first, as machine arithmetic has them. A range no longer than the modulus, with
a window below the modulus, is judged differently in one case only: its end
wraps to a value below the upper bound, and its start does not wrap to a value
below the lower bound.
-/

namespace DxDsp.Library

/-- A window of addresses. -/
structure Window where
  lower : Nat
  upper : Nat

namespace Window

/-- The range from `start` to `stop` lies in the window. -/
def Contains (window : Window) (start stop : Nat) : Prop :=
  window.lower ≤ start ∧ stop ≤ window.upper

/-- The same test on the two ends modulo `modulus`. -/
def Accepts (window : Window) (modulus start stop : Nat) : Prop :=
  window.Contains (start % modulus) (stop % modulus)

/-- The end wraps to a value below the upper bound, and the start either does not wrap or wraps to
a value above the lower bound. -/
def WrapsInto (window : Window) (modulus start stop : Nat) : Prop :=
  modulus ≤ stop ∧ stop - modulus ≤ window.upper ∧
    (start < modulus ∨ window.lower ≤ start - modulus)

variable {window : Window} {modulus start stop : Nat}

theorem WrapsInto.not_contains (upper : window.upper < modulus)
    (wraps : window.WrapsInto modulus start stop) : ¬ window.Contains start stop :=
  fun contains => absurd (Nat.lt_of_le_of_lt contains.2 upper) (Nat.not_lt.mpr wraps.1)

/-- A range whose end does not wrap is judged as it is. -/
theorem accepts_iff_of_lt (ordered : start ≤ stop) (below : stop < modulus) :
    window.Accepts modulus start stop ↔ window.Contains start stop := by
  rw [Accepts, Nat.mod_eq_of_lt below, Nat.mod_eq_of_lt (Nat.lt_of_le_of_lt ordered below)]

/-- A range whose end wraps is accepted exactly when it wraps into the window. `long` says that a
start that does not wrap lies above the lower bound. -/
theorem accepts_iff_of_le (ordered : start ≤ stop) (once : stop < 2 * modulus)
    (long : window.lower + (stop - start) ≤ modulus) (above : modulus ≤ stop) :
    window.Accepts modulus start stop ↔ window.WrapsInto modulus start stop := by
  have stopMod : stop % modulus = stop - modulus := by
    rw [Nat.mod_eq_sub_mod above, Nat.mod_eq_of_lt (by omega)]
  rw [Accepts, Contains, WrapsInto, stopMod]
  by_cases startBelow : start < modulus
  · rw [Nat.mod_eq_of_lt startBelow]
    have lower : window.lower ≤ start := by omega
    exact ⟨fun accepted => ⟨above, accepted.2, Or.inl startBelow⟩, fun wraps => ⟨lower, wraps.2.1⟩⟩
  · have startMod : start % modulus = start - modulus := by
      rw [Nat.mod_eq_sub_mod (Nat.not_lt.mp startBelow), Nat.mod_eq_of_lt (by omega)]
    rw [startMod]
    exact ⟨fun accepted => ⟨above, accepted.2, Or.inr accepted.1⟩,
      fun wraps => ⟨wraps.2.2.resolve_left startBelow, wraps.2.1⟩⟩

/-- The test modulo `modulus` is exact on exactly the ranges that do not wrap into the window. -/
theorem accepts_iff_contains_iff (upper : window.upper < modulus) (ordered : start ≤ stop)
    (once : stop < 2 * modulus) (long : window.lower + (stop - start) ≤ modulus) :
    (window.Accepts modulus start stop ↔ window.Contains start stop) ↔
      ¬ window.WrapsInto modulus start stop := by
  by_cases below : stop < modulus
  · have straight : ¬ window.WrapsInto modulus start stop :=
      fun wraps => absurd below (Nat.not_lt.mpr wraps.1)
    exact iff_of_true (accepts_iff_of_lt ordered below) straight
  · rw [accepts_iff_of_le ordered once long (Nat.not_lt.mp below)]
    constructor
    · intro same wraps
      exact wraps.not_contains upper (same.mp wraps)
    · intro straight
      refine iff_of_false straight fun contains => ?_
      exact absurd (Nat.lt_of_le_of_lt contains.2 upper) below

end Window

end DxDsp.Library
