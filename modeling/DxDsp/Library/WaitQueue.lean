/-
This file holds wait queues. A waiter joins its queue, makes its tests, and goes
to sleep when it has found them all to fail; whoever makes a test succeed wakes
the queue afterwards. Between the two the waiter may sleep on a test that would
succeed, but then the wake-up is still to come: no wake-up is lost.
-/

import Mathlib.Logic.Basic

namespace DxDsp.Library

/-- The tests that each waiter has found to fail since it joined its queue, the tests that would
succeed, and those of which the wake-up is still to come. -/
structure WaitQueue (Waiter Test : Type) where
  found : Waiter → Test → Prop
  succeeds : Test → Prop
  due : Test → Prop

namespace WaitQueue

variable {Waiter Test : Type}

/-- No wake-up is lost: where a waiter has found a test to fail that would succeed, a wake-up is
still to come. -/
def Attended (queue : WaitQueue Waiter Test) : Prop :=
  ∀ waiter test, queue.found waiter test → queue.succeeds test → queue.due test

/-- What the parties may do. A waiter finds a test to fail that fails; who makes a test succeed owes
the wake-up; and the wake-up is given by taking every waiter off the queue that has found the test
to fail. -/
structure Step (queue next : WaitQueue Waiter Test) : Prop where
  finds : ∀ waiter test, next.found waiter test →
    queue.found waiter test ∨ ¬ next.succeeds test
  owes : ∀ test, next.succeeds test → queue.succeeds test ∨ next.due test
  wakes : ∀ test, queue.due test → next.due test ∨ ∀ waiter, ¬ next.found waiter test

theorem Attended.step {queue next : WaitQueue Waiter Test} (attended : Attended queue)
    (moved : Step queue next) : Attended next := by
  intro waiter test found succeeds
  have before : queue.found waiter test :=
    (moved.finds waiter test found).resolve_right fun fails => fails succeeds
  rcases moved.owes test succeeds with already | due
  · have pending := attended waiter test before already
    exact (moved.wakes test pending).resolve_right fun woken => woken waiter found
  · exact due

end WaitQueue

end DxDsp.Library
