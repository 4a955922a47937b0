/-
This file is the abstract in-order pipeline: items are accepted at the back of
a waiting line, started one at a time from its front, and finished. Nothing is
lost, duplicated or reordered: the accepted items are the finished ones, the one
in flight, and the waiting ones, in this order.
-/

import Mathlib.Data.List.Basic

namespace DxDsp.Library

structure Pipeline (Item : Type) where
  accepted : List Item
  finished : List Item
  inFlight : List Item
  waiting : List Item

namespace Pipeline

variable {Item : Type}

inductive Step : Pipeline Item → Pipeline Item → Prop
  | accept (pipeline : Pipeline Item) (item : Item) :
      Step pipeline
        { pipeline with
          accepted := pipeline.accepted ++ [item]
          waiting := pipeline.waiting ++ [item] }
  | start (pipeline : Pipeline Item) (item : Item) (rest : List Item)
      (idle : pipeline.inFlight = []) (first : pipeline.waiting = item :: rest) :
      Step pipeline { pipeline with inFlight := [item], waiting := rest }
  | finish (pipeline : Pipeline Item) (item : Item) (only : pipeline.inFlight = [item]) :
      Step pipeline { pipeline with inFlight := [], finished := pipeline.finished ++ [item] }

/-- In order, exactly once, one at a time. -/
structure InOrder (pipeline : Pipeline Item) : Prop where
  conserved : pipeline.accepted = pipeline.finished ++ pipeline.inFlight ++ pipeline.waiting
  single : pipeline.inFlight.length ≤ 1

theorem InOrder.step {pipeline next : Pipeline Item} (inOrder : InOrder pipeline)
    (moved : Step pipeline next) : InOrder next := by
  obtain ⟨conserved, single⟩ := inOrder
  cases moved with
  | accept item =>
    refine ⟨?_, single⟩
    show pipeline.accepted ++ [item] = _ ++ (pipeline.waiting ++ [item])
    rw [conserved, List.append_assoc _ pipeline.waiting]
  | start item rest idle first =>
    refine ⟨?_, Nat.le_refl 1⟩
    rw [conserved, idle, first, List.append_nil, List.append_assoc, List.singleton_append]
  | finish item only =>
    refine ⟨?_, Nat.zero_le 1⟩
    rw [conserved, only, List.append_nil]

end Pipeline

end DxDsp.Library
