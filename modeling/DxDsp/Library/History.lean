/-
This file holds histories: event lists that grow at the end. A position of an
extended history is the new event or a position of the old one.
-/

import Mathlib.Data.List.Induction

namespace DxDsp.Library

variable {Event : Type}

/-- Where an event of an extended history stands. -/
theorem append_singleton_eq_split {history before after : List Event} {new event : Event}
    (split : history ++ [new] = before ++ event :: after) :
    (after = [] ∧ before = history ∧ event = new) ∨
      ∃ rest, after = rest ++ [new] ∧ history = before ++ event :: rest := by
  rcases List.eq_nil_or_concat after with rfl | ⟨rest, last, rfl⟩
  · obtain ⟨same, last⟩ := List.append_inj' split rfl
    injection last with last _
    exact Or.inl ⟨rfl, same.symm, last.symm⟩
  · right
    rw [List.concat_eq_append, ← List.cons_append, ← List.append_assoc] at split
    obtain ⟨same, last⟩ := List.append_inj' split rfl
    injection last with last _
    exact ⟨rest, by rw [List.concat_eq_append, last], same⟩

/-- Where two events of an extended history stand: both in the old one, or the later one is the
new event. -/
theorem append_singleton_eq_split_two {history before between after : List Event}
    {new first second : Event}
    (split : history ++ [new] = before ++ first :: between ++ second :: after) :
    (after = [] ∧ history = before ++ first :: between ∧ second = new) ∨
      ∃ rest, after = rest ++ [new] ∧ history = before ++ first :: between ++ second :: rest := by
  rcases append_singleton_eq_split split with ⟨last, same, event⟩ | ⟨rest, last, same⟩
  · exact Or.inl ⟨last, same.symm, event⟩
  · exact Or.inr ⟨rest, last, same⟩

/-- Two different events of a history stand one before the other. -/
theorem exists_split_two {history : List Event} {first second : Event} (different : first ≠ second)
    (firstMember : first ∈ history) (secondMember : second ∈ history) :
    (∃ before between after, history = before ++ first :: between ++ second :: after) ∨
      ∃ before between after, history = before ++ second :: between ++ first :: after := by
  obtain ⟨before, after, rfl⟩ := List.append_of_mem firstMember
  rcases List.mem_append.mp secondMember with earlier | later
  · obtain ⟨front, between, rfl⟩ := List.append_of_mem earlier
    exact Or.inr ⟨front, between, after, rfl⟩
  · obtain ⟨between, rest, rfl⟩ :=
      List.append_of_mem ((List.mem_cons.mp later).resolve_left (Ne.symm different))
    exact Or.inl ⟨before, between, rest, by rw [List.append_assoc, List.cons_append]⟩

/-! ### What stands before an event -/

/-- Every event of a history stands to what was before it as required. -/
def Preceded (Stands : List Event → Event → Prop) (history : List Event) : Prop :=
  ∀ before event after, history = before ++ event :: after → Stands before event

theorem preceded_nil (Stands : List Event → Event → Prop) : Preceded Stands [] := by
  intro before event after split
  exact absurd split.symm (List.append_ne_nil_of_right_ne_nil _ (List.cons_ne_nil _ _))

theorem Preceded.append {Stands : List Event → Event → Prop} {history : List Event}
    {event : Event} (preceded : Preceded Stands history) (stands : Stands history event) :
    Preceded Stands (history ++ [event]) := by
  intro before own after split
  rcases append_singleton_eq_split split with ⟨_, rfl, rfl⟩ | ⟨rest, _, old⟩
  · exact stands
  · exact preceded before own rest old

end DxDsp.Library
