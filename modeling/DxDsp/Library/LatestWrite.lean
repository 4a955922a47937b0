/-
This file holds memories as histories. A write is a partial function from keys
to values; the memory after a history holds at each key what the latest write
that covers the key put there. The keys may be addresses, offsets or anything
else. Of the writes of a kind there is a last one, and behind it the writes of
other kinds do not count.
-/

import Mathlib.Data.List.Induction

namespace DxDsp.Library

variable {Key Value Write : Type}

/-- What the latest write that covers a key put there. -/
def latest (covers : Write → Key → Option Value) (history : List Write) (key : Key) :
    Option Value :=
  history.foldl (fun held write => (covers write key).or held) none

theorem latest_append (covers : Write → Key → Option Value) (history : List Write) (write : Write)
    (key : Key) :
    latest covers (history ++ [write]) key = (covers write key).or (latest covers history key) := by
  rw [latest, List.foldl_append]
  rfl

theorem latest_append_list (covers : Write → Key → Option Value) (front later : List Write)
    (key : Key) :
    latest covers (front ++ later) key =
      (latest covers later key).or (latest covers front key) := by
  induction later using List.reverseRecOn with
  | nil =>
    rw [List.append_nil]
    rfl
  | append_singleton later write inductionHypothesis =>
    rw [← List.append_assoc, latest_append, latest_append, inductionHypothesis, Option.or_assoc]

theorem latest_eq_none_iff {covers : Write → Key → Option Value} {history : List Write}
    {key : Key} :
    latest covers history key = none ↔ ∀ write ∈ history, covers write key = none := by
  induction history using List.reverseRecOn with
  | nil => simp [latest]
  | append_singleton history write inductionHypothesis =>
    rw [latest_append, Option.or_eq_none_iff, inductionHypothesis, List.forall_mem_append,
      List.forall_mem_singleton, and_comm]

/-- Behind writes that do not cover the key, the last one before them decides. -/
theorem latest_of_uncovered {covers : Write → Key → Option Value} {front later : List Write}
    {write : Write} {key : Key} (uncovered : ∀ other ∈ later, covers other key = none) :
    latest covers (front ++ write :: later) key =
      (covers write key).or (latest covers front key) := by
  rw [List.append_cons, latest_append_list, latest_eq_none_iff.mpr uncovered, Option.none_or,
    latest_append]

/-- Where every write that covers the key puts one value there, the memory holds it. -/
theorem eq_of_latest {covers : Write → Key → Option Value} {history : List Write} {key : Key}
    {value held : Value}
    (puts : ∀ write ∈ history, ∀ put, covers write key = some put → put = value)
    (holds : latest covers history key = some held) : held = value := by
  induction history using List.reverseRecOn with
  | nil => cases holds
  | append_singleton history write inductionHypothesis =>
    rw [latest_append, Option.or_eq_some_iff] at holds
    rcases holds with put | ⟨_, before⟩
    · exact puts write (List.mem_append_right _ List.mem_cons_self) held put
    · exact inductionHypothesis
        (fun other member => puts other (List.mem_append_left _ member)) before

/-- Of the writes of a kind there is a last one. -/
theorem exists_last (Kind : Write → Prop) {history : List Write}
    (found : ∃ write ∈ history, Kind write) :
    ∃ front write later, history = front ++ write :: later ∧ Kind write ∧
      ∀ other ∈ later, ¬ Kind other := by
  induction history using List.reverseRecOn with
  | nil => simp at found
  | append_singleton history write inductionHypothesis =>
    by_cases isLast : Kind write
    · exact ⟨history, write, [], rfl, isLast, by simp⟩
    · obtain ⟨other, member, kind⟩ := found
      rcases List.mem_append.mp member with before | last
      · obtain ⟨front, last, later, rfl, kind, none⟩ := inductionHypothesis ⟨other, before, kind⟩
        refine ⟨front, last, later ++ [write], by simp, kind, ?_⟩
        rw [List.forall_mem_append, List.forall_mem_singleton]
        exact ⟨none, isLast⟩
      · exact absurd (List.mem_singleton.mp last ▸ kind) isLast

end DxDsp.Library
