/-
This file is the abstract one-record mailbox: a writer puts an item in the
record and then announces it with an event flag, a reader polls the flag, which
clears it, and then reads the record. The flag and the record hold one item, so
nothing is lost only under a discipline: an item is stored when every earlier
one has been read.
-/

import Mathlib.Data.List.Basic

namespace DxDsp.Library

/-- `posting` says that the last item is stored and not yet announced, `expected` that a poll saw
its announcement and it is not yet read. -/
structure Mailbox (Item : Type) where
  record : Item
  stored : List Item
  taken : List Item
  posting : Bool
  event : Bool
  expected : Bool

namespace Mailbox

variable {Item : Type}

/-- The disciplined protocol. -/
inductive Step : Mailbox Item → Mailbox Item → Prop
  | store (box : Mailbox Item) (item : Item) (read : box.stored.length = box.taken.length) :
      Step box { box with record := item, stored := box.stored ++ [item], posting := true }
  | announce (box : Mailbox Item) (posting : box.posting = true) :
      Step box { box with posting := false, event := true }
  | poll (box : Mailbox Item) (quiet : box.expected = false) :
      Step box { box with event := false, expected := box.event }
  | take (box : Mailbox Item) (expected : box.expected = true) :
      Step box { box with taken := box.taken ++ [box.record], expected := false }

/-- Every item is read, or all but the last: that one is in the record, and it is being posted,
announced, or expected by the reader. -/
inductive Faithful (box : Mailbox Item) : Prop
  | empty (read : box.stored = box.taken) (posting : box.posting = false)
      (event : box.event = false) (expected : box.expected = false)
  | posting (unread : box.stored = box.taken ++ [box.record]) (posting : box.posting = true)
      (event : box.event = false) (expected : box.expected = false)
  | announced (unread : box.stored = box.taken ++ [box.record]) (posting : box.posting = false)
      (event : box.event = true) (expected : box.expected = false)
  | expected (unread : box.stored = box.taken ++ [box.record]) (posting : box.posting = false)
      (event : box.event = false) (expected : box.expected = true)

/-- An item is stored into an empty mailbox. -/
theorem Faithful.empty_of_read {box : Mailbox Item} (faithful : Faithful box)
    (read : box.stored.length = box.taken.length) :
    box.stored = box.taken ∧ box.event = false ∧ box.expected = false := by
  cases faithful with
  | empty same _ event expected => exact ⟨same, event, expected⟩
  | posting unread | announced unread | expected unread =>
    rw [unread, List.length_append, List.length_singleton] at read
    omega

theorem Faithful.step {box next : Mailbox Item} (faithful : Faithful box) (moved : Step box next) :
    Faithful next := by
  cases moved with
  | store item read =>
    obtain ⟨same, event, expected⟩ := faithful.empty_of_read read
    exact .posting (by rw [same]) rfl event expected
  | announce posting =>
    cases faithful with
    | posting unread _ _ expected => exact .announced unread rfl rfl expected
    | empty _ quiet | announced _ quiet | expected _ quiet =>
      rw [quiet] at posting
      cases posting
  | poll quiet =>
    cases faithful with
    | empty read posting event => exact .empty read posting rfl event
    | posting unread posting event => exact .posting unread posting rfl event
    | announced unread posting event => exact .expected unread posting rfl event
    | expected _ _ _ expected =>
      rw [quiet] at expected
      cases expected
  | take expected =>
    cases faithful with
    | expected unread posting event => exact .empty unread posting event rfl
    | empty _ _ _ quiet | posting _ _ _ quiet | announced _ _ _ quiet =>
      rw [quiet] at expected
      cases expected

/-- What was read is a front of what was stored. -/
theorem Faithful.taken_prefix {box : Mailbox Item} (faithful : Faithful box) :
    box.taken <+: box.stored := by
  cases faithful with
  | empty read => exact read ▸ List.prefix_rfl
  | posting unread | announced unread | expected unread =>
    rw [unread]
    exact List.prefix_append _ _

/-- At most one item is unread. -/
theorem Faithful.length_le {box : Mailbox Item} (faithful : Faithful box) :
    box.stored.length ≤ box.taken.length + 1 := by
  cases faithful with
  | empty read =>
    rw [read]
    exact Nat.le_succ _
  | posting unread | announced unread | expected unread =>
    simp [unread]

/-- A reader that expects nothing finds the event set where an item is posted and not read. -/
theorem Faithful.event_of_unread {box : Mailbox Item} (faithful : Faithful box)
    (quiet : box.expected = false) (posted : box.posting = false)
    (unread : box.taken.length < box.stored.length) : box.event = true := by
  cases faithful with
  | announced _ _ event => exact event
  | empty read =>
    rw [read] at unread
    exact absurd unread (Nat.lt_irrefl _)
  | posting _ posting =>
    rw [posted] at posting
    cases posting
  | expected _ _ _ expected =>
    rw [quiet] at expected
    cases expected

end Mailbox

end DxDsp.Library
