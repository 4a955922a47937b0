/-
This file is about code that acquires several resources in turn, any of which
may fail. A program of this kind keeps a ledger of what it has acquired and
released; whether an acquisition succeeds is decided outside.
-/

import Mathlib.Data.List.TakeWhile
import Mathlib.Data.List.Induction

namespace DxDsp.Library

/-- An entry of the ledger. -/
inductive LedgerEvent (Resource : Type)
  | acquired (resource : Resource)
  | released (resource : Resource)
deriving DecidableEq, Repr

/-- A program over the ledger. -/
abbrev Acquiring (Resource : Type) := StateM (List (LedgerEvent Resource))

variable {Resource Error : Type}

/-- Try to acquire a resource; a failure leaves the ledger as it is. -/
def acquire (outcomes : Resource → Option Error) (resource : Resource) :
    Acquiring Resource (Option Error) := fun ledger =>
  match outcomes resource with
  | none => (none, ledger ++ [.acquired resource])
  | some error => (some error, ledger)

def release (resource : Resource) : Acquiring Resource Unit :=
  fun ledger => ((), ledger ++ [.released resource])

/-- Acquire a list of resources in turn, as far as the first failure. -/
def acquireInTurn (outcomes : Resource → Option Error) :
    List Resource → Acquiring Resource (Option (Resource × Error))
  | [] => pure none
  | resource :: rest => do
    match ← acquire outcomes resource with
    | none => acquireInTurn outcomes rest
    | some error => pure (some (resource, error))

/-- The acquisition succeeds. -/
def acquires (outcomes : Resource → Option Error) (resource : Resource) : Bool :=
  (outcomes resource).isNone

section Steps

variable {outcomes : Resource → Option Error} {resource : Resource} {Result : Type}
  (ledger : List (LedgerEvent Resource))

theorem acquire_bind_of_none (succeeded : outcomes resource = none)
    (next : Option Error → Acquiring Resource Result) :
    (acquire outcomes resource >>= next) ledger =
      next none (ledger ++ [.acquired resource]) := by
  have first : acquire outcomes resource ledger = (none, ledger ++ [.acquired resource]) := by
    rw [acquire, succeeded]
  simp only [bind, StateT.bind, first]

theorem acquire_bind_of_some {error : Error} (failed : outcomes resource = some error)
    (next : Option Error → Acquiring Resource Result) :
    (acquire outcomes resource >>= next) ledger = next (some error) ledger := by
  have first : acquire outcomes resource ledger = (some error, ledger) := by
    rw [acquire, failed]
  simp only [bind, StateT.bind, first]

theorem release_bind (next : Unit → Acquiring Resource Result) :
    (release resource >>= next) ledger = next () (ledger ++ [.released resource]) := rfl

end Steps

/-- The ledger after a list acquired in turn: the resources before the first failure. -/
theorem acquireInTurn_ledger (outcomes : Resource → Option Error) (resources : List Resource)
    (ledger : List (LedgerEvent Resource)) :
    (acquireInTurn outcomes resources ledger).2 =
      ledger ++ (resources.takeWhile (acquires outcomes)).map .acquired := by
  induction resources generalizing ledger with
  | nil => exact (List.append_nil ledger).symm
  | cons resource rest inductionHypothesis =>
    rw [acquireInTurn]
    cases outcome : outcomes resource with
    | none =>
      have success : acquires outcomes resource = true := by rw [acquires, outcome]; rfl
      rw [acquire_bind_of_none ledger outcome, List.takeWhile_cons_of_pos success]
      refine (inductionHypothesis _).trans ?_
      rw [List.map_cons, List.append_assoc, List.singleton_append]
    | some error =>
      have failure : ¬ acquires outcomes resource = true := by rw [acquires, outcome]; simp
      rw [acquire_bind_of_some ledger outcome, List.takeWhile_cons_of_neg failure]
      exact (List.append_nil ledger).symm

/-- It reports a failure exactly when there is one. -/
theorem acquireInTurn_isNone (outcomes : Resource → Option Error) (resources : List Resource)
    (ledger : List (LedgerEvent Resource)) :
    (acquireInTurn outcomes resources ledger).1.isNone = resources.all (acquires outcomes) := by
  induction resources generalizing ledger with
  | nil => rfl
  | cons resource rest inductionHypothesis =>
    rw [acquireInTurn, List.all_cons]
    cases outcome : outcomes resource with
    | none =>
      have success : acquires outcomes resource = true := by rw [acquires, outcome]; rfl
      rw [acquire_bind_of_none ledger outcome, success, Bool.true_and]
      exact inductionHypothesis _
    | some error =>
      have failure : acquires outcomes resource = false := by rw [acquires, outcome]; rfl
      rw [acquire_bind_of_some ledger outcome, failure, Bool.false_and]
      rfl

/-- Every resource acquired that has a release has been released exactly once, and nothing was
released that was not acquired. -/
def Unwound (owned : Resource → Bool) [DecidableEq Resource]
    (ledger : List (LedgerEvent Resource)) : Prop :=
  ∀ resource,
    (owned resource → .acquired resource ∈ ledger → ledger.count (.released resource) = 1) ∧
      (.acquired resource ∉ ledger → .released resource ∉ ledger)

/-! ### Ledgers in which nothing is released twice or left behind -/

section Balance

variable [DecidableEq Resource] {resource : Resource}

/-- Whether a resource is held after an entry, if the entry is in order: what is acquired was not
held, and what is released was. -/
def LedgerEvent.after (resource : Resource) (held : Bool) : LedgerEvent Resource → Option Bool
  | .acquired own => if own = resource then (if held then none else some true) else some held
  | .released own => if own = resource then (if held then some false else none) else some held

/-- Whether it is held after a ledger, if all the entries are in order. -/
def heldAfter (resource : Resource) : Bool → List (LedgerEvent Resource) → Option Bool
  | held, [] => some held
  | held, event :: rest => (event.after resource held).bind fun next => heldAfter resource next rest

/-- Every resource that has a release is acquired and released in turns, and not held at the
end. -/
def Balanced (owned : Resource → Bool) (ledger : List (LedgerEvent Resource)) : Prop :=
  ∀ resource, owned resource = true → heldAfter resource false ledger = some false

theorem heldAfter_append (held : Bool) (first second : List (LedgerEvent Resource)) :
    heldAfter resource held (first ++ second) =
      (heldAfter resource held first).bind fun next => heldAfter resource next second := by
  induction first generalizing held with
  | nil => rfl
  | cons event rest inductionHypothesis =>
    rw [List.cons_append, heldAfter, heldAfter, Option.bind_assoc]
    exact congrArg _ (funext fun next => inductionHypothesis next)

/-- What is balanced leaves nothing for what follows. -/
theorem Balanced.append_iff {owned : Resource → Bool} {first second : List (LedgerEvent Resource)}
    (balanced : Balanced owned first) :
    Balanced owned (first ++ second) ↔ Balanced owned second := by
  refine forall_congr' fun resource => forall_congr' fun isOwned => ?_
  rw [heldAfter_append, balanced resource isOwned, Option.bind_some]

/-- What is held and never released stays held, unless it is acquired again. -/
theorem heldAfter_of_notMem_released {ledger : List (LedgerEvent Resource)}
    (never : .released resource ∉ ledger) {held : Bool}
    (found : held = true ∨ .acquired resource ∈ ledger) :
    heldAfter resource held ledger ≠ some false := by
  induction ledger generalizing held with
  | nil =>
    rcases found with rfl | member
    · simp [heldAfter]
    · cases member
  | cons event rest inductionHypothesis =>
    have later : .released resource ∉ rest := fun member => never (List.mem_cons_of_mem _ member)
    cases event with
    | acquired own =>
      by_cases same : own = resource
      · cases held with
        | true => simp [heldAfter, LedgerEvent.after, same]
        | false =>
          rw [heldAfter, LedgerEvent.after, if_pos same]
          exact inductionHypothesis later (Or.inl rfl)
      · rw [heldAfter, LedgerEvent.after, if_neg same, Option.bind_some]
        refine inductionHypothesis later (found.imp_right fun member => ?_)
        refine (List.mem_cons.mp member).resolve_left fun equal => same ?_
        exact (LedgerEvent.acquired.inj equal).symm
    | released own =>
      have apart : own ≠ resource := fun same => never (same ▸ List.mem_cons_self)
      rw [heldAfter, LedgerEvent.after, if_neg apart, Option.bind_some]
      refine inductionHypothesis later (found.imp_right fun member => ?_)
      exact (List.mem_cons.mp member).resolve_left (by simp)

/-- What is never acquired is not released in order. -/
theorem heldAfter_of_notMem_acquired {ledger : List (LedgerEvent Resource)}
    (never : .acquired resource ∉ ledger) (released : .released resource ∈ ledger) :
    heldAfter resource false ledger ≠ some false := by
  induction ledger with
  | nil => cases released
  | cons event rest inductionHypothesis =>
    have later : .acquired resource ∉ rest := fun member => never (List.mem_cons_of_mem _ member)
    cases event with
    | acquired own =>
      have apart : own ≠ resource := fun same => never (same ▸ List.mem_cons_self)
      rw [heldAfter, LedgerEvent.after, if_neg apart, Option.bind_some]
      exact inductionHypothesis later
        ((List.mem_cons.mp released).resolve_left (by simp))
    | released own =>
      by_cases same : own = resource
      · simp [heldAfter, LedgerEvent.after, same]
      · rw [heldAfter, LedgerEvent.after, if_neg same, Option.bind_some]
        refine inductionHypothesis later ((List.mem_cons.mp released).resolve_left fun equal => ?_)
        exact same (LedgerEvent.released.inj equal).symm

/-- A run of cycles is balanced after each of them exactly if every cycle is. -/
theorem balanced_flatMap_iff {owned : Resource → Bool} {Cycle : Type}
    {ledger : Cycle → List (LedgerEvent Resource)} (cycles : List Cycle) :
    (∀ done, done <+: cycles → Balanced owned (done.flatMap ledger)) ↔
      ∀ cycle ∈ cycles, Balanced owned (ledger cycle) := by
  constructor
  · intro always cycle member
    obtain ⟨before, after, rfl⟩ := List.append_of_mem member
    have first := always before (List.prefix_append _ _)
    have second := always (before ++ [cycle]) ⟨after, by rw [List.append_assoc]; rfl⟩
    rw [List.flatMap_append, first.append_iff, List.flatMap_singleton] at second
    exact second
  · intro each done front
    induction done using List.reverseRecOn with
    | nil => exact fun _ _ => rfl
    | append_singleton before cycle inductionHypothesis =>
      have earlier := inductionHypothesis ((List.prefix_append _ _).trans front)
      rw [List.flatMap_append, earlier.append_iff, List.flatMap_singleton]
      exact each cycle (front.subset (List.mem_append_right _ (List.mem_singleton_self _)))

end Balance

end DxDsp.Library
