/-
This file is about the locks of code that runs in one context: a call into a
driver, an interrupt handler, an iteration of a kernel thread. A record says
which spinlocks the context holds, whether interrupts are enabled on its CPU, and
whether it has kept to the rules so far: to take no lock while it holds another,
to copy to or from a user while it holds none, to release only what it holds.

An operation that ends in the record it began in has kept to the rules, because
a broken rule is never forgotten.
-/

import Mathlib.Data.List.Basic

namespace DxDsp.Library

structure LockRecord (Lock : Type) where
  held : List Lock
  irqsEnabled : Bool
  orderly : Bool
deriving DecidableEq, Repr

/-- Code that takes and releases locks. -/
abbrev Locking (Lock : Type) := StateM (LockRecord Lock)

variable {Lock Result Next : Type}

/-! ### Primitives -/

/-- Take a lock, and leave interrupts as they are. -/
def spinLock (lock : Lock) : Locking Lock Unit := fun record =>
  ((), { record with
    held := lock :: record.held
    orderly := record.orderly && record.held.isEmpty })

def spinUnlock [DecidableEq Lock] (lock : Lock) : Locking Lock Unit := fun record =>
  ((), { record with
    held := record.held.erase lock
    orderly := record.orderly && record.held.contains lock })

/-- Take a lock with interrupts disabled; the result says whether they were enabled. -/
def spinLockIrqsave (lock : Lock) : Locking Lock Bool := fun record =>
  (record.irqsEnabled,
    { held := lock :: record.held
      irqsEnabled := false
      orderly := record.orderly && record.held.isEmpty })

def spinUnlockIrqrestore [DecidableEq Lock] (lock : Lock) (flags : Bool) : Locking Lock Unit :=
  fun record =>
    ((),
      { held := record.held.erase lock
        irqsEnabled := flags
        orderly := record.orderly && record.held.contains lock })

/-- A copy to or from user memory, which may sleep. -/
def userCopy : Locking Lock Unit := fun record =>
  ((), { record with orderly := record.orderly && record.held.isEmpty })

/-! ### The discipline -/

/-- Begun with no lock held, the code ends in the record it began in. -/
def Restores (code : Locking Lock Result) : Prop :=
  ∀ record, record.held = [] → (code record).2 = record

/-- Begun inside a section of the lock, the code ends in the record before the section. -/
def Closes (lock : Lock) (code : Locking Lock Result) : Prop :=
  ∀ record, record.held = [] → (code { record with held := [lock] }).2 = record

/-- The same with interrupts disabled by the section. -/
def ClosesIrq (lock : Lock) (code : Bool → Locking Lock Result) : Prop :=
  ∀ record, record.held = [] →
    (code record.irqsEnabled { record with held := [lock], irqsEnabled := false }).2 = record

theorem restores_pure (result : Result) : Restores (pure result : Locking Lock Result) :=
  fun _ _ => rfl

theorem restores_ite {condition : Prop} [Decidable condition] {first second : Locking Lock Result}
    (onTrue : Restores first) (onFalse : Restores second) :
    Restores (if condition then first else second) := by
  split
  · exact onTrue
  · exact onFalse

/-- The record behind two pieces of code in turn. -/
theorem bind_snd (code : Locking Lock Result) (next : Result → Locking Lock Next)
    (record : LockRecord Lock) :
    ((code >>= next) record).2 = (next (code record).1 (code record).2).2 := rfl

theorem Restores.bind {code : Locking Lock Result} {next : Result → Locking Lock Next}
    (first : Restores code) (second : ∀ result, Restores (next result)) :
    Restores (code >>= next) := by
  intro record none
  rw [bind_snd, first record none]
  exact second _ record none

theorem restores_userCopy : Restores (userCopy : Locking Lock Unit) := by
  intro record none
  rw [userCopy, none, List.isEmpty_nil, Bool.and_true, ← none]

theorem restores_spinLock_bind {lock : Lock} {code : Locking Lock Result}
    (closes : Closes lock code) : Restores (spinLock lock >>= fun _ => code) := by
  intro record none
  have taken : (spinLock lock record).2 = { record with held := [lock] } := by
    rw [spinLock, none, List.isEmpty_nil, Bool.and_true]
  rw [bind_snd, taken]
  exact closes record none

theorem restores_spinLockIrqsave_bind {lock : Lock} {code : Bool → Locking Lock Result}
    (closes : ClosesIrq lock code) : Restores (spinLockIrqsave lock >>= code) := by
  intro record none
  have taken : (spinLockIrqsave lock record).2 =
      { record with held := [lock], irqsEnabled := false } := by
    rw [spinLockIrqsave, none, List.isEmpty_nil, Bool.and_true]
  rw [bind_snd, taken]
  exact closes record none

section Unlock

variable [DecidableEq Lock]

theorem closes_spinUnlock_bind {lock : Lock} {next : Locking Lock Result}
    (restores : Restores next) : Closes lock (spinUnlock lock >>= fun _ => next) := by
  intro record none
  have released : (spinUnlock lock { record with held := [lock] }).2 = record := by
    simp [spinUnlock, ← none]
  rw [bind_snd, released]
  exact restores record none

theorem closesIrq_spinUnlockIrqrestore_bind {lock : Lock} {next : Locking Lock Result}
    (restores : Restores next) :
    ClosesIrq lock fun flags => spinUnlockIrqrestore lock flags >>= fun _ => next := by
  intro record none
  have released : (spinUnlockIrqrestore lock record.irqsEnabled
      { record with held := [lock], irqsEnabled := false }).2 = record := by
    simp [spinUnlockIrqrestore, ← none]
  rw [bind_snd, released]
  exact restores record none

/-- A section that is closed as soon as it is opened, whatever is read in it. -/
theorem restores_section {lock : Lock} {next : Locking Lock Result} (restores : Restores next) :
    Restores (spinLock lock >>= fun _ => spinUnlock lock >>= fun _ => next) :=
  restores_spinLock_bind (closes_spinUnlock_bind restores)

theorem restores_sectionIrq {lock : Lock} {next : Locking Lock Result}
    (restores : Restores next) :
    Restores (spinLockIrqsave lock >>= fun flags =>
      spinUnlockIrqrestore lock flags >>= fun _ => next) :=
  restores_spinLockIrqsave_bind (closesIrq_spinUnlockIrqrestore_bind restores)

end Unlock

end DxDsp.Library
