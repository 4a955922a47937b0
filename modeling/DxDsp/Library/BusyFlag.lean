/-
This file is the abstract busy flag: any number of users test a flag, set it in
a separate step, publish which job they start, and hand the job to a device
that clears the flag when it is done. The test and the set are two steps, so
the protocol excludes only under a discipline: no user passes the test while
another one has passed it and not yet set the flag. Under that discipline at
most one job is between its test and its release, and the published value is
that job's.
-/

import DxDsp.Library.History
import Mathlib.Data.Multiset.AddSub
import Mathlib.Logic.Function.Basic

namespace DxDsp.Library

/-- Where a user stands: before the test, between test and set, between set and publication, or
between publication and hand-over. -/
inductive Phase (Job : Type)
  | outside
  | decided (job : Job)
  | marked (job : Job)
  | published (job : Job)

/-- The job a user stands inside with. -/
def Phase.job {Job : Type} : Phase Job → Option Job
  | .outside => none
  | .decided job | .marked job | .published job => some job

/-- Whether a user in this phase stands inside with the job: 1, or 0. -/
def Phase.count {Job : Type} [DecidableEq Job] (phase : Phase Job) (job : Job) : Nat :=
  if phase.job = some job then 1 else 0

/-- A job passes the test, and is released when the device clears the flag for it. -/
inductive Passage (Job : Type)
  | entered (job : Job)
  | released (job : Job)

def Passage.entry {Job : Type} : Passage Job → Option Job
  | .entered job => some job
  | .released _ => none

def Passage.exit {Job : Type} : Passage Job → Option Job
  | .released job => some job
  | .entered _ => none

/-- The flag, its users, the jobs handed over and not released, the published value, and the
history of passages. -/
structure BusyFlag (User Job Value : Type) where
  busy : Bool
  phase : User → Phase Job
  handed : Multiset Job
  tag : Value
  history : List (Passage Job)

namespace BusyFlag

variable {User Job Value : Type} [DecidableEq User]

/-- The disciplined protocol. `value` is what a job publishes. -/
inductive Step (value : Job → Value) : BusyFlag User Job Value → BusyFlag User Job Value → Prop
  | decide (flag : BusyFlag User Job Value) (user : User) (job : Job)
      (outside : flag.phase user = .outside) (idle : flag.busy = false)
      (alone : ∀ other own, flag.phase other ≠ .decided own) :
      Step value flag
        { flag with
          phase := Function.update flag.phase user (.decided job)
          history := flag.history ++ [.entered job] }
  | mark (flag : BusyFlag User Job Value) (user : User) (job : Job)
      (decided : flag.phase user = .decided job) :
      Step value flag
        { flag with busy := true, phase := Function.update flag.phase user (.marked job) }
  | publish (flag : BusyFlag User Job Value) (user : User) (job : Job)
      (marked : flag.phase user = .marked job) :
      Step value flag
        { flag with
          tag := value job
          phase := Function.update flag.phase user (.published job) }
  | submit (flag : BusyFlag User Job Value) (user : User) (job : Job)
      (published : flag.phase user = .published job) :
      Step value flag
        { flag with
          phase := Function.update flag.phase user .outside
          handed := job ::ₘ flag.handed }
  | release (flag : BusyFlag User Job Value) (job : Job) (rest : Multiset Job)
      (handed : flag.handed = job ::ₘ rest) :
      Step value flag
        { flag with busy := false, handed := rest, history := flag.history ++ [.released job] }

/-! ### One job at a time -/

/-- Every user outside but one. -/
def soleUser (user : User) (phase : Phase Job) : User → Phase Job :=
  Function.update (fun _ => .outside) user phase

/-- What a disciplined flag looks like: free, held by one user, or by the device. The index is the
job between its test and its release. -/
inductive Mode (value : Job → Value) (flag : BusyFlag User Job Value) : Option Job → Prop
  | free (phase : flag.phase = fun _ => .outside) (handed : flag.handed = 0) :
      Mode value flag none
  | decided (user : User) (job : Job) (phase : flag.phase = soleUser user (.decided job))
      (handed : flag.handed = 0) : Mode value flag (some job)
  | marked (user : User) (job : Job) (phase : flag.phase = soleUser user (.marked job))
      (handed : flag.handed = 0) (busy : flag.busy = true) : Mode value flag (some job)
  | published (user : User) (job : Job) (phase : flag.phase = soleUser user (.published job))
      (handed : flag.handed = 0) (busy : flag.busy = true) (tag : flag.tag = value job) :
      Mode value flag (some job)
  | device (job : Job) (phase : flag.phase = fun _ => .outside) (handed : flag.handed = {job})
      (busy : flag.busy = true) (tag : flag.tag = value job) : Mode value flag (some job)

theorem soleUser_of_ne_outside {user other : User} {phase own : Phase Job}
    (found : soleUser user phase other = own) (inside : own ≠ .outside) :
    other = user ∧ phase = own := by
  by_cases same : other = user
  · subst same
    rw [soleUser, Function.update_self] at found
    exact ⟨rfl, found⟩
  · rw [soleUser, Function.update_of_ne same] at found
    exact absurd found.symm inside

theorem update_soleUser (user : User) (phase next : Phase Job) :
    Function.update (soleUser user phase) user next = soleUser user next := by
  rw [soleUser, Function.update_idem, soleUser]

theorem soleUser_outside (user : User) :
    soleUser user (.outside : Phase Job) = fun _ => .outside := by
  rw [soleUser, Function.update_eq_self]

/-- What holds while a user stands in this phase: its job is the current one, the flag is set
behind the second step, and the value is published behind the third. -/
def Inside (value : Job → Value) (flag : BusyFlag User Job Value) (current : Option Job) :
    Phase Job → Prop
  | .outside => False
  | .decided job => current = some job
  | .marked job => current = some job ∧ flag.busy = true
  | .published job => current = some job ∧ flag.busy = true ∧ flag.tag = value job

/-- A user inside is the only one, and the device holds nothing. -/
theorem Mode.of_inside {value : Job → Value} {flag : BusyFlag User Job Value}
    {current : Option Job} (mode : Mode value flag current) {user : User} {own : Phase Job}
    (stands : flag.phase user = own) (inside : own ≠ .outside) :
    flag.phase = soleUser user own ∧ flag.handed = 0 ∧ Inside value flag current own := by
  cases mode with
  | free phase | device _ phase =>
    rw [phase] at stands
    exact absurd stands.symm inside
  | decided holder job phase handed =>
    rw [phase] at stands
    obtain ⟨rfl, rfl⟩ := soleUser_of_ne_outside stands inside
    exact ⟨phase, handed, rfl⟩
  | marked holder job phase handed busy =>
    rw [phase] at stands
    obtain ⟨rfl, rfl⟩ := soleUser_of_ne_outside stands inside
    exact ⟨phase, handed, rfl, busy⟩
  | published holder job phase handed busy tag =>
    rw [phase] at stands
    obtain ⟨rfl, rfl⟩ := soleUser_of_ne_outside stands inside
    exact ⟨phase, handed, rfl, busy, tag⟩

/-! ### What happens between two tests -/

/-- Every job that passed the test is released since, or is the current one. -/
def Settled (history : List (Passage Job)) (current : Option Job) : Prop :=
  ∀ before after job, history = before ++ .entered job :: after →
    .released job ∈ after ∨ current = some job

/-- Between two passed tests the first job is released. -/
def Separated (history : List (Passage Job)) : Prop :=
  ∀ before between after first second,
    history = before ++ .entered first :: between ++ .entered second :: after →
      .released first ∈ between

theorem Settled.enter {history : List (Passage Job)} (settled : Settled history none) (job : Job) :
    Settled (history ++ [.entered job]) (some job) := by
  intro before after own split
  rcases append_singleton_eq_split split with ⟨_, _, new⟩ | ⟨rest, rfl, old⟩
  · injection new with new
    exact Or.inr (congrArg some new.symm)
  · rcases settled before rest own old with released | current
    · exact Or.inl (List.mem_append_left _ released)
    · cases current

theorem Settled.release {history : List (Passage Job)} {job : Job}
    (settled : Settled history (some job)) :
    Settled (history ++ [.released job]) none := by
  intro before after own split
  rcases append_singleton_eq_split split with ⟨_, _, new⟩ | ⟨rest, rfl, old⟩
  · cases new
  · rcases settled before rest own old with released | current
    · exact Or.inl (List.mem_append_left _ released)
    · injection current with current
      exact Or.inl (current ▸ List.mem_append_right _ List.mem_cons_self)

theorem Separated.enter {history : List (Passage Job)} (separated : Separated history)
    (settled : Settled history none) (job : Job) :
    Separated (history ++ [.entered job]) := by
  intro before between after first second split
  rcases append_singleton_eq_split_two split with ⟨_, old, _⟩ | ⟨rest, _, old⟩
  · rcases settled before between first old with released | current
    · exact released
    · cases current
  · exact separated before between rest first second old

theorem Separated.release {history : List (Passage Job)} (separated : Separated history)
    (job : Job) : Separated (history ++ [.released job]) := by
  intro before between after first second split
  rcases append_singleton_eq_split_two split with ⟨_, _, new⟩ | ⟨rest, _, old⟩
  · cases new
  · exact separated before between rest first second old

/-! ### The invariant -/

/-- One job at a time, and its passages alternate. -/
structure Exclusive (value : Job → Value) (flag : BusyFlag User Job Value) (current : Option Job) :
    Prop where
  mode : Mode value flag current
  settled : Settled flag.history current
  separated : Separated flag.history

/-- A passed test finds the flag free: a marked or handed-over job keeps it busy, and a job that
only passed the test is excluded by the discipline. -/
theorem Mode.free_of_decide {value : Job → Value} {flag : BusyFlag User Job Value}
    {current : Option Job} (mode : Mode value flag current) (idle : flag.busy = false)
    (alone : ∀ other own, flag.phase other ≠ .decided own) :
    current = none ∧ (flag.phase = fun _ => .outside) ∧ flag.handed = 0 := by
  cases mode with
  | free phase handed => exact ⟨rfl, phase, handed⟩
  | decided user job phase =>
    refine absurd ?_ (alone user job)
    rw [phase, soleUser, Function.update_self]
  | marked _ _ _ _ busy => rw [busy] at idle; cases idle
  | published _ _ _ _ busy => rw [busy] at idle; cases idle
  | device _ _ _ busy => rw [busy] at idle; cases idle

theorem Exclusive.step {value : Job → Value} {flag next : BusyFlag User Job Value}
    {current : Option Job} (exclusive : Exclusive value flag current)
    (moved : Step value flag next) : ∃ after, Exclusive value next after := by
  obtain ⟨mode, settled, separated⟩ := exclusive
  cases moved with
  | decide user job outside idle alone =>
    obtain ⟨rfl, phase, handed⟩ := mode.free_of_decide idle alone
    refine ⟨some job, ⟨.decided user job ?_ handed, settled.enter job, separated.enter settled job⟩⟩
    rw [phase, soleUser]
  | mark user job decided =>
    obtain ⟨phase, handed, rfl⟩ := mode.of_inside decided (by simp)
    refine ⟨_, ⟨.marked user job ?_ handed rfl, settled, separated⟩⟩
    rw [phase, update_soleUser]
  | publish user job marked =>
    obtain ⟨phase, handed, rfl, busy⟩ := mode.of_inside marked (by simp)
    refine ⟨_, ⟨.published user job ?_ handed busy rfl, settled, separated⟩⟩
    rw [phase, update_soleUser]
  | submit user job published =>
    obtain ⟨phase, handed, rfl, busy, tag⟩ := mode.of_inside published (by simp)
    refine ⟨_, ⟨.device job ?_ ?_ busy tag, settled, separated⟩⟩
    · rw [phase, update_soleUser, soleUser_outside]
    · rw [handed]
      rfl
  | release job rest handedOver =>
    cases mode with
    | free _ handed | decided _ _ _ handed | marked _ _ _ handed | published _ _ _ handed =>
      rw [handed] at handedOver
      exact absurd handedOver Multiset.zero_ne_cons
    | device own phase handed =>
      rw [handed] at handedOver
      obtain ⟨rfl, empty⟩ := (Multiset.singleton_eq_cons_iff rest).mp handedOver
      exact ⟨none, ⟨.free phase empty, settled.release, separated.release own⟩⟩

/-- A job the device holds is the current one, and the published value is its own. -/
theorem Exclusive.of_handed {value : Job → Value} {flag : BusyFlag User Job Value}
    {current : Option Job} (exclusive : Exclusive value flag current) {job : Job}
    (member : job ∈ flag.handed) : flag.handed = {job} ∧ flag.tag = value job := by
  cases exclusive.mode with
  | free _ handed | decided _ _ _ handed | marked _ _ _ handed | published _ _ _ handed =>
    rw [handed] at member
    exact absurd member (Multiset.notMem_zero job)
  | device own _ handed _ tag =>
    rw [handed, Multiset.mem_singleton] at member
    subst member
    exact ⟨handed, tag⟩

/-- While the device holds a job, nobody is inside, and all that can happen is its release. -/
theorem Step.of_device {value : Job → Value} {flag next : BusyFlag User Job Value}
    (moved : Step value flag next) {job : Job} (phase : flag.phase = fun _ => .outside)
    (handed : flag.handed = {job}) (busy : flag.busy = true) :
    next.history = flag.history ++ [.released job] := by
  cases moved with
  | decide _ _ _ idle =>
    rw [busy] at idle
    cases idle
  | mark user own stands | publish user own stands | submit user own stands =>
    rw [phase] at stands
    cases stands
  | release own rest handedOver =>
    rw [handed] at handedOver
    rw [((Multiset.singleton_eq_cons_iff rest).mp handedOver).1]

/-- While a user has published and not handed over, the device holds nothing. -/
theorem Exclusive.of_published {value : Job → Value} {flag : BusyFlag User Job Value}
    {current : Option Job} (exclusive : Exclusive value flag current) {user : User} {job : Job}
    (published : flag.phase user = .published job) : flag.handed = 0 :=
  (exclusive.mode.of_inside published (by simp)).2.1

/-! ### Whom the flag is held for -/

theorem soleUser_job {user other : User} {phase : Phase Job} {job : Job}
    (inside : (soleUser user phase other).job = some job) : phase.job = some job := by
  by_cases same : other = user
  · rwa [same, soleUser, Function.update_self] at inside
  · rw [soleUser, Function.update_of_ne same] at inside
    cases inside

theorem job_update (phase : User → Phase Job) (user : User) (own : Phase Job) :
    (Function.update phase user own user).job = own.job := by
  rw [Function.update_self]

/-- The current job is that of the user inside, or the one the device holds. -/
theorem Mode.current_eq_some_iff {value : Job → Value} {flag : BusyFlag User Job Value}
    {current : Option Job} (mode : Mode value flag current) (job : Job) :
    current = some job ↔ (∃ user, (flag.phase user).job = some job) ∨ job ∈ flag.handed := by
  have held : ∀ {user : User} {own : Phase Job} {single : Job}, flag.phase = soleUser user own →
      own.job = some single → flag.handed = 0 →
        (some single = some job ↔
          (∃ user, (flag.phase user).job = some job) ∨ job ∈ flag.handed) := by
    intro user own single phase isOwn handed
    rw [phase, handed]
    constructor
    · intro same
      refine Or.inl ⟨user, ?_⟩
      rw [soleUser, Function.update_self, isOwn, same]
    · rintro (⟨other, inside⟩ | member)
      · exact isOwn.symm.trans (soleUser_job inside)
      · exact absurd member (Multiset.notMem_zero job)
  cases mode with
  | free phase handed =>
    rw [phase, handed]
    refine iff_of_false nofun ?_
    rintro (⟨user, inside⟩ | member)
    · cases inside
    · exact Multiset.notMem_zero job member
  | decided user own phase handed => exact held phase rfl handed
  | marked user own phase handed => exact held phase rfl handed
  | published user own phase handed => exact held phase rfl handed
  | device own phase handed =>
    rw [phase, handed, Multiset.mem_singleton, Option.some_inj]
    refine ⟨fun same => Or.inr same.symm, ?_⟩
    rintro (⟨user, inside⟩ | same)
    · cases inside
    · exact same.symm

/-- What a step adds to the history, with the current job before it and behind it. -/
inductive Passes : Option Job → List (Passage Job) → Option Job → Prop
  | stays (current : Option Job) : Passes current [] current
  | enters (job : Job) : Passes none [.entered job] (some job)
  | leaves (job : Job) : Passes (some job) [.released job] none

theorem Exclusive.step_passes {value : Job → Value} {flag next : BusyFlag User Job Value}
    {current : Option Job} (exclusive : Exclusive value flag current)
    (moved : Step value flag next) :
    ∃ told after, next.history = flag.history ++ told ∧ Passes current told after ∧
      Exclusive value next after := by
  obtain ⟨after, kept⟩ := exclusive.step moved
  have before := exclusive.mode.current_eq_some_iff
  have behind := kept.mode.current_eq_some_iff
  cases moved with
  | decide user job outside idle alone =>
    obtain ⟨rfl, -, -⟩ := exclusive.mode.free_of_decide idle alone
    obtain rfl := (behind job).mpr (Or.inl ⟨user, job_update flag.phase user _⟩)
    exact ⟨_, _, rfl, .enters job, kept⟩
  | mark user job stands | publish user job stands =>
    obtain rfl := (before job).mpr (Or.inl ⟨user, congrArg Phase.job stands⟩)
    obtain rfl := (behind job).mpr (Or.inl ⟨user, job_update flag.phase user _⟩)
    exact ⟨[], _, (List.append_nil _).symm, .stays _, kept⟩
  | submit user job stands =>
    obtain rfl := (before job).mpr (Or.inl ⟨user, congrArg Phase.job stands⟩)
    obtain rfl := (behind job).mpr (Or.inr (Multiset.mem_cons_self _ _))
    exact ⟨[], _, (List.append_nil _).symm, .stays _, kept⟩
  | release job rest handed =>
    have member : job ∈ flag.handed := handed ▸ Multiset.mem_cons_self _ _
    obtain rfl := (before job).mpr (Or.inr member)
    have alone := (exclusive.of_handed member).1
    rw [handed, eq_comm, Multiset.singleton_eq_cons_iff] at alone
    have empty : after = none := by
      refine Option.eq_none_iff_forall_not_mem.mpr fun own isAfter => ?_
      rcases (behind own).mp isAfter with ⟨user, inside⟩ | left
      · have stands : flag.phase user ≠ .outside := fun outside =>
          absurd ((congrArg Phase.job outside).symm.trans inside) nofun
        rw [(exclusive.mode.of_inside rfl stands).2.1] at member
        exact Multiset.notMem_zero job member
      · rw [alone.2] at left
        exact Multiset.notMem_zero own left
    exact ⟨_, _, rfl, empty ▸ .leaves job, kept⟩

/-! ### Without the discipline -/

/-- The protocol without the discipline: a user may pass the test beside others. -/
inductive Move (value : Job → Value) :
    BusyFlag User Job Value → BusyFlag User Job Value → Prop
  | decide (flag : BusyFlag User Job Value) (user : User) (job : Job)
      (outside : flag.phase user = .outside) (idle : flag.busy = false) :
      Move value flag
        { flag with
          phase := Function.update flag.phase user (.decided job)
          history := flag.history ++ [.entered job] }
  | step {flag next : BusyFlag User Job Value} (moved : Step value flag next) :
      Move value flag next

/-- A set flag is owed its clearing: by a user that has set it and not handed its job over, or by
the device for a job it holds. -/
def Owed (flag : BusyFlag User Job Value) : Prop :=
  flag.busy = true →
    (∃ user job, flag.phase user = .marked job ∨ flag.phase user = .published job) ∨
      flag.handed ≠ 0

/-- Behind every step the user that moved owes the clearing, or the device does, or the flag is
clear. -/
theorem Move.owed {value : Job → Value} {flag next : BusyFlag User Job Value}
    (moved : Move value flag next) : Owed next := by
  intro busy
  cases moved with
  | decide user job outside idle =>
    rw [show flag.busy = true from busy] at idle
    cases idle
  | step moved =>
    cases moved with
    | decide user job outside idle =>
      rw [show flag.busy = true from busy] at idle
      cases idle
    | mark user job => exact Or.inl ⟨user, job, Or.inl (Function.update_self _ _ _)⟩
    | publish user job => exact Or.inl ⟨user, job, Or.inr (Function.update_self _ _ _)⟩
    | submit user job => exact Or.inr Multiset.cons_ne_zero
    | release => cases busy

/-! ### Where the published value comes from -/

/-- Users stand inside with jobs that passed the test, and the published value is that of one of
them, as long as a user has published or the device holds a job. -/
structure Traced (value : Job → Value) (flag : BusyFlag User Job Value) : Prop where
  inside : ∀ user job, (flag.phase user).job = some job → .entered job ∈ flag.history
  tag : ((∃ user job, flag.phase user = .published job) ∨ flag.handed ≠ 0) →
    ∃ job, .entered job ∈ flag.history ∧ flag.tag = value job

/-- A user that moves to a phase with a job that passed the test. -/
theorem inside_update {phase : User → Phase Job} {history : List (Passage Job)} {user : User}
    {next : Phase Job}
    (inside : ∀ other job, (phase other).job = some job → .entered job ∈ history)
    (entered : ∀ job, next.job = some job → .entered job ∈ history) (other : User) (job : Job)
    (stands : (Function.update phase user next other).job = some job) :
    .entered job ∈ history := by
  by_cases same : other = user
  · rw [same, Function.update_self] at stands
    exact entered job stands
  · rw [Function.update_of_ne same] at stands
    exact inside other job stands

/-- The users that have published, where one of them moves to an earlier phase or outside. -/
theorem published_of_update {phase : User → Phase Job} {user : User} {next : Phase Job}
    (unpublished : ∀ job, next ≠ .published job)
    (found : ∃ other job, Function.update phase user next other = .published job) :
    ∃ other job, phase other = .published job := by
  obtain ⟨other, job, stands⟩ := found
  by_cases same : other = user
  · rw [same, Function.update_self] at stands
    exact absurd stands (unpublished job)
  · rw [Function.update_of_ne same] at stands
    exact ⟨other, job, stands⟩

theorem Traced.enter {value : Job → Value} {flag : BusyFlag User Job Value}
    (traced : Traced value flag) (user : User) (job : Job) :
    Traced value { flag with
      phase := Function.update flag.phase user (.decided job)
      history := flag.history ++ [.entered job] } where
  inside := by
    refine inside_update (fun other own stands => ?_) fun own stands => ?_
    · exact List.mem_append_left _ (traced.inside other own stands)
    · cases stands
      exact List.mem_append_right _ List.mem_cons_self
  tag found := by
    obtain ⟨own, entered, tag⟩ :=
      traced.tag (found.imp_left (published_of_update (by simp)))
    exact ⟨own, List.mem_append_left _ entered, tag⟩

theorem Traced.move {value : Job → Value} {flag next : BusyFlag User Job Value}
    (traced : Traced value flag) (moved : Move value flag next) : Traced value next := by
  cases moved with
  | decide user job => exact traced.enter user job
  | step moved =>
    cases moved with
    | decide user job => exact traced.enter user job
    | mark user job decided =>
      have entered := traced.inside user job (by rw [decided]; rfl)
      refine ⟨inside_update traced.inside fun own stands => ?_, fun found => ?_⟩
      · cases stands
        exact entered
      · exact traced.tag (found.imp_left (published_of_update (by simp)))
    | publish user job marked =>
      have entered := traced.inside user job (by rw [marked]; rfl)
      refine ⟨inside_update traced.inside fun own stands => ?_, fun _ => ⟨job, entered, rfl⟩⟩
      cases stands
      exact entered
    | submit user job published =>
      refine ⟨inside_update traced.inside fun own stands => ?_, fun _ => ?_⟩
      · cases stands
      · exact traced.tag (Or.inl ⟨user, job, published⟩)
    | release job rest handed =>
      have holds : flag.handed ≠ 0 := by
        rw [handed]
        exact Multiset.cons_ne_zero
      obtain ⟨own, entered, tag⟩ := traced.tag (Or.inr holds)
      refine ⟨fun user other stands => ?_, fun _ => ⟨own, List.mem_append_left _ entered, tag⟩⟩
      exact List.mem_append_left _ (traced.inside user other stands)

/-- The tag is the only value that the users publish, or no user has published and the device holds
nothing. -/
def Carries (only : Value) (flag : BusyFlag User Job Value) : Prop :=
  flag.tag = only ∨ ((∀ user job, flag.phase user ≠ .published job) ∧ flag.handed = 0)

omit [DecidableEq User] in
theorem Carries.tag_of_handed {only : Value} {flag : BusyFlag User Job Value}
    (carries : Carries only flag) (handed : flag.handed ≠ 0) : flag.tag = only :=
  carries.resolve_right fun free => handed free.2

/-- Where all the users inside have jobs of one value, nothing else is carried. -/
theorem Move.carries {value : Job → Value} {only : Value} {flag next : BusyFlag User Job Value}
    (moved : Move value flag next) (carries : Carries only flag)
    (sole : ∀ user job, (flag.phase user).job = some job → value job = only) :
    Carries only next := by
  have stays : ∀ {user : User} {own : Phase Job}, (∀ job, own ≠ .published job) →
      (∀ other job, flag.phase other ≠ .published job) →
        ∀ other job, Function.update flag.phase user own other ≠ .published job := by
    intro user own unpublished before other job stands
    obtain ⟨first, published, found⟩ := published_of_update unpublished ⟨other, job, stands⟩
    exact before first published found
  cases moved with
  | decide user job => exact carries.imp_right fun free => ⟨stays (by simp) free.1, free.2⟩
  | step moved =>
    cases moved with
    | decide user job | mark user job =>
      exact carries.imp_right fun free => ⟨stays (by simp) free.1, free.2⟩
    | publish user job stands => exact Or.inl (sole user job (congrArg Phase.job stands))
    | submit user job stands =>
      exact Or.inl (carries.resolve_right fun free => free.1 user job stands)
    | release job rest handed =>
      refine Or.inl (carries.resolve_right fun free => ?_)
      rw [free.2] at handed
      exact Multiset.zero_ne_cons handed

/-! ### Accounts -/

section Accounts

variable [DecidableEq Job]

/-- How often a job passed the test, and how often it was released. -/
def entries (history : List (Passage Job)) (job : Job) : Nat :=
  (history.filterMap Passage.entry).count job

def releases (history : List (Passage Job)) (job : Job) : Nat :=
  (history.filterMap Passage.exit).count job

theorem entries_append (history : List (Passage Job)) (passage : Passage Job) (job : Job) :
    entries (history ++ [passage]) job =
      entries history job + entries [passage] job := by
  rw [entries, List.filterMap_append, List.count_append, entries, entries]

theorem releases_append (history : List (Passage Job)) (passage : Passage Job) (job : Job) :
    releases (history ++ [passage]) job =
      releases history job + releases [passage] job := by
  rw [releases, List.filterMap_append, List.count_append, releases, releases]

/-- Passing the test counts like being inside with the job. -/
theorem entries_entered (job own : Job) :
    entries [.entered job] own = (Phase.decided job).count own := by
  rw [entries, Phase.count, show [Passage.entered job].filterMap Passage.entry = [job] from rfl,
    List.count_singleton, Phase.job]
  simp

theorem releases_released (job own : Job) :
    releases [.released job] own = (Phase.published job).count own := by
  rw [releases, Phase.count, show [Passage.released job].filterMap Passage.exit = [job] from rfl,
    List.count_singleton, Phase.job]
  simp

theorem count_cons (job own : Job) (rest : Multiset Job) :
    (job ::ₘ rest).count own = rest.count own + (Phase.published job).count own := by
  rw [Multiset.count_cons, Phase.count, Phase.job]
  simp only [Option.some_inj, eq_comm]

/-- Users stand inside with jobs of their own only. -/
def Owns (owner : Job → User) (phase : User → Phase Job) : Prop :=
  ∀ user job, (phase user).job = some job → owner job = user

/-- Each job passed the test as often as it was released, is with the device, and is with its
user. -/
def Balanced (owner : Job → User) (flag : BusyFlag User Job Value) : Prop :=
  ∀ job, entries flag.history job =
    releases flag.history job + flag.handed.count job + (flag.phase (owner job)).count job

/-- A user moves from one phase to another one, each outside or with a job of its own. -/
theorem count_update {owner : Job → User} {phase : User → Phase Job} {user : User}
    {next : Phase Job} (owns : Owns owner phase)
    (after : Owns owner (Function.update phase user next)) (job : Job) :
    (Function.update phase user next (owner job)).count job + (phase user).count job =
      (phase (owner job)).count job + next.count job := by
  by_cases own : owner job = user
  · rw [own, Function.update_self, Nat.add_comm]
  · have before : (phase user).job ≠ some job := fun stands => own (owns user job stands)
    have behind : next.job ≠ some job := by
      intro stands
      refine own (after user job ?_)
      rw [Function.update_self]
      exact stands
    rw [Function.update_of_ne own, Phase.count, Phase.count, Phase.count, if_neg before,
      if_neg behind]

/-- A user that stays inside with its job, or outside. -/
theorem Balanced.stay {owner : Job → User} {flag next : BusyFlag User Job Value}
    (balanced : Balanced owner flag) {user : User} {phase : Phase Job}
    (owns : Owns owner flag.phase) (after : Owns owner next.phase)
    (moved : next.phase = Function.update flag.phase user phase)
    (same : phase.job = (flag.phase user).job) (history : next.history = flag.history)
    (handed : next.handed = flag.handed) : Balanced owner next := by
  intro job
  rw [moved] at after
  have update := count_update owns after job
  have count : phase.count job = (flag.phase user).count job := by
    rw [Phase.count, Phase.count, same]
  have before := balanced job
  rw [history, handed, moved]
  omega

/-- A user passes the test. -/
theorem Balanced.enter {owner : Job → User} {flag next : BusyFlag User Job Value}
    (balanced : Balanced owner flag) {user : User} {job : Job}
    (owns : Owns owner flag.phase) (after : Owns owner next.phase)
    (outside : flag.phase user = .outside)
    (moved : next.phase = Function.update flag.phase user (.decided job))
    (history : next.history = flag.history ++ [.entered job])
    (handed : next.handed = flag.handed) : Balanced owner next := by
  intro own
  rw [moved] at after
  have update := count_update owns after own
  have before := balanced own
  have none : (flag.phase user).count own = 0 := by rw [outside]; rfl
  have releases : releases [Passage.entered job] own = 0 := rfl
  rw [history, handed, moved, entries_append, releases_append, entries_entered]
  omega

theorem Balanced.move {owner : Job → User} {value : Job → Value}
    {flag next : BusyFlag User Job Value} (balanced : Balanced owner flag)
    (owns : Owns owner flag.phase) (after : Owns owner next.phase)
    (moved : Move value flag next) : Balanced owner next := by
  cases moved with
  | decide user job outside => exact balanced.enter owns after outside rfl rfl rfl
  | step moved =>
    cases moved with
    | decide user job outside => exact balanced.enter owns after outside rfl rfl rfl
    | mark user job decided =>
      exact balanced.stay owns after rfl (by rw [decided]; rfl) rfl rfl
    | publish user job marked =>
      exact balanced.stay owns after rfl (by rw [marked]; rfl) rfl rfl
    | submit user job published =>
      intro own
      have update := count_update owns after own
      have before := balanced own
      have none : (Phase.outside : Phase Job).count own = 0 := rfl
      have cons := count_cons job own flag.handed
      rw [published] at update
      show entries flag.history own =
        releases flag.history own + (job ::ₘ flag.handed).count own +
          (Function.update flag.phase user .outside (owner own)).count own
      omega
    | release job rest handed =>
      intro own
      have before := balanced own
      have cons := count_cons job own rest
      have none : entries [Passage.released job] own = 0 := rfl
      rw [handed] at before
      show entries (flag.history ++ [.released job]) own =
        releases (flag.history ++ [.released job]) own + rest.count own +
          (flag.phase (owner own)).count own
      rw [entries_append, releases_append, releases_released]
      omega

end Accounts

end BusyFlag

end DxDsp.Library
