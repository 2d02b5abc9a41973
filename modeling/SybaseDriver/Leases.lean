/-
This file defines how a run handles resources that it acquires, uses and releases. The touches
of a run are disciplined if a resource is acquired once, and used and released only between its
acquisition and its release. Then a resource is released at most once, it is not touched after
that, and what is outstanding is exactly what was acquired and not released.

Nothing here knows what the resources are or what else a run does.
-/

import Mathlib

namespace Leases

variable {ρ : Type}

/-- What an event of a run does with a resource. -/
inductive Touch (ρ : Type) where
  | acquire (resource : ρ)
  | use (resource : ρ)
  | release (resource : ρ)
  deriving DecidableEq, Repr

/-- The resource that is touched. -/
def Touch.resource : Touch ρ → ρ
  | acquire resource | use resource | release resource => resource

variable [DecidableEq ρ]

/-- The resources that were acquired and not released. A trace has its newest touch first. -/
def outstanding : List (Touch ρ) → List ρ
  | [] => []
  | .acquire resource :: trace => resource :: outstanding trace
  | .use _ :: trace => outstanding trace
  | .release resource :: trace => (outstanding trace).erase resource

/-- A touch is allowed after a trace: what is acquired is new, and what is used or released is
outstanding. -/
def Allowed (trace : List (Touch ρ)) : Touch ρ → Prop
  | .acquire resource => ∀ touch ∈ trace, touch.resource ≠ resource
  | .use resource => resource ∈ outstanding trace
  | .release resource => resource ∈ outstanding trace

/-- Every touch was allowed when it was made. -/
def Disciplined : List (Touch ρ) → Prop
  | [] => True
  | touch :: trace => Allowed trace touch ∧ Disciplined trace

section Outstanding

variable {trace later earlier : List (Touch ρ)} {touch : Touch ρ} {resource : ρ}

/-- What is outstanding was acquired. -/
theorem acquired_of_outstanding (out : resource ∈ outstanding trace) :
    .acquire resource ∈ trace := by
  induction trace with
  | nil => cases out
  | cons touch trace inductionHypothesis =>
    cases touch with
    | acquire acquired =>
      rcases List.mem_cons.mp out with rfl | out
      · exact List.mem_cons_self
      · exact List.mem_cons_of_mem _ (inductionHypothesis out)
    | use used => exact List.mem_cons_of_mem _ (inductionHypothesis out)
    | release released =>
      exact List.mem_cons_of_mem _ (inductionHypothesis (List.mem_of_mem_erase out))

namespace Disciplined

/-- What came before was disciplined. -/
theorem suffix (disciplined : Disciplined (later ++ earlier)) : Disciplined earlier := by
  induction later with
  | nil => exact disciplined
  | cons touch later inductionHypothesis => exact inductionHypothesis disciplined.2

/-- Every touch was allowed after what came before it. -/
theorem allowed (disciplined : Disciplined (later ++ touch :: earlier)) : Allowed earlier touch :=
  disciplined.suffix.1

/-- Nothing is outstanding twice. -/
theorem nodup (disciplined : Disciplined trace) : (outstanding trace).Nodup := by
  induction trace with
  | nil => exact List.nodup_nil
  | cons touch trace inductionHypothesis =>
    have rest := inductionHypothesis disciplined.2
    cases touch with
    | acquire resource =>
      refine List.nodup_cons.mpr ⟨fun out => ?_, rest⟩
      exact disciplined.1 _ (acquired_of_outstanding out) rfl
    | use resource => exact rest
    | release resource => exact rest.erase _

/-- A resource was acquired as often as it was released, and once more where it is outstanding. -/
theorem count_acquire (disciplined : Disciplined trace) (resource : ρ) :
    trace.count (.acquire resource) =
      trace.count (.release resource) + (outstanding trace).count resource := by
  induction trace with
  | nil => rfl
  | cons touch trace inductionHypothesis =>
    have rest := inductionHypothesis disciplined.2
    cases touch with
    | acquire acquired =>
      by_cases own : acquired = resource
      · subst own
        simp only [outstanding, List.count_cons_self]
        simp [rest, Nat.add_assoc]
      · simp [outstanding, own, rest]
    | use used => simpa [outstanding] using rest
    | release released =>
      have out : released ∈ outstanding trace := disciplined.1
      by_cases own : released = resource
      · subst own
        have positive := List.count_pos_iff.mpr out
        simp only [outstanding, List.count_cons_self, List.count_erase_self]
        simp [rest]
        omega
      · simp [outstanding, own, rest, List.count_erase_of_ne (Ne.symm own)]

/-- A resource is acquired at most once. -/
theorem count_acquire_le_one (disciplined : Disciplined trace) (resource : ρ) :
    trace.count (.acquire resource) ≤ 1 := by
  induction trace with
  | nil => exact Nat.zero_le _
  | cons touch trace inductionHypothesis =>
    have rest := inductionHypothesis disciplined.2
    by_cases own : touch = .acquire resource
    · subst own
      have absent : .acquire resource ∉ trace := fun member => disciplined.1 _ member rfl
      rw [List.count_cons_self, List.count_eq_zero_of_not_mem absent]
    · rwa [List.count_cons_of_ne own]

/-- A resource is released at most once. -/
theorem count_release_le_one (disciplined : Disciplined trace) (resource : ρ) :
    trace.count (.release resource) ≤ 1 :=
  Nat.le_trans (Nat.le.intro (disciplined.count_acquire resource).symm)
    (disciplined.count_acquire_le_one resource)

/-- What is outstanding is what was acquired and not released. -/
theorem mem_outstanding_iff (disciplined : Disciplined trace) :
    resource ∈ outstanding trace ↔ .acquire resource ∈ trace ∧ .release resource ∉ trace := by
  have balance := disciplined.count_acquire resource
  have once := disciplined.count_acquire_le_one resource
  rw [← List.count_pos_iff, ← List.count_pos_iff, ← List.count_eq_zero]
  constructor
  · intro out
    omega
  · rintro ⟨acquired, released⟩
    omega

/-- Where nothing is outstanding, every resource was released as often as it was acquired. -/
theorem count_release (disciplined : Disciplined trace) (settled : outstanding trace = [])
    (resource : ρ) : trace.count (.release resource) = trace.count (.acquire resource) := by
  rw [disciplined.count_acquire resource, settled, List.count_nil, Nat.add_zero]

/-- A resource that is used or released was acquired before and not released since. -/
theorem held_before (disciplined : Disciplined (later ++ touch :: earlier))
    (acquired : touch ≠ .acquire touch.resource) :
    .acquire touch.resource ∈ earlier ∧ .release touch.resource ∉ earlier := by
  have before := disciplined.allowed
  have rest : Disciplined earlier := disciplined.suffix.2
  cases touch with
  | acquire resource => exact absurd rfl acquired
  | use resource => exact rest.mem_outstanding_iff.mp before
  | release resource => exact rest.mem_outstanding_iff.mp before

end Disciplined

end Outstanding

/-! ### One at a time -/

/-- The touches of a run that holds one resource at a time: another one is acquired only when the
one that was held is released. -/
inductive Solo : List (Touch ρ) → Option ρ → Prop where
  | start : Solo [] none
  | acquire {trace : List (Touch ρ)} {resource : ρ} (solo : Solo trace none)
      (fresh : Allowed trace (.acquire resource)) : Solo (.acquire resource :: trace)
        (some resource)
  | use {trace : List (Touch ρ)} {resource : ρ} (solo : Solo trace (some resource)) :
      Solo (.use resource :: trace) (some resource)
  | release {trace : List (Touch ρ)} {resource : ρ} (solo : Solo trace (some resource)) :
      Solo (.release resource :: trace) none

namespace Solo

variable {trace later earlier : List (Touch ρ)} {touch : Touch ρ} {resource : ρ} {held : Option ρ}

/-- What is outstanding is what is held. -/
theorem outstanding_eq (solo : Solo trace held) : outstanding trace = held.toList := by
  induction solo with
  | start => rfl
  | acquire _ _ inductionHypothesis =>
    rw [outstanding, inductionHypothesis]
    rfl
  | use _ inductionHypothesis => exact inductionHypothesis
  | release _ inductionHypothesis =>
    rw [outstanding, inductionHypothesis]
    simp

theorem disciplined (solo : Solo trace held) : Disciplined trace := by
  induction solo with
  | start => trivial
  | acquire _ fresh inductionHypothesis => exact ⟨fresh, inductionHypothesis⟩
  | use solo inductionHypothesis =>
    refine ⟨?_, inductionHypothesis⟩
    rw [Allowed, solo.outstanding_eq]
    exact List.mem_singleton_self _
  | release solo inductionHypothesis =>
    refine ⟨?_, inductionHypothesis⟩
    rw [Allowed, solo.outstanding_eq]
    exact List.mem_singleton_self _

/-- What came before was held one at a time. -/
theorem suffix (solo : Solo (later ++ earlier) held) : ∃ before, Solo earlier before := by
  induction later generalizing held with
  | nil => exact ⟨held, solo⟩
  | cons touch later inductionHypothesis =>
    cases solo with
    | acquire solo _ => exact inductionHypothesis solo
    | use solo => exact inductionHypothesis solo
    | release solo => exact inductionHypothesis solo

/-- Nothing is outstanding where a resource is acquired: what was acquired before has been
released. -/
theorem released_before (solo : Solo (later ++ .acquire resource :: earlier) held) {other : ρ}
    (acquired : .acquire other ∈ earlier) : .release other ∈ earlier := by
  obtain ⟨_, acquires⟩ := solo.suffix
  cases acquires with
  | acquire before _ =>
    by_contra kept
    have out := before.disciplined.mem_outstanding_iff.mpr ⟨acquired, kept⟩
    rw [before.outstanding_eq] at out
    cases out

/-- What is held is what was acquired and not released. -/
theorem held_iff (solo : Solo trace held) :
    held = some resource ↔ .acquire resource ∈ trace ∧ .release resource ∉ trace := by
  rw [← solo.disciplined.mem_outstanding_iff, solo.outstanding_eq, Option.mem_toList]

end Solo

/-! ### Holders -/

/-- The touches of a run were disciplined, and what is outstanding is what the holders hold, each
resource with a holder of its own. -/
structure Assigned {ι : Type} (trace : List (Touch ρ)) (holder : ι → Option ρ) : Prop where
  disciplined : Disciplined trace
  held : ∀ resource, resource ∈ outstanding trace ↔ ∃ index, holder index = some resource
  alone : ∀ first second resource,
    holder first = some resource → holder second = some resource → first = second

namespace Assigned

variable {ι : Type} {trace : List (Touch ρ)} {holder : ι → Option ρ} {index : ι} {resource : ρ}

/-- A holder uses what it holds. -/
theorem use (assigned : Assigned trace holder) (holds : holder index = some resource) :
    Assigned (.use resource :: trace) holder where
  disciplined := ⟨(assigned.held resource).mpr ⟨index, holds⟩, assigned.disciplined⟩
  held := assigned.held
  alone := assigned.alone

variable [DecidableEq ι]

/-- A holder that holds nothing acquires something new. -/
theorem acquire (assigned : Assigned trace holder) (fresh : Allowed trace (.acquire resource))
    (empty : holder index = none) :
    Assigned (.acquire resource :: trace) (Function.update holder index (some resource)) where
  disciplined := ⟨fresh, assigned.disciplined⟩
  held other := by
    rw [outstanding, List.mem_cons, assigned.held other]
    constructor
    · rintro (rfl | ⟨holding, holds⟩)
      · exact ⟨index, Function.update_self ..⟩
      · refine ⟨holding, ?_⟩
        rwa [Function.update_of_ne]
        rintro rfl
        exact absurd (holds.symm.trans empty) (by simp)
    · rintro ⟨holding, holds⟩
      by_cases own : holding = index
      · subst own
        rw [Function.update_self] at holds
        exact .inl (Option.some_inj.mp holds).symm
      · rw [Function.update_of_ne own] at holds
        exact .inr ⟨holding, holds⟩
  alone first second other holds holds' := by
    have unheld : ∀ holding, holder holding ≠ some resource := fun holding holds =>
      fresh _ (acquired_of_outstanding ((assigned.held _).mpr ⟨holding, holds⟩)) rfl
    by_cases own : first = index
    · by_cases own' : second = index
      · rw [own, own']
      · subst own
        rw [Function.update_self] at holds
        rw [Function.update_of_ne own', ← Option.some_inj.mp holds] at holds'
        exact absurd holds' (unheld second)
    · by_cases own' : second = index
      · subst own'
        rw [Function.update_self] at holds'
        rw [Function.update_of_ne own, ← Option.some_inj.mp holds'] at holds
        exact absurd holds (unheld first)
      · rw [Function.update_of_ne own] at holds
        rw [Function.update_of_ne own'] at holds'
        exact assigned.alone first second other holds holds'

/-- A holder releases what it holds. -/
theorem release (assigned : Assigned trace holder) (holds : holder index = some resource) :
    Assigned (.release resource :: trace) (Function.update holder index none) where
  disciplined := ⟨(assigned.held resource).mpr ⟨index, holds⟩, assigned.disciplined⟩
  held other := by
    rw [outstanding, assigned.disciplined.nodup.mem_erase_iff, assigned.held other]
    constructor
    · rintro ⟨different, holding, holds'⟩
      refine ⟨holding, ?_⟩
      rwa [Function.update_of_ne]
      rintro rfl
      exact different (Option.some_inj.mp (holds'.symm.trans holds))
    · rintro ⟨holding, holds'⟩
      by_cases own : holding = index
      · subst own
        rw [Function.update_self] at holds'
        cases holds'
      · rw [Function.update_of_ne own] at holds'
        refine ⟨fun same => own ?_, holding, holds'⟩
        exact assigned.alone holding index resource (same ▸ holds') holds
  alone first second other holds' holds'' := by
    have kept : ∀ holding, Function.update holder index none holding = some other →
        holder holding = some other := by
      intro holding holds
      by_cases own : holding = index
      · rw [own, Function.update_self] at holds
        cases holds
      · rwa [Function.update_of_ne own] at holds
    exact assigned.alone first second other (kept first holds') (kept second holds'')

end Assigned

end Leases
