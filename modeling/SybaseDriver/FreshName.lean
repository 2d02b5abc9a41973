/-
This file defines how names are made distinct: a name that is taken already gets
the first numbered variant that is free. A list of names becomes a list of
distinct names of the same length, as long as a name has a different variant for
each number, and the search for a free one ends within one more step than there
are names taken.
-/

import Mathlib

namespace FreshName

/-! ### The search for a free number -/

/-- The first number that is not taken, among the next `bound` ones. -/
def findFree (taken : Nat → Bool) : Nat → Nat → Option Nat
  | 0, _ => none
  | bound + 1, number => if taken number then findFree taken bound (number + 1) else some number

/-- The number found is not taken. -/
theorem findFree_free {taken : Nat → Bool} {bound start number : Nat}
    (found : findFree taken bound start = some number) : taken number = false := by
  induction bound generalizing start with
  | zero => exact absurd found (by simp [findFree])
  | succ bound inductionHypothesis =>
    rw [findFree] at found
    split at found
    · exact inductionHypothesis found
    · rename_i free
      rw [← Option.some_inj.mp found]
      exact Bool.not_eq_true _ ▸ free

/-- A search that fails has seen only taken numbers. -/
theorem findFree_none {taken : Nat → Bool} {bound start : Nat}
    (failed : findFree taken bound start = none) (number : Nat) (above : start ≤ number)
    (below : number < start + bound) : taken number = true := by
  induction bound generalizing start with
  | zero => omega
  | succ bound inductionHypothesis =>
    rw [findFree] at failed
    split at failed
    · rename_i here
      rcases Nat.eq_or_lt_of_le above with rfl | later
      · exact here
      · exact inductionHypothesis failed later (by omega)
    · exact absurd failed (by simp)

variable {α : Type}

/-- Among more variants of a name than there are names taken, one is free. -/
theorem findFree_isSome {variant : Nat → α} (injective : Function.Injective variant)
    {names : List α} {taken : Nat → Bool}
    (named : ∀ number, taken number = true → variant number ∈ names) {bound : Nat}
    (enough : names.length < bound) (start : Nat) : (findFree taken bound start).isSome := by
  by_contra failed
  have seen := findFree_none (Option.not_isSome_iff_eq_none.mp failed)
  have distinct : ((List.range bound).map fun offset => variant (start + offset)).Nodup :=
    List.nodup_range.map fun first second same => by
      have := injective same
      omega
  have member : (List.range bound).map (fun offset => variant (start + offset)) ⊆ names := by
    intro name inMap
    obtain ⟨offset, inRange, rfl⟩ := List.mem_map.mp inMap
    have below := List.mem_range.mp inRange
    exact named _ (seen _ (by omega) (by omega))
  have short := (List.subperm_of_subset distinct member).length_le
  rw [List.length_map, List.length_range] at short
  omega

/-! ### Distinct names -/

variable [DecidableEq α]

/-- The name itself if it is free, else its first free variant. -/
def freshName (variant : α → Nat → α) (taken : List α) (name : α) : Option α :=
  if name ∈ taken then
    (findFree (fun number => decide (variant name number ∈ taken)) (taken.length + 1) 1).map
      (variant name)
  else some name

/-- The names of a list, each made fresh after those before it. -/
def uniqueNames (variant : α → Nat → α) : List α → List α → Option (List α)
  | taken, [] => some taken
  | taken, name :: rest => do
    let key ← freshName variant taken name
    uniqueNames variant (taken ++ [key]) rest

variable {variant : α → Nat → α}

/-- A fresh name is not taken. -/
theorem freshName_notMem {taken : List α} {name key : α}
    (found : freshName variant taken name = some key) : key ∉ taken := by
  unfold freshName at found
  split at found
  · obtain ⟨number, free, rfl⟩ := Option.map_eq_some_iff.mp found
    exact of_decide_eq_false (findFree_free free)
  · rename_i free
    rw [← Option.some_inj.mp found]
    exact free

/-- The search for a fresh name ends. -/
theorem freshName_isSome (injective : ∀ name, Function.Injective (variant name))
    (taken : List α) (name : α) : (freshName variant taken name).isSome := by
  unfold freshName
  split
  · rw [Option.isSome_map]
    exact findFree_isSome (injective name) (fun number seen => of_decide_eq_true seen)
      (Nat.lt_succ_self _) 1
  · rfl

/-- The names of a list can always be made distinct. -/
theorem uniqueNames_isSome (injective : ∀ name, Function.Injective (variant name))
    (taken names : List α) : (uniqueNames variant taken names).isSome := by
  induction names generalizing taken with
  | nil => rfl
  | cons name rest inductionHypothesis =>
    obtain ⟨key, found⟩ := Option.isSome_iff_exists.mp (freshName_isSome injective taken name)
    rw [uniqueNames, found]
    exact inductionHypothesis (taken ++ [key])

/-- Making a list of names distinct keeps the names before it, and their number. -/
theorem uniqueNames_append {taken names keys : List α}
    (renamed : uniqueNames variant taken names = some keys) :
    ∃ new, keys = taken ++ new ∧ new.length = names.length := by
  induction names generalizing taken with
  | nil =>
    rw [← Option.some_inj.mp renamed]
    exact ⟨[], (List.append_nil taken).symm, rfl⟩
  | cons name rest inductionHypothesis =>
    obtain ⟨key, -, rest⟩ := Option.bind_eq_some_iff.mp renamed
    obtain ⟨new, rfl, length⟩ := inductionHypothesis rest
    exact ⟨key :: new, by rw [List.append_assoc]; rfl, by rw [List.length_cons, length,
      List.length_cons]⟩

/-- The names made are distinct. -/
theorem uniqueNames_nodup {taken names keys : List α} (distinct : taken.Nodup)
    (renamed : uniqueNames variant taken names = some keys) : keys.Nodup := by
  induction names generalizing taken with
  | nil => exact Option.some_inj.mp renamed ▸ distinct
  | cons name rest inductionHypothesis =>
    obtain ⟨key, found, rest⟩ := Option.bind_eq_some_iff.mp renamed
    refine inductionHypothesis ?_ rest
    exact List.nodup_append.mpr ⟨distinct, List.nodup_singleton key,
      fun other member same inNew => by
        rintro rfl
        exact freshName_notMem found (List.mem_singleton.mp inNew ▸ member)⟩

end FreshName
