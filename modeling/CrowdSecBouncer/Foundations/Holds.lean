import Mathlib.Algebra.Group.Basic
import Mathlib.Data.List.Nodup
import Mathlib.Data.Nat.Cast.Basic

/-!
# Counted and exclusive holds

A resource that is shared is kept in use by a counter that every holder raises when it starts and
lowers when it ends; a resource that is not shared is marked by a flag. Here the holders are a
list, each with the resource it holds. The counters are *balanced* when each of them has moved
from its base value by the number of its holders (`Balanced`), and the flags are *exclusive* when
a flag is up for exactly the resources that have a holder, and no resource has two (`Exclusive`).

The values of a counter may be those of any additive group, so a counter of a few bits that wraps
around is covered.
-/

namespace Holds

variable {ι κ G : Type*} [DecidableEq κ]

/-- The number of holders of a resource. -/
def held (resource : ι → κ) (holders : List ι) (k : κ) : ℕ :=
  holders.countP fun i => resource i = k

/-- Each counter is its base value plus the number of holders. -/
def Balanced [AddGroupWithOne G] (base count : κ → G) (resource : ι → κ) (holders : List ι) :
    Prop :=
  ∀ k, count k = base k + (held resource holders k : G)

/-- A flag is up for the resources with a holder, and no resource has two. -/
structure Exclusive (flag : κ → Bool) (resource : ι → κ) (holders : List ι) : Prop where
  nodup : (holders.map resource).Nodup
  flag_iff : ∀ k, flag k = true ↔ ∃ i ∈ holders, resource i = k

variable {resource : ι → κ} {holders before after : List ι} {i : ι} {k : κ}

theorem held_cons : held resource (i :: holders) k =
    held resource holders k + if resource i = k then 1 else 0 := by
  rw [held, List.countP_cons]
  simp only [decide_eq_true_eq]
  rfl

theorem held_middle : held resource (before ++ i :: after) k =
    held resource (before ++ after) k + if resource i = k then 1 else 0 := by
  have hperm : (before ++ i :: after).Perm (i :: (before ++ after)) := List.perm_middle
  rw [← held_cons, held, hperm.countP_eq]
  rfl

/-! ### Counters -/

section Counters

variable [AddGroupWithOne G] {base count : κ → G}

/-- Without holders the counters stand at their base values. -/
theorem balanced_nil : Balanced base base resource [] := by
  intro k
  rw [held, List.countP_nil, Nat.cast_zero, add_zero]

/-- A new holder raises the counter. -/
theorem Balanced.acquire (h : Balanced base count resource holders) (i : ι) :
    Balanced base (Function.update count (resource i) (count (resource i) + 1)) resource
      (i :: holders) := by
  intro k
  rw [held_cons]
  by_cases hk : resource i = k
  · subst hk
    rw [Function.update_self, if_pos rfl, h, Nat.cast_add, Nat.cast_one, add_assoc]
  · rw [Function.update_of_ne (Ne.symm hk), if_neg hk, add_zero, h]

/-- A holder that ends lowers it. -/
theorem Balanced.release (h : Balanced base count resource (before ++ i :: after)) :
    Balanced base (Function.update count (resource i) (count (resource i) - 1)) resource
      (before ++ after) := by
  intro k
  by_cases hk : resource i = k
  · subst hk
    rw [Function.update_self, h, held_middle, if_pos rfl, Nat.cast_add, Nat.cast_one, ← add_assoc,
      add_sub_cancel_right]
  · rw [Function.update_of_ne (Ne.symm hk), h, held_middle, if_neg hk, add_zero]

/-- What the holders do otherwise does not matter. -/
theorem Balanced.of_map_eq {holders' : List ι} (h : Balanced base count resource holders)
    (hmap : holders'.map resource = holders.map resource) :
    Balanced base count resource holders' := by
  intro k
  have hheld (l : List ι) : held resource l k = (l.map resource).countP (fun k' => k' = k) := by
    rw [List.countP_map]
    rfl
  rw [h, hheld, hheld, hmap]

/-- Raising a counter and lowering it again changes nothing. -/
theorem update_add_sub (count : κ → G) (k : κ) :
    Function.update (Function.update count k (count k + 1)) k
      (Function.update count k (count k + 1) k - 1) = count := by
  rw [Function.update_self, add_sub_cancel_right, Function.update_idem, Function.update_eq_self]

end Counters

/-! ### Flags -/

section Flags

variable {flag : κ → Bool}

omit [DecidableEq κ] in
theorem exclusive_nil (hflag : ∀ k, flag k = false) : Exclusive flag resource [] where
  nodup := List.nodup_nil
  flag_iff := by simp [hflag]

/-- A holder puts up a flag that is down. -/
theorem Exclusive.acquire (h : Exclusive flag resource holders) (i : ι)
    (hfree : flag (resource i) = false) :
    Exclusive (Function.update flag (resource i) true) resource (i :: holders) where
  nodup := by
    rw [List.map_cons, List.nodup_cons]
    refine ⟨fun hmem => ?_, h.nodup⟩
    rw [(h.flag_iff _).mpr (List.mem_map.mp hmem)] at hfree
    exact Bool.false_ne_true hfree.symm
  flag_iff := by
    intro k
    by_cases hk : resource i = k
    · subst hk
      simp
    · rw [Function.update_of_ne (Ne.symm hk), h.flag_iff]
      simp [hk]

/-- A holder that ends takes its flag down. -/
theorem Exclusive.release (h : Exclusive flag resource (before ++ i :: after)) :
    Exclusive (Function.update flag (resource i) false) resource (before ++ after) := by
  have hperm : (before ++ i :: after).Perm (i :: (before ++ after)) := List.perm_middle
  have hnodup := (hperm.map resource).nodup_iff.mp h.nodup
  rw [List.map_cons, List.nodup_cons] at hnodup
  refine ⟨hnodup.2, fun k => ?_⟩
  by_cases hk : resource i = k
  · subst hk
    rw [Function.update_self]
    exact iff_of_false Bool.false_ne_true fun hheld => hnodup.1 (List.mem_map.mpr hheld)
  · rw [Function.update_of_ne (Ne.symm hk), h.flag_iff]
    constructor
    · rintro ⟨i', hi', heq⟩
      rcases List.mem_cons.mp (hperm.mem_iff.mp hi') with rfl | hmem
      · exact absurd heq hk
      · exact ⟨i', hmem, heq⟩
    · rintro ⟨i', hi', heq⟩
      exact ⟨i', hperm.mem_iff.mpr (List.mem_cons_of_mem _ hi'), heq⟩

omit [DecidableEq κ] in
theorem Exclusive.of_map_eq {holders' : List ι} (h : Exclusive flag resource holders)
    (hmap : holders'.map resource = holders.map resource) : Exclusive flag resource holders' := by
  refine ⟨hmap ▸ h.nodup, fun k => ?_⟩
  rw [h.flag_iff, ← List.mem_map, ← hmap, List.mem_map]

end Flags

end Holds
