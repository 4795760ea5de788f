import Mathlib.Data.List.Perm.Subperm
import Mathlib.Tactic.Common

/-!
# Lists in which later elements replace earlier ones

Elements are added at the end of a list one by one, and each new one removes those before it that
it replaces. Of a whole list that is added, the elements survive that no later one replaces
(`foldl_insert`); all of them do exactly when none is replaced (`subperm_survivors_iff`).
-/

namespace Replacing

variable {α : Type*} (replaced : α → α → Bool)

/-- Add `a` and remove what it replaces: `replaced b a` says that it replaces `b`. -/
def insert (l : List α) (a : α) : List α := l.filter (fun b => !replaced b a) ++ [a]

/-- The elements that no later one replaces. -/
def survivors : List α → List α
  | [] => []
  | a :: l => if l.any (replaced a) then survivors l else a :: survivors l

variable {replaced} {l : List α}

/-- **Adding a whole list.** -/
theorem foldl_insert (acc l : List α) :
    l.foldl (insert replaced) acc =
      acc.filter (fun b => !l.any (replaced b)) ++ survivors replaced l := by
  induction l generalizing acc with
  | nil => simp [survivors]
  | cons a l ih =>
    have hfilter : (acc.filter fun b => !replaced b a).filter (fun b => !l.any (replaced b)) =
        acc.filter fun b => !(a :: l).any (replaced b) := by
      rw [List.filter_filter]
      refine List.filter_congr fun b _ => ?_
      rw [List.any_cons, Bool.not_or, Bool.and_comm]
    rw [List.foldl_cons, ih, insert, List.filter_append, hfilter, survivors]
    cases hany : l.any (replaced a) with
    | true => simp [hany]
    | false => simp [hany]

theorem survivors_sublist (replaced : α → α → Bool) (l : List α) :
    (survivors replaced l).Sublist l := by
  induction l with
  | nil => exact .slnil
  | cons a l ih =>
    rw [survivors]
    split
    · exact ih.cons a
    · exact ih.cons_cons a

theorem survivors_eq_self_iff :
    survivors replaced l = l ↔ l.Pairwise fun a b => replaced a b = false := by
  induction l with
  | nil => exact iff_of_true rfl .nil
  | cons a l ih =>
    rw [survivors, List.pairwise_cons]
    split
    · next hany =>
      refine iff_of_false (fun heq => ?_) fun hpairwise => ?_
      · have hlength := (survivors_sublist replaced l).length_le
        rw [heq, List.length_cons] at hlength
        omega
      · obtain ⟨b, hb, hreplaced⟩ := List.any_eq_true.mp hany
        rw [hpairwise.1 b hb] at hreplaced
        exact absurd hreplaced (by simp)
    · next hnone =>
      have hall : ∀ b ∈ l, replaced a b = false := by
        intro b hb
        rw [← Bool.not_eq_true]
        exact fun hreplaced => hnone (List.any_eq_true.mpr ⟨b, hb, hreplaced⟩)
      rw [List.cons.injEq, and_iff_right rfl, and_iff_right hall]
      exact ih

/-- **Nothing is lost** when no element is replaced by a later one. -/
theorem subperm_survivors_iff :
    l.Subperm (survivors replaced l) ↔ l.Pairwise fun a b => replaced a b = false := by
  rw [← survivors_eq_self_iff]
  constructor
  · intro h
    exact (survivors_sublist replaced l).eq_of_length_le h.length_le
  · intro h
    rw [h]

end Replacing
