import Mathlib.Algebra.Order.Group.Nat
import Mathlib.Algebra.Ring.Nat
import Mathlib.Data.List.Nodup
import Mathlib.Tactic.Common

/-!
# Tallies

A tally counts things under keys: a map from keys to numbers, as the list of its entries, to
which `add k n` adds `n` under the key `k`. Tallying a list of counts (`of`) merges those with the
same key; it keeps the weight of every set of keys (`weight_of`), and leaves one positive count
for each key that occurs (`mem_of_iff`). So a tally can be tallied again under coarser keys.
-/

namespace Tally

variable {κ κ' : Type*}

/-- The sum of the counts under the keys in `p`. -/
def weight (p : κ → Prop) [DecidablePred p] : List (κ × ℕ) → ℕ
  | [] => 0
  | (k, n) :: t => (if p k then n else 0) + weight p t

section Weight

variable (p : κ → Prop) [DecidablePred p] (t : List (κ × ℕ))

theorem weight_map (f : κ' → κ) (t : List (κ' × ℕ)) :
    weight p (t.map (Prod.map f id)) = weight (fun k => p (f k)) t := by
  induction t with
  | nil => rfl
  | cons c t ih =>
    rw [List.map_cons, weight, ih]
    rfl

/-- Counts of one each. -/
theorem weight_ones {α : Type*} (g : α → κ) (l : List α) :
    weight p (l.map fun a => (g a, 1)) = l.countP fun a => p (g a) := by
  induction l with
  | nil => rfl
  | cons a l ih =>
    rw [List.map_cons, weight, ih, List.countP_cons, Nat.add_comm]
    simp

theorem weight_true : weight (fun _ => True) t = (t.map Prod.snd).sum := by
  induction t with
  | nil => rfl
  | cons c t ih =>
    rw [weight, ih, if_pos trivial]
    rfl

end Weight

variable [DecidableEq κ]

/-- Add `n` under the key `k`. -/
def add (k : κ) (n : ℕ) : List (κ × ℕ) → List (κ × ℕ)
  | [] => [(k, n)]
  | (k', m) :: t => if k' = k then (k', m + n) :: t else (k', m) :: add k n t

/-- The tally of a list of counts. -/
def of (l : List (κ × ℕ)) : List (κ × ℕ) := l.foldl (fun t c => add c.1 c.2 t) []

variable {k k' : κ} {n m : ℕ} {t : List (κ × ℕ)}

theorem weight_add (p : κ → Prop) [DecidablePred p] :
    weight p (add k n t) = (if p k then n else 0) + weight p t := by
  induction t with
  | nil => rfl
  | cons c t ih =>
    rw [add]
    split
    · next heq =>
      rw [weight, weight, heq]
      split
      · omega
      · omega
    · rw [weight, weight, ih, Nat.add_left_comm]

theorem fst_add : (add k n t).map Prod.fst = t.map Prod.fst ∨
    k ∉ t.map Prod.fst ∧ (add k n t).map Prod.fst = t.map Prod.fst ++ [k] := by
  induction t with
  | nil => exact .inr ⟨List.not_mem_nil, rfl⟩
  | cons c t ih =>
    rw [add]
    split
    · exact .inl rfl
    · next hne =>
      rcases ih with heq | ⟨hnot, heq⟩
      · exact .inl (by rw [List.map_cons, List.map_cons, heq])
      · refine .inr ⟨?_, by rw [List.map_cons, List.map_cons, heq]; rfl⟩
        rw [List.map_cons, List.mem_cons, not_or]
        exact ⟨fun h => hne h.symm, hnot⟩

theorem nodup_add (h : (t.map Prod.fst).Nodup) : ((add k n t).map Prod.fst).Nodup := by
  rcases fst_add (k := k) (n := n) (t := t) with heq | ⟨hnot, heq⟩
  · rwa [heq]
  · rw [heq]
    exact List.Nodup.append h (List.nodup_singleton k)
      fun x hx hmem => hnot (List.mem_singleton.mp hmem ▸ hx)

/-- A key that does not occur has no weight. -/
theorem weight_eq_zero (hnot : k ∉ t.map Prod.fst) : weight (· = k) t = 0 := by
  induction t with
  | nil => rfl
  | cons c t ih =>
    rw [List.map_cons, List.mem_cons, not_or] at hnot
    rw [weight, if_neg (fun heq => hnot.1 heq.symm), ih hnot.2]

/-- Where the keys are distinct, a count is the weight of its key. -/
theorem weight_eq_of_mem (h : (t.map Prod.fst).Nodup) (hmem : (k, n) ∈ t) :
    weight (· = k) t = n := by
  induction t with
  | nil => exact absurd hmem List.not_mem_nil
  | cons c t ih =>
    obtain ⟨hnot, hrest⟩ := List.nodup_cons.mp h
    rcases List.mem_cons.mp hmem with rfl | hmem
    · rw [weight, if_pos rfl, weight_eq_zero hnot, Nat.add_zero]
    · have hne : c.1 ≠ k := fun heq => hnot (heq ▸ List.mem_map_of_mem hmem)
      rw [weight, if_neg hne, ih hrest hmem, Nat.zero_add]

theorem mem_add (hmem : (k', m) ∈ add k n t) : k' = k ∧ n ≤ m ∨ (k', m) ∈ t := by
  induction t with
  | nil =>
    obtain ⟨rfl, rfl⟩ := Prod.mk.inj (List.mem_singleton.mp hmem)
    exact .inl ⟨rfl, le_rfl⟩
  | cons c t ih =>
    rw [add] at hmem
    split at hmem
    · next heq =>
      rcases List.mem_cons.mp hmem with hnew | hold
      · obtain ⟨rfl, rfl⟩ := Prod.mk.inj hnew
        exact .inl ⟨heq, Nat.le_add_left n c.2⟩
      · exact .inr (List.mem_cons_of_mem _ hold)
    · rcases List.mem_cons.mp hmem with hnew | hold
      · exact .inr (hnew ▸ List.mem_cons_self)
      · exact (ih hold).imp_right (List.mem_cons_of_mem _)

section Of

variable (l : List (κ × ℕ))

/-- **Tallying keeps every weight.** -/
theorem weight_of (p : κ → Prop) [DecidablePred p] : weight p (of l) = weight p l := by
  have hfold (t : List (κ × ℕ)) :
      weight p (l.foldl (fun t c => add c.1 c.2 t) t) = weight p t + weight p l := by
    induction l generalizing t with
    | nil => rfl
    | cons c l ih =>
      rw [List.foldl_cons, ih, weight_add, weight]
      omega
  rw [of, hfold]
  exact Nat.zero_add _

theorem nodup_of : ((of l).map Prod.fst).Nodup := by
  have hfold (t : List (κ × ℕ)) (ht : (t.map Prod.fst).Nodup) :
      ((l.foldl (fun t c => add c.1 c.2 t) t).map Prod.fst).Nodup := by
    induction l generalizing t with
    | nil => exact ht
    | cons c l ih => exact ih _ (nodup_add ht)
  exact hfold [] List.nodup_nil

/-- What is tallied of positive counts is positive. -/
theorem pos_of_mem_of (hpos : ∀ c ∈ l, 0 < c.2) : ∀ c ∈ of l, 0 < c.2 := by
  have hfold (t : List (κ × ℕ)) (ht : ∀ c ∈ t, 0 < c.2) :
      ∀ c ∈ l.foldl (fun t c => add c.1 c.2 t) t, 0 < c.2 := by
    induction l generalizing t with
    | nil => exact ht
    | cons c l ih =>
      refine ih (fun c hc => hpos c (List.mem_cons_of_mem _ hc)) _ fun d hd => ?_
      rcases mem_add hd with ⟨-, hle⟩ | hd
      · exact (hpos c List.mem_cons_self).trans_le hle
      · exact ht d hd
  exact hfold [] fun c hc => absurd hc List.not_mem_nil

/-- **What a tally holds**: each key that occurs with the weight it has. -/
theorem mem_of_iff (hpos : ∀ c ∈ l, 0 < c.2) :
    (k, n) ∈ of l ↔ 0 < n ∧ weight (· = k) l = n := by
  constructor
  · intro hmem
    exact ⟨pos_of_mem_of l hpos _ hmem,
      (weight_of l _).symm.trans (weight_eq_of_mem (nodup_of l) hmem)⟩
  · rintro ⟨hn, heq⟩
    by_cases hkey : k ∈ (of l).map Prod.fst
    · obtain ⟨⟨k', m⟩, hmem, rfl⟩ := List.mem_map.mp hkey
      have hm : weight (· = k') (of l) = m := weight_eq_of_mem (nodup_of l) hmem
      rw [weight_of, heq] at hm
      exact hm ▸ hmem
    · have hzero : weight (· = k) (of l) = 0 := weight_eq_zero hkey
      rw [weight_of, heq] at hzero
      exact absurd hn (hzero ▸ Nat.lt_irrefl 0)

end Of

end Tally
