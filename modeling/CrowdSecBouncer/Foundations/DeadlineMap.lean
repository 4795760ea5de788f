import CrowdSecBouncer.Foundations.Deadline
import Mathlib.Data.List.Perm.Basic
import Mathlib.Order.BoundedOrder.Lattice

/-!
# Updates of deadlines filed under keys

A store that files a deadline under each key changes by joining a deadline to the one of a
key, by erasing a key and by clearing everything (`Update`). Followed at one key, a run of
updates is a fold over deadlines (`runAt`). A batch that erases first and joins afterwards has
a closed form, in which neither the order nor the multiplicity of the updates is left
(`runAt_batch`).
-/

namespace DeadlineMap

/-- A change of a store of deadlines. -/
inductive Update (K T : Type*)
  | join (k : K) (d : Deadline T)
  | erase (k : K)
  | clear

variable {K T : Type*} [DecidableEq K] [LinearOrder T] {k k' : K} {d d' : Deadline T} {t : T}
  {us : List (Update K T)}

/-- What an update makes of the deadline of the key `k`. -/
def Update.effectAt (k : K) (d : Deadline T) : Update K T → Deadline T
  | join k' d' => if k = k' then d ⊔ d' else d
  | erase k' => if k = k' then ⊥ else d
  | clear => ⊥

/-- What a run of updates makes of the deadline of the key `k`. -/
def runAt (k : K) (d : Deadline T) (us : List (Update K T)) : Deadline T :=
  us.foldl (Update.effectAt k) d

@[simp] theorem runAt_nil : runAt k d [] = d := rfl

@[simp] theorem runAt_cons (u : Update K T) : runAt k d (u :: us) = runAt k (u.effectAt k d) us :=
  rfl

theorem runAt_append (us us' : List (Update K T)) :
    runAt k d (us ++ us') = runAt k (runAt k d us) us' :=
  List.foldl_append

/-- Deadlines that are equal from a time on stay so. -/
theorem eqFrom_effectAt (u : Update K T) (h : Deadline.EqFrom t d d') :
    Deadline.EqFrom t (u.effectAt k d) (u.effectAt k d') := by
  cases u with
  | join k' x =>
    rw [Update.effectAt, Update.effectAt]
    split
    · exact h.sup (.refl t x)
    · exact h
  | erase k' =>
    rw [Update.effectAt, Update.effectAt]
    split
    · exact .refl t ⊥
    · exact h
  | clear => exact .refl t ⊥

theorem eqFrom_runAt (us : List (Update K T)) (h : Deadline.EqFrom t d d') :
    Deadline.EqFrom t (runAt k d us) (runAt k d' us) := by
  induction us generalizing d d' with
  | nil => exact h
  | cons u us ih => exact ih (eqFrom_effectAt u h)

/-- A decision in force stays in force unless its key is erased. -/
theorem active_effectAt {u : Update K T} (h : Deadline.Active t d) (herase : u ≠ .erase k)
    (hclear : u ≠ .clear) : Deadline.Active t (u.effectAt k d) := by
  cases u with
  | join k' x =>
    rw [Update.effectAt]
    split
    · exact Deadline.active_sup.mpr (.inl h)
    · exact h
  | erase k' =>
    have hne : k ≠ k' := by
      rintro rfl
      exact herase rfl
    rw [Update.effectAt, if_neg hne]
    exact h
  | clear => exact absurd rfl hclear

theorem active_runAt (h : Deadline.Active t d) (herase : .erase k ∉ us) (hclear : .clear ∉ us) :
    Deadline.Active t (runAt k d us) := by
  induction us generalizing d with
  | nil => exact h
  | cons u us ih =>
    refine ih (active_effectAt h ?_ ?_) ?_ ?_
    · rintro rfl
      exact herase List.mem_cons_self
    · rintro rfl
      exact hclear List.mem_cons_self
    · exact fun hmem => herase (List.mem_cons_of_mem _ hmem)
    · exact fun hmem => hclear (List.mem_cons_of_mem _ hmem)

/-! ### Batches -/

/-- The latest of the deadlines that a list files under the key `k`. -/
def latest (k : K) (joins : List (K × Deadline T)) : Deadline T :=
  joins.foldr (fun j d => if k = j.1 then j.2 ⊔ d else d) ⊥

theorem active_latest {joins : List (K × Deadline T)} :
    Deadline.Active t (latest k joins) ↔ ∃ d, (k, d) ∈ joins ∧ Deadline.Active t d := by
  induction joins with
  | nil => exact iff_of_false Deadline.not_active_bot (by simp)
  | cons j joins ih =>
    obtain ⟨k', d⟩ := j
    have hlatest : latest k ((k', d) :: joins) =
        if k = k' then d ⊔ latest k joins else latest k joins := rfl
    rw [hlatest]
    split
    · next heq =>
      subst heq
      rw [Deadline.active_sup, ih]
      constructor
      · rintro (hd | ⟨d', hmem, hd'⟩)
        · exact ⟨d, List.mem_cons_self, hd⟩
        · exact ⟨d', List.mem_cons_of_mem _ hmem, hd'⟩
      · rintro ⟨d', hmem, hd'⟩
        rcases List.mem_cons.mp hmem with heq | hmem
        · obtain ⟨-, rfl⟩ := Prod.mk.inj heq
          exact .inl hd'
        · exact .inr ⟨d', hmem, hd'⟩
    · next hne =>
      rw [ih]
      constructor
      · rintro ⟨d', hmem, hd'⟩
        exact ⟨d', List.mem_cons_of_mem _ hmem, hd'⟩
      · rintro ⟨d', hmem, hd'⟩
        rcases List.mem_cons.mp hmem with heq | hmem
        · exact absurd (Prod.mk.inj heq).1 hne
        · exact ⟨d', hmem, hd'⟩

/-- The order of the list does not matter. -/
theorem latest_perm {joins joins' : List (K × Deadline T)} (h : joins.Perm joins') :
    latest k joins = latest k joins' := by
  induction h with
  | nil => rfl
  | cons j _ ih => simp only [latest, List.foldr_cons] at ih ⊢; rw [ih]
  | swap j j' joins =>
    simp only [latest, List.foldr_cons]
    split_ifs
    · exact sup_left_comm ..
    · rfl
    · rfl
    · rfl
  | trans _ _ ih ih' => exact ih.trans ih'

theorem runAt_erases (ks : List K) :
    runAt k d (ks.map .erase) = if k ∈ ks then ⊥ else d := by
  induction ks generalizing d with
  | nil => simp
  | cons k' ks ih =>
    rw [List.map_cons, runAt_cons, ih, Update.effectAt]
    by_cases hk : k = k'
    · simp [hk]
    · simp [hk]

theorem runAt_joins (joins : List (K × Deadline T)) :
    runAt k d (joins.map fun j => .join j.1 j.2) = d ⊔ latest k joins := by
  induction joins generalizing d with
  | nil => exact (sup_bot_eq d).symm
  | cons j joins ih =>
    have hlatest : latest k (j :: joins) =
        if k = j.1 then j.2 ⊔ latest k joins else latest k joins := rfl
    rw [List.map_cons, runAt_cons, ih, Update.effectAt, hlatest]
    split
    · exact sup_assoc ..
    · rfl

/-- **Erase first, then join**: the deadline is the latest of those joined and of the one that
was there, unless that one was erased. -/
theorem runAt_batch (ks : List K) (joins : List (K × Deadline T)) :
    runAt k d (ks.map .erase ++ joins.map fun j => .join j.1 j.2) =
      (if k ∈ ks then ⊥ else d) ⊔ latest k joins := by
  rw [runAt_append, runAt_erases, runAt_joins]

/-! ### Histories -/

/-- **A history of updates.** What is active in the end was active before and never erased, or
was joined after the last erasure. -/
theorem active_runAt_iff : Deadline.Active t (runAt k d us) ↔
    (Deadline.Active t d ∧ .erase k ∉ us ∧ .clear ∉ us) ∨
      ∃ before d' after, us = before ++ .join k d' :: after ∧
        Deadline.Active t d' ∧ .erase k ∉ after ∧ .clear ∉ after := by
  induction us generalizing d with
  | nil => simp
  | cons u us ih =>
    -- the last join is this update or a later one
    have hsplit : (∃ before d' after, u :: us = before ++ .join k d' :: after ∧
          Deadline.Active t d' ∧ .erase k ∉ after ∧ .clear ∉ after) ↔
        (∃ d', u = .join k d' ∧ Deadline.Active t d' ∧ .erase k ∉ us ∧ .clear ∉ us) ∨
          ∃ before d' after, us = before ++ .join k d' :: after ∧
            Deadline.Active t d' ∧ .erase k ∉ after ∧ .clear ∉ after := by
      constructor
      · rintro ⟨_ | ⟨_, before⟩, d', after, heq, hlast⟩
        · obtain ⟨rfl, rfl⟩ := List.cons.inj heq
          exact .inl ⟨d', rfl, hlast⟩
        · exact .inr ⟨before, d', after, (List.cons.inj heq).2, hlast⟩
      · rintro (⟨d', rfl, hlast⟩ | ⟨before, d', after, rfl, hlast⟩)
        · exact ⟨[], d', us, rfl, hlast⟩
        · exact ⟨u :: before, d', after, rfl, hlast⟩
    rw [runAt_cons, ih, hsplit]
    cases u with
    | join k' x =>
      by_cases hk : k' = k
      · subst hk
        have hnow : (∃ d', Update.join k' x = .join k' d' ∧ Deadline.Active t d' ∧
              .erase k' ∉ us ∧ .clear ∉ us) ↔
            Deadline.Active t x ∧ .erase k' ∉ us ∧ .clear ∉ us := by
          simp
        have herase : Update.erase k' ∉ Update.join k' x :: us ↔ .erase k' ∉ us := by simp
        have hclear : Update.clear ∉ Update.join k' x :: us ↔ .clear ∉ us := by simp
        rw [Update.effectAt, if_pos rfl, Deadline.active_sup, hnow, herase, hclear, or_and_right,
          or_assoc]
      · simp [Update.effectAt, hk, Ne.symm hk]
    | erase k' =>
      by_cases hk : k' = k
      · simp [Update.effectAt, hk]
      · simp [Update.effectAt, Ne.symm hk]
    | clear => simp [Update.effectAt]

/-- The update may change the deadline of the key `k`. -/
def Update.concerns (k : K) : Update K T → Bool
  | join k' _ => k' = k
  | erase k' => k' = k
  | clear => true

/-- Only the updates of a key matter for its deadline. -/
theorem runAt_filter_concerns : runAt k d (us.filter (Update.concerns k)) = runAt k d us := by
  induction us generalizing d with
  | nil => rfl
  | cons u us ih =>
    rw [List.filter_cons, runAt_cons]
    split
    · rw [runAt_cons, ih]
    · next hother =>
      have hkeep : u.effectAt k d = d := by
        cases u with
        | join k' x => exact if_neg fun heq => hother (decide_eq_true heq.symm)
        | erase k' => exact if_neg fun heq => hother (decide_eq_true heq.symm)
        | clear => exact absurd rfl hother
      rw [ih, hkeep]

/-- Updates that only join may be made in any order. -/
theorem runAt_perm {us' : List (Update K T)} (h : us.Perm us')
    (hjoin : ∀ u ∈ us, ∃ k' x, u = .join k' x) : runAt k d us = runAt k d us' := by
  refine h.foldl_eq' (fun u hu v hv x => ?_) d
  obtain ⟨k₁, d₁, rfl⟩ := hjoin u hu
  obtain ⟨k₂, d₂, rfl⟩ := hjoin v hv
  simp only [Update.effectAt]
  split_ifs
  · exact sup_right_comm ..
  · rfl
  · rfl
  · rfl

end DeadlineMap
