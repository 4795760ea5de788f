import Mathlib.Data.Option.Basic
import Mathlib.Tactic.Common

/-!
# Runs of an executable labelled transition system

A system is a partial step function `step : α → σ → Option σ`: in state `s` the label `a`
is either not enabled (`none`) or leads to one state. All nondeterminism is in the choice
of labels, so a run is a list of labels and can be executed (`exec`).

Two predicates speak about a whole run: `EveryStep ok` says that each label is taken in a
state where `ok` allows it, `EveryState P` that each state the run visits satisfies `P`.
The induction rule `everyState_of_step` turns a step lemma into a run lemma: what every
allowed step preserves holds in every state of a run all of whose steps are allowed.
-/

namespace LabelledRun

variable {σ α : Type*} (step : α → σ → Option σ)

/-- The state after a run, `none` if some label is not enabled when its turn comes. -/
def exec : List α → σ → Option σ
  | [], s => some s
  | a :: l, s => (step a s).bind (exec l)

/-- Every label of the run is taken in a state where `ok` allows it. -/
def EveryStep (ok : α → σ → Prop) : List α → σ → Prop
  | [], _ => True
  | a :: l, s => ok a s ∧ ∀ s', step a s = some s' → EveryStep ok l s'

/-- Every state the run visits, the first and the last included, satisfies `P`. -/
def EveryState (P : σ → Prop) : List α → σ → Prop
  | [], s => P s
  | a :: l, s => P s ∧ ∀ s', step a s = some s' → EveryState P l s'

variable {step} {ok ok' : α → σ → Prop} {P Q : σ → Prop} {l : List α} {s s' : σ}

theorem exec_cons {a : α} :
    exec step (a :: l) s = some s' ↔ ∃ t, step a s = some t ∧ exec step l t = some s' := by
  rw [exec, Option.bind_eq_some_iff]

theorem exec_append {l' : List α} :
    exec step (l ++ l') s = some s' ↔ ∃ t, exec step l s = some t ∧ exec step l' t = some s' := by
  induction l generalizing s with
  | nil => exact ⟨fun h => ⟨s, rfl, h⟩, by rintro ⟨t, ⟨⟩, h⟩; exact h⟩
  | cons a l ih =>
    simp only [List.cons_append, exec_cons, ih]
    constructor
    · rintro ⟨t, ht, u, hu, h⟩
      exact ⟨u, ⟨t, ht, hu⟩, h⟩
    · rintro ⟨u, ⟨t, ht, hu⟩, h⟩
      exact ⟨t, ht, u, hu, h⟩

/-- The first state of a run satisfies what every state satisfies. -/
theorem EveryState.head (h : EveryState step P l s) : P s := by
  cases l with
  | nil => exact h
  | cons a l => exact h.1

/-- The last state of a run satisfies what every state satisfies. -/
theorem EveryState.last (h : EveryState step P l s) (hexec : exec step l s = some s') :
    P s' := by
  induction l generalizing s with
  | nil =>
    obtain rfl : s = s' := Option.some_injective _ hexec
    exact h
  | cons a l ih =>
    obtain ⟨t, ht, hrest⟩ := exec_cons.mp hexec
    exact ih (h.2 t ht) hrest

theorem EveryState.mono (hPQ : ∀ s, P s → Q s) (h : EveryState step P l s) :
    EveryState step Q l s := by
  induction l generalizing s with
  | nil => exact hPQ s h
  | cons a l ih => exact ⟨hPQ s h.1, fun t ht => ih (h.2 t ht)⟩

theorem everyState_of_forall (h : ∀ s, P s) : EveryState step P l s := by
  induction l generalizing s with
  | nil => exact h s
  | cons a l ih => exact ⟨h s, fun t _ => ih⟩

theorem EveryState.and (h : EveryState step P l s) (h' : EveryState step Q l s) :
    EveryState step (fun s => P s ∧ Q s) l s := by
  induction l generalizing s with
  | nil => exact ⟨h, h'⟩
  | cons a l ih => exact ⟨⟨h.1, h'.1⟩, fun t ht => ih (h.2 t ht) (h'.2 t ht)⟩

/-- **Induction over a run.** What every allowed step preserves holds in every state of a
run all of whose steps are allowed. -/
theorem everyState_of_step
    (hstep : ∀ a s s', ok a s → P s → step a s = some s' → P s')
    (h : EveryStep step ok l s) (h₀ : P s) : EveryState step P l s := by
  induction l generalizing s with
  | nil => exact h₀
  | cons a l ih => exact ⟨h₀, fun t ht => ih (h.2 t ht) (hstep a s t h.1 h₀ ht)⟩

/-- What every step preserves holds after a run. -/
theorem exec_of_step (hstep : ∀ a s s', P s → step a s = some s' → P s') (h₀ : P s)
    (hexec : exec step l s = some s') : P s' := by
  induction l generalizing s with
  | nil => exact Option.some_injective _ hexec ▸ h₀
  | cons a l ih =>
    obtain ⟨t, ht, hrest⟩ := exec_cons.mp hexec
    exact ih (hstep a s t h₀ ht) hrest

/-- What a run brings about, one of its steps brings about. -/
theorem exists_step_of_exec (hexec : exec step l s = some s') (h₀ : ¬ P s) (h : P s') :
    ∃ l₁ a l₂ t t', l = l₁ ++ a :: l₂ ∧ exec step l₁ s = some t ∧ step a t = some t' ∧
      ¬ P t ∧ P t' := by
  induction l generalizing s with
  | nil =>
    obtain rfl : s = s' := Option.some_injective _ hexec
    exact absurd h h₀
  | cons a l ih =>
    obtain ⟨t, ht, hrest⟩ := exec_cons.mp hexec
    by_cases hP : P t
    · exact ⟨[], a, l, s, t, rfl, rfl, ht, h₀, hP⟩
    · obtain ⟨l₁, b, l₂, u, u', rfl, hu, hstep, hnot, hyes⟩ := ih hrest hP
      exact ⟨a :: l₁, b, l₂, u, u', rfl, exec_cons.mpr ⟨t, ht, hu⟩, hstep, hnot, hyes⟩

/-- What holds at the end of a run held throughout, or was brought about by a step and held from
then on. -/
theorem everyState_or_exists_last_step (hexec : exec step l s = some s') (h : P s') :
    EveryState step P l s ∨ ∃ l₁ a l₂ t t', l = l₁ ++ a :: l₂ ∧ exec step l₁ s = some t ∧
      step a t = some t' ∧ ¬ P t ∧ EveryState step P l₂ t' ∧ exec step l₂ t' = some s' := by
  induction l generalizing s with
  | nil =>
    obtain rfl : s = s' := Option.some_injective _ hexec
    exact .inl h
  | cons a l ih =>
    obtain ⟨t, ht, hrest⟩ := exec_cons.mp hexec
    rcases ih hrest with hall | ⟨l₁, b, l₂, u, u', rfl, hu, hlast⟩
    · by_cases hP : P s
      · refine .inl ⟨hP, fun t' ht' => ?_⟩
        obtain rfl := Option.some_injective _ (ht.symm.trans ht')
        exact hall
      · exact .inr ⟨[], a, l, s, t, rfl, rfl, ht, hP, hall, hrest⟩
    · exact .inr ⟨a :: l₁, b, l₂, u, u', rfl, exec_cons.mpr ⟨t, ht, hu⟩, hlast⟩

/-- Some label sets it, and none behind it drops it. -/
def Standing (sets drops : α → Prop) (l : List α) : Prop :=
  ∃ before a after, l = before ++ a :: after ∧ sets a ∧ ∀ b ∈ after, ¬ drops b

theorem standing_cons {sets drops : α → Prop} {a : α} :
    Standing sets drops (a :: l) ↔ (sets a ∧ ∀ b ∈ l, ¬ drops b) ∨ Standing sets drops l := by
  constructor
  · rintro ⟨_ | ⟨_, before⟩, b, after, heq, hlast⟩
    · obtain ⟨rfl, rfl⟩ := List.cons.inj heq
      exact .inl hlast
    · exact .inr ⟨before, b, after, (List.cons.inj heq).2, hlast⟩
  · rintro (hlast | ⟨before, b, after, rfl, hlast⟩)
    · exact ⟨[], a, l, rfl, hlast⟩
    · exact ⟨a :: before, b, after, rfl, hlast⟩

/-- **The last word.** Where a step sets what it says and drops what it says, the end of a run has
what stands, and what was there and never dropped. -/
theorem holds_iff_standing {sets drops : α → Prop}
    (hstep : ∀ a s s', ok a s → step a s = some s' → (P s' ↔ sets a ∨ P s ∧ ¬ drops a))
    (hok : EveryStep step ok l s) (hexec : exec step l s = some s') :
    P s' ↔ Standing sets drops l ∨ P s ∧ ∀ a ∈ l, ¬ drops a := by
  induction l generalizing s with
  | nil =>
    obtain rfl : s = s' := Option.some_injective _ hexec
    simp [Standing]
  | cons a l ih =>
    obtain ⟨t, ht, hrest⟩ := exec_cons.mp hexec
    rw [ih (hok.2 t ht) hrest, hstep a s t hok.1 ht, standing_cons, List.forall_mem_cons]
    tauto

/-- **Counting by rank.** `Q n s` says that the state `s` has a rank of at most `n`. If every
allowed step lowers the rank, and by one when its label is counted, a run from a state of rank
`n` has at most `n` such labels. -/
theorem countP_le_of_rank {p : α → Bool} {Q : ℕ → σ → Prop}
    (hstep : ∀ a s s' n, ok a s → Q n s → step a s = some s' →
      ∃ n', Q n' s' ∧ n' + (if p a then 1 else 0) ≤ n)
    (hok : EveryStep step ok l s) {n : ℕ} (h₀ : Q n s) (hexec : exec step l s = some s') :
    l.countP p ≤ n := by
  induction l generalizing s n with
  | nil => exact Nat.zero_le n
  | cons a l ih =>
    obtain ⟨t, ht, hrest⟩ := exec_cons.mp hexec
    obtain ⟨n', hn', hle⟩ := hstep a s t n hok.1 h₀ ht
    have htail : l.countP p ≤ n' := ih (hok.2 t ht) hn' hrest
    rw [List.countP_cons]
    omega

/-- Conversely, a condition that the states around a step imply holds at every step. -/
theorem everyStep_of_everyState
    (hok : ∀ a s, P s → (∀ s', step a s = some s' → P s') → ok a s)
    (h : EveryState step P l s) : EveryStep step ok l s := by
  induction l generalizing s with
  | nil => trivial
  | cons a l ih => exact ⟨hok a s h.1 fun t ht => (h.2 t ht).head, fun t ht => ih (h.2 t ht)⟩

theorem EveryStep.mono (hok : ∀ a s, ok a s → ok' a s) (h : EveryStep step ok l s) :
    EveryStep step ok' l s := by
  induction l generalizing s with
  | nil => trivial
  | cons a l ih => exact ⟨hok a s h.1, fun t ht => ih (h.2 t ht)⟩

theorem EveryStep.and (h : EveryStep step ok l s) (h' : EveryStep step ok' l s) :
    EveryStep step (fun a s => ok a s ∧ ok' a s) l s := by
  induction l generalizing s with
  | nil => trivial
  | cons a l ih => exact ⟨⟨h.1, h'.1⟩, fun t ht => ih (h.2 t ht) (h'.2 t ht)⟩

/-- Two conditions that agree in every state of a run are met by the same runs. -/
theorem everyStep_congr (hok : ∀ a s, P s → (ok a s ↔ ok' a s)) (h : EveryState step P l s) :
    EveryStep step ok l s ↔ EveryStep step ok' l s := by
  induction l generalizing s with
  | nil => exact Iff.rfl
  | cons a l ih =>
    exact and_congr (hok a s h.1) (forall_congr' fun t => forall_congr' fun ht => ih (h.2 t ht))

/-- A condition on the labels of a run. -/
theorem everyStep_of_mem (h : ∀ a ∈ l, ∀ s, ok a s) : EveryStep step ok l s := by
  induction l generalizing s with
  | nil => trivial
  | cons a l ih =>
    exact ⟨h a List.mem_cons_self s, fun t _ => ih fun b hb => h b (List.mem_cons_of_mem a hb)⟩

/-! ### Two systems with the same labels -/

section Simulation

variable {τ : Type*} {step' : α → τ → Option τ} {R : σ → τ → Prop} {t : τ}

/-- Related states enable the same labels, and these lead to related states. -/
def Simulates (step : α → σ → Option σ) (step' : α → τ → Option τ) (ok : α → σ → Prop)
    (R : σ → τ → Prop) : Prop :=
  ∀ a s t, ok a s → R s t → Option.Rel R (step a s) (step' a t)

theorem Simulates.forward {a : α} (h : Simulates step step' ok R) (hok : ok a s) (hR : R s t)
    (hs : step a s = some s') : ∃ t', step' a t = some t' ∧ R s' t' := by
  have hrel := h a s t hok hR
  rw [hs] at hrel
  cases ht : step' a t with
  | none => rw [ht] at hrel; cases hrel
  | some t' =>
    rw [ht] at hrel
    cases hrel with
    | some hR' => exact ⟨t', rfl, hR'⟩

theorem Simulates.backward {a : α} {t' : τ} (h : Simulates step step' ok R) (hok : ok a s)
    (hR : R s t) (ht : step' a t = some t') : ∃ s', step a s = some s' ∧ R s' t' := by
  cases hs : step a s with
  | none =>
    have hrel := h a s t hok hR
    rw [hs, ht] at hrel
    cases hrel
  | some s' =>
    obtain ⟨t'', ht'', hR'⟩ := h.forward hok hR hs
    obtain rfl := Option.some_injective _ (ht.symm.trans ht'')
    exact ⟨s', rfl, hR'⟩

/-- **Runs from related states** are enabled together and lead to related states. -/
theorem Simulates.exec (h : Simulates step step' ok R) (hok : EveryStep step ok l s)
    (h₀ : R s t) : Option.Rel R (exec step l s) (exec step' l t) := by
  induction l generalizing s t with
  | nil => exact .some h₀
  | cons a l ih =>
    rw [LabelledRun.exec, LabelledRun.exec]
    cases hs : step a s with
    | none =>
      cases ht : step' a t with
      | none => exact .none
      | some t' =>
        obtain ⟨s', hs', -⟩ := h.backward hok.1 h₀ ht
        exact absurd (hs.symm.trans hs') (by simp)
    | some s' =>
      obtain ⟨t', ht, hR⟩ := h.forward hok.1 h₀ hs
      rw [ht]
      exact ih (hok.2 s' hs) hR

/-- What related states show alike, related runs show alike at their ends. -/
theorem Simulates.map_exec_eq {ω : Type*} {f : σ → ω} {g : τ → ω}
    (h : Simulates step step' ok R) (hfg : ∀ s t, R s t → f s = g t)
    (hok : EveryStep step ok l s) (h₀ : R s t) :
    (LabelledRun.exec step l s).map f = (LabelledRun.exec step' l t).map g := by
  have hrel := h.exec hok h₀
  revert hrel
  generalize LabelledRun.exec step l s = x
  generalize LabelledRun.exec step' l t = y
  rintro (⟨hR⟩ | _)
  · exact congrArg some (hfg _ _ hR)
  · rfl

/-- What related states agree on, related runs agree on throughout. -/
theorem Simulates.everyState_iff (h : Simulates step step' ok R) {P' : τ → Prop}
    (hP : ∀ s t, R s t → (P s ↔ P' t)) (hok : EveryStep step ok l s) (h₀ : R s t) :
    EveryState step P l s ↔ EveryState step' P' l t := by
  induction l generalizing s t with
  | nil => exact hP s t h₀
  | cons a l ih =>
    refine and_congr (hP s t h₀) ⟨fun hall t' ht => ?_, fun hall s' hs => ?_⟩
    · obtain ⟨s', hs, hR⟩ := h.backward hok.1 h₀ ht
      exact (ih (hok.2 s' hs) hR).mp (hall s' hs)
    · obtain ⟨t', ht, hR⟩ := h.forward hok.1 h₀ hs
      exact (ih (hok.2 s' hs) hR).mpr (hall t' ht)

end Simulation

/-! ### Checking a run -/

variable (step)

instance decidableEveryStep [∀ a s, Decidable (ok a s)] :
    ∀ (l : List α) (s : σ), Decidable (EveryStep step ok l s)
  | [], _ => isTrue trivial
  | a :: l, s =>
    match h : step a s with
    | none => decidable_of_iff (ok a s)
        ⟨fun hok => ⟨hok, fun t ht => by rw [h] at ht; exact absurd ht (by simp)⟩, And.left⟩
    | some t =>
      have := decidableEveryStep l t
      decidable_of_iff (ok a s ∧ EveryStep step ok l t)
        (and_congr_right fun _ => ⟨fun hrest t' ht' => by
          rw [h] at ht'
          exact Option.some_injective _ ht' ▸ hrest, fun hrest => hrest t h⟩)

instance decidableEveryState [DecidablePred P] :
    ∀ (l : List α) (s : σ), Decidable (EveryState step P l s)
  | [], s => inferInstanceAs (Decidable (P s))
  | a :: l, s =>
    match h : step a s with
    | none => decidable_of_iff (P s)
        ⟨fun hP => ⟨hP, fun t ht => by rw [h] at ht; exact absurd ht (by simp)⟩, And.left⟩
    | some t =>
      have := decidableEveryState l t
      decidable_of_iff (P s ∧ EveryState step P l t)
        (and_congr_right fun _ => ⟨fun hrest t' ht' => by
          rw [h] at ht'
          exact Option.some_injective _ ht' ▸ hrest, fun hrest => hrest t h⟩)

end LabelledRun
