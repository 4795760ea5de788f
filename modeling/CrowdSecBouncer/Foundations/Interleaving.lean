import CrowdSecBouncer.Foundations.LabelledRun
import Mathlib.Logic.Function.Basic

/-!
# Components around a shared environment

Components, indexed by `ι`, take turns with an environment that they all read and write.
`envStep` is a step of the environment by itself; `partStep e i` is the step of component `i`
while the environment is in the state `e`. The interleaving of them all is one labelled
transition system on `World`s, and a run may schedule environment and components in any order.

What one component does in such a run is a run of its own, over the labels it took together
with the environments it took them in (`trace`). Whatever is known of the component alone
therefore carries over to every interleaving (`everyState_part_of_trace`). Invariants come by
rely and guarantee: every step keeps `R` of the environment (`everyState_env`), and what a
component keeps while the environment satisfies `R` it keeps throughout
(`everyState_part`).
-/

namespace Interleaving

open LabelledRun

/-- The environment together with the states of all components. -/
structure World (ι ε σ : Type*) where
  env : ε
  part : ι → σ

/-- Who takes the step, and which one. -/
inductive Label (ι α β : Type*)
  | env (b : β)
  | part (i : ι) (a : α)

variable {ι ε σ α β : Type*} [DecidableEq ι] (envStep : β → ε → Option ε)
  (partStep : ε → ι → α → σ → Option (ε × σ))

/-- One step of the interleaving. -/
def step : Label ι α β → World ι ε σ → Option (World ι ε σ)
  | .env b, w => (envStep b w.env).map fun e => { w with env := e }
  | .part i a, w =>
    (partStep w.env i a (w.part i)).map fun out => ⟨out.1, Function.update w.part i out.2⟩

/-- A component alone; its labels carry the environment they are taken in. -/
def partAlone (i : ι) (label : ε × α) (s : σ) : Option σ :=
  (partStep label.1 i label.2 s).map Prod.snd

/-- The labels of component `i` in a run, each with the environment it is taken in. -/
def trace (i : ι) : List (Label ι α β) → World ι ε σ → List (ε × α)
  | [], _ => []
  | .env b :: l, w => ((step envStep partStep (.env b) w).map (trace i l)).getD []
  | .part j a :: l, w =>
    let rest := ((step envStep partStep (.part j a) w).map (trace i l)).getD []
    if j = i then (w.env, a) :: rest else rest

variable {envStep partStep} {i : ι} {l : List (Label ι α β)} {w w' : World ι ε σ}
  {R : ε → Prop} {Q : σ → Prop}

theorem step_env {b : β} :
    step envStep partStep (.env b) w = some w' ↔
      ∃ e, envStep b w.env = some e ∧ { w with env := e } = w' := by
  rw [step, Option.map_eq_some_iff]

theorem step_part {j : ι} {a : α} :
    step envStep partStep (.part j a) w = some w' ↔
      ∃ out, partStep w.env j a (w.part j) = some out ∧
        ⟨out.1, Function.update w.part j out.2⟩ = w' := by
  rw [step, Option.map_eq_some_iff]

/-- The component's own step. -/
theorem partStep_of_step {a : α} (h : step envStep partStep (.part i a) w = some w') :
    partStep w.env i a (w.part i) = some (w'.env, w'.part i) := by
  obtain ⟨out, hout, rfl⟩ := step_part.mp h
  rw [hout]
  exact congrArg (fun s => some (out.1, s)) (Function.update_self i out.2 w.part).symm

theorem partAlone_of_step {a : α} (h : step envStep partStep (.part i a) w = some w') :
    partAlone partStep i (w.env, a) (w.part i) = some (w'.part i) := by
  rw [partAlone, partStep_of_step h]
  rfl

/-- A step that is not one of the component leaves it alone. -/
theorem part_eq_of_step {label : Label ι α β} (hother : ∀ a, label ≠ .part i a)
    (h : step envStep partStep label w = some w') : w'.part i = w.part i := by
  rcases label with b | ⟨j, a⟩
  · obtain ⟨e, -, rfl⟩ := step_env.mp h
    rfl
  · obtain ⟨out, -, rfl⟩ := step_part.mp h
    have hne : i ≠ j := by
      rintro rfl
      exact hother a rfl
    exact Function.update_of_ne hne out.2 w.part

theorem trace_cons_of_ne {label : Label ι α β} (hother : ∀ a, label ≠ .part i a)
    (h : step envStep partStep label w = some w') :
    trace envStep partStep i (label :: l) w = trace envStep partStep i l w' := by
  rcases label with b | ⟨j, a⟩
  · rw [trace, h]
    rfl
  · have hne : j ≠ i := by
      rintro rfl
      exact hother a rfl
    rw [trace, h, if_neg hne]
    rfl

theorem trace_cons_self {a : α} (h : step envStep partStep (.part i a) w = some w') :
    trace envStep partStep i (.part i a :: l) w =
      (w.env, a) :: trace envStep partStep i l w' := by
  rw [trace, h, if_pos rfl]
  rfl

omit [DecidableEq ι] in
/-- Whether a label is one of the component. -/
theorem part_or_other (i : ι) (label : Label ι α β) :
    (∃ a, label = .part i a) ∨ ∀ a, label ≠ .part i a := by
  by_cases h : ∃ a, label = .part i a
  · exact .inl h
  · exact .inr (not_exists.mp h)

/-- **What holds of the component alone holds in the interleaving.** -/
theorem everyState_part_of_trace
    (h : EveryState (partAlone partStep i) Q (trace envStep partStep i l w) (w.part i)) :
    EveryState (step envStep partStep) (fun w => Q (w.part i)) l w := by
  induction l generalizing w with
  | nil => exact h
  | cons label l ih =>
    refine ⟨h.head, fun v hv => ih ?_⟩
    rcases part_or_other i label with ⟨a, rfl⟩ | hother
    · rw [trace_cons_self hv] at h
      exact h.2 (v.part i) (partAlone_of_step hv)
    · rw [part_eq_of_step hother hv, ← trace_cons_of_ne hother hv]
      exact h

/-- A label of a trace is a label of the run, in an environment that the run visits. -/
theorem trace_forall {okPart : α → Prop}
    (hrely : EveryState (step envStep partStep) (fun w => R w.env) l w)
    (hok : ∀ a, Label.part i a ∈ l → okPart a) :
    ∀ label ∈ trace envStep partStep i l w, R label.1 ∧ okPart label.2 := by
  induction l generalizing w with
  | nil => exact fun label hmem => absurd hmem List.not_mem_nil
  | cons head l ih =>
    have htail : ∀ a, Label.part i a ∈ l → okPart a := fun a hmem =>
      hok a (List.mem_cons_of_mem head hmem)
    cases hv : step envStep partStep head w with
    | none =>
      intro label hmem
      rcases head with b | ⟨j, a⟩
      · rw [trace, hv] at hmem
        exact absurd hmem List.not_mem_nil
      · rw [trace, hv] at hmem
        split at hmem
        · next hji =>
          obtain rfl := List.mem_singleton.mp hmem
          exact ⟨hrely.head, hok a (hji ▸ List.mem_cons_self)⟩
        · exact absurd hmem List.not_mem_nil
    | some v =>
      have hrest := ih (hrely.2 v hv) htail
      rcases part_or_other i head with ⟨a, rfl⟩ | hother
      · rw [trace_cons_self hv]
        intro label hmem
        rcases List.mem_cons.mp hmem with rfl | hmem
        · exact ⟨hrely.head, hok a List.mem_cons_self⟩
        · exact hrest label hmem
      · rw [trace_cons_of_ne hother hv]
        exact hrest

/-- **Guarantee.** While the environment satisfies `R`, a component keeps `Q`: then it does so
in every interleaving in which the environment satisfies `R` throughout. -/
theorem everyState_part {okPart : α → Prop}
    (hstep : ∀ e a s e' s', R e → okPart a → Q s → partStep e i a s = some (e', s') → Q s')
    (hrely : EveryState (step envStep partStep) (fun w => R w.env) l w)
    (hok : ∀ a, Label.part i a ∈ l → okPart a) (h₀ : Q (w.part i)) :
    EveryState (step envStep partStep) (fun w => Q (w.part i)) l w := by
  have hlabels := trace_forall hrely hok
  refine everyState_part_of_trace (everyState_of_step (fun label s s' hlabel => ?_)
    (everyStep_of_mem fun label hmem _ => hlabels label hmem) h₀)
  intro hs hs'
  obtain ⟨⟨e', s''⟩, hout, rfl⟩ := Option.map_eq_some_iff.mp hs'
  exact hstep label.1 label.2 s e' s'' hlabel.1 hlabel.2 hs hout

/-- **Rely.** What every step keeps of the environment holds of it throughout. -/
theorem everyState_env {okEnv : β → ε → Prop}
    (hstep : ∀ b e e', okEnv b e → R e → envStep b e = some e' → R e')
    (hpart : ∀ e i a s e' s', R e → partStep e i a s = some (e', s') → R e')
    (hok : EveryStep (step envStep partStep)
      (fun label w => ∀ b, label = .env b → okEnv b w.env) l w)
    (h₀ : R w.env) : EveryState (step envStep partStep) (fun w => R w.env) l w := by
  refine everyState_of_step (fun label v v' hlabel hR hv => ?_) hok h₀
  rcases label with b | ⟨j, a⟩
  · obtain ⟨e, he, rfl⟩ := step_env.mp hv
    exact hstep b v.env e (hlabel b rfl) hR he
  · obtain ⟨out, hout, rfl⟩ := step_part.mp hv
    exact hpart v.env j a (v.part j) out.1 out.2 hR hout

/-- What relates two options relates their images. -/
theorem rel_map {γ γ' δ δ' : Type*} {S : γ → γ' → Prop} {S' : δ → δ' → Prop} {f : γ → δ}
    {g : γ' → δ'} {x : Option γ} {y : Option γ'} (h : Option.Rel S x y)
    (hfg : ∀ c d, S c d → S' (f c) (g d)) : Option.Rel S' (x.map f) (y.map g) := by
  cases h with
  | none => exact .none
  | some hS => exact .some (hfg _ _ hS)

/-- **Simulation of the environment.** Where another environment is simulated by this one, by
itself and under the steps of the components, the interleavings of the same components around
the two go step by step. -/
theorem simulates {ε' : Type*} {envStep' : β → ε' → Option ε'}
    {partStep' : ε' → ι → α → σ → Option (ε' × σ)} {S : ε → ε' → Prop} {okEnv : β → ε → Prop}
    (henv : ∀ b e e', okEnv b e → S e e' → Option.Rel S (envStep b e) (envStep' b e'))
    (hpart : ∀ e e' i a s, S e e' → Option.Rel (fun out out' => S out.1 out'.1 ∧ out'.2 = out.2)
      (partStep e i a s) (partStep' e' i a s)) :
    Simulates (step envStep partStep) (step envStep' partStep')
      (fun label w => ∀ b, label = .env b → okEnv b w.env)
      (fun w w' => S w.env w'.env ∧ w'.part = w.part) := by
  rintro label w w' hok ⟨hS, hparts⟩
  rcases label with b | ⟨i, a⟩
  · exact rel_map (henv b w.env w'.env (hok b rfl) hS) fun _ _ hS' => ⟨hS', hparts⟩
  · rw [step, step, hparts]
    refine rel_map (hpart w.env w'.env i a (w.part i) hS) fun out out' h => ⟨h.1, ?_⟩
    rw [h.2]

end Interleaving
