import Mathlib.Data.List.Induction
import Mathlib.Tactic.Common

/-!
# Layers of settings

A layer sets some of its settings and takes the others from the layers around it. Layers are
merged from the outside in, each one laid over the result for those around it and then checked.
When laying one over the other is `Option.or` on a setting, a whole merge has the value of the
innermost layer that sets it (`get_mergeAll`); when it is associative, layers may be merged in
groups (`mergeAll_grouped`).
-/

namespace Layers

variable {C α β ε : Type*}

/-- The value of the innermost layer that sets one, with the layers from the outside in. -/
def innermost (get : C → Option α) (layers : List C) : Option α := layers.reverse.findSome? get

section Innermost

variable {get : C → Option α} {layers : List C} {a : α}

theorem innermost_append_singleton (layers : List C) (c : C) :
    innermost get (layers ++ [c]) = (get c).or (innermost get layers) := by
  rw [innermost, List.reverse_append, List.reverse_singleton, List.singleton_append,
    List.findSome?_cons]
  cases get c with
  | none => rfl
  | some a => rfl

theorem innermost_eq_some_iff :
    innermost get layers = some a ↔
      ∃ outer c inner, layers = outer ++ c :: inner ∧ get c = some a ∧
        ∀ d ∈ inner, get d = none := by
  rw [innermost, List.findSome?_eq_some_iff]
  constructor
  · rintro ⟨inner, c, outer, hlayers, hc, hinner⟩
    refine ⟨outer.reverse, c, inner.reverse, ?_, hc, by simpa using hinner⟩
    rw [← List.reverse_reverse layers, hlayers]
    simp
  · rintro ⟨outer, c, inner, rfl, hc, hinner⟩
    exact ⟨inner.reverse, c, outer.reverse, by simp, hc, by simpa using hinner⟩

end Innermost

/-! ### Computations that may fail -/

theorem map_eq_ok_iff {f : α → β} {x : Except ε α} {b : β} :
    x.map f = .ok b ↔ ∃ a, x = .ok a ∧ f a = b := by
  cases x with
  | error e => simp [Except.map]
  | ok a => simp [Except.map]

theorem bind_eq_ok_iff {f : α → Except ε β} {x : Except ε α} {b : β} :
    x.bind f = .ok b ↔ ∃ a, x = .ok a ∧ f a = .ok b := by
  cases x with
  | error e => simp [Except.bind]
  | ok a => simp [Except.bind]

theorem toOption_eq_some_iff {x : Except ε α} {a : α} : x.toOption = some a ↔ x = .ok a := by
  cases x with
  | error e => simp [Except.toOption]
  | ok a => simp [Except.toOption]

/-- What holds at first and is kept by every step holds in the end. -/
theorem foldlM_induction {P : β → Prop} {f : β → α → Except ε β} {l : List α} {b b' : β}
    (hb : P b) (hstep : ∀ b, ∀ a ∈ l, ∀ b', P b → f b a = .ok b' → P b')
    (h : l.foldlM f b = .ok b') : P b' := by
  induction l generalizing b with
  | nil =>
    obtain rfl := Except.ok.inj h
    exact hb
  | cons a l ih =>
    rw [List.foldlM_cons] at h
    obtain ⟨next, hnext, hrest⟩ := bind_eq_ok_iff.mp h
    exact ih (hstep b a List.mem_cons_self next hb hnext)
      (fun b c hc => hstep b c (List.mem_cons_of_mem a hc)) hrest

/-! ### Merging -/

section Merging

variable (lay : C → C → C) (check : C → Except ε Unit)

/-- A layer laid over what is merged around it, and checked. -/
def merge (prev c : C) : Except ε C := (check (lay c prev)).map fun _ => lay c prev

/-- Layers merged from the outside in. -/
def mergeAll (outermost : C) (inner : List C) : Except ε C :=
  inner.foldlM (merge lay check) outermost

variable {lay check} {outermost prev c merged : C} {inner : List C}

theorem merge_eq_ok_iff :
    merge lay check prev c = .ok merged ↔ check merged = .ok () ∧ lay c prev = merged := by
  rw [merge, map_eq_ok_iff]
  constructor
  · rintro ⟨_, hcheck, rfl⟩
    exact ⟨hcheck, rfl⟩
  · rintro ⟨hcheck, rfl⟩
    exact ⟨_, hcheck, rfl⟩

theorem mergeAll_cons_eq_ok_iff :
    mergeAll lay check outermost (c :: inner) = .ok merged ↔
      ∃ next, merge lay check outermost c = .ok next ∧
        mergeAll lay check next inner = .ok merged := by
  rw [mergeAll, List.foldlM_cons]
  exact bind_eq_ok_iff

/-- What holds of the outermost layer and is kept by every merge holds of the result. -/
theorem mergeAll_induction {P : C → Prop} (houtermost : P outermost)
    (hmerge : ∀ prev, ∀ c ∈ inner, ∀ next, P prev → merge lay check prev c = .ok next → P next)
    (h : mergeAll lay check outermost inner = .ok merged) : P merged :=
  foldlM_induction houtermost hmerge h

/-- The result is the layers laid over one another, and the checks have let it through. -/
theorem mergeAll_eq_ok (h : mergeAll lay check outermost inner = .ok merged) :
    merged = inner.foldl (fun prev c => lay c prev) outermost ∧
      (inner ≠ [] → check merged = .ok ()) := by
  induction inner generalizing outermost with
  | nil => exact ⟨(Except.ok.inj h).symm, fun hne => absurd rfl hne⟩
  | cons c inner ih =>
    obtain ⟨next, hnext, hrest⟩ := mergeAll_cons_eq_ok_iff.mp h
    obtain ⟨hcheck, rfl⟩ := merge_eq_ok_iff.mp hnext
    obtain ⟨hmerged, hchecked⟩ := ih hrest
    refine ⟨hmerged, fun _ => ?_⟩
    cases inner with
    | nil =>
      obtain rfl := Except.ok.inj hrest
      exact hcheck
    | cons d inner => exact hchecked (List.cons_ne_nil d inner)

/-- **A setting that is inherited** has the value of the innermost layer that sets it. -/
theorem get_mergeAll {get : C → Option α}
    (hlay : ∀ c prev, get (lay c prev) = (get c).or (get prev))
    (h : mergeAll lay check outermost inner = .ok merged) :
    get merged = innermost get (outermost :: inner) := by
  rw [(mergeAll_eq_ok h).1]
  clear h
  induction inner using List.reverseRecOn with
  | nil => simp [innermost]
  | append_singleton inner c ih =>
    rw [List.foldl_append, List.foldl_cons, List.foldl_nil, hlay, ih, ← List.cons_append,
      innermost_append_singleton]

/-- A setting that is not inherited has the value of the innermost layer. -/
theorem own_mergeAll {get : C → β} (hlay : ∀ c prev, get (lay c prev) = get c)
    (h : mergeAll lay check outermost inner = .ok merged) :
    get merged = get ((outermost :: inner).getLast (List.cons_ne_nil outermost inner)) := by
  rw [(mergeAll_eq_ok h).1]
  clear h
  cases inner using List.reverseRecOn with
  | nil => rfl
  | append_singleton inner c =>
    rw [List.foldl_append, List.foldl_cons, List.foldl_nil, hlay]
    exact (congrArg get (List.getLast_concat (l := outermost :: inner))).symm

section Associative

variable (hassoc : ∀ a b c, lay c (lay b a) = lay (lay c b) a)

include hassoc

theorem foldl_lay (x c : C) (inner : List C) :
    inner.foldl (fun prev c => lay c prev) (lay c x) =
      lay (inner.foldl (fun prev c => lay c prev) c) x := by
  induction inner generalizing c with
  | nil => rfl
  | cons d inner ih => rw [List.foldl_cons, List.foldl_cons, hassoc, ih]

/-- **Groups of layers**: the inner ones may be merged on their own first. -/
theorem mergeAll_grouped {front back : List C} {x y : C}
    (h : mergeAll lay check outermost (front ++ c :: back) = .ok merged)
    (hfront : mergeAll lay check outermost front = .ok x)
    (hback : mergeAll lay check c back = .ok y) : merge lay check x y = .ok merged := by
  obtain ⟨hmerged, hcheck⟩ := mergeAll_eq_ok h
  rw [List.foldl_append, List.foldl_cons, ← (mergeAll_eq_ok hfront).1, foldl_lay hassoc,
    ← (mergeAll_eq_ok hback).1] at hmerged
  exact merge_eq_ok_iff.mpr ⟨hcheck (by simp), hmerged.symm⟩

end Associative

end Merging

end Layers
