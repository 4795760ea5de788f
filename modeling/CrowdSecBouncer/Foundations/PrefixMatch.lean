import Mathlib.Data.Option.Basic
import Mathlib.Order.Lattice
import Mathlib.Tactic.Common

/-!
# Prefixes of bit strings and longest-first search

Two bit strings *agree up to* `p` when their first `p` bits are equal (`AgreeUpTo`);
`maskBits p a` keeps the first `p` bits of `a` and clears the others. A prefix of length
`p` contains an address when the two agree up to `p`, which is the same as equality after
masking (`maskBits_eq_iff`).

`longestFirst w f` tries the lengths `w, w - 1, …, 0` in this order and returns the first
answer, so it answers with the longest length that has one (`longestFirst_eq_some_iff`).
-/

namespace PrefixMatch

/-- The first `p` bits of `a` and `b` are equal. -/
def AgreeUpTo (p : ℕ) (a b : ℕ → Bool) : Prop :=
  ∀ i < p, a i = b i

instance (p : ℕ) (a b : ℕ → Bool) : Decidable (AgreeUpTo p a b) :=
  inferInstanceAs (Decidable (∀ i < p, a i = b i))

/-- The first `p` bits of `a`, followed by zeros. -/
def maskBits (p : ℕ) (a : ℕ → Bool) : ℕ → Bool :=
  fun i => decide (i < p) && a i

variable {p : ℕ} {a b : ℕ → Bool}

theorem agreeUpTo_maskBits : AgreeUpTo p (maskBits p a) a := by
  intro i hi
  simp [maskBits, hi]

/-- Masking identifies exactly the strings that agree up to the prefix length. -/
theorem maskBits_eq_iff : maskBits p a = maskBits p b ↔ AgreeUpTo p a b := by
  constructor
  · intro h i hi
    simpa [maskBits, hi] using congrFun h i
  · intro h
    funext i
    by_cases hi : i < p
    · simp [maskBits, hi, h i hi]
    · simp [maskBits, hi]

variable {β : Type*}

/-- Try the lengths `w, w - 1, …, 0` and return the first answer. -/
def longestFirst (w : ℕ) (f : ℕ → Option β) : Option β :=
  (List.range (w + 1)).reverse.findSome? f

theorem longestFirst_zero (f : ℕ → Option β) : longestFirst 0 f = f 0 := by
  cases h : f 0 <;> simp [longestFirst, h]

theorem longestFirst_succ (w : ℕ) (f : ℕ → Option β) :
    longestFirst (w + 1) f = (f (w + 1)).or (longestFirst w f) := by
  rw [longestFirst, List.range_succ, List.reverse_append]
  cases h : f (w + 1) <;> simp [longestFirst, h]

/-- **Longest first.** The answer is that of the longest length with an answer. -/
theorem longestFirst_eq_some_iff {w : ℕ} {f : ℕ → Option β} {r : β} :
    longestFirst w f = some r ↔
      ∃ p ≤ w, f p = some r ∧ ∀ q, p < q → q ≤ w → f q = none := by
  induction w with
  | zero =>
    rw [longestFirst_zero]
    constructor
    · intro h
      exact ⟨0, le_rfl, h, fun q h₁ h₂ => by omega⟩
    · rintro ⟨p, hp, h, -⟩
      obtain rfl : p = 0 := by omega
      exact h
  | succ w ih =>
    rw [longestFirst_succ]
    cases hf : f (w + 1) with
    | some c =>
      simp only [Option.some_or, Option.some.injEq]
      constructor
      · rintro rfl
        exact ⟨w + 1, le_rfl, hf, fun q h₁ h₂ => by omega⟩
      · rintro ⟨p, hp, h, hnone⟩
        rcases hp.eq_or_lt with rfl | hlt
        · rw [hf] at h
          exact Option.some_injective _ h
        · rw [hnone (w + 1) hlt le_rfl] at hf
          exact absurd hf (by simp)
    | none =>
      simp only [Option.none_or, ih]
      constructor
      · rintro ⟨p, hp, h, hnone⟩
        refine ⟨p, by omega, h, fun q h₁ h₂ => ?_⟩
        rcases h₂.eq_or_lt with rfl | hlt
        · exact hf
        · exact hnone q h₁ (by omega)
      · rintro ⟨p, hp, h, hnone⟩
        rcases hp.eq_or_lt with rfl | hlt
        · rw [hf] at h
          exact absurd h (by simp)
        · exact ⟨p, by omega, h, fun q h₁ h₂ => hnone q h₁ (by omega)⟩

/-- There is no answer when no length has one. -/
theorem longestFirst_eq_none_iff {w : ℕ} {f : ℕ → Option β} :
    longestFirst w f = none ↔ ∀ p ≤ w, f p = none := by
  simp only [longestFirst, List.findSome?_eq_none_iff, List.mem_reverse, List.mem_range]
  exact ⟨fun h p hp => h p (by omega), fun h p hp => h p (by omega)⟩

end PrefixMatch
