import Mathlib.Data.Nat.ModEq
import Mathlib.Logic.Function.Basic
import Mathlib.Tactic.Common

/-!
# Circular scans and linear probing

A circular scan visits the slots `start, start + 1, …` of a table of capacity `C` modulo
`C`, stops at the first slot its test accepts, and gives up when it is back at `start`.
`circularScan` is that loop; it visits every slot exactly once, and its value is that of
the first accepting slot on the way round (`circularScan_eq_some_iff`,
`circularScan_eq_none_iff`).

Linear probing over an arbitrary slot type is one such scan (`probe`): it stops at an
empty slot (the key is absent) or at a slot holding the key. The condition that makes it
find an occupied slot `i` from its home position is `PathClear`: no slot on the circular
path from the home position to `i` is empty. Paths survive every write of a non-empty
slot (`PathClear.update`), which is why deletion leaves a tombstone, and they are created
by writing at the first vacant slot (`pathClear_of_scan`) or anywhere in a table with no
empty slot (`pathClear_of_full`).
-/

namespace CircularProbe

variable {β σ : Type*} {C start : ℕ}

/-! ### The scan loop -/

/-- The loop of a circular scan from slot `idx`: return at the first accepting slot, move
to the next slot modulo `C`, give up on arriving back at `start`. The last argument bounds
the number of iterations; `circularScan` runs it with `C`, which always suffices. -/
def scanLoop (C start : ℕ) (test : ℕ → Option β) : ℕ → ℕ → Option β
  | _, 0 => none
  | idx, fuel + 1 =>
    match test idx with
    | some b => some b
    | none =>
      let next := (idx + 1) % C
      if next = start then none else scanLoop C start test next fuel

/-- A circular scan over `C` slots from `start`. -/
def circularScan (C start : ℕ) (test : ℕ → Option β) : Option β :=
  scanLoop C start test start C

private theorem step_mod (k : ℕ) : ((start + k) % C + 1) % C = (start + (k + 1)) % C := by
  rw [Nat.mod_add_mod, Nat.add_assoc]

/-- The scan is back at its start exactly after a whole turn. -/
theorem add_mod_eq_self_iff (hs : start < C) {k : ℕ} (hk : 0 < k) (hkC : k ≤ C) :
    (start + k) % C = start ↔ k = C := by
  constructor
  · intro h
    rcases Nat.lt_or_ge (start + k) C with hlt | hge
    · rw [Nat.mod_eq_of_lt hlt] at h
      omega
    · rw [Nat.mod_eq_sub_mod hge, Nat.mod_eq_of_lt (by omega)] at h
      omega
  · rintro rfl
    rw [Nat.add_mod_right, Nat.mod_eq_of_lt hs]

/-- Every slot is reached by the scan, at exactly one offset below `C`. -/
theorem exists_offset (hs : start < C) {i : ℕ} (hi : i < C) :
    ∃ k < C, (start + k) % C = i := by
  rcases Nat.lt_or_ge i start with h | h
  · refine ⟨i + C - start, by omega, ?_⟩
    rw [show start + (i + C - start) = i + C by omega, Nat.add_mod_right, Nat.mod_eq_of_lt hi]
  · exact ⟨i - start, by omega, by rw [show start + (i - start) = i by omega, Nat.mod_eq_of_lt hi]⟩

/-- Offsets below `C` reach pairwise different slots. -/
theorem offset_injective {j k : ℕ} (hj : j < C) (hk : k < C)
    (h : (start + j) % C = (start + k) % C) : j = k := by
  have hmod : j % C = k % C := Nat.ModEq.add_left_cancel' start h
  rwa [Nat.mod_eq_of_lt hj, Nat.mod_eq_of_lt hk] at hmod

/-- The loop after `k` rejecting slots, with any fuel that covers the remaining ones: the
loop terminates, and its value is the first accepting slot from offset `k` on. -/
private theorem scanLoop_eq_some_iff (hs : start < C) (test : ℕ → Option β) (b : β) :
    ∀ (fuel k : ℕ), k < C → C ≤ k + fuel →
      (scanLoop C start test ((start + k) % C) fuel = some b ↔
        ∃ m, k ≤ m ∧ m < C ∧ test ((start + m) % C) = some b ∧
          ∀ j, k ≤ j → j < m → test ((start + j) % C) = none) := by
  intro fuel
  induction fuel with
  | zero => intro k hk hfuel; omega
  | succ fuel ih =>
    intro k hk hfuel
    rw [scanLoop]
    cases htest : test ((start + k) % C) with
    | some c =>
      simp only [Option.some.injEq]
      constructor
      · rintro rfl
        exact ⟨k, le_rfl, hk, htest, fun j h₁ h₂ => by omega⟩
      · rintro ⟨m, hkm, -, hm, hnone⟩
        rcases hkm.eq_or_lt with rfl | hlt
        · rw [htest] at hm
          exact Option.some_injective _ hm
        · rw [hnone k le_rfl hlt] at htest
          exact absurd htest (by simp)
    | none =>
      simp only [step_mod, add_mod_eq_self_iff hs (Nat.succ_pos k) hk]
      split
      · next hend =>
        -- the last slot rejects
        refine iff_of_false (by simp) ?_
        rintro ⟨m, hkm, hmC, hm, -⟩
        obtain rfl : m = k := by omega
        rw [htest] at hm
        exact absurd hm (by simp)
      · next hend =>
        rw [ih (k + 1) (by omega) (by omega)]
        constructor
        · rintro ⟨m, hkm, hmC, hm, hnone⟩
          refine ⟨m, by omega, hmC, hm, fun j h₁ h₂ => ?_⟩
          rcases h₁.eq_or_lt with rfl | hlt
          · exact htest
          · exact hnone j hlt h₂
        · rintro ⟨m, hkm, hmC, hm, hnone⟩
          rcases hkm.eq_or_lt with rfl | hlt
          · rw [htest] at hm
            exact absurd hm (by simp)
          · exact ⟨m, hlt, hmC, hm, fun j h₁ h₂ => hnone j (by omega) h₂⟩

/-- **Value of a scan.** A circular scan returns the value of the first accepting slot on
the way round. -/
theorem circularScan_eq_some_iff (hs : start < C) {test : ℕ → Option β} {b : β} :
    circularScan C start test = some b ↔
      ∃ k < C, test ((start + k) % C) = some b ∧ ∀ j < k, test ((start + j) % C) = none := by
  have h := scanLoop_eq_some_iff hs test b C 0 (by omega) (by omega)
  rw [Nat.add_zero, Nat.mod_eq_of_lt hs] at h
  rw [circularScan, h]
  constructor
  · rintro ⟨m, -, hm, hb, hnone⟩
    exact ⟨m, hm, hb, fun j hj => hnone j (Nat.zero_le j) hj⟩
  · rintro ⟨m, hm, hb, hnone⟩
    exact ⟨m, Nat.zero_le m, hm, hb, fun j _ hj => hnone j hj⟩

/-- **A failed scan** has seen every slot reject. -/
theorem circularScan_eq_none_iff (hs : start < C) {test : ℕ → Option β} :
    circularScan C start test = none ↔ ∀ i < C, test i = none := by
  constructor
  · intro hscan i hi
    obtain ⟨k, hk, rfl⟩ := exists_offset hs hi
    clear hi
    -- the least accepting offset would have been returned
    induction k using Nat.strong_induction_on with
    | _ k ih =>
      cases htest : test ((start + k) % C) with
      | none => rfl
      | some b =>
        have hsome : circularScan C start test = some b :=
          (circularScan_eq_some_iff hs).mpr ⟨k, hk, htest, fun j hj => ih j hj (by omega)⟩
        rw [hscan] at hsome
        exact absurd hsome (by simp)
  · intro h
    cases hscan : circularScan C start test with
    | none => rfl
    | some b =>
      obtain ⟨k, -, hk, -⟩ := (circularScan_eq_some_iff hs).mp hscan
      rw [h _ (Nat.mod_lt _ (by omega))] at hk
      exact absurd hk (by simp)

/-! ### Clear probe paths -/

/-- No slot on the circular path from `home` to `i`, both ends included, is empty. -/
def PathClear (C : ℕ) (isEmpty : σ → Bool) (slots : ℕ → σ) (home i : ℕ) : Prop :=
  ∃ k < C, (home + k) % C = i ∧ ∀ j ≤ k, isEmpty (slots ((home + j) % C)) = false

variable {isEmpty : σ → Bool} {slots : ℕ → σ} {home i : ℕ}

/-- Writing a non-empty slot anywhere keeps every clear path clear. -/
theorem PathClear.update (h : PathClear C isEmpty slots home i) {a : ℕ} {s : σ}
    (hs : isEmpty s = false) : PathClear C isEmpty (Function.update slots a s) home i := by
  obtain ⟨k, hk, hki, hclear⟩ := h
  refine ⟨k, hk, hki, fun j hj => ?_⟩
  by_cases hja : (home + j) % C = a
  · rw [hja, Function.update_self]
    exact hs
  · rw [Function.update_of_ne hja]
    exact hclear j hj

/-- Writing a non-empty slot at the end of a scan that met no empty slot creates a clear
path to it. -/
theorem pathClear_of_scan {k : ℕ} {s : σ} (hs : isEmpty s = false) (hk : k < C)
    (hbefore : ∀ j < k, isEmpty (slots ((home + j) % C)) = false) :
    PathClear C isEmpty (Function.update slots ((home + k) % C) s) home ((home + k) % C) := by
  refine ⟨k, hk, rfl, fun j hj => ?_⟩
  by_cases hja : (home + j) % C = (home + k) % C
  · rw [hja, Function.update_self]
    exact hs
  · rw [Function.update_of_ne hja]
    rcases hj.eq_or_lt with rfl | hlt
    · exact absurd rfl hja
    · exact hbefore j hlt

/-- In a table with no empty slot every path is clear. -/
theorem pathClear_of_full (hhome : home < C) (hi : i < C)
    (hfull : ∀ j < C, isEmpty (slots j) = false) : PathClear C isEmpty slots home i := by
  obtain ⟨k, hk, hki⟩ := exists_offset hhome hi
  exact ⟨k, hk, hki, fun j _ => hfull _ (Nat.mod_lt _ (by omega))⟩

/-! ### Linear probing -/

/-- Linear probing for a slot satisfying `hit`: stop unsuccessfully at an empty slot or
after a whole turn, successfully at a hit. -/
def probe (C : ℕ) (isEmpty hit : σ → Bool) (slots : ℕ → σ) (home : ℕ) : ℕ × Bool :=
  (circularScan C home fun idx =>
    if isEmpty (slots idx) then some (idx, false)
    else if hit (slots idx) then some (idx, true)
    else none).getD (home, false)

variable {hit : σ → Bool}

/-- A successful probe returns a non-empty slot that satisfies the test. -/
theorem probe_sound (hhome : home < C)
    (h : (probe C isEmpty hit slots home).2 = true) :
    (probe C isEmpty hit slots home).1 < C ∧
      isEmpty (slots (probe C isEmpty hit slots home).1) = false ∧
      hit (slots (probe C isEmpty hit slots home).1) = true := by
  unfold probe at h ⊢
  cases hscan : circularScan C home fun idx =>
      if isEmpty (slots idx) then some (idx, false)
      else if hit (slots idx) then some (idx, true) else none with
  | none => simp [hscan] at h
  | some r =>
    simp only [hscan, Option.getD_some] at h ⊢
    obtain ⟨k, hk, htest, -⟩ := (circularScan_eq_some_iff hhome).mp hscan
    split at htest
    · obtain rfl := Option.some_injective _ htest
      exact absurd h (by simp)
    · next hempty =>
      split at htest
      · next hhit =>
        obtain rfl := Option.some_injective _ htest
        exact ⟨Nat.mod_lt _ (by omega), by simpa using hempty, hhit⟩
      · exact absurd htest (by simp)

/-- A probe finds the hit at the end of a clear path, when it is the only one. -/
theorem probe_eq_of_pathClear (hhome : home < C) (hpath : PathClear C isEmpty slots home i)
    (hi : hit (slots i) = true)
    (huniq : ∀ j < C, isEmpty (slots j) = false → hit (slots j) = true → j = i) :
    probe C isEmpty hit slots home = (i, true) := by
  obtain ⟨k, hk, rfl, hclear⟩ := hpath
  rw [probe]
  rw [(circularScan_eq_some_iff (b := ((home + k) % C, true)) hhome).mpr]
  · rfl
  · refine ⟨k, hk, by simp [hclear k le_rfl, hi], fun j hj => ?_⟩
    have hempty := hclear j hj.le
    have hmiss : hit (slots ((home + j) % C)) = false := by
      by_contra hcon
      have := huniq _ (Nat.mod_lt _ (by omega)) hempty (by simpa using hcon)
      exact absurd (offset_injective (by omega) hk this) (by omega)
    simp [hempty, hmiss]

end CircularProbe
