import CrowdSecBouncer.Foundations.Text
import Mathlib.Algebra.Group.Nat.Defs

/-!
# Numbers in a radix, hexadecimal digits

Unsigned numbers of any radix up to 16 as a standard library parses them: an optional `+`, then
digits of either case (`parseRadix`). Two hexadecimal digits are a byte (`hexPair`), and the two
digits a byte is written with are read back, in upper case too. A reader of numbers reads back
what is written in its radix (`readNumber_toDigits`).
-/

namespace Text

open Reader

/-- The value of digits of a radix after `acc`, at most `max`. -/
def digitsFrom (radix max : ℕ) : ℕ → List Char → Option ℕ
  | acc, [] => some acc
  | acc, c :: cs =>
    match toDigit radix c with
    | none => none
    | some d => if acc * radix + d ≤ max then digitsFrom radix max (acc * radix + d) cs else none

/-- An unsigned number of a type with the greatest value `max`: digits of the radix, after one
`+` or none. -/
def parseRadix (radix max : ℕ) : List Char → Option ℕ
  | [] => none
  | ['+'] => none
  | '+' :: cs => digitsFrom radix max 0 cs
  | cs => digitsFrom radix max 0 cs

/-- The value of two hexadecimal digits. -/
def hexPair (c₁ c₂ : Char) : Option ℕ := do
  let high ← toDigit 16 c₁
  let low ← toDigit 16 c₂
  some (high * 16 + low)

/-- A byte as two hexadecimal digits, letters in upper case. -/
def upperHex (b : UInt8) : List Char :=
  [(Nat.digitChar (b.toNat / 16)).toUpper, (Nat.digitChar (b.toNat % 16)).toUpper]

variable {c c₁ c₂ : Char} {n : ℕ}

theorem toDigit_digitChar (h : n < 16) : toDigit 16 (Nat.digitChar n) = some n := by
  have hall : ∀ n < 16, toDigit 16 (Nat.digitChar n) = some n := by decide
  exact hall n h

theorem toDigit_toUpper_digitChar (h : n < 16) :
    toDigit 16 (Nat.digitChar n).toUpper = some n := by
  have hall : ∀ n < 16, toDigit 16 (Nat.digitChar n).toUpper = some n := by decide
  exact hall n h

theorem lt_of_toDigit {radix : ℕ} (h : toDigit radix c = some n) : n < radix := by
  rw [toDigit, Option.filter_eq_some_iff] at h
  exact of_decide_eq_true h.2

theorem hexPair_eq_some_iff :
    hexPair c₁ c₂ = some n ↔
      ∃ high low, toDigit 16 c₁ = some high ∧ toDigit 16 c₂ = some low ∧ n = high * 16 + low := by
  simp only [hexPair, bind, Option.bind_eq_some_iff, Option.some.injEq]
  constructor
  · rintro ⟨high, hhigh, low, hlow, rfl⟩
    exact ⟨high, low, hhigh, hlow, rfl⟩
  · rintro ⟨high, low, hhigh, hlow, rfl⟩
    exact ⟨high, hhigh, low, hlow, rfl⟩

theorem hexPair_upperHex (b : UInt8) :
    hexPair (Nat.digitChar (b.toNat / 16)).toUpper (Nat.digitChar (b.toNat % 16)).toUpper =
      some b.toNat := by
  have hb := b.toNat_lt
  refine hexPair_eq_some_iff.mpr ⟨b.toNat / 16, b.toNat % 16, toDigit_toUpper_digitChar (by omega),
    toDigit_toUpper_digitChar (by omega), ?_⟩
  omega

theorem digitsFrom_pair : digitsFrom 16 255 0 [c₁, c₂] = hexPair c₁ c₂ := by
  cases h₁ : toDigit 16 c₁ with
  | none => simp [digitsFrom, hexPair, h₁]
  | some high =>
    have hhigh := lt_of_toDigit h₁
    cases h₂ : toDigit 16 c₂ with
    | none =>
      simp only [digitsFrom, hexPair, h₁, h₂]
      split <;> rfl
    | some low =>
      have hlow := lt_of_toDigit h₂
      simp only [digitsFrom, hexPair, h₁, h₂]
      rw [if_pos (by omega), if_pos (by omega)]
      simp

/-- Two characters are a byte when they are two digits, and also when they are `+` and a
digit. -/
theorem parseRadix_pair :
    parseRadix 16 255 [c₁, c₂] = if c₁ = '+' then toDigit 16 c₂ else hexPair c₁ c₂ := by
  split
  · next h =>
    subst h
    rw [parseRadix, digitsFrom]
    · cases h₂ : toDigit 16 c₂ with
      | none => rfl
      | some low =>
        have hlow := lt_of_toDigit h₂
        simp only [digitsFrom]
        rw [if_pos (by omega)]
        simp
    · simp
  · next h =>
    rw [← digitsFrom_pair, parseRadix.eq_def]
    split
    · next heq => simp at heq
    · next heq => simp at heq
    · next heq => exact absurd (List.cons.inj heq).1 h
    · rfl

/-! ### Written numbers -/

section Written

variable {radix n max maxDigits : ℕ} {allowZeroPrefix : Bool} {rest : List Char}

theorem toDigit_digitChar_of_lt (hradix : radix ≤ 16) (h : n < radix) :
    toDigit radix (Nat.digitChar n) = some n := by
  have hall : ∀ radix ≤ 16, ∀ n < radix, toDigit radix (Nat.digitChar n) = some n := by decide
  exact hall radix hradix n h

/-- The value of digits, as a reader adds it up. -/
def digitsValue (radix : ℕ) (digits : List Char) : ℕ :=
  digits.foldl (fun n c => n * radix + (toDigit radix c).getD 0) 0

theorem digitsValue_toDigits (hradix : 1 < radix ∧ radix ≤ 16) (n : ℕ) :
    digitsValue radix (Nat.toDigits radix n) = n := by
  induction n using Nat.strongRecOn with
  | ind n ih =>
    rw [Nat.toDigits_eq_if hradix.1]
    split
    · next hlt =>
      simp only [digitsValue, List.foldl_cons, List.foldl_nil, toDigit_digitChar_of_lt hradix.2 hlt,
        Option.getD_some, Nat.zero_mul, Nat.zero_add]
    · next hge =>
      have hdiv := ih (n / radix) (Nat.div_lt_self (by omega) hradix.1)
      have hdigit := toDigit_digitChar_of_lt hradix.2 (Nat.mod_lt n (by omega : 0 < radix))
      rw [digitsValue] at hdiv ⊢
      rw [List.foldl_append, hdiv, List.foldl_cons, List.foldl_nil, hdigit, Option.getD_some]
      exact Nat.div_add_mod' n radix

theorem isSome_toDigit_of_mem_toDigits (hradix : 1 < radix ∧ radix ≤ 16) :
    ∀ c ∈ Nat.toDigits radix n, (toDigit radix c).isSome = true := by
  induction n using Nat.strongRecOn with
  | ind n ih =>
    rw [Nat.toDigits_eq_if hradix.1]
    split
    · next hlt => simp [toDigit_digitChar_of_lt hradix.2 hlt]
    · intro c hc
      rcases List.mem_append.mp hc with hc | hc
      · exact ih (n / radix) (Nat.div_lt_self (by omega) hradix.1) c hc
      · rw [List.mem_singleton.mp hc,
          toDigit_digitChar_of_lt hradix.2 (Nat.mod_lt n (by omega : 0 < radix))]
        rfl

/-- Only zero is written with a zero in front. -/
theorem head?_toDigits_ne_zero (hradix : 1 < radix) (hn : 0 < n) :
    (Nat.toDigits radix n).head? ≠ some '0' := by
  induction n using Nat.strongRecOn with
  | ind n ih =>
    rw [Nat.toDigits_eq_if hradix]
    split
    · simp only [List.head?_cons, ne_eq, Option.some.injEq, Nat.digitChar_eq_zero]
      omega
    · next hge =>
      rw [List.head?_append_of_ne_nil _ Nat.toDigits_ne_nil]
      exact ih (n / radix) (Nat.div_lt_self hn hradix) (Nat.div_pos (by omega) (by omega))

/-- **A written number is read back**, up to the first character that is no digit. -/
theorem readNumber_toDigits (hradix : 1 < radix ∧ radix ≤ 16) (hmax : n ≤ max)
    (hpos : 0 < maxDigits) (hlen : n < radix ^ maxDigits)
    (hrest : ∀ c ∈ rest.head?, (toDigit radix c).isSome = false) :
    readNumber radix maxDigits allowZeroPrefix max (Nat.toDigits radix n ++ rest) =
      some (n, rest) := by
  have hdigits := isSome_toDigit_of_mem_toDigits (n := n) hradix
  have htake : rest.takeWhile (fun c => (toDigit radix c).isSome) = [] := by
    cases rest with
    | nil => rfl
    | cons c rest => rw [List.takeWhile_cons_of_neg (by simp [hrest c rfl])]
  have hzero : ¬ (allowZeroPrefix = false ∧ (Nat.toDigits radix n).head? = some '0' ∧
      1 < (Nat.toDigits radix n).length) := by
    rintro ⟨-, hhead, hlong⟩
    obtain rfl : n = 0 := by
      by_contra hne
      exact head?_toDigits_ne_zero hradix.1 (Nat.pos_of_ne_zero hne) hhead
    rw [Nat.toDigits_zero] at hlong
    exact absurd hlong (by decide)
  have hshort : ¬ maxDigits < (Nat.toDigits radix n).length :=
    Nat.not_lt.mpr ((Nat.length_toDigits_le_iff hradix.1 hpos).mpr hlen)
  have hvalue := digitsValue_toDigits hradix n
  rw [digitsValue] at hvalue
  simp only [readNumber, List.takeWhile_append_of_pos hdigits, htake, List.append_nil,
    List.dropWhile_append_of_pos hdigits, dropWhile_eq_self_of_head? hrest, hvalue,
    Nat.toDigits_ne_nil, hshort, hzero, hmax, or_self, if_false, if_true]

end Written

end Text
