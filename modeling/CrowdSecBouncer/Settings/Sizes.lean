import CrowdSecBouncer.Foundations.Lowercase
import Mathlib.Algebra.Group.Nat.Defs

/-!
# Sizes

A size is a number with a suffix `k`, `m` or `g`, in either case, or with none. The parser of the
number refuses what does not fit into 64 bits; the multiplication by the unit does not, and wraps
around. `parseSize_eq_some_iff` says what is read from a text, and `keepsSize_iff` that the only
sizes that are not kept are those whose number fits and whose product does not.
-/

namespace CrowdSecBouncer

open Text

/-- The greatest `usize` of a 64-bit build. -/
def usizeMax : ℕ := 2 ^ 64 - 1

/-- The number and the multiplier of a size in lower case. -/
def sizeParts (s : List Char) : List Char × ℕ :=
  if s.getLast? = some 'k' then (s.dropLast, 1024)
  else if s.getLast? = some 'm' then (s.dropLast, 1024 * 1024)
  else if s.getLast? = some 'g' then (s.dropLast, 1024 * 1024 * 1024)
  else (s, 1)

/-- Parse a size string with optional k/m/g suffix. -/
def parseSize (s : List Char) : Option ℕ :=
  let s := toLowercase (trim s)
  if s = [] then none
  else
    let (numStr, multiplier) := sizeParts s
    -- the product wraps around
    (parseUnsigned usizeMax numStr).map fun n => n * multiplier % 2 ^ 64

/-- The size that `crowdsec_shm_size` accepts. -/
def setShmSize (value : List Char) : Option ℕ := (parseSize value).filter (64 * 1024 ≤ ·)

/-- The size that `crowdsec_appsec_max_body_size` accepts. -/
def setAppsecMaxBody (value : List Char) : Option ℕ := (parseSize value).filter (0 < ·)

/-- The unit of a suffix. The Kelvin sign is a `k` in lower case too. -/
def suffixUnit (c : Char) : Option ℕ :=
  if c = 'k' ∨ c = 'K' ∨ c = kelvinSign then some 1024
  else if c = 'm' ∨ c = 'M' then some (1024 ^ 2)
  else if c = 'g' ∨ c = 'G' then some (1024 ^ 3)
  else none

/-- The text of a size: a number, alone or with the suffix of its unit. -/
inductive SizeText : List Char → ℕ → ℕ → Prop
  | bare {cs : List Char} {number : ℕ} (h : IsNumberText cs number) : SizeText cs number 1
  | suffixed {cs : List Char} {number unit : ℕ} {c : Char} (h : IsNumberText cs number)
      (hunit : suffixUnit c = some unit) : SizeText (cs ++ [c]) number unit

/-- What is read is the size that is written: the product without bounds, nothing where the
product has more than 64 bits, and the same for what the directives accept. -/
structure KeepsSize (s : List Char) : Prop where
  exact : ∀ n, parseSize s = some n → ∃ number unit, SizeText (trim s) number unit ∧
    n = number * unit
  rejects : ∀ number unit, SizeText (trim s) number unit → 2 ^ 64 ≤ number * unit →
    parseSize s = none
  shmSize : ∀ n, setShmSize s = some n → ∃ number unit, SizeText (trim s) number unit ∧
    n = number * unit
  appsecMaxBody : ∀ n, setAppsecMaxBody s = some n → ∃ number unit,
    SizeText (trim s) number unit ∧ n = number * unit

variable {c : Char} {cs : List Char} {n number unit : ℕ}

/-! ### Lower case -/

/-- Digits and `+`. -/
def IsNumberChar (c : Char) : Prop := c.isDigit = true ∨ c = '+'

instance (c : Char) : Decidable (IsNumberChar c) := inferInstanceAs (Decidable (_ ∨ _))

theorem isNumberChar_of_isNumberText (h : IsNumberText cs n) : ∀ c ∈ cs, IsNumberChar c := by
  obtain ⟨sign, digits, rfl, hsign, -, hdigits, -⟩ := h
  intro c hc
  rcases List.mem_append.mp hc with hc | hc
  · rcases hsign with rfl | rfl
    · exact absurd hc List.not_mem_nil
    · exact .inr (List.mem_singleton.mp hc)
  · exact .inl (hdigits c hc)

theorem isNumberChar_toNat_lt (h : IsNumberChar c) : c.toNat < 128 := by
  rcases h with h | rfl
  · have hhigh := (isGraphic_of_isDigit h).2
    omega
  · decide

theorem lowercaseChar_of_isNumberChar (h : IsNumberChar c) : lowercaseChar c = [c] := by
  have hascii := isNumberChar_toNat_lt h
  have hlower : c.toLower = c :=
    forall_ascii (P := fun c => IsNumberChar c → c.toLower = c) (by decide) hascii h
  rw [lowercaseChar_of_ascii hascii, hlower]

/-- Lower case that is part of a number was so before. -/
theorem isNumberChar_of_lowercaseChar (h : ∀ d ∈ lowercaseChar c, IsNumberChar d) :
    IsNumberChar c := by
  by_cases hascii : c.toNat < 128
  · rw [lowercaseChar_of_ascii hascii] at h
    exact forall_ascii (P := fun c => IsNumberChar c.toLower → IsNumberChar c) (by decide) hascii
      (h _ (by simp))
  · by_cases hkelvin : c = kelvinSign
    · rw [hkelvin, lowercaseChar_kelvinSign] at h
      exact absurd (h 'k' (by simp)) (by decide)
    · obtain ⟨front, d, hlower, hd⟩ := lowercaseChar_of_not_ascii hascii hkelvin
      exact absurd (isNumberChar_toNat_lt (h d (by simp [hlower]))) hd

theorem toLowercase_of_isNumberChar (h : ∀ c ∈ cs, IsNumberChar c) : toLowercase cs = cs := by
  induction cs with
  | nil => rfl
  | cons c cs ih =>
    obtain ⟨hc, hcs⟩ := List.forall_mem_cons.mp h
    rw [toLowercase, List.flatMap_cons, lowercaseChar_of_isNumberChar hc, ← toLowercase, ih hcs]
    rfl

/-- The text of a number is not changed, and no other text becomes one. -/
theorem isNumberText_toLowercase_iff : IsNumberText (toLowercase cs) n ↔ IsNumberText cs n := by
  constructor
  · intro h
    have hchars : ∀ c ∈ cs, IsNumberChar c := fun c hc =>
      isNumberChar_of_lowercaseChar fun d hd =>
        isNumberChar_of_isNumberText h d (List.mem_flatMap.mpr ⟨c, hc, hd⟩)
    rwa [toLowercase_of_isNumberChar hchars] at h
  · intro h
    rwa [toLowercase_of_isNumberChar (isNumberChar_of_isNumberText h)]

theorem toLowercase_append_singleton (cs : List Char) (c : Char) :
    toLowercase (cs ++ [c]) = toLowercase cs ++ lowercaseChar c := by
  rw [toLowercase, List.flatMap_append, List.flatMap_singleton, ← toLowercase]

/-- The suffix of a unit in lower case. -/
theorem lowercaseChar_of_suffixUnit (h : suffixUnit c = some unit) :
    (lowercaseChar c = ['k'] ∧ unit = 1024) ∨ (lowercaseChar c = ['m'] ∧ unit = 1024 * 1024) ∨
      lowercaseChar c = ['g'] ∧ unit = 1024 * 1024 * 1024 := by
  rw [suffixUnit] at h
  split at h
  · next hk =>
    refine .inl ⟨?_, (Option.some_injective _ h).symm⟩
    rcases hk with rfl | rfl | rfl
    · decide
    · decide
    · exact lowercaseChar_kelvinSign
  · split at h
    · next hm =>
      refine .inr (.inl ⟨?_, (Option.some_injective _ h).symm⟩)
      rcases hm with rfl | rfl <;> decide
    · split at h
      · next hg =>
        refine .inr (.inr ⟨?_, (Option.some_injective _ h).symm⟩)
        rcases hg with rfl | rfl <;> decide
      · exact absurd h (by simp)

/-- A character that is no suffix has no suffix at the end of its lower case. -/
theorem lowercaseChar_of_not_suffix (h : suffixUnit c = none) :
    ∃ front d, lowercaseChar c = front ++ [d] ∧ d ≠ 'k' ∧ d ≠ 'm' ∧ d ≠ 'g' := by
  by_cases hascii : c.toNat < 128
  · refine ⟨[], c.toLower, lowercaseChar_of_ascii hascii, ?_⟩
    exact forall_ascii (P := fun c => suffixUnit c = none →
      c.toLower ≠ 'k' ∧ c.toLower ≠ 'm' ∧ c.toLower ≠ 'g') (by decide) hascii h
  · have hkelvin : c ≠ kelvinSign := by
      rintro rfl
      exact absurd h (by decide)
    obtain ⟨front, d, hlower, hd⟩ := lowercaseChar_of_not_ascii hascii hkelvin
    refine ⟨front, d, hlower, ?_, ?_, ?_⟩ <;>
    · rintro rfl
      exact hd (by decide)

/-- What a text with the last character `c` is the number of, and the unit it is in. -/
def numberPart (cs : List Char) (c : Char) : List Char × ℕ :=
  match suffixUnit c with
  | some unit => (cs, unit)
  | none => (cs ++ [c], 1)

/-- The program finds the same number and unit, in lower case. -/
theorem sizeParts_toLowercase (cs : List Char) (c : Char) :
    sizeParts (toLowercase (cs ++ [c])) =
      (toLowercase (numberPart cs c).1, (numberPart cs c).2) := by
  rw [numberPart]
  cases h : suffixUnit c with
  | some unit =>
    rw [toLowercase_append_singleton]
    obtain ⟨hlower, rfl⟩ | ⟨hlower, rfl⟩ | ⟨hlower, rfl⟩ := lowercaseChar_of_suffixUnit h
    · simp [sizeParts, hlower]
    · simp [sizeParts, hlower]
    · simp [sizeParts, hlower]
  | none =>
    rw [toLowercase_append_singleton]
    obtain ⟨front, d, hlower, hk, hm, hg⟩ := lowercaseChar_of_not_suffix h
    rw [hlower, ← List.append_assoc, sizeParts, List.getLast?_concat, if_neg (by simpa using hk),
      if_neg (by simpa using hm), if_neg (by simpa using hg)]

theorem toLowercase_append_singleton_ne_nil (cs : List Char) (c : Char) :
    toLowercase (cs ++ [c]) ≠ [] := by
  rw [toLowercase_append_singleton]
  cases h : suffixUnit c with
  | some unit =>
    obtain ⟨hlower, -⟩ | ⟨hlower, -⟩ | ⟨hlower, -⟩ := lowercaseChar_of_suffixUnit h
    · simp [hlower]
    · simp [hlower]
    · simp [hlower]
  | none =>
    obtain ⟨front, d, hlower, -⟩ := lowercaseChar_of_not_suffix h
    simp [hlower]

/-! ### What is read -/

theorem suffixUnit_of_isNumberChar (h : IsNumberChar c) : suffixUnit c = none :=
  forall_ascii (P := fun c => IsNumberChar c → suffixUnit c = none) (by decide)
    (isNumberChar_toNat_lt h) h

theorem not_sizeText_nil : ¬ SizeText [] number unit := by
  generalize hempty : ([] : List Char) = empty
  rintro (h | ⟨h, -⟩)
  · obtain ⟨sign, digits, rfl, -, hne, -⟩ := h
    exact hne (List.append_eq_nil_iff.mp hempty.symm).2
  · exact absurd hempty (by simp)

/-- The last character decides on the unit. -/
theorem sizeText_append_singleton_iff :
    SizeText (cs ++ [c]) number unit ↔
      IsNumberText (numberPart cs c).1 number ∧ unit = (numberPart cs c).2 := by
  rw [numberPart]
  constructor
  · generalize htext : cs ++ [c] = text
    rintro (h | ⟨h, hunit⟩)
    · subst htext
      rw [suffixUnit_of_isNumberChar (isNumberChar_of_isNumberText h c (by simp))]
      exact ⟨h, rfl⟩
    · obtain ⟨rfl, hc⟩ := List.append_inj' htext rfl
      obtain rfl := List.singleton_inj.mp hc
      rw [hunit]
      exact ⟨h, rfl⟩
  · rintro ⟨h, rfl⟩
    cases hunit : suffixUnit c with
    | some unit =>
      rw [hunit] at h
      exact .suffixed h hunit
    | none =>
      rw [hunit] at h
      exact .bare h

/-- What is read from a text: the product modulo `2 ^ 64`, if the number fits. -/
theorem parseSize_eq_some_iff :
    parseSize cs = some n ↔ ∃ number unit, SizeText (trim cs) number unit ∧ number ≤ usizeMax ∧
      n = number * unit % 2 ^ 64 := by
  obtain hnil | ⟨text, c, htext⟩ := List.eq_nil_or_concat' (trim cs)
  · rw [hnil]
    refine iff_of_false ?_ fun ⟨_, _, h, _⟩ => not_sizeText_nil h
    rw [parseSize, hnil]
    simp [toLowercase]
  · have hparse : parseSize cs =
        (parseUnsigned usizeMax (sizeParts (toLowercase (text ++ [c]))).1).map fun n =>
          n * (sizeParts (toLowercase (text ++ [c]))).2 % 2 ^ 64 := by
      rw [parseSize, htext]
      exact if_neg (toLowercase_append_singleton_ne_nil text c)
    rw [hparse, sizeParts_toLowercase, htext]
    simp only [Option.map_eq_some_iff, parseUnsigned_eq_some_iff, isNumberText_toLowercase_iff,
      sizeText_append_singleton_iff]
    constructor
    · rintro ⟨number, ⟨hnumber, hmax⟩, rfl⟩
      exact ⟨number, _, ⟨hnumber, rfl⟩, hmax, rfl⟩
    · rintro ⟨number, _, ⟨hnumber, rfl⟩, hmax, rfl⟩
      exact ⟨number, ⟨hnumber, hmax⟩, rfl⟩

/-! ### Sizes that are kept -/

/-- A text is the text of one size at most. -/
theorem SizeText.unique {number' unit' : ℕ} (h : SizeText cs number unit)
    (h' : SizeText cs number' unit') : number = number' ∧ unit = unit' := by
  obtain rfl | ⟨text, c, rfl⟩ := List.eq_nil_or_concat' cs
  · exact absurd h not_sizeText_nil
  · obtain ⟨hnumber, rfl⟩ := sizeText_append_singleton_iff.mp h
    obtain ⟨hnumber', rfl⟩ := sizeText_append_singleton_iff.mp h'
    exact ⟨hnumber.unique hnumber', rfl⟩

/-- **Sizes are not silently wrapped**, but for those whose number fits into 64 bits and whose
product with the unit does not: every other size that is read, or accepted by a directive, is the
size that is written, and texts of greater sizes are refused. -/
theorem keepsSize_iff (s : List Char) :
    KeepsSize s ↔ ¬ ∃ number unit, SizeText (trim s) number unit ∧ number < 2 ^ 64 ∧
      2 ^ 64 ≤ number * unit := by
  constructor
  · rintro hkeeps ⟨number, unit, htext, hnumber, hproduct⟩
    have hread : parseSize s = some (number * unit % 2 ^ 64) :=
      parseSize_eq_some_iff.mpr ⟨number, unit, htext, Nat.le_sub_one_of_lt hnumber, rfl⟩
    exact absurd (hread.symm.trans (hkeeps.rejects number unit htext hproduct)) (by simp)
  · intro hwrap
    have hexact (n : ℕ) (hn : parseSize s = some n) :
        ∃ number unit, SizeText (trim s) number unit ∧ n = number * unit := by
      obtain ⟨number, unit, htext, hmax, rfl⟩ := parseSize_eq_some_iff.mp hn
      have hfits : number * unit < 2 ^ 64 := by
        by_contra hproduct
        exact hwrap ⟨number, unit, htext, Nat.lt_of_le_pred (by decide) hmax,
          Nat.le_of_not_lt hproduct⟩
      exact ⟨number, unit, htext, Nat.mod_eq_of_lt hfits⟩
    refine ⟨hexact, fun number unit htext hproduct => ?_,
      fun n hn => hexact n (Option.filter_eq_some_iff.mp hn).1,
      fun n hn => hexact n (Option.filter_eq_some_iff.mp hn).1⟩
    refine Option.eq_none_iff_forall_ne_some.mpr fun n hn => ?_
    obtain ⟨number', unit', htext', hmax, -⟩ := parseSize_eq_some_iff.mp hn
    obtain ⟨rfl, rfl⟩ := htext.unique htext'
    exact hwrap ⟨number, unit, htext, Nat.lt_of_le_pred (by decide) hmax, hproduct⟩

/-- A size of 16 exbibytes and 64 kibibytes is accepted as one of 64 kibibytes. -/
theorem not_keepsSize_wrapped :
    setShmSize "18014398509482048k".toList = some 65536 ∧
      ¬ KeepsSize "18014398509482048k".toList := by
  refine ⟨by decide +kernel, fun hkeeps => ?_⟩
  have htext : SizeText (trim "18014398509482048k".toList) 18014398509482048 1024 := by
    have htrim : trim "18014398509482048k".toList = "18014398509482048".toList ++ ['k'] := by
      decide +kernel
    rw [htrim]
    exact .suffixed ⟨[], _, rfl, .inl rfl, by decide, List.all_eq_true.mp (by decide),
      by decide +kernel⟩ rfl
  have hnone := hkeeps.rejects _ _ htext (by decide)
  exact absurd hnone (by decide +kernel)

end CrowdSecBouncer
