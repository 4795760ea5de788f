import CrowdSecBouncer.Foundations.Armour
import CrowdSecBouncer.Foundations.Hexadecimal

/-!
# Percent encoding

A text is written with the characters of a set `keep` as they are and every other character as
`%XX` for each of its UTF-8 bytes (`percentEncode`). The standard decoder (`percentDecode`) goes
the other way by bytes, and `percentDecode_percentEncode` says that it returns the UTF-8 bytes of
the text, whatever follows. What is encoded has no characters but those of `keep`, `%` and
hexadecimal digits, so a separator that is none of them splits concatenations again.
-/

namespace Text

open Reader

/-- The `%XX` of one byte. -/
def percentByte (b : UInt8) : List Char := '%' :: upperHex b

/-- The characters of `keep` as they are, every other as the `%XX` of its UTF-8 bytes. -/
def percentEncode (keep : Char → Bool) (cs : List Char) : List Char :=
  cs.flatMap fun c => if keep c then [c] else (String.utf8EncodeChar c).flatMap percentByte

/-- A `%` with two hexadecimal digits after it is a byte, any other character stands for its own
bytes; in a form body `+` stands for a space. -/
def percentDecode (plusIsSpace : Bool) : List Char → List UInt8
  | [] => []
  | c :: cs =>
    if c = '%' then
      match cs with
      | c₁ :: c₂ :: rest =>
        match hexPair c₁ c₂ with
        | some b => .ofNat b :: percentDecode plusIsSpace rest
        | none => String.utf8EncodeChar '%' ++ percentDecode plusIsSpace (c₁ :: c₂ :: rest)
      | rest => String.utf8EncodeChar '%' ++ percentDecode plusIsSpace rest
    else if c = '+' ∧ plusIsSpace then String.utf8EncodeChar ' ' ++ percentDecode plusIsSpace cs
    else String.utf8EncodeChar c ++ percentDecode plusIsSpace cs

/-- The characters of the set are ASCII, and none that a decoder treats in another way. -/
structure KeepsPlain (keep : Char → Bool) : Prop where
  toNat_lt : ∀ c, keep c = true → c.toNat < 128
  ne_percent : ∀ c, keep c = true → c ≠ '%'
  ne_plus : ∀ c, keep c = true → c ≠ '+'

variable {keep : Char → Bool} {cs : List Char} {c : Char}

@[simp] theorem percentEncode_nil : percentEncode keep [] = [] := rfl

theorem percentEncode_cons :
    percentEncode keep (c :: cs) =
      (if keep c then [c] else (String.utf8EncodeChar c).flatMap percentByte) ++
        percentEncode keep cs :=
  List.flatMap_cons

theorem percentDecode_cons {plusIsSpace : Bool} (hpercent : c ≠ '%') (hplus : c ≠ '+') :
    percentDecode plusIsSpace (c :: cs) =
      String.utf8EncodeChar c ++ percentDecode plusIsSpace cs := by
  rw [percentDecode.eq_def]
  exact (if_neg hpercent).trans (if_neg fun h => hplus h.1)

/-! ### What is encoded is read back -/

theorem percentDecode_percentByte (plusIsSpace : Bool) (b : UInt8) (rest : List Char) :
    percentDecode plusIsSpace (percentByte b ++ rest) = b :: percentDecode plusIsSpace rest := by
  rw [percentByte, upperHex, List.cons_append, List.cons_append, List.cons_append, List.nil_append,
    percentDecode, if_pos rfl]
  simp only [hexPair_upperHex]
  rw [UInt8.ofNat_toNat]

theorem percentDecode_percentBytes (plusIsSpace : Bool) (bytes : List UInt8) (rest : List Char) :
    percentDecode plusIsSpace (bytes.flatMap percentByte ++ rest) =
      bytes ++ percentDecode plusIsSpace rest := by
  induction bytes with
  | nil => rfl
  | cons b bytes ih =>
    rw [List.flatMap_cons, List.append_assoc, percentDecode_percentByte, ih, List.cons_append]

/-- **What is encoded is decoded to the bytes of the text**, whatever follows it. -/
theorem percentDecode_percentEncode_append (hkeep : KeepsPlain keep) (plusIsSpace : Bool)
    (cs rest : List Char) :
    percentDecode plusIsSpace (percentEncode keep cs ++ rest) =
      utf8Bytes cs ++ percentDecode plusIsSpace rest := by
  induction cs with
  | nil => rfl
  | cons c cs ih =>
    rw [percentEncode_cons, utf8Bytes, List.flatMap_cons, List.append_assoc, List.append_assoc]
    split
    · next h =>
      rw [List.singleton_append, percentDecode_cons (hkeep.ne_percent c h) (hkeep.ne_plus c h), ih]
      rfl
    · rw [percentDecode_percentBytes, ih]
      rfl

theorem percentDecode_percentEncode (hkeep : KeepsPlain keep) (plusIsSpace : Bool)
    (cs : List Char) : percentDecode plusIsSpace (percentEncode keep cs) = utf8Bytes cs := by
  have h := percentDecode_percentEncode_append hkeep plusIsSpace cs []
  rwa [List.append_nil, percentDecode, List.append_nil] at h

/-! ### The characters of what is encoded -/

theorem mem_percentByte {b : UInt8} (h : c ∈ percentByte b) :
    c = '%' ∨ (toDigit 16 c).isSome = true := by
  have hb := b.toNat_lt
  simp only [percentByte, upperHex, List.mem_cons, List.not_mem_nil, or_false] at h
  rcases h with rfl | rfl | rfl
  · exact .inl rfl
  · exact .inr (by rw [toDigit_toUpper_digitChar (by omega)]; rfl)
  · exact .inr (by rw [toDigit_toUpper_digitChar (by omega)]; rfl)

theorem mem_percentEncode (h : c ∈ percentEncode keep cs) :
    keep c = true ∨ c = '%' ∨ (toDigit 16 c).isSome = true := by
  obtain ⟨c', -, hc⟩ := List.mem_flatMap.mp h
  split at hc
  · next hkept =>
    obtain rfl := List.mem_singleton.mp hc
    exact .inl hkept
  · obtain ⟨b, -, hc⟩ := List.mem_flatMap.mp hc
    exact .inr (mem_percentByte hc)

/-- A separator does not occur in what is encoded. -/
theorem not_mem_percentEncode {sep : Char} (hkeep : keep sep = false) (hpercent : sep ≠ '%')
    (hdigit : toDigit 16 sep = none) : sep ∉ percentEncode keep cs := by
  intro h
  rcases mem_percentEncode h with h | h | h
  · exact absurd h (by simp [hkeep])
  · exact hpercent h
  · exact absurd h (by simp [hdigit])

end Text
