import CrowdSecBouncer.Foundations.Text

/-!
# Bytes as text

Two ways between bytes and text. UTF-8 reads a text as bytes. An `Armour` goes the other way: it
writes any bytes as text over an alphabet that leaves the separators of other formats alone, and
reads them back. The URL-safe base64 without padding is one (`base64Url`).
-/

namespace Text

/-- The UTF-8 bytes of a text. -/
def utf8Bytes (cs : List Char) : List UInt8 := cs.flatMap String.utf8EncodeChar

/-- The text of UTF-8 bytes. -/
def fromUtf8 (bytes : List UInt8) : Option (List Char) :=
  bytes.toByteArray.utf8Decode?.map Array.toList

variable {cs : List Char}

theorem utf8Bytes_append (cs cs' : List Char) :
    utf8Bytes (cs ++ cs') = utf8Bytes cs ++ utf8Bytes cs' :=
  List.flatMap_append

theorem fromUtf8_utf8Bytes (cs : List Char) : fromUtf8 (utf8Bytes cs) = some cs := by
  have hencode : (utf8Bytes cs).toByteArray = cs.utf8Encode := rfl
  rw [fromUtf8, hencode, List.utf8Decode?_utf8Encode]
  rfl

theorem fromUtf8_eq_some_iff {bytes : List UInt8} {cs : List Char} :
    fromUtf8 bytes = some cs ↔ bytes = utf8Bytes cs := by
  refine ⟨fun h => ?_, fun h => h ▸ fromUtf8_utf8Bytes cs⟩
  obtain ⟨a, ha, rfl⟩ := Option.map_eq_some_iff.mp h
  have hsome : bytes.toByteArray.utf8Decode?.isSome := by rw [ha]; rfl
  obtain ⟨l, hl⟩ := ByteArray.isSome_utf8Decode?_iff.mp hsome
  have hencode : l.utf8Encode = (utf8Bytes l).toByteArray := rfl
  rw [hl, List.utf8Decode?_utf8Encode] at ha
  obtain rfl := Option.some_injective _ ha
  rw [hencode] at hl
  exact List.toByteArray_inj.mp hl

/-! ### ASCII and Latin-1 -/

/-- Every character is ASCII. -/
def IsAscii (cs : List Char) : Prop := ∀ c ∈ cs, c.toNat < 128

instance (cs : List Char) : Decidable (IsAscii cs) :=
  List.decidableBAll (fun c : Char => c.toNat < 128) cs

/-- Each byte as the character with its code. -/
def latin1 (bytes : List UInt8) : List Char := bytes.map fun b => Char.ofNat b.toNat

theorem length_latin1 (bytes : List UInt8) : (latin1 bytes).length = bytes.length :=
  List.length_map ..

theorem latin1_append (bytes bytes' : List UInt8) :
    latin1 (bytes ++ bytes') = latin1 bytes ++ latin1 bytes' :=
  List.map_append

theorem latin1_injective : Function.Injective latin1 := by
  refine List.map_injective_iff.mpr fun a b h => ?_
  have ha := a.toNat_lt
  have hb := b.toNat_lt
  have hcodes := congrArg Char.toNat h
  rw [toNat_ofNat (.inl (by omega)), toNat_ofNat (.inl (by omega))] at hcodes
  exact UInt8.toNat_inj.mp hcodes

theorem utf8Bytes_injective : Function.Injective utf8Bytes := by
  intro cs cs' h
  have hdecode := congrArg fromUtf8 h
  rw [fromUtf8_utf8Bytes, fromUtf8_utf8Bytes] at hdecode
  exact Option.some_injective _ hdecode

theorem utf8Size_eq_one_iff_toNat_lt {c : Char} : c.utf8Size = 1 ↔ c.toNat < 128 := by
  rw [Char.utf8Size_eq_one_iff, UInt32.le_iff_toNat_le]
  change c.toNat ≤ 127 ↔ c.toNat < 128
  omega

theorem utf8EncodeChar_of_toNat_lt {c : Char} (h : c.toNat < 128) :
    String.utf8EncodeChar c = [UInt8.ofNat c.toNat] :=
  String.utf8EncodeChar_eq_singleton (utf8Size_eq_one_iff_toNat_lt.mpr h)

/-- The bytes of ASCII text are its characters. -/
theorem latin1_utf8Bytes (h : IsAscii cs) : latin1 (utf8Bytes cs) = cs := by
  induction cs with
  | nil => rfl
  | cons c cs ih =>
    obtain ⟨hc, hcs⟩ := List.forall_mem_cons.mp h
    rw [utf8Bytes, List.flatMap_cons, utf8EncodeChar_of_toNat_lt hc, latin1_append]
    refine congrArg₂ List.cons ?_ (ih hcs)
    change Char.ofNat (UInt8.ofNat c.toNat).toNat = c
    rw [UInt8.toNat_ofNat', Nat.mod_eq_of_lt (by omega), Char.ofNat_toNat]

theorem length_utf8Bytes_cons (c : Char) (cs : List Char) :
    (utf8Bytes (c :: cs)).length = c.utf8Size + (utf8Bytes cs).length := by
  rw [utf8Bytes, List.flatMap_cons, List.length_append, String.length_utf8EncodeChar, ← utf8Bytes]

theorem length_le_length_utf8Bytes (cs : List Char) : cs.length ≤ (utf8Bytes cs).length := by
  induction cs with
  | nil => exact Nat.le_refl _
  | cons c cs ih =>
    have hc := c.utf8Size_pos
    rw [length_utf8Bytes_cons, List.length_cons]
    omega

/-- A text has as many bytes as characters when it is ASCII. -/
theorem length_utf8Bytes_eq_iff : (utf8Bytes cs).length = cs.length ↔ IsAscii cs := by
  refine ⟨fun h => ?_, fun h => ?_⟩
  · induction cs with
    | nil => simp [IsAscii]
    | cons c cs ih =>
      have hc := c.utf8Size_pos
      have hcs := length_le_length_utf8Bytes cs
      rw [length_utf8Bytes_cons, List.length_cons] at h
      exact List.forall_mem_cons.mpr
        ⟨utf8Size_eq_one_iff_toNat_lt.mp (by omega), ih (by omega)⟩
  · rw [← length_latin1, latin1_utf8Bytes h]

/-- The bytes of a text are its characters when it is ASCII, and in no other case. -/
theorem latin1_utf8Bytes_eq_iff : latin1 (utf8Bytes cs) = cs ↔ IsAscii cs := by
  refine ⟨fun h => ?_, latin1_utf8Bytes⟩
  rw [← length_utf8Bytes_eq_iff, ← length_latin1, h]

/-! ### Prefixes of a text and of its bytes -/

/-- The byte position is the end of a character, or the start of the text. -/
def IsCharBoundary (cs : List Char) (n : ℕ) : Prop :=
  ∃ p, p <+: cs ∧ (utf8Bytes p).length = n

/-- The longest prefix of a text with at most `limit` bytes. -/
structure IsLongestPrefix (limit : ℕ) (cs p : List Char) : Prop where
  isPrefix : p <+: cs
  length_le : (utf8Bytes p).length ≤ limit
  longest : ∀ q, q <+: cs → (utf8Bytes q).length ≤ limit → q <+: p

/-- UTF-8 is a prefix code. -/
theorem isPrefix_of_utf8Bytes_isPrefix {p cs : List Char} (h : utf8Bytes p <+: utf8Bytes cs) :
    p <+: cs := by
  obtain ⟨rest, hrest⟩ := h
  refine List.isPrefix_of_utf8Encode_append_eq_utf8Encode rest.toByteArray ?_
  have hencode (l : List Char) : l.utf8Encode = (utf8Bytes l).toByteArray := rfl
  rw [hencode, hencode, ← hrest, List.toByteArray_append]

theorem isLongestPrefix_self {limit : ℕ} {cs : List Char} (h : (utf8Bytes cs).length ≤ limit) :
    IsLongestPrefix limit cs cs :=
  ⟨List.prefix_rfl, h, fun _ hq _ => hq⟩

/-- Bytes cut at a boundary are read back as the longest prefix. -/
theorem fromUtf8_take_of_isCharBoundary {cs : List Char} {n : ℕ} (h : IsCharBoundary cs n) :
    ∃ p, fromUtf8 ((utf8Bytes cs).take n) = some p ∧ IsLongestPrefix n cs p := by
  obtain ⟨p, ⟨rest, rfl⟩, rfl⟩ := h
  refine ⟨p, ?_, List.prefix_append .., le_rfl, fun q hq hlen => ?_⟩
  · rw [utf8Bytes_append, List.take_left, fromUtf8_utf8Bytes]
  · obtain ⟨rest', hrest'⟩ := hq
    refine isPrefix_of_utf8Bytes_isPrefix ?_
    refine @List.prefix_of_prefix_length_le _ _ _ (utf8Bytes (p ++ rest)) ?_ ?_ hlen
    · exact ⟨utf8Bytes rest', by rw [← utf8Bytes_append, hrest']⟩
    · exact ⟨utf8Bytes rest, (utf8Bytes_append ..).symm⟩

/-- Bytes cut inside a character cannot be read back. -/
theorem fromUtf8_take_of_not_isCharBoundary {cs : List Char} {n : ℕ}
    (hn : n ≤ (utf8Bytes cs).length) (h : ¬ IsCharBoundary cs n) :
    fromUtf8 ((utf8Bytes cs).take n) = none := by
  refine Option.eq_none_iff_forall_ne_some.mpr fun p hp => h ⟨p, ?_, ?_⟩
  · rw [fromUtf8_eq_some_iff] at hp
    exact isPrefix_of_utf8Bytes_isPrefix (hp ▸ List.take_prefix ..)
  · rw [← fromUtf8_eq_some_iff.mp hp, List.length_take, min_eq_left hn]

/-! ### Positions in bytes -/

/-- Before and after a byte position, `none` if the position is inside a character or beyond the
end. -/
def splitAtByte : List Char → ℕ → Option (List Char × List Char)
  | cs, 0 => some ([], cs)
  | [], _ + 1 => none
  | c :: cs, n + 1 =>
    if c.utf8Size ≤ n + 1 then
      (splitAtByte cs (n + 1 - c.utf8Size)).map fun (before, rest) => (c :: before, rest)
    else none

/-- From one byte position to another, `none` if one of them is inside a character or beyond the
end. -/
def byteSlice (cs : List Char) (start stop : ℕ) : Option (List Char) := do
  let (front, _) ← splitAtByte cs stop
  let (_, slice) ← splitAtByte front start
  some slice

theorem splitAtByte_append (p rest : List Char) (n : ℕ) :
    splitAtByte (p ++ rest) ((utf8Bytes p).length + n) =
      (splitAtByte rest n).map fun split => (p ++ split.1, split.2) := by
  induction p with
  | nil =>
    rw [List.nil_append, utf8Bytes, List.flatMap_nil, List.length_nil, Nat.zero_add]
    exact Option.map_id'.symm
  | cons c p ih =>
    obtain ⟨m, hm⟩ := Nat.exists_eq_add_one.mpr c.utf8Size_pos
    have hlen : (utf8Bytes (c :: p)).length + n = m + ((utf8Bytes p).length + n) + 1 := by
      rw [length_utf8Bytes_cons]
      omega
    rw [List.cons_append, hlen, splitAtByte, if_pos (by omega),
      show m + ((utf8Bytes p).length + n) + 1 - c.utf8Size = (utf8Bytes p).length + n by omega, ih,
      Option.map_map]
    rfl

theorem splitAtByte_zero (cs : List Char) : splitAtByte cs 0 = some ([], cs) := by
  rw [splitAtByte.eq_def]

theorem splitAtByte_append_length (p rest : List Char) :
    splitAtByte (p ++ rest) (utf8Bytes p).length = some (p, rest) := by
  have h := splitAtByte_append p rest 0
  rwa [Nat.add_zero, splitAtByte_zero, Option.map_some, List.append_nil] at h

theorem splitAtByte_eq_some_iff {before rest : List Char} {n : ℕ} :
    splitAtByte cs n = some (before, rest) ↔
      cs = before ++ rest ∧ (utf8Bytes before).length = n := by
  constructor
  · intro h
    induction cs, n using splitAtByte.induct generalizing before with
    | case1 cs =>
      rw [splitAtByte_zero] at h
      obtain ⟨rfl, rfl⟩ := Prod.mk.inj (Option.some_injective _ h)
      exact ⟨rfl, rfl⟩
    | case2 n => simp [splitAtByte] at h
    | case3 c cs n hc ih =>
      rw [splitAtByte, if_pos hc] at h
      obtain ⟨⟨before', rest'⟩, hsplit, heq⟩ := Option.map_eq_some_iff.mp h
      obtain ⟨rfl, rfl⟩ := Prod.mk.inj heq
      obtain ⟨rfl, hlen⟩ := ih hsplit
      exact ⟨rfl, by rw [length_utf8Bytes_cons]; omega⟩
    | case4 c cs n hc =>
      rw [splitAtByte, if_neg hc] at h
      exact absurd h (by simp)
  · rintro ⟨rfl, rfl⟩
    exact splitAtByte_append_length before rest

/-- A slice behind a front of known length is cut from the rest. -/
theorem byteSlice_append (front rest : List Char) (n : ℕ) :
    byteSlice (front ++ rest) (utf8Bytes front).length ((utf8Bytes front).length + n) =
      (splitAtByte rest n).map (·.1) := by
  rw [byteSlice, splitAtByte_append]
  cases splitAtByte rest n with
  | none => rfl
  | some split =>
    obtain ⟨before, after⟩ := split
    simp only [Option.map_some, bind, Option.bind_some, splitAtByte_append_length]

/-- No separator of dotted, cookie or header texts, and no white space. -/
def IsArmourChar (c : Char) : Prop := c ≠ '.' ∧ c ≠ ';' ∧ c ≠ '=' ∧ isWhitespace c = false

instance (c : Char) : Decidable (IsArmourChar c) := inferInstanceAs (Decidable (_ ∧ _))

/-- A way to write bytes as text and to read them back. -/
structure Armour where
  encode : List UInt8 → List Char
  decode : List Char → Option (List UInt8)
  decode_encode : ∀ bytes, decode (encode bytes) = some bytes
  isArmourChar : ∀ bytes, ∀ c ∈ encode bytes, IsArmourChar c

/-! ### Base64 -/

/-- `A`–`Z`, `a`–`z`, `0`–`9`, `-` and `_`. -/
def sextetChar (n : ℕ) : Char :=
  if n < 26 then Char.ofNat (n + 65)
  else if n < 52 then Char.ofNat (n + 71)
  else if n < 62 then Char.ofNat (n - 4)
  else if n = 62 then '-'
  else '_'

def charSextet (c : Char) : Option ℕ :=
  if c.isUpper then some (c.toNat - 65)
  else if c.isLower then some (c.toNat - 71)
  else if c.isDigit then some (c.toNat + 4)
  else if c = '-' then some 62
  else if c = '_' then some 63
  else none

theorem charSextet_sextetChar {n : ℕ} (h : n < 64) : charSextet (sextetChar n) = some n := by
  have hall : ∀ n < 64, charSextet (sextetChar n) = some n := by decide +kernel
  exact hall n h

theorem isArmourChar_sextetChar {n : ℕ} (h : n < 64) : IsArmourChar (sextetChar n) := by
  have hall : ∀ n < 64, IsArmourChar (sextetChar n) := by decide +kernel
  exact hall n h

/-- Three bytes are four characters. -/
def base64Encode : List UInt8 → List Char
  | a :: b :: c :: rest =>
    let n := a.toNat * 65536 + b.toNat * 256 + c.toNat
    sextetChar (n / 262144) :: sextetChar (n / 4096 % 64) :: sextetChar (n / 64 % 64) ::
      sextetChar (n % 64) :: base64Encode rest
  | [a, b] =>
    let n := a.toNat * 1024 + b.toNat * 4
    [sextetChar (n / 4096), sextetChar (n / 64 % 64), sextetChar (n % 64)]
  | [a] =>
    let n := a.toNat * 16
    [sextetChar (n / 64), sextetChar (n % 64)]
  | [] => []

/-- The bits that fill up the last character must be zero. -/
def base64Decode : List Char → Option (List UInt8)
  | c₁ :: c₂ :: c₃ :: c₄ :: rest => do
    let n := (← charSextet c₁) * 262144 + (← charSextet c₂) * 4096 + (← charSextet c₃) * 64 +
      (← charSextet c₄)
    let bytes ← base64Decode rest
    some (.ofNat (n / 65536) :: .ofNat (n / 256 % 256) :: .ofNat (n % 256) :: bytes)
  | [c₁, c₂, c₃] => do
    let n := (← charSextet c₁) * 4096 + (← charSextet c₂) * 64 + (← charSextet c₃)
    if n % 4 = 0 then some [.ofNat (n / 1024), .ofNat (n / 4 % 256)] else none
  | [c₁, c₂] => do
    let n := (← charSextet c₁) * 64 + (← charSextet c₂)
    if n % 16 = 0 then some [.ofNat (n / 16)] else none
  | [_] => none
  | [] => some []

private theorem ofNat_eq_of_toNat {a : UInt8} {n : ℕ} (h : n = a.toNat) : UInt8.ofNat n = a := by
  rw [h, UInt8.ofNat_toNat]

theorem base64Decode_base64Encode (bytes : List UInt8) :
    base64Decode (base64Encode bytes) = some bytes := by
  induction bytes using base64Encode.induct with
  | case1 a b c rest ih =>
    have ha := a.toNat_lt
    have hb := b.toNat_lt
    have hc := c.toNat_lt
    rw [base64Encode, base64Decode, charSextet_sextetChar (by omega),
      charSextet_sextetChar (by omega), charSextet_sextetChar (by omega),
      charSextet_sextetChar (by omega), ih]
    refine congrArg some (congrArg₂ List.cons (ofNat_eq_of_toNat ?_) <|
      congrArg₂ List.cons (ofNat_eq_of_toNat ?_) <|
        congrArg₂ List.cons (ofNat_eq_of_toNat ?_) rfl)
    · omega
    · omega
    · omega
  | case2 a b =>
    have ha := a.toNat_lt
    have hb := b.toNat_lt
    rw [base64Encode, base64Decode, charSextet_sextetChar (by omega),
      charSextet_sextetChar (by omega), charSextet_sextetChar (by omega)]
    refine (if_pos (by omega)).trans (congrArg some (congrArg₂ List.cons (ofNat_eq_of_toNat ?_) <|
      congrArg₂ List.cons (ofNat_eq_of_toNat ?_) rfl))
    · omega
    · omega
  | case3 a =>
    have ha := a.toNat_lt
    rw [base64Encode, base64Decode, charSextet_sextetChar (by omega),
      charSextet_sextetChar (by omega)]
    refine (if_pos (by omega)).trans
      (congrArg some (congrArg₂ List.cons (ofNat_eq_of_toNat ?_) rfl))
    omega
  | case4 => rfl

theorem isArmourChar_of_mem_base64Encode {bytes : List UInt8} :
    ∀ c ∈ base64Encode bytes, IsArmourChar c := by
  induction bytes using base64Encode.induct with
  | case1 a b c rest ih =>
    have ha := a.toNat_lt
    have hb := b.toNat_lt
    have hc := c.toNat_lt
    simp only [base64Encode, List.forall_mem_cons]
    exact ⟨isArmourChar_sextetChar (by omega), isArmourChar_sextetChar (by omega),
      isArmourChar_sextetChar (by omega), isArmourChar_sextetChar (by omega), ih⟩
  | case2 a b =>
    have ha := a.toNat_lt
    have hb := b.toNat_lt
    simp only [base64Encode, List.forall_mem_cons]
    exact ⟨isArmourChar_sextetChar (by omega), isArmourChar_sextetChar (by omega),
      isArmourChar_sextetChar (by omega), by simp⟩
  | case3 a =>
    have ha := a.toNat_lt
    simp only [base64Encode, List.forall_mem_cons]
    exact ⟨isArmourChar_sextetChar (by omega), isArmourChar_sextetChar (by omega), by simp⟩
  | case4 => simp [base64Encode]

/-- The URL-safe alphabet, without padding. -/
def base64Url : Armour where
  encode := base64Encode
  decode := base64Decode
  decode_encode := base64Decode_base64Encode
  isArmourChar := fun _ => isArmourChar_of_mem_base64Encode

end Text
