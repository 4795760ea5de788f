import CrowdSecBouncer.Captcha.Token
import CrowdSecBouncer.Foundations.Hexadecimal
import CrowdSecBouncer.Http.Config

/-!
# The captcha signing key

The key is written as 64 hexadecimal digits. `parseHexKey` checks the length in bytes, cuts the
text at every second byte and reads each pair as an integer. A cut inside a character panics, and
the integer parser takes a `+` for the first digit. So the texts of 64 bytes split into those that
are read as the claim of the directive says, those with a `+` and those that stop the process;
`readsHexKey_iff` draws the line.
-/

namespace CrowdSecBouncer

open Text

/-- A key is not read, or the process stops. -/
inductive HexKeyFailure
  | rejected
  | panicked
  deriving DecidableEq, Repr

/-- Byte `i` of the key. -/
def hexKeyByte (hex : List Char) (i : ℕ) : Except HexKeyFailure UInt8 :=
  match byteSlice hex (i * 2) (i * 2 + 2) with
  | none => .error .panicked
  | some byteStr =>
    match parseRadix 16 255 byteStr with
    | none => .error .rejected
    | some byte => .ok (.ofNat byte)

/-- The key after `n` rounds of the loop. -/
def hexKeyBytes (hex : List Char) : (n : ℕ) → Except HexKeyFailure (Vector UInt8 n)
  | 0 => .ok #v[]
  | n + 1 => do
    let key ← hexKeyBytes hex n
    let byte ← hexKeyByte hex n
    .ok (key.push byte)

/-- Parse a 64-character hex string to a 32-byte key. -/
def parseHexKey (hex : List Char) : Except HexKeyFailure (Vector UInt8 32) :=
  let hex := trim hex
  if (utf8Bytes hex).length ≠ 64 then .error .rejected else hexKeyBytes hex 32

/-- A directive is refused with a message, or the process stops. -/
inductive DirectiveFailure
  | refused (message : List Char)
  | panicked
  deriving DecidableEq, Repr

/-- Directive handler for `crowdsec_captcha_signing_key <hex-key>;`. -/
def setCaptchaSigningKey (value : List Char) (conf : LocConfig) :
    Except DirectiveFailure LocConfig :=
  match parseHexKey value with
  | .ok key => .ok { conf with captchaSigningKey := some key }
  | .error .rejected =>
    .error (.refused ("crowdsec: invalid signing key (expected 64 hex characters, got ".toList ++
      (toString (utf8Bytes value).length).toList ++ " chars)".toList))
  | .error .panicked => .error .panicked

/-- A hexadecimal digit of either case. -/
def IsHexDigit (c : Char) : Prop := (Reader.toDigit 16 c).isSome = true

instance (c : Char) : Decidable (IsHexDigit c) := inferInstanceAs (Decidable (_ = _))

/-- Exactly 64 hexadecimal digits. -/
def IsHexKeyText (text : List Char) : Prop := text.length = 64 ∧ ∀ c ∈ text, IsHexDigit c

/-- What the key of a text should be: no panic, a key for 64 hexadecimal digits and for nothing
else, and a key that is written as the text up to the case of letters. -/
structure ReadsHexKey (hex : List Char) : Prop where
  noPanic : parseHexKey hex ≠ .error .panicked
  isKey : (∃ key, parseHexKey hex = .ok key) ↔ IsHexKeyText (trim hex)
  encodes : ∀ key, parseHexKey hex = .ok key →
    eqIgnoreAsciiCase (hexEncode key.toList) (trim hex) = true

/-- Two characters that the integer parser takes for a byte. -/
def TakenAsByte (c₁ c₂ : Char) : Prop := (c₁ = '+' ∨ IsHexDigit c₁) ∧ IsHexDigit c₂

/-- The characters of pairs, in order. -/
def flatPairs (pairs : List (Char × Char)) : List Char := pairs.flatMap fun (c₁, c₂) => [c₁, c₂]

/-- Behind pairs that are taken for bytes, two bytes end at the end of a character and are not
taken for a byte. -/
def StopsAtBadPair (text : List Char) : Prop :=
  ∃ pairs bad rest, text = flatPairs pairs ++ (bad ++ rest) ∧
    (∀ pair ∈ pairs, TakenAsByte pair.1 pair.2) ∧ (utf8Bytes bad).length = 2 ∧
    ∀ c₁ c₂, bad = [c₁, c₂] → ¬ TakenAsByte c₁ c₂

/-! ### One pair -/

/-- What the integer parser makes of the first two bytes of a text. -/
def firstByte (rest : List Char) : Except HexKeyFailure UInt8 :=
  match (splitAtByte rest 2).map (·.1) with
  | none => .error .panicked
  | some byteStr =>
    match parseRadix 16 255 byteStr with
    | none => .error .rejected
    | some byte => .ok (.ofNat byte)

variable {c c₁ c₂ : Char} {pairs : List (Char × Char)} {rest text hex : List Char}

theorem hexKeyByte_append {front : List Char} {i : ℕ} (hfront : (utf8Bytes front).length = i * 2) :
    hexKeyByte (front ++ rest) i = firstByte rest := by
  rw [hexKeyByte, ← hfront, byteSlice_append]
  rfl

theorem IsHexDigit.toNat_lt (h : IsHexDigit c) : c.toNat < 128 := by
  have hgraphic := Reader.isGraphic_of_toDigit h
  have hhigh := hgraphic.2
  omega

theorem TakenAsByte.isAscii (h : TakenAsByte c₁ c₂) : IsAscii [c₁, c₂] := by
  refine List.forall_mem_cons.mpr ⟨?_, List.forall_mem_cons.mpr ⟨h.2.toNat_lt, by simp⟩⟩
  rcases h.1 with rfl | h
  · decide
  · exact h.toNat_lt

theorem two_bytes_cases {byteStr : List Char} (hlen : (utf8Bytes byteStr).length = 2) :
    (∃ c, byteStr = [c] ∧ c.utf8Size = 2) ∨ ∃ c₁ c₂, byteStr = [c₁, c₂] := by
  match byteStr with
  | [] => exact absurd hlen (by decide)
  | [c] =>
    rw [length_utf8Bytes_cons] at hlen
    exact .inl ⟨c, rfl, hlen⟩
  | [c₁, c₂] => exact .inr ⟨c₁, c₂, rfl⟩
  | c₁ :: c₂ :: c₃ :: cs =>
    have hbytes := length_le_length_utf8Bytes (c₁ :: c₂ :: c₃ :: cs)
    simp only [List.length_cons] at hbytes
    omega

/-- A character of two bytes is no number. -/
theorem parseRadix_singleton (hc : c.utf8Size = 2) : parseRadix 16 255 [c] = none := by
  have hascii : ¬ c.toNat < 128 := fun h => by
    rw [← utf8Size_eq_one_iff_toNat_lt] at h
    omega
  have hplus : c ≠ '+' := by
    rintro rfl
    exact hascii (by decide)
  have hdigit : Reader.toDigit 16 c = none := by
    by_contra h
    exact hascii (IsHexDigit.toNat_lt (Option.isSome_iff_ne_none.mpr h))
  rw [parseRadix.eq_def]
  split
  · rfl
  · rfl
  · next heq => exact absurd (List.cons.inj heq).1 hplus
  · simp only [digitsFrom, hdigit]

theorem parseRadix_pair_isSome_iff :
    (parseRadix 16 255 [c₁, c₂]).isSome = true ↔ TakenAsByte c₁ c₂ := by
  rw [parseRadix_pair, TakenAsByte]
  split
  · next h => simp [h, IsHexDigit]
  · next h =>
    simp only [h, false_or, IsHexDigit, hexPair]
    cases Reader.toDigit 16 c₁ <;> cases Reader.toDigit 16 c₂ <;> simp

/-- The byte of two characters. -/
def pairByte (c₁ c₂ : Char) : UInt8 := .ofNat ((parseRadix 16 255 [c₁, c₂]).getD 0)

theorem firstByte_of_takenAsByte (h : TakenAsByte c₁ c₂) :
    firstByte (c₁ :: c₂ :: rest) = .ok (pairByte c₁ c₂) := by
  have hlen : (utf8Bytes [c₁, c₂]).length = 2 := length_utf8Bytes_eq_iff.mpr h.isAscii
  have hsplit : splitAtByte (c₁ :: c₂ :: rest) 2 = some ([c₁, c₂], rest) :=
    splitAtByte_eq_some_iff.mpr ⟨rfl, hlen⟩
  obtain ⟨byte, hbyte⟩ := Option.isSome_iff_exists.mp (parseRadix_pair_isSome_iff.mpr h)
  simp only [firstByte, hsplit, Option.map_some, hbyte, pairByte, Option.getD_some]

theorem firstByte_of_bad {bad : List Char} (hlen : (utf8Bytes bad).length = 2)
    (hbad : ∀ c₁ c₂, bad = [c₁, c₂] → ¬ TakenAsByte c₁ c₂) :
    firstByte (bad ++ rest) = .error .rejected := by
  have hsplit : splitAtByte (bad ++ rest) 2 = some (bad, rest) :=
    splitAtByte_eq_some_iff.mpr ⟨rfl, hlen⟩
  have hnone : parseRadix 16 255 bad = none := by
    obtain ⟨c, rfl, hc⟩ | ⟨c₁, c₂, rfl⟩ := two_bytes_cases hlen
    · exact parseRadix_singleton hc
    · rw [← Option.not_isSome_iff_eq_none, parseRadix_pair_isSome_iff]
      exact hbad c₁ c₂ rfl
  simp only [firstByte, hsplit, Option.map_some, hnone]

/-- What the first two bytes of a text can be. -/
theorem firstByte_cases (rest : List Char) :
    (∃ c₁ c₂ after, rest = c₁ :: c₂ :: after ∧ TakenAsByte c₁ c₂) ∨
      (∃ bad after, rest = bad ++ after ∧ (utf8Bytes bad).length = 2 ∧
        ∀ c₁ c₂, bad = [c₁, c₂] → ¬ TakenAsByte c₁ c₂) ∨
      firstByte rest = .error .panicked := by
  cases hsplit : splitAtByte rest 2 with
  | none =>
    refine .inr (.inr ?_)
    simp only [firstByte, hsplit, Option.map_none]
  | some split =>
    obtain ⟨front, after⟩ := split
    obtain ⟨rfl, hlen⟩ := splitAtByte_eq_some_iff.mp hsplit
    by_cases hbad : ∀ c₁ c₂, front = [c₁, c₂] → ¬ TakenAsByte c₁ c₂
    · exact .inr (.inl ⟨front, after, rfl, hlen, hbad⟩)
    · simp only [not_forall, not_not] at hbad
      obtain ⟨c₁, c₂, rfl, htaken⟩ := hbad
      exact .inl ⟨c₁, c₂, after, rfl, htaken⟩

/-! ### The loop -/

theorem flatPairs_append (pairs pairs' : List (Char × Char)) :
    flatPairs (pairs ++ pairs') = flatPairs pairs ++ flatPairs pairs' :=
  List.flatMap_append

theorem length_flatPairs (pairs : List (Char × Char)) :
    (flatPairs pairs).length = pairs.length * 2 := by
  induction pairs with
  | nil => rfl
  | cons pair pairs ih =>
    rw [flatPairs, List.flatMap_cons, List.length_append, ← flatPairs, ih, List.length_cons]
    simp only [List.length_cons, List.length_nil]
    omega

/-- Pairs that are taken for bytes have two bytes each. -/
theorem length_utf8Bytes_flatPairs (h : ∀ pair ∈ pairs, TakenAsByte pair.1 pair.2) :
    (utf8Bytes (flatPairs pairs)).length = pairs.length * 2 := by
  rw [← length_flatPairs, length_utf8Bytes_eq_iff]
  intro c hc
  obtain ⟨pair, hpair, hc⟩ := List.mem_flatMap.mp hc
  exact (h pair hpair).isAscii c hc

/-- As long as pairs are taken for bytes the loop goes on. -/
theorem hexKeyBytes_flatPairs (h : ∀ pair ∈ pairs, TakenAsByte pair.1 pair.2) {n : ℕ}
    (hn : pairs.length = n) (rest : List Char) :
    ∃ key, hexKeyBytes (flatPairs pairs ++ rest) n = .ok key ∧
      key.toList = pairs.map fun pair => pairByte pair.1 pair.2 := by
  induction n generalizing pairs rest with
  | zero =>
    obtain rfl := List.length_eq_zero_iff.mp hn
    exact ⟨#v[], rfl, rfl⟩
  | succ n ih =>
    obtain ⟨init, pair, rfl⟩ : ∃ init pair, pairs = init ++ [pair] :=
      (List.eq_nil_or_concat' pairs).resolve_left (List.ne_nil_of_length_eq_add_one hn)
    have hinit (p : Char × Char) (hp : p ∈ init) : TakenAsByte p.1 p.2 :=
      h p (List.mem_append_left _ hp)
    have hlen : init.length = n := by simpa using hn
    have hfront : flatPairs (init ++ [pair]) ++ rest =
        flatPairs init ++ pair.1 :: pair.2 :: rest := by
      rw [flatPairs_append, List.append_assoc]
      rfl
    obtain ⟨key, hkey, htoList⟩ := ih hinit hlen (pair.1 :: pair.2 :: rest)
    have hbyte : hexKeyByte (flatPairs init ++ pair.1 :: pair.2 :: rest) n =
        .ok (pairByte pair.1 pair.2) := by
      rw [hexKeyByte_append (by rw [length_utf8Bytes_flatPairs hinit, hlen]),
        firstByte_of_takenAsByte (h pair (by simp))]
    refine ⟨key.push (pairByte pair.1 pair.2), ?_, ?_⟩
    · rw [hfront, hexKeyBytes, hkey]
      simp only [bind, Except.bind, hbyte]
    · rw [Vector.toList_push, htoList, List.map_append]
      rfl

/-- A pair that is not taken for a byte ends the loop. -/
theorem hexKeyBytes_of_firstByte (h : ∀ pair ∈ pairs, TakenAsByte pair.1 pair.2)
    {e : HexKeyFailure} (hrest : firstByte rest = .error e) {n : ℕ} (hn : pairs.length < n) :
    hexKeyBytes (flatPairs pairs ++ rest) n = .error e := by
  induction n with
  | zero => omega
  | succ n ih =>
    rw [hexKeyBytes]
    rcases Nat.lt_succ_iff_lt_or_eq.mp hn with hlt | heq
    · rw [ih hlt]
      rfl
    · obtain ⟨key, hkey, -⟩ := hexKeyBytes_flatPairs h heq rest
      rw [hkey]
      simp only [bind, Except.bind]
      rw [hexKeyByte_append (by rw [length_utf8Bytes_flatPairs h, heq]), hrest]

/-- Every text is pairs that are taken for bytes, as many as are asked for or as many as there
are before one that is not. -/
theorem exists_flatPairs (n : ℕ) (text : List Char) :
    ∃ pairs rest, text = flatPairs pairs ++ rest ∧
      (∀ pair ∈ pairs, TakenAsByte pair.1 pair.2) ∧
      (pairs.length = n ∨ pairs.length < n ∧ ∀ c₁ c₂ after, rest = c₁ :: c₂ :: after →
        ¬ TakenAsByte c₁ c₂) := by
  induction n generalizing text with
  | zero => exact ⟨[], text, rfl, by simp, .inl rfl⟩
  | succ n ih =>
    by_cases hpair : ∃ c₁ c₂ after, text = c₁ :: c₂ :: after ∧ TakenAsByte c₁ c₂
    · obtain ⟨c₁, c₂, after, rfl, htaken⟩ := hpair
      obtain ⟨pairs, rest, rfl, hpairs, hlen⟩ := ih after
      refine ⟨(c₁, c₂) :: pairs, rest, rfl, List.forall_mem_cons.mpr ⟨htaken, hpairs⟩, ?_⟩
      exact hlen.imp (congrArg (· + 1)) (And.imp_left Nat.succ_lt_succ)
    · refine ⟨[], text, rfl, by simp, .inr ⟨Nat.succ_pos n, fun c₁ c₂ after heq htaken => ?_⟩⟩
      exact hpair ⟨c₁, c₂, after, heq, htaken⟩

/-! ### The key is written as the text -/

theorem toLower_digitChar_of_toDigit {d : ℕ} (h : Reader.toDigit 16 c = some d) :
    (Nat.digitChar d).toLower = c.toLower := by
  have hc : IsHexDigit c := by rw [IsHexDigit, h]; rfl
  refine forall_ascii (P := fun c => ∀ d ∈ Reader.toDigit 16 c,
    (Nat.digitChar d).toLower = c.toLower) ?_ hc.toNat_lt d h
  decide +kernel

theorem hexEncode_pairByte (h₁ : IsHexDigit c₁) (h₂ : IsHexDigit c₂) :
    (hexEncode [pairByte c₁ c₂]).map Char.toLower = [c₁, c₂].map Char.toLower := by
  obtain ⟨high, hhigh⟩ := Option.isSome_iff_exists.mp h₁
  obtain ⟨low, hlow⟩ := Option.isSome_iff_exists.mp h₂
  have hplus : c₁ ≠ '+' := by
    rintro rfl
    exact absurd h₁ (by decide)
  have hhigh' := lt_of_toDigit hhigh
  have hlow' := lt_of_toDigit hlow
  have hpair : pairByte c₁ c₂ = .ofNat (high * 16 + low) := by
    rw [pairByte, parseRadix_pair, if_neg hplus,
      hexPair_eq_some_iff.mpr ⟨high, low, hhigh, hlow, rfl⟩]
    rfl
  have hval : (UInt8.ofNat (high * 16 + low)).toNat = high * 16 + low := by
    rw [UInt8.toNat_ofNat', Nat.mod_eq_of_lt (by omega)]
  rw [hpair, hexEncode, List.flatMap_singleton, hval,
    show (high * 16 + low) / 16 = high by omega, show (high * 16 + low) % 16 = low by omega]
  simp only [List.map_cons, List.map_nil, toLower_digitChar_of_toDigit hhigh,
    toLower_digitChar_of_toDigit hlow]

theorem hexEncode_pairBytes (h : ∀ pair ∈ pairs, IsHexDigit pair.1 ∧ IsHexDigit pair.2) :
    eqIgnoreAsciiCase (hexEncode (pairs.map fun pair => pairByte pair.1 pair.2))
      (flatPairs pairs) = true := by
  refine beq_iff_eq.mpr ?_
  induction pairs with
  | nil => rfl
  | cons pair pairs ih =>
    obtain ⟨⟨h₁, h₂⟩, hpairs⟩ := List.forall_mem_cons.mp h
    have hcons : hexEncode ((pair :: pairs).map fun pair => pairByte pair.1 pair.2) =
        hexEncode [pairByte pair.1 pair.2] ++
          hexEncode (pairs.map fun pair => pairByte pair.1 pair.2) := rfl
    have hflat : flatPairs (pair :: pairs) = [pair.1, pair.2] ++ flatPairs pairs := rfl
    rw [hcons, hflat, List.map_append, List.map_append, hexEncode_pairByte h₁ h₂, ih hpairs]

/-! ### Which texts are read as they should be -/

/-- Two hexadecimal digits behind the pairs would be taken for a byte. -/
theorem not_isHexKeyText_of_rest (hlen : pairs.length < 32)
    (hrest : ∀ c₁ c₂ after, rest = c₁ :: c₂ :: after → ¬ TakenAsByte c₁ c₂) :
    ¬ IsHexKeyText (flatPairs pairs ++ rest) := by
  rintro ⟨htext, hdigits⟩
  rw [List.length_append, length_flatPairs] at htext
  match rest with
  | [] | [_] =>
    simp only [List.length_nil, List.length_cons] at htext
    omega
  | c₁ :: c₂ :: after =>
    exact hrest c₁ c₂ after rfl ⟨.inr (hdigits c₁ (by simp)), hdigits c₂ (by simp)⟩

theorem isHexDigit_of_isHexKeyText (h : IsHexKeyText (flatPairs pairs)) :
    ∀ pair ∈ pairs, IsHexDigit pair.1 ∧ IsHexDigit pair.2 := by
  intro pair hpair
  have hmem (c : Char) (hc : c ∈ [pair.1, pair.2]) : IsHexDigit c :=
    h.2 c (List.mem_flatMap.mpr ⟨pair, hpair, hc⟩)
  exact ⟨hmem _ (by simp), hmem _ (by simp)⟩

/-- A pair that is not taken for a byte ends the loop before it is done. -/
theorem parseHexKey_of_stopsAtBadPair (hlen : (utf8Bytes (trim hex)).length = 64)
    (h : StopsAtBadPair (trim hex)) : parseHexKey hex = .error .rejected := by
  obtain ⟨pairs, bad, rest, htext, hpairs, hbad, hnot⟩ := h
  rw [parseHexKey, if_neg (not_not.mpr hlen), htext]
  refine hexKeyBytes_of_firstByte hpairs (firstByte_of_bad hbad hnot) ?_
  rw [htext, utf8Bytes_append, utf8Bytes_append, List.length_append, List.length_append,
    length_utf8Bytes_flatPairs hpairs, hbad] at hlen
  omega

theorem length_utf8Bytes_of_isHexKeyText (h : IsHexKeyText text) :
    (utf8Bytes text).length = 64 :=
  (length_utf8Bytes_eq_iff.mpr fun c hc => (h.2 c hc).toNat_lt).trans h.1

/-- **Signing keys are read as they should be**, with no panic, from exactly 64 hexadecimal
digits and as the key that is written: for a text that does not have 64 bytes once it is trimmed,
for one of 64 hexadecimal digits, for one whose first pair of bytes that is not taken for a byte
ends at the end of a character, and for no other text. -/
theorem readsHexKey_iff (hex : List Char) :
    ReadsHexKey hex ↔ (utf8Bytes (trim hex)).length ≠ 64 ∨ IsHexKeyText (trim hex) ∨
      StopsAtBadPair (trim hex) := by
  by_cases hlen : (utf8Bytes (trim hex)).length = 64
  case neg =>
    have hreject : parseHexKey hex = .error .rejected := if_pos hlen
    refine iff_of_true ⟨by simp [hreject], ?_, by simp [hreject]⟩ (.inl hlen)
    refine iff_of_false (by simp [hreject]) fun h => hlen (length_utf8Bytes_of_isHexKeyText h)
  case pos =>
  rw [or_iff_right (not_not.mpr hlen)]
  have hparse : parseHexKey hex = hexKeyBytes (trim hex) 32 := if_neg (not_not.mpr hlen)
  obtain ⟨pairs, rest, htext, hpairs, hcount | ⟨hcount, hrest⟩⟩ := exists_flatPairs 32 (trim hex)
  · -- 32 pairs: a key, and nothing is left of the text
    obtain ⟨key, hkey, htoList⟩ := hexKeyBytes_flatPairs hpairs hcount rest
    rw [← htext, ← hparse] at hkey
    have hnil : rest = [] := by
      rw [htext, utf8Bytes_append, List.length_append, length_utf8Bytes_flatPairs hpairs] at hlen
      have hle := length_le_length_utf8Bytes rest
      exact List.length_eq_zero_iff.mp (by omega)
    rw [hnil, List.append_nil] at htext
    constructor
    · intro hreads
      exact .inl (hreads.isKey.mp ⟨key, hkey⟩)
    · rintro (hdigits | hstops)
      · refine ⟨by simp [hkey], iff_of_true ⟨key, hkey⟩ hdigits, fun key' hkey' => ?_⟩
        obtain rfl := Except.ok.inj (hkey.symm.trans hkey')
        rw [htoList, htext]
        exact hexEncode_pairBytes (isHexDigit_of_isHexKeyText (htext ▸ hdigits))
      · exact absurd (hkey.symm.trans (parseHexKey_of_stopsAtBadPair hlen hstops)) (by simp)
  · -- fewer pairs: what comes behind them decides between no key and a panic
    have hnot : ¬ IsHexKeyText (trim hex) := htext ▸ not_isHexKeyText_of_rest hcount hrest
    rw [or_iff_right hnot]
    obtain ⟨c₁, c₂, after, heq, htaken⟩ | ⟨bad, after, rfl, hbad, hbadNot⟩ | hpanic :=
      firstByte_cases rest
    · exact absurd htaken (hrest c₁ c₂ after heq)
    · have hstops : StopsAtBadPair (trim hex) := ⟨pairs, bad, after, htext, hpairs, hbad, hbadNot⟩
      have hreject := parseHexKey_of_stopsAtBadPair hlen hstops
      exact iff_of_true ⟨by simp [hreject], iff_of_false (by simp [hreject]) hnot,
        by simp [hreject]⟩ hstops
    · have hpanics : parseHexKey hex = .error .panicked := by
        rw [hparse, htext]
        exact hexKeyBytes_of_firstByte hpairs hpanic hcount
      refine iff_of_false (fun hreads => hreads.noPanic hpanics) fun hstops => ?_
      exact absurd (hpanics.symm.trans (parseHexKey_of_stopsAtBadPair hlen hstops)) (by simp)

/-- 32 times `+0` is a key of zeros, and a character across two pairs of a text of 64 bytes is a
panic. -/
theorem not_readsHexKey_plus :
    parseHexKey (List.replicate 32 ['+', '0']).flatten = .ok (Vector.replicate 32 0) ∧
      ¬ ReadsHexKey (List.replicate 32 ['+', '0']).flatten ∧
      parseHexKey ('0' :: 'é' :: List.replicate 61 '0') = .error .panicked ∧
      ¬ ReadsHexKey ('0' :: 'é' :: List.replicate 61 '0') := by
  have hplus : parseHexKey (List.replicate 32 ['+', '0']).flatten =
      .ok (Vector.replicate 32 0) := by decide +kernel
  have hpanic : parseHexKey ('0' :: 'é' :: List.replicate 61 '0') = .error .panicked := by
    decide +kernel
  refine ⟨hplus, fun h => ?_, hpanic, fun h => h.noPanic hpanic⟩
  exact absurd ((h.isKey.mp ⟨_, hplus⟩).2 '+' (by decide +kernel)) (by decide)

end CrowdSecBouncer
