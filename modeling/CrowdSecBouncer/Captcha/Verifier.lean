import CrowdSecBouncer.Foundations.PercentCoding
import CrowdSecBouncer.Http.Config

/-!
# The captcha form and the call to the provider

The response of a solved captcha comes in the body of a form, and goes on to the provider in the
body of another form together with the secret key and the client address. The body that is sent
splits into its three fields again, whatever the response contains (`verifyForm_fields`).

The body that is received is decoded character by character: an escape `%XX` becomes the
character with that code, not a byte of UTF-8. What `urlEncode` has written comes back as the
UTF-8 bytes read as characters (`urlDecode_urlEncode`), which is the text itself exactly when the
text is ASCII (`parseCaptchaResponse_formBody`).
-/

namespace CrowdSecBouncer

open Text

/-- The verification API endpoint of a provider. -/
def CaptchaProvider.verifyUrl : CaptchaProvider → List Char
  | .hCaptcha => "https://api.hcaptcha.com/siteverify".toList
  | .turnstile => "https://challenges.cloudflare.com/turnstile/v0/siteverify".toList
  | .reCaptcha => "https://www.google.com/recaptcha/api/siteverify".toList

/-- The form field that contains the captcha response. -/
def CaptchaProvider.responseField : CaptchaProvider → List Char
  | .hCaptcha => "h-captcha-response".toList
  | .turnstile => "cf-turnstile-response".toList
  | .reCaptcha => "g-recaptcha-response".toList

/-- The characters that `urlEncode` keeps. -/
def isUnreserved (c : Char) : Bool :=
  c.isUpper || c.isLower || c.isDigit || c == '-' || c == '_' || c == '.' || c == '~'

/-- URL-encode a string for form data. -/
def urlEncode (s : List Char) : List Char := percentEncode isUnreserved s

/-- What stands for `%` and the characters taken after it, at most two. -/
def decodeEscape (hex : List Char) : List Char :=
  match if (utf8Bytes hex).length = 2 then parseRadix 16 255 hex else none with
  | some byte => [Char.ofNat byte]
  -- failed to parse, keep original
  | none => '%' :: hex

/-- URL-decode a string. -/
def urlDecode : List Char → List Char
  | [] => []
  | c :: cs =>
    if c = '%' then
      match cs with
      | c₁ :: c₂ :: rest => decodeEscape [c₁, c₂] ++ urlDecode rest
      | hex => decodeEscape hex
    else if c = '+' then ' ' :: urlDecode cs
    else c :: urlDecode cs

/-- The value of the first pair whose key is accepted. -/
def findField (accepts : List Char → Bool) (body : List Char) : Option (List Char) :=
  (body.splitOn '&').findSome? fun pair =>
    match splitOnce '=' pair with
    | some (key, value) => if accepts (urlDecode key) then some (urlDecode value) else none
    | none => none

/-- Generic field names that might be used. -/
def genericFields : List (List Char) :=
  ["captcha-response".toList, "captcha_response".toList, "response".toList]

/-- Parse the captcha response from a form-urlencoded body. -/
def parseCaptchaResponse (body : List UInt8) (provider : CaptchaProvider) :
    Option (List Char) := do
  let bodyStr ← fromUtf8 body
  let fieldName := provider.responseField
  (findField (· == fieldName) bodyStr).or (findField (genericFields.contains ·) bodyStr)

/-- The request that `verify_captcha` sends. -/
structure VerifyRequest where
  url : List Char
  contentType : List Char
  timeoutSecs : ℕ
  formBody : List Char
  deriving DecidableEq, Repr

/-- `verify_captcha`, up to the provider's answer. -/
def verifyRequest (provider : CaptchaProvider) (secretKey response remoteIp : List Char) :
    VerifyRequest where
  url := provider.verifyUrl
  contentType := "application/x-www-form-urlencoded".toList
  timeoutSecs := 5
  formBody := "secret=".toList ++ urlEncode secretKey ++ "&response=".toList ++
    urlEncode response ++ "&remoteip=".toList ++ urlEncode remoteIp

/-! ### The characters of what is encoded -/

theorem toNat_lt_of_isUnreserved {c : Char} (h : isUnreserved c = true) : c.toNat < 128 := by
  have hletter (h : c.isUpper = true ∨ c.isLower = true) : c.toNat ≤ 122 := by
    rcases h with h | h
    · have hhigh : c.toNat ≤ 90 := (of_decide_eq_true h).2
      omega
    · exact of_decide_eq_true ((Bool.and_eq_true _ _).mp h).2
  simp only [isUnreserved, Bool.or_eq_true, beq_iff_eq] at h
  rcases h with (((((h | h) | h) | rfl) | rfl) | rfl) | rfl
  · exact Nat.lt_of_le_of_lt (hletter (.inl h)) (by decide)
  · exact Nat.lt_of_le_of_lt (hletter (.inr h)) (by decide)
  · exact Nat.lt_of_le_of_lt (isGraphic_of_isDigit h).2 (by decide)
  · decide
  · decide
  · decide
  · decide

theorem keepsPlain_isUnreserved : KeepsPlain isUnreserved where
  toNat_lt _ h := toNat_lt_of_isUnreserved h
  ne_percent := by
    rintro _ h rfl
    exact absurd h (by decide)
  ne_plus := by
    rintro _ h rfl
    exact absurd h (by decide)

theorem not_mem_urlEncode {sep : Char} (hunreserved : isUnreserved sep = false)
    (hpercent : sep ≠ '%') (hdigit : Reader.toDigit 16 sep = none) (s : List Char) :
    sep ∉ urlEncode s :=
  not_mem_percentEncode hunreserved hpercent hdigit

theorem amp_notMem_urlEncode (s : List Char) : '&' ∉ urlEncode s :=
  not_mem_urlEncode (by decide) (by decide) (by decide) s

theorem eq_notMem_urlEncode (s : List Char) : '=' ∉ urlEncode s :=
  not_mem_urlEncode (by decide) (by decide) (by decide) s

/-! ### The call to the provider -/

/-- The pairs of a form body: split at `&`, and each piece at its first `=`. -/
def formPairs (body : List Char) : List (Option (List Char × List Char)) :=
  (body.splitOn '&').map (splitOnce '=')

/-- The value of a field as the provider reads it, by bytes of UTF-8. -/
def standardDecode (plusIsSpace : Bool) (value : List Char) : Option (List Char) :=
  fromUtf8 (percentDecode plusIsSpace value)

theorem standardDecode_urlEncode (plusIsSpace : Bool) (s : List Char) :
    standardDecode plusIsSpace (urlEncode s) = some s := by
  rw [standardDecode, urlEncode, percentDecode_percentEncode keepsPlain_isUnreserved,
    fromUtf8_utf8Bytes]

/-- **No parameter injection**: the body that is sent to the provider is split into the fields
`secret`, `response` and `remoteip`, in this order and no others, and each is decoded to the text
it was built from, whatever the client has sent as its response. -/
theorem verifyForm_fields (provider : CaptchaProvider) (secretKey response remoteIp : List Char)
    (plusIsSpace : Bool) :
    ∃ secretValue responseValue remoteIpValue,
      formPairs (verifyRequest provider secretKey response remoteIp).formBody =
          [some ("secret".toList, secretValue), some ("response".toList, responseValue),
            some ("remoteip".toList, remoteIpValue)] ∧
        standardDecode plusIsSpace secretValue = some secretKey ∧
        standardDecode plusIsSpace responseValue = some response ∧
        standardDecode plusIsSpace remoteIpValue = some remoteIp := by
  refine ⟨urlEncode secretKey, urlEncode response, urlEncode remoteIp, ?_,
    standardDecode_urlEncode plusIsSpace secretKey, standardDecode_urlEncode plusIsSpace response,
    standardDecode_urlEncode plusIsSpace remoteIp⟩
  have hbody : (verifyRequest provider secretKey response remoteIp).formBody =
      ("secret=".toList ++ urlEncode secretKey) ++ '&' ::
        (("response=".toList ++ urlEncode response) ++ '&' ::
          ("remoteip=".toList ++ urlEncode remoteIp)) := by
    simp [verifyRequest]
  -- no value has a `&`, so the pieces are the three that were joined
  have hamp (name s : List Char) (hname : '&' ∉ name) : '&' ∉ name ++ urlEncode s :=
    fun h => (List.mem_append.mp h).elim hname (amp_notMem_urlEncode s)
  rw [formPairs, hbody, List.splitOn_append_cons_self, List.splitOn_append_cons_self,
    List.splitOn_eq_singleton (hamp _ _ (by decide)),
    List.splitOn_eq_singleton (hamp _ _ (by decide)),
    List.splitOn_eq_singleton (hamp _ _ (by decide))]
  -- and no name has a `=`
  have hpair (name s : List Char) (hname : '=' ∉ name) :
      splitOnce '=' (name ++ '=' :: urlEncode s) = some (name, urlEncode s) :=
    splitOnce_append hname
  exact congrArg₂ List.cons (hpair "secret".toList secretKey (by decide)) <|
    congrArg₂ List.cons (hpair "response".toList response (by decide)) <|
      congrArg₂ List.cons (hpair "remoteip".toList remoteIp (by decide)) rfl

/-! ### What comes back from an encoded form -/

theorem decodeEscape_upperHex (b : UInt8) :
    decodeEscape (upperHex b) = [Char.ofNat b.toNat] := by
  have hb := b.toNat_lt
  have hdigit : ∀ n < 16,
      (Nat.digitChar n).toUpper.toNat < 128 ∧ (Nat.digitChar n).toUpper ≠ '+' := by decide
  obtain ⟨hhigh, hplus⟩ := hdigit (b.toNat / 16) (by omega)
  obtain ⟨hlow, -⟩ := hdigit (b.toNat % 16) (by omega)
  have hlen : (utf8Bytes (upperHex b)).length = 2 := by
    refine length_utf8Bytes_eq_iff.mpr (List.forall_mem_cons.mpr ⟨hhigh, ?_⟩)
    exact List.forall_mem_cons.mpr ⟨hlow, by simp⟩
  rw [decodeEscape, if_pos hlen, upperHex, parseRadix_pair, if_neg hplus, hexPair_upperHex]

theorem urlDecode_percentByte (b : UInt8) (rest : List Char) :
    urlDecode (percentByte b ++ rest) = Char.ofNat b.toNat :: urlDecode rest := by
  rw [percentByte, upperHex, List.cons_append, List.cons_append, List.cons_append, List.nil_append,
    urlDecode, if_pos rfl, ← upperHex, decodeEscape_upperHex, List.singleton_append]

theorem urlDecode_percentBytes (bytes : List UInt8) (rest : List Char) :
    urlDecode (bytes.flatMap percentByte ++ rest) = latin1 bytes ++ urlDecode rest := by
  induction bytes with
  | nil => rfl
  | cons b bytes ih =>
    rw [List.flatMap_cons, List.append_assoc, urlDecode_percentByte, ih]
    rfl

theorem urlDecode_cons {c : Char} {cs : List Char} (hpercent : c ≠ '%') (hplus : c ≠ '+') :
    urlDecode (c :: cs) = c :: urlDecode cs := by
  rw [urlDecode.eq_def]
  exact (if_neg hpercent).trans (if_neg hplus)

theorem urlDecode_urlEncode_append (s rest : List Char) :
    urlDecode (urlEncode s ++ rest) = latin1 (utf8Bytes s) ++ urlDecode rest := by
  induction s with
  | nil => rfl
  | cons c s ih =>
    rw [urlEncode, percentEncode_cons, ← urlEncode, List.append_assoc, utf8Bytes,
      List.flatMap_cons, latin1_append, List.append_assoc]
    split
    · next h =>
      have hcode : latin1 (utf8Bytes [c]) = [c] :=
        latin1_utf8Bytes (by simpa [IsAscii] using toNat_lt_of_isUnreserved h)
      rw [utf8Bytes, List.flatMap_singleton] at hcode
      rw [hcode, List.singleton_append, urlDecode_cons (keepsPlain_isUnreserved.ne_percent c h)
        (keepsPlain_isUnreserved.ne_plus c h), ih]
      rfl
    · rw [urlDecode_percentBytes, ih]
      rfl

/-- What was encoded comes back as its UTF-8 bytes, each read as one character. -/
theorem urlDecode_urlEncode (s : List Char) : urlDecode (urlEncode s) = latin1 (utf8Bytes s) := by
  have h := urlDecode_urlEncode_append s []
  rwa [List.append_nil, urlDecode, List.append_nil] at h

/-- The body of a form with the given fields. -/
def formBody (pairs : List (List Char × List Char)) : List Char :=
  ['&'].intercalate (pairs.map fun (key, value) => urlEncode key ++ '=' :: urlEncode value)

variable {provider : CaptchaProvider} {pairs : List (List Char × List Char)} {value : List Char}

theorem findField_formBody (accepts : List Char → Bool) (hne : pairs ≠ []) :
    findField accepts (formBody pairs) =
      (pairs.find? fun pair => accepts (latin1 (utf8Bytes pair.1))).map fun pair =>
        latin1 (utf8Bytes pair.2) := by
  have hsplit : (formBody pairs).splitOn '&' =
      pairs.map fun (key, value) => urlEncode key ++ '=' :: urlEncode value := by
    refine List.splitOn_intercalate '&' (fun piece hpiece => ?_) (by simpa using hne)
    obtain ⟨⟨key, value⟩, -, rfl⟩ := List.mem_map.mp hpiece
    simp [amp_notMem_urlEncode]
  rw [findField, hsplit, List.findSome?_map]
  clear hsplit hne
  induction pairs with
  | nil => rfl
  | cons pair pairs ih =>
    obtain ⟨key, value⟩ := pair
    simp only [List.findSome?_cons, List.find?_cons, Function.comp_apply,
      splitOnce_append (eq_notMem_urlEncode key), urlDecode_urlEncode]
    cases accepts (latin1 (utf8Bytes key)) with
    | true => rfl
    | false => exact ih

theorem isAscii_responseField (provider : CaptchaProvider) : IsAscii provider.responseField := by
  cases provider <;> decide

/-- Only the name of the field itself is read as the name of the field. -/
theorem latin1_utf8Bytes_beq_responseField (key : List Char) :
    (latin1 (utf8Bytes key) == provider.responseField) = (provider.responseField == key) := by
  have hself := latin1_utf8Bytes (isAscii_responseField provider)
  rw [Bool.eq_iff_iff, beq_iff_eq, beq_iff_eq]
  refine ⟨fun h => ?_, fun h => h ▸ hself⟩
  exact (utf8Bytes_injective (latin1_injective (h.trans hself.symm))).symm

theorem find?_responseField :
    (pairs.find? fun pair => latin1 (utf8Bytes pair.1) == provider.responseField).map (·.2) =
      pairs.lookup provider.responseField := by
  induction pairs with
  | nil => rfl
  | cons pair pairs ih =>
    obtain ⟨key, value⟩ := pair
    rw [List.find?_cons, List.lookup_cons, latin1_utf8Bytes_beq_responseField]
    cases provider.responseField == key with
    | true => rfl
    | false => exact ih

theorem parseCaptchaResponse_utf8Bytes (body : List Char) :
    parseCaptchaResponse (utf8Bytes body) provider =
      (findField (· == provider.responseField) body).or
        (findField (genericFields.contains ·) body) := by
  rw [parseCaptchaResponse, fromUtf8_utf8Bytes]
  rfl

/-- The first field with the provider's name decides, and its value is decoded by characters. -/
theorem parseCaptchaResponse_of_lookup (h : pairs.lookup provider.responseField = some value) :
    parseCaptchaResponse (utf8Bytes (formBody pairs)) provider =
      some (latin1 (utf8Bytes value)) := by
  have hne : pairs ≠ [] := by
    rintro rfl
    exact absurd h (by simp)
  rw [← find?_responseField] at h
  obtain ⟨pair, hfind, rfl⟩ := Option.map_eq_some_iff.mp h
  rw [parseCaptchaResponse_utf8Bytes, findField_formBody _ hne, hfind]
  rfl

/-- **The form decoder inverts the form encoder on ASCII and on nothing else**: for any fields
and any provider, the value that is read from the encoded body is the value of the first field
with the provider's name if and only if that value is ASCII; and decoding what was encoded gives
back the text if and only if the text is ASCII. -/
theorem parseCaptchaResponse_formBody (h : pairs.lookup provider.responseField = some value) :
    (parseCaptchaResponse (utf8Bytes (formBody pairs)) provider = some value ↔ IsAscii value) ∧
      ∀ s, urlDecode (urlEncode s) = s ↔ IsAscii s := by
  refine ⟨?_, fun s => ?_⟩
  · rw [parseCaptchaResponse_of_lookup h, Option.some_inj, latin1_utf8Bytes_eq_iff]
  · rw [urlDecode_urlEncode, latin1_utf8Bytes_eq_iff]

theorem parseCaptchaResponse_formBody_token :
    (parseCaptchaResponse (utf8Bytes (formBody [("other".toList, "1".toList),
        ("cf-turnstile-response".toList, "a b+c%&=".toList),
        ("cf-turnstile-response".toList, "2".toList)])) .turnstile = some "a b+c%&=".toList ↔
      IsAscii "a b+c%&=".toList) ∧ ∀ s, urlDecode (urlEncode s) = s ↔ IsAscii s :=
  parseCaptchaResponse_formBody (by decide)

/-- An `é` in the response arrives as `Ã©`, its two bytes as two characters. -/
theorem parseCaptchaResponse_eAcute :
    parseCaptchaResponse (utf8Bytes (formBody [("h-captcha-response".toList, "é".toList)]))
        .hCaptcha = some "Ã©".toList ∧
      urlDecode (urlEncode "é".toList) ≠ "é".toList := by
  rw [parseCaptchaResponse_utf8Bytes]
  decide +kernel

end CrowdSecBouncer
