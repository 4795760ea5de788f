import CrowdSecBouncer.Foundations.Armour

/-!
# Captcha session tokens

A token is a header, the claims as JSON and a MAC of both, each armoured and joined with dots. It
is verified from the outside in: the three parts, the MAC, the payload, the claims; and then
validated: expiry, type, issue time, address. Armour, MAC and JSON are those of libraries; what
the source relies on is in `TokenLibraries`. Verifying a token that was created gives back its
claims (`verifyToken_createToken`).
-/

namespace CrowdSecBouncer

open Text

/-- Claims for a captcha session. -/
structure CaptchaClaims where
  /-- The client address, or "anonymous". -/
  sub : List Char
  iat : ℤ
  exp : ℤ
  typ : List Char
  uri : Option (List Char)
  nonce : List Char
  deriving DecidableEq, Repr

/-- Bytes in lower-case hexadecimal. -/
def hexEncode (bytes : List UInt8) : List Char :=
  bytes.flatMap fun b => [Nat.digitChar (b.toNat / 16), Nat.digitChar (b.toNat % 16)]

/-- Claims at a clock reading in seconds since the epoch, with 16 random bytes. -/
def CaptchaClaims.new (now : ℤ) (random : Vector UInt8 16) (clientIp : Option (List Char))
    (expirySecs : ℕ) (requestUri : Option (List Char)) : CaptchaClaims where
  sub := clientIp.getD "anonymous".toList
  iat := now
  exp := now + expirySecs
  typ := "captcha_pass".toList
  uri := requestUri
  nonce := hexEncode random.toList

/-- A message authentication code. The keys of the right length are accepted, and a MAC passes
the check when it is the one that is computed. -/
structure MessageAuth (Key : Type) where
  acceptsKey : Key → Bool
  mac : Key → List UInt8 → List UInt8
  verifySlice : Key → List UInt8 → List UInt8 → Bool
  acceptsKey_eq_true : ∀ key, acceptsKey key = true
  verifySlice_iff : ∀ key message tag, verifySlice key message tag = true ↔ tag = mac key message

/-- What the tokens take from libraries: base64, HMAC-SHA256 and JSON. -/
structure TokenLibraries where
  armour : Armour
  hmac : MessageAuth (Vector UInt8 32)
  toJson : CaptchaClaims → List Char
  fromJson : List Char → Option CaptchaClaims

inductive JwtError
  | invalidFormat
  | invalidSignature
  | invalidPayload
  | invalidKey
  | expired
  | ipMismatch
  deriving DecidableEq, Repr

section Model

variable (lib : TokenLibraries) (signingKey : Vector UInt8 32)

def jwtHeader : List Char := "\x7b\"alg\":\"HS256\",\"typ\":\"JWT\"\x7d".toList

/-- Create a signed token from claims. -/
def createToken (claims : CaptchaClaims) : Except JwtError (List Char) :=
  let headerB64 := lib.armour.encode (utf8Bytes jwtHeader)
  let payloadB64 := lib.armour.encode (utf8Bytes (lib.toJson claims))
  let message := headerB64 ++ '.' :: payloadB64
  if lib.hmac.acceptsKey signingKey then
    let signature := lib.hmac.mac signingKey (utf8Bytes message)
    .ok (message ++ '.' :: lib.armour.encode signature)
  else .error .invalidKey

/-- Verify and decode a token. -/
def verifyToken (token : List Char) : Except JwtError CaptchaClaims :=
  match token.splitOn '.' with
  | [headerB64, payloadB64, signatureB64] =>
    let message := headerB64 ++ '.' :: payloadB64
    match lib.armour.decode signatureB64 with
    | none => .error .invalidSignature
    | some signature =>
      if !lib.hmac.acceptsKey signingKey then .error .invalidKey
      else if !lib.hmac.verifySlice signingKey (utf8Bytes message) signature then
        .error .invalidSignature
      else
        match lib.armour.decode payloadB64 with
        | none => .error .invalidPayload
        | some payloadBytes =>
          match (fromUtf8 payloadBytes).bind lib.fromJson with
          | none => .error .invalidPayload
          | some claims => .ok claims
  | _ => .error .invalidFormat

/-- Verify a token and check that it is valid now, and for the client address if one is given. -/
def verifyAndValidate (now : ℤ) (token : List Char) (clientIp : Option (List Char)) :
    Except JwtError CaptchaClaims :=
  match verifyToken lib signingKey token with
  | .error e => .error e
  | .ok claims =>
    if now > claims.exp then .error .expired
    else if claims.typ ≠ "captcha_pass".toList then .error .invalidPayload
    else if claims.iat > now + 60 then .error .invalidPayload
    else
      match clientIp with
      | some ip => if claims.sub ≠ ip then .error .ipMismatch else .ok claims
      | none => .ok claims

end Model

variable {lib : TokenLibraries} {signingKey : Vector UInt8 32} {claims : CaptchaClaims}
  {token : List Char} {clientIp : Option (List Char)} {now : ℤ}

/-- The parts of a token. -/
theorem createToken_eq_ok_iff : createToken lib signingKey claims = .ok token ↔
    ∃ message, message = lib.armour.encode (utf8Bytes jwtHeader) ++
        '.' :: lib.armour.encode (utf8Bytes (lib.toJson claims)) ∧
      token =
        message ++ '.' :: lib.armour.encode (lib.hmac.mac signingKey (utf8Bytes message)) := by
  rw [createToken, if_pos (lib.hmac.acceptsKey_eq_true signingKey)]
  constructor
  · intro h
    exact ⟨_, rfl, (Except.ok.inj h).symm⟩
  · rintro ⟨-, rfl, rfl⟩
    rfl

/-- Creating a token succeeds. -/
theorem exists_createToken_eq_ok (lib : TokenLibraries) (signingKey : Vector UInt8 32)
    (claims : CaptchaClaims) : ∃ token, createToken lib signingKey claims = .ok token :=
  ⟨_, createToken_eq_ok_iff.mpr ⟨_, rfl, rfl⟩⟩

/-- A token has no separator of cookies, and no white space. -/
theorem isWhitespace_of_createToken (h : createToken lib signingKey claims = .ok token) :
    ∀ c ∈ token, c ≠ ';' ∧ c ≠ '=' ∧ isWhitespace c = false := by
  obtain ⟨message, rfl, rfl⟩ := createToken_eq_ok_iff.mp h
  have hpart (bytes : List UInt8) (c : Char) (hc : c ∈ lib.armour.encode bytes) :
      c ≠ ';' ∧ c ≠ '=' ∧ isWhitespace c = false :=
    (lib.armour.isArmourChar bytes c hc).2
  have hdot : '.' ≠ ';' ∧ '.' ≠ '=' ∧ isWhitespace '.' = false := by decide
  intro c hc
  simp only [List.mem_append, List.mem_cons] at hc
  rcases hc with (hc | rfl | hc) | rfl | hc
  · exact hpart _ c hc
  · exact hdot
  · exact hpart _ c hc
  · exact hdot
  · exact hpart _ c hc

/-- **A token that was created is verified**, when JSON reads back the claims. -/
theorem verifyToken_createToken (h : createToken lib signingKey claims = .ok token)
    (hjson : lib.fromJson (lib.toJson claims) = some claims) :
    verifyToken lib signingKey token = .ok claims := by
  obtain ⟨message, hmessage, rfl⟩ := createToken_eq_ok_iff.mp h
  have hdot (bytes : List UInt8) : '.' ∉ lib.armour.encode bytes := fun hmem =>
    (lib.armour.isArmourChar bytes '.' hmem).1 rfl
  have hsplit : (message ++ '.' :: lib.armour.encode (lib.hmac.mac signingKey
      (utf8Bytes message))).splitOn '.' = [lib.armour.encode (utf8Bytes jwtHeader),
        lib.armour.encode (utf8Bytes (lib.toJson claims)),
        lib.armour.encode (lib.hmac.mac signingKey (utf8Bytes message))] := by
    rw [hmessage, List.splitOn_append_cons_self, List.splitOn_append_cons_self,
      List.splitOn_eq_singleton (hdot _), List.splitOn_eq_singleton (hdot _),
      List.splitOn_eq_singleton (hdot _)]
    rfl
  have hverify := (lib.hmac.verifySlice_iff signingKey (utf8Bytes message) _).mpr rfl
  rw [verifyToken, hsplit]
  dsimp only
  rw [← hmessage, lib.armour.decode_encode, lib.armour.decode_encode]
  simp [lib.hmac.acceptsKey_eq_true, hverify, fromUtf8_utf8Bytes, hjson]

/-- The checks that a verified token passes. -/
theorem verifyAndValidate_isOk_iff (h : verifyToken lib signingKey token = .ok claims) :
    (∃ claims', verifyAndValidate lib signingKey now token clientIp = .ok claims') ↔
      now ≤ claims.exp ∧ claims.typ = "captcha_pass".toList ∧ claims.iat ≤ now + 60 ∧
        ∀ ip ∈ clientIp, claims.sub = ip := by
  rw [verifyAndValidate.eq_def, h]
  dsimp only
  split
  · next hexpired => exact iff_of_false (by simp) fun hvalid => by omega
  · next hexpired =>
    rw [and_iff_right (by omega)]
    split
    · next htyp => exact iff_of_false (by simp) fun hvalid => htyp hvalid.1
    · next htyp =>
      rw [and_iff_right (not_not.mp htyp)]
      split
      · next hiat => exact iff_of_false (by simp) fun hvalid => by omega
      · next hiat =>
        rw [and_iff_right (by omega)]
        cases clientIp with
        | none => simp
        | some ip =>
          dsimp only
          split
          · next hsub => exact iff_of_false (by simp) fun hvalid => hsub (hvalid ip rfl)
          · next hsub => exact iff_of_true ⟨_, rfl⟩ (by simpa using hsub)

end CrowdSecBouncer
