import CrowdSecBouncer.Captcha.Cookie
import CrowdSecBouncer.Captcha.Token
import CrowdSecBouncer.Http.Config
import CrowdSecBouncer.Net.AddrText

/-!
# Captcha sessions

A client that has solved a captcha gets a token in a cookie, and as long as it sends the cookie
back it is not challenged again. The round trip goes through both halves of the code: claims,
JSON, signing and `Set-Cookie` on the way out, the cookie lines, the token's parts and the checks
of its claims on the way in. `captchaSessionValid_iff` says that a session holds until its expiry,
for the address it was issued to or for any address.
-/

namespace CrowdSecBouncer

open Text

section Model

variable (lib : TokenLibraries) (config : CaptchaConfig)

/-- True if the request has a valid captcha session cookie. -/
def captchaSessionValid (lines : List CookieLine) (clientIp : IpAddr) (now : ℤ) : Bool :=
  match getCookie lines config.cookieName.toList with
  | none => false
  | some token =>
    let ipToCheck := if config.bindIp then some clientIp.toText else none
    match verifyAndValidate lib config.signingKey now token ipToCheck with
    | .ok _ => true
    | .error _ => false

/-- The claims for a client that has solved a captcha. -/
def sessionClaims (clientIp : IpAddr) (now : ℤ) (random : Vector UInt8 16) (uri : List Char) :
    CaptchaClaims :=
  .new now random (if config.bindIp then some clientIp.toText else none) config.expirySecs
    (some uri)

/-- `complete_verification` after a success: the `Set-Cookie` header of `send_success_redirect`. -/
def issueSession (clientIp : IpAddr) (now : ℤ) (random : Vector UInt8 16) (uri : List Char)
    (isSecure : Bool) : Except JwtError (List Char) :=
  match createToken lib config.signingKey (sessionClaims config clientIp now random uri) with
  | .ok token =>
    .ok (buildSetCookie config.cookieName.toList token config.expirySecs "/".toList isSecure true
      .lax)
  | .error e => .error e

end Model

section Issued

variable {lib : TokenLibraries} {config : CaptchaConfig} {issuedTo : IpAddr} {t₀ : ℤ}
  {random : Vector UInt8 16} {uri setCookie : List Char} {isSecure : Bool}

/-- A session is issued as a token. -/
theorem issueSession_eq_ok (hname : isCookieName config.cookieName.toList = true)
    (h : issueSession lib config issuedTo t₀ random uri isSecure = .ok setCookie) :
    ∃ token, createToken lib config.signingKey (sessionClaims config issuedTo t₀ random uri) =
        .ok token ∧ cookiePair setCookie = config.cookieName.toList ++ '=' :: token := by
  obtain ⟨token, htoken⟩ := exists_createToken_eq_ok lib config.signingKey
    (sessionClaims config issuedTo t₀ random uri)
  rw [issueSession, htoken] at h
  obtain rfl := Except.ok.inj h
  have hvalue : ';' ∉ token := fun hmem => (isWhitespace_of_createToken htoken ';' hmem).1 rfl
  exact ⟨token, htoken, cookiePair_buildSetCookie hname hvalue ..⟩

/-- The client of a new session sends its cookie back when it has no other. -/
theorem sentBack_of_issueSession (hname : isCookieName config.cookieName.toList = true)
    (h : issueSession lib config issuedTo t₀ random uri isSecure = .ok setCookie) :
    SentBack [⟨1, some (cookiePair setCookie)⟩] config.cookieName.toList
      (cookiePair setCookie) := by
  obtain ⟨token, htoken, hpair⟩ := issueSession_eq_ok hname h
  have hchars := isWhitespace_of_createToken htoken
  rw [hpair]
  exact sentBack_singleton hname fun c hc => ⟨(hchars c hc).1, (hchars c hc).2.2⟩

end Issued

/-- **The captcha session round trip.** A session can be issued, and a request that sends its
cookie back is in the session until it expires, when it comes from the address that the session
is bound to. -/
theorem captchaSessionValid_iff (lib : TokenLibraries) (config : CaptchaConfig)
    (hname : isCookieName config.cookieName.toList = true) (issuedTo : IpAddr) (t₀ : ℤ)
    (random : Vector UInt8 16) (uri : List Char)
    (hjson : lib.fromJson (lib.toJson (sessionClaims config issuedTo t₀ random uri)) =
      some (sessionClaims config issuedTo t₀ random uri)) (isSecure : Bool) :
    ∃ setCookie, issueSession lib config issuedTo t₀ random uri isSecure = .ok setCookie ∧
      ∀ lines clientIp t, SentBack lines config.cookieName.toList (cookiePair setCookie) → t₀ ≤ t →
        (captchaSessionValid lib config lines clientIp t = true ↔
          t ≤ t₀ + config.expirySecs ∧
            (config.bindIp = false ∨ clientIp.toText = issuedTo.toText)) := by
  have hsuccess : ∃ setCookie,
      issueSession lib config issuedTo t₀ random uri isSecure = .ok setCookie := by
    obtain ⟨token, htoken⟩ := exists_createToken_eq_ok lib config.signingKey
      (sessionClaims config issuedTo t₀ random uri)
    rw [issueSession, htoken]
    exact ⟨_, rfl⟩
  obtain ⟨setCookie, hissue⟩ := hsuccess
  refine ⟨setCookie, hissue, fun lines clientIp t hsent ht => ?_⟩
  obtain ⟨token, htoken, hpair⟩ := issueSession_eq_ok hname hissue
  -- a token has no blank and no semicolon, so it comes back whole
  have hchars := isWhitespace_of_createToken htoken
  rw [hpair] at hsent
  have hcookie : getCookie lines config.cookieName.toList = some token :=
    getCookie_of_sentBack hname (fun c hc => (hchars c hc).2.2) hsent
  have hverify := verifyToken_createToken htoken hjson
  have hvalid : captchaSessionValid lib config lines clientIp t = true ↔
      ∃ claims, verifyAndValidate lib config.signingKey t token
        (if config.bindIp then some clientIp.toText else none) = .ok claims := by
    rw [captchaSessionValid, hcookie]
    dsimp only
    split
    · next claims hok => exact iff_of_true rfl ⟨claims, hok⟩
    · next e herror => exact iff_of_false (by simp) (by simp [herror])
  rw [hvalid, verifyAndValidate_isOk_iff hverify]
  refine and_congr_right fun _ => ?_
  have htyp : (sessionClaims config issuedTo t₀ random uri).typ = "captcha_pass".toList := rfl
  have hiat : (sessionClaims config issuedTo t₀ random uri).iat ≤ t + 60 := by
    change t₀ ≤ t + 60
    omega
  rw [and_iff_right htyp, and_iff_right hiat]
  cases hbind : config.bindIp with
  | false => simp
  | true =>
    have hsub : (sessionClaims config issuedTo t₀ random uri).sub = issuedTo.toText := by
      rw [sessionClaims, hbind]
      rfl
    rw [hsub]
    simp [eq_comm]

/-! ### One session -/

/-- The libraries as they behave on the session below. -/
def exampleLibraries : TokenLibraries where
  armour := base64Url
  hmac :=
    { acceptsKey := fun _ => true
      mac := fun _ _ =>
        [145, 130, 103, 153, 249, 62, 246, 39, 131, 41, 146, 22, 120, 183, 156, 238, 88, 43, 24,
          153, 173, 59, 44, 96, 22, 170, 152, 77, 47, 171, 81, 133]
      verifySlice := fun _ _ tag => tag ==
        [145, 130, 103, 153, 249, 62, 246, 39, 131, 41, 146, 22, 120, 183, 156, 238, 88, 43, 24,
          153, 173, 59, 44, 96, 22, 170, 152, 77, 47, 171, 81, 133]
      acceptsKey_eq_true := fun _ => rfl
      verifySlice_iff := fun _ _ _ => beq_iff_eq }
  toJson := fun _ => ("\x7b\"sub\":\"192.0.2.1\",\"iat\":1700000000,\"exp\":1700003600," ++
    "\"typ\":\"captcha_pass\",\"uri\":\"/\",\"nonce\":\"000102030405060708090a0b0c0d0e0f\"\x7d").toList
  fromJson := fun _ => some
    ⟨"192.0.2.1".toList, 1700000000, 1700003600, "captcha_pass".toList, some "/".toList,
      "000102030405060708090a0b0c0d0e0f".toList⟩

def exampleCaptchaConfig : CaptchaConfig where
  provider := .turnstile
  siteKey := "site"
  secretKey := "secret"
  signingKey := Vector.ofFn fun i => UInt8.ofNat (i + 1)
  cookieName := "crowdsec_captcha"
  expirySecs := 3600
  failOpen := true
  bindIp := true
  cookieSecure := .auto

theorem captchaSessionValid_iff_exampleSession :
    ∃ setCookie, issueSession exampleLibraries exampleCaptchaConfig
        (.v4 (u32ToBeBytes 0xC0000201)) 1700000000 (Vector.ofFn fun i => UInt8.ofNat i) "/".toList
          true = .ok setCookie ∧
      captchaSessionValid exampleLibraries exampleCaptchaConfig
        [⟨1, some (cookiePair setCookie)⟩] (.v4 (u32ToBeBytes 0xC0000201)) 1700003600 = true ∧
      captchaSessionValid exampleLibraries exampleCaptchaConfig
        [⟨1, some (cookiePair setCookie)⟩] (.v4 (u32ToBeBytes 0xC0000201)) 1700003601 = false ∧
      captchaSessionValid exampleLibraries exampleCaptchaConfig
        [⟨1, some (cookiePair setCookie)⟩] (.v4 (u32ToBeBytes 0xC0000202)) 1700003600 = false := by
  have hname : isCookieName exampleCaptchaConfig.cookieName.toList = true := by decide
  obtain ⟨setCookie, hissue, hvalid⟩ := captchaSessionValid_iff exampleLibraries
    exampleCaptchaConfig hname (.v4 (u32ToBeBytes 0xC0000201)) 1700000000
      (Vector.ofFn fun i => UInt8.ofNat i) "/".toList (by decide +kernel) true
  have hsent := sentBack_of_issueSession hname hissue
  refine ⟨setCookie, hissue, ?_, ?_, ?_⟩
  · exact (hvalid _ _ _ hsent (by decide)).mpr ⟨by decide, .inr rfl⟩
  · rw [← Bool.not_eq_true, hvalid _ _ _ hsent (by decide)]
    exact fun h => absurd h.1 (by decide)
  · rw [← Bool.not_eq_true, hvalid _ _ _ hsent (by decide)]
    exact fun h => absurd h.2 (by decide +kernel)

end CrowdSecBouncer
