import CrowdSecBouncer.Http.Connection
import CrowdSecBouncer.Net.AddrPrint

/-!
# The answer to a solved captcha

A solved captcha is answered with a redirect that sets the session cookie, on a response that other
calls may have written to before. What the client reads from its connection leads it to the page it
came from, and the cookie it is left with opens the session until it expires, for the address it was
issued to or for any address (`solvedCaptcha_opensSession`).
-/

namespace CrowdSecBouncer

open Text HeaderBlock

/-- What a client is left with of a cookie: the pair of the last field that sets it. -/
def keptPair (name : List Char) (fields : List Field) : Option (List Char) :=
  (fields.filter fun field => eqIgnoreAsciiCase field.1 "Set-Cookie".toList &&
    cookieName? (cookiePair field.2) = some name).getLast?.map fun field => cookiePair field.2

/-- The fields that say where a redirect leads. -/
def locations (fields : List Field) : List Field :=
  fields.filter fun field => eqIgnoreAsciiCase field.1 "Location".toList

/-- The check of the callbacks lets the field through. -/
structure IsAddable (field : Field) : Prop where
  name : field.1 ≠ [] ∧ field.1.all isHeaderNameChar = true
  value : field.2 ≠ [] ∧ fitsLine field.2 = true

variable {field : Field} {headers : List Field} {s : ResponseState} {name value : List Char}

theorem isAddable_mk (hname : name ≠ [] ∧ name.all isHeaderNameChar = true)
    (hvalue : value ≠ [] ∧ fitsLine value = true) : IsAddable (name, value) :=
  ⟨hname, hvalue⟩

theorem addHeader_of_isAddable (h : IsAddable field) :
    s.addHeader field = s.addHeaderOut field.1 field.2 := by
  have hname := List.all_eq_true.mp h.name.2
  have hfits : fitsLine field.1 = true :=
    fitsLine_iff.mpr fun c hc => (isHeaderNameChar_spec (hname c hc)).2
  have hcolon : ':' ∉ field.1 := fun hmem => (isHeaderNameChar_spec (hname _ hmem)).1 rfl
  refine if_neg ?_
  simp [isSafeHeaderValue, h.name, h.value, hfits, hcolon]

/-- Nothing is dropped of fields that pass the check. -/
theorem foldl_addHeader_of_isAddable (h : ∀ field ∈ headers, IsAddable field)
    (s : ResponseState) :
    headers.foldl ResponseState.addHeader s =
      { s with out := { s.out with headers := s.out.headers ++ headers } } := by
  induction headers generalizing s with
  | nil => rw [List.foldl_nil, List.append_nil]
  | cons field headers ih =>
    obtain ⟨hfield, hheaders⟩ := List.forall_mem_cons.mp h
    rw [List.foldl_cons, addHeader_of_isAddable hfield, ih hheaders,
      ResponseState.addHeaderOut, List.append_assoc, List.singleton_append]

/-! ### The fields of the redirect -/

theorem captchaReturnUri_spec (req : ResponseRequest) :
    captchaReturnUri req ≠ [] ∧ fitsLine (captchaReturnUri req) = true ∧
      IsTrimmed (captchaReturnUri req) := by
  rw [captchaReturnUri]
  generalize req.unparsedUri.getD "/".toList = raw
  by_cases h : PassesUriChecks (trim raw)
  · rw [sanitizeReturnUri_of_passesUriChecks h]
    refine ⟨?_, fitsLine_iff.mpr fun c hc => (h.noBreaks c hc).2, isTrimmed_trim raw⟩
    intro hnil
    exact absurd (hnil ▸ h.slash) (by decide)
  · rw [sanitizeReturnUri_of_not_passesUriChecks h]
    refine ⟨by decide, by decide, ⟨?_, ?_⟩⟩
    · rintro c ⟨⟩
      decide
    · rintro c ⟨⟩
      decide

/-- A cookie with a name and a value that fit into a line does so too. -/
theorem fitsLine_buildSetCookie (hname : isCookieName name = true) (hvalue : fitsLine value = true)
    (maxAge : ℕ) (secure : Bool) :
    fitsLine (buildSetCookie name value maxAge "/".toList secure true .lax) = true := by
  have hcons : '=' :: value = ['='] ++ value := rfl
  simp only [buildSetCookie, hcons, fitsLine_append, fitsLine_of_isCookieName hname, hvalue,
    fitsLine_toDigits, fitsLine_cookieAttrSuffix, and_true, true_and]
  decide

/-- It begins with its name and ends in an attribute, so no blank is stripped. -/
theorem trimBlanks_buildSetCookie (hname : isCookieName name = true) (maxAge : ℕ) (secure : Bool) :
    trimBlanks (buildSetCookie name value maxAge "/".toList secure true .lax) =
      buildSetCookie name value maxAge "/".toList secure true .lax := by
  obtain ⟨c, rest, rfl⟩ : ∃ c rest, name = c :: rest := by
    cases name with
    | nil => exact absurd hname (by decide)
    | cons c rest => exact ⟨c, rest, rfl⟩
  refine trimBlanks_eq_self (fun c' hc' => ?_) (fun c' hc' => ?_)
  · have hc : c = c' := by simpa [buildSetCookie] using hc'
    obtain ⟨hlow, -⟩ := (isGraphic_of_isCookieName hname c List.mem_cons_self).1
    subst hc
    cases hblank : isBlank c with
    | false => rfl
    | true =>
      simp only [isBlank, Bool.or_eq_true, decide_eq_true_eq] at hblank
      rcases hblank with rfl | rfl
      · exact absurd hlow (by decide)
      · exact absurd hlow (by decide)
  · have hsuffix : (cookieAttrSuffix secure true .lax).getLast? = some 'x' := by
      cases secure <;> decide
    rw [buildSetCookie, List.getLast?_append, hsuffix] at hc'
    obtain rfl := Option.some_injective _ hc'
    decide

/-! ### The session -/

section Session

variable {lib : TokenLibraries} {config : CaptchaConfig} {clientIp : IpAddr} {now : ℤ}
  {random : Vector UInt8 16} {uri token : List Char}

/-- The name of the cookie is read from its pair. -/
theorem cookieName?_pair (hname : isCookieName name = true)
    (hvalue : ∀ c ∈ value, isWhitespace c = false) :
    cookieName? (name ++ '=' :: value) = some name := by
  have hgraphic := isGraphic_of_isCookieName hname
  have hchars : ∀ c ∈ name ++ '=' :: value, isWhitespace c = false := by
    intro c hc
    rw [List.mem_append, List.mem_cons] at hc
    rcases hc with hc | rfl | hc
    · exact (hgraphic c hc).1.isWhitespace
    · decide
    · exact hvalue c hc
  rw [cookieName?, trim_eq_self_of_not_isWhitespace hchars, splitOnce_cookiePair hname,
    Option.map_some, trim_eq_self fun c hc => (hgraphic c hc).1]

/-- A token that comes back under the name of the cookie is good until its expiry. -/
theorem captchaSessionValid_token_iff (hname : isCookieName config.cookieName.toList = true)
    (htoken : createToken lib config.signingKey (sessionClaims config clientIp now random uri) =
      .ok token)
    (hjson : lib.fromJson (lib.toJson (sessionClaims config clientIp now random uri)) =
      some (sessionClaims config clientIp now random uri))
    {lines : List CookieLine}
    (hsent : SentBack lines config.cookieName.toList (config.cookieName.toList ++ '=' :: token))
    (ip : IpAddr) {t : ℤ} (ht : now ≤ t) :
    captchaSessionValid lib config lines ip t = true ↔
      t ≤ now + config.expirySecs ∧ (config.bindIp = false ∨ ip = clientIp) := by
  rw [← IpAddr.toText_injective.eq_iff]
  have hcookie : getCookie lines config.cookieName.toList = some token :=
    getCookie_of_sentBack hname (fun c hc => (isWhitespace_of_createToken htoken c hc).2.2) hsent
  have hvalid : captchaSessionValid lib config lines ip t = true ↔
      ∃ claims, verifyAndValidate lib config.signingKey t token
        (if config.bindIp then some ip.toText else none) = .ok claims := by
    rw [captchaSessionValid, hcookie]
    dsimp only
    generalize verifyAndValidate lib config.signingKey t token _ = result
    cases result with
    | ok claims => exact iff_of_true rfl ⟨claims, rfl⟩
    | error e => exact iff_of_false (by simp) (by simp)
  have hissued : now ≤ t + 60 := by omega
  rw [hvalid, verifyAndValidate_isOk_iff (verifyToken_createToken htoken hjson)]
  refine and_congr Iff.rfl ⟨fun h => ?_, fun h => ⟨rfl, hissued, fun ip' hip' => ?_⟩⟩
  · cases hbind : config.bindIp with
    | false => exact .inl rfl
    | true =>
      have hsub := h.2.2 ip.toText (by rw [hbind]; rfl)
      simp only [sessionClaims, hbind] at hsub
      exact .inr hsub.symm
  · cases hbind : config.bindIp with
    | false => simp [hbind] at hip'
    | true =>
      obtain rfl : ip.toText = ip' := by simpa [hbind] using hip'
      simp only [sessionClaims, hbind]
      exact (h.resolve_left (by simp [hbind])).symm

end Session

/-! ### What the client gets -/

section Answer

variable {config : CaptchaConfig} {token uri : List Char}

/-- The fields of the redirect, the cookie among them. -/
def successHeaders (uri setCookie : List Char) : List Field :=
  [("Location".toList, uri), ("Set-Cookie".toList, setCookie),
   ("Content-Type".toList, "text/plain".toList),
   ("Cache-Control".toList, "no-store, no-cache, must-revalidate".toList)]

/-- The redirect, behind fields that were set before. -/
def successResponse (headers : List Field) (uri setCookie : List Char) : HeadersOut × List Char :=
  ({ status := 303, contentLengthN := some 14, headers := headers ++ successHeaders uri setCookie },
    "Redirecting...".toList)

/-- The cookie of the redirect. -/
def sessionCookie (config : CaptchaConfig) (trusted : List TrustedCidr) (req : ResponseRequest)
    (token : List Char) : List Char :=
  buildSetCookie config.cookieName.toList token config.expirySecs "/".toList
    (shouldCookieBeSecure trusted req config.cookieSecure) true .lax

/-- The redirect goes out with all of its fields. -/
theorem sendSuccessRedirect_sent (hname : isCookieName config.cookieName.toList = true)
    (htoken : fitsLine token = true) (huri : uri ≠ [] ∧ fitsLine uri = true)
    (trusted : List TrustedCidr) (req : ResponseRequest) {answer : SendAnswer}
    (hsends : answer.buffer = true ∧ answer.chainLink = true ∧ answer.header = true)
    (s : ResponseState) :
    (s.sendSuccessRedirect answer config trusted req token uri).sent =
      s.sent ++ [successResponse s.out.headers uri (sessionCookie config trusted req token)] := by
  have hne : sessionCookie config trusted req token ≠ [] := by simp [sessionCookie, buildSetCookie]
  have hcookie : fitsLine (sessionCookie config trusted req token) = true :=
    fitsLine_buildSetCookie hname htoken _ _
  have haddable : ∀ field ∈ successHeaders uri (sessionCookie config trusted req token),
      IsAddable field := by
    simp only [successHeaders, List.forall_mem_cons, List.not_mem_nil, IsEmpty.forall_iff,
      implies_true, and_true]
    exact ⟨isAddable_mk (by decide) huri, isAddable_mk (by decide) ⟨hne, hcookie⟩,
      isAddable_mk (by decide) (by decide), isAddable_mk (by decide) (by decide)⟩
  have hok : (answer.buffer && answer.chainLink && answer.header) = true := by simp [hsends]
  rw [ResponseState.sendSuccessRedirect, ResponseState.sendBufferedResponse]
  change (if _ then _ else _ : ResponseState).sent = _
  rw [if_pos hok, ← sessionCookie, ← successHeaders, foldl_addHeader_of_isAddable haddable]
  rfl

/-- A trimmed value is read as it is. -/
theorem trimBlanks_of_isTrimmed (h : IsTrimmed value) : trimBlanks value = value := by
  have hblank {c : Char} (hc : isWhitespace c = false) : isBlank c = false := by
    cases hblank : isBlank c with
    | false => rfl
    | true =>
      simp only [isBlank, Bool.or_eq_true, decide_eq_true_eq] at hblank
      rcases hblank with rfl | rfl
      · exact absurd hc (by decide)
      · exact absurd hc (by decide)
  exact trimBlanks_eq_self (fun c hc => hblank (h.head c hc)) fun c hc => hblank (h.last c hc)

/-- The fields of the redirect are read as they were set. -/
theorem map_asRead_successHeaders (hname : isCookieName config.cookieName.toList = true)
    (huri : IsTrimmed uri) (trusted : List TrustedCidr) (req : ResponseRequest) :
    (successHeaders uri (sessionCookie config trusted req token)).map Field.asRead =
      successHeaders uri (sessionCookie config trusted req token) := by
  have htext : trimBlanks "text/plain".toList = "text/plain".toList := by decide
  have hcache : trimBlanks "no-store, no-cache, must-revalidate".toList =
      "no-store, no-cache, must-revalidate".toList := by decide
  have hcookie : trimBlanks (sessionCookie config trusted req token) =
      sessionCookie config trusted req token := trimBlanks_buildSetCookie hname _ _
  simp only [successHeaders, List.map_cons, List.map_nil, Field.asRead,
    trimBlanks_of_isTrimmed huri, hcookie, htext, hcache]

theorem locations_append_successHeaders (before : List Field) (setCookie : List Char) :
    locations (before ++ successHeaders uri setCookie) =
      locations before ++ [("Location".toList, uri)] := by
  have hnames : eqIgnoreAsciiCase "Location".toList "Location".toList = true ∧
      eqIgnoreAsciiCase "Set-Cookie".toList "Location".toList = false ∧
      eqIgnoreAsciiCase "Content-Type".toList "Location".toList = false ∧
      eqIgnoreAsciiCase "Cache-Control".toList "Location".toList = false := by decide
  rw [locations, List.filter_append]
  simp only [successHeaders, List.filter_cons, hnames, List.filter_nil, Bool.false_eq_true,
    if_true, if_false]
  rfl

/-- The last field that sets the cookie is that of the redirect. -/
theorem keptPair_successHeaders (hname : isCookieName config.cookieName.toList = true)
    (htoken : ∀ c ∈ token, c ≠ ';' ∧ isWhitespace c = false) (trusted : List TrustedCidr)
    (req : ResponseRequest) (before : List Field) :
    keptPair config.cookieName.toList
        (before ++ successHeaders uri (sessionCookie config trusted req token)) =
      some (config.cookieName.toList ++ '=' :: token) := by
  have hpair : cookiePair (sessionCookie config trusted req token) =
      config.cookieName.toList ++ '=' :: token :=
    cookiePair_buildSetCookie hname (fun hmem => (htoken ';' hmem).1 rfl) _ _ _ _ _
  have hkept := cookieName?_pair hname fun c hc => (htoken c hc).2
  have hnames : eqIgnoreAsciiCase "Location".toList "Set-Cookie".toList = false ∧
      eqIgnoreAsciiCase "Set-Cookie".toList "Set-Cookie".toList = true ∧
      eqIgnoreAsciiCase "Content-Type".toList "Set-Cookie".toList = false ∧
      eqIgnoreAsciiCase "Cache-Control".toList "Set-Cookie".toList = false := by decide
  rw [keptPair, List.filter_append]
  simp only [successHeaders, List.filter_cons, hnames, hpair, hkept, List.filter_nil,
    Bool.false_and, Bool.true_and, decide_true, if_true, Bool.false_eq_true, if_false]
  rw [List.getLast?_concat, Option.map_some, hpair]

end Answer

/-- **A solved captcha opens a session.** Whatever was called for the request before, the client
reads a redirect to where it came from, and the cookie it is left with is good until its expiry, at
the address it was issued to or at any address. The redirect's `Location` is the last one, and the
only one when none of the calls before appends one, as a redirect of a ban does that is then not
sent. -/
theorem solvedCaptcha_opensSession (lib : TokenLibraries) (fromU16 : ℕ → Option ℕ)
    (trusted : List TrustedCidr) {own : HeadersOut → OwnPart}
    {write : HeadersOut × List Char → List Char} (hwrites : WritesResponses own write)
    {fromFile : List Char → Except (List Char) Template} {loc : LocConfig}
    (hloc : Configured fromFile loc) (htemplate : ∀ template ∈ loc.banTemplate,
      ∃ extension, template.contentType.toList = Pages.contentTypeFromExtension extension)
    {config : CaptchaConfig} (hconfig : loc.captchaConfig = some config)
    (hcaptcha : loc.captchaTemplate.isSome = true) (req : ResponseRequest) (clientIp : IpAddr)
    (calls : List (ResponseCall × SendAnswer)) (now : ℤ) (random : Vector UInt8 16)
    (hjson : lib.fromJson (lib.toJson
        (sessionClaims config clientIp now random (captchaReturnUri req))) =
      some (sessionClaims config clientIp now random (captchaReturnUri req)))
    (answer : SendAnswer)
    (hsends : answer.buffer = true ∧ answer.chainLink = true ∧ answer.header = true)
    (rest : List Char) :
    let before := ResponseCall.runAll lib fromU16 loc trusted req clientIp calls {}
    let after := (ResponseCall.captchaSolved now random).run lib fromU16 loc trusted req clientIp
      answer before
    ∃ r m pair, after.sent = before.sent ++ [r] ∧
      readMessage false (write r ++ rest) = some (m, rest) ∧
      m.start = (own r.1).start ∧ statusOf m.start = some 303 ∧
      (locations m.fields).getLast? = some ("Location".toList, captchaReturnUri req) ∧
      ((∀ call ∈ calls, ∀ name ∈ call.1.fieldNames,
          eqIgnoreAsciiCase name "Location".toList = false) →
        locations m.fields = [("Location".toList, captchaReturnUri req)]) ∧
      keptPair config.cookieName.toList m.fields = some pair ∧
      ∀ lines ip t, SentBack lines config.cookieName.toList pair → now ≤ t →
        (captchaSessionValid lib config lines ip t = true ↔
          t ≤ now + config.expirySecs ∧ (config.bindIp = false ∨ ip = clientIp)) := by
  intro before after
  have hname : isCookieName config.cookieName.toList = true :=
    ((wellFormed_of_configured hloc).toAccepted.captchaConfig hconfig).2.2
  obtain ⟨template, hcaptcha⟩ := Option.isSome_iff_exists.mp hcaptcha
  obtain ⟨token, htoken⟩ := exists_createToken_eq_ok lib config.signingKey
    (sessionClaims config clientIp now random (captchaReturnUri req))
  have hchars := isWhitespace_of_createToken htoken
  have hline : fitsLine token = true := fitsLine_iff.mpr fun c hc => by
    constructor
    · rintro rfl
      exact absurd (hchars _ hc).2.2 (by decide)
    · rintro rfl
      exact absurd (hchars _ hc).2.2 (by decide)
  obtain ⟨hne, hfits, htrimmed⟩ := captchaReturnUri_spec req
  have hafter : after =
      before.sendSuccessRedirect answer config trusted req token (captchaReturnUri req) := by
    change ResponseCall.run lib fromU16 loc trusted req clientIp answer before _ = _
    rw [ResponseCall.run, hconfig, hcaptcha]
    dsimp only
    rw [ResponseState.answerSolved, htoken]
  have hsent := sendSuccessRedirect_sent hname hline ⟨hne, hfits⟩ trusted req hsends before
  rw [← hafter] at hsent
  -- what was sent fits its format, so it is read as it was written
  have hframed : after.WellFramed :=
    (wellFramed_runAll (headerSafe_of_configured hloc htemplate) calls wellFramed_empty).run
      (headerSafe_of_configured hloc htemplate) answer _
  generalize hr : successResponse before.out.headers (captchaReturnUri req)
    (sessionCookie config trusted req token) = r at hsent
  have hstatus : r.1.status = 303 := by rw [← hr]; rfl
  have hbody : goesWithBody r.1.status = true := by rw [hstatus]; decide
  have hmessage := hframed.isMessage hwrites (by rw [hsent]; simp) hbody
  generalize hfront : ((own r.1).before ++ [("Content-Length".toList, Nat.toDigits 10 14)] ++
    (own r.1).behind ++ before.out.headers).map Field.asRead = front
  have hfields : (HeadersOut.message (own r.1) r).asRead.fields =
      front ++ successHeaders (captchaReturnUri req) (sessionCookie config trusted req token) := by
    rw [← hfront, ← map_asRead_successHeaders hname htrimmed, ← List.map_append, List.append_assoc,
      ← hr]
    rfl
  -- nothing leads elsewhere that nginx or the calls before have put into the header
  have hlocations : (∀ call ∈ calls, ∀ name ∈ call.1.fieldNames,
      eqIgnoreAsciiCase name "Location".toList = false) → locations front = [] := by
    intro hcalls
    have hown := List.forall_mem_append.mp (hwrites.location r.1)
    have hlength : eqIgnoreAsciiCase "Content-Length".toList "Location".toList = false := by decide
    refine List.filter_eq_nil_iff.mpr fun read hread => ?_
    rw [← hfront] at hread
    obtain ⟨field, hmem, rfl⟩ := List.mem_map.mp hread
    rw [Bool.not_eq_true]
    rcases List.mem_append.mp hmem with hmem | hmem
    · rcases List.mem_append.mp hmem with hmem | hmem
      · rcases List.mem_append.mp hmem with hmem | hmem
        · exact hown.1 field hmem
        · rw [List.mem_singleton.mp hmem]
          exact hlength
      · exact hown.2 field hmem
    · rcases ResponseCall.name_runAll calls {} hmem with hmem | ⟨call, hcall, hmem⟩
      · exact absurd hmem List.not_mem_nil
      · exact hcalls call hcall field.1 hmem
  refine ⟨r, (HeadersOut.message (own r.1) r).asRead, config.cookieName.toList ++ '=' :: token,
    hsent, ?_, rfl, ?_, ?_, fun hcalls => ?_, ?_,
    fun lines ip t hback ht => captchaSessionValid_token_iff hname htoken hjson hback ip ht⟩
  · rw [hwrites.write r hbody]
    exact readMessage_writeMessage hmessage rest
  · exact (hwrites.status r.1 hbody).trans (congrArg some hstatus)
  · rw [hfields, locations_append_successHeaders, List.getLast?_concat]
  · rw [hfields, locations_append_successHeaders, hlocations hcalls, List.nil_append]
  · rw [hfields]
    exact keptPair_successHeaders hname (fun c hc => ⟨(hchars c hc).1, (hchars c hc).2.2⟩) ..

/-! ### One captcha -/

/-- A location with a captcha. -/
def exampleCaptchaLocation : Option LocConfig := configure exampleFile
  [["crowdsec_captcha_provider", "turnstile"], ["crowdsec_captcha_site_key", "site"],
   ["crowdsec_captcha_secret_key", "secret"],
   ["crowdsec_captcha_signing_key",
    "0102030405060708090a0b0c0d0e0f101112131415161718191a1b1c1d1e1f20"],
   ["crowdsec_captcha_template", "captcha.html"]]

/-- A request with a stale cookie, which was cleared in the response before. -/
theorem solvedCaptcha_opensSession_exampleCaptcha :
    let answer : SendAnswer := ⟨true, true, true, false⟩
    let req := { exampleResponseRequest with
      cookies := [⟨1, some "crowdsec_captcha=old".toList⟩] }
    ∃ loc, exampleCaptchaLocation = some loc ∧
      ∃ r m pair, ((ResponseCall.captchaSolved 1700000000 (Vector.ofFn fun i => UInt8.ofNat i)).run
          exampleLibraries some loc [] req (.v4 (u32ToBeBytes 0xC0000201)) answer
          (ResponseCall.runAll exampleLibraries some loc [] req (.v4 (u32ToBeBytes 0xC0000201))
            [(.clearStaleCookie, answer)] {})).sent = [r] ∧
        readMessage false (writeMessage (HeadersOut.message (exampleOwnPart r.1) r)) =
          some (m, []) ∧
        locations m.fields = [("Location".toList, "/".toList)] ∧
        keptPair "crowdsec_captcha".toList m.fields = some pair ∧
        ∀ lines, SentBack lines "crowdsec_captcha".toList pair →
          captchaSessionValid exampleLibraries exampleCaptchaConfig lines
              (.v4 (u32ToBeBytes 0xC0000201)) 1700003600 = true ∧
            captchaSessionValid exampleLibraries exampleCaptchaConfig lines
              (.v4 (u32ToBeBytes 0xC0000201)) 1700003601 = false := by
  intro answer req
  have hsettings : (exampleCaptchaLocation.map fun loc =>
      (loc.captchaConfig, loc.captchaTemplate.isSome, loc.banTemplate)) =
        some (some exampleCaptchaConfig, true, none) := by decide +kernel
  obtain ⟨loc, hloc, hsettings⟩ := Option.map_eq_some_iff.mp hsettings
  obtain ⟨hconfig, hrest⟩ := Prod.mk.inj hsettings
  obtain ⟨hcaptcha, hban⟩ := Prod.mk.inj hrest
  obtain ⟨r, m, pair, hsent, hread, -, -, -, honly, hkept, hvalid⟩ :=
    solvedCaptcha_opensSession exampleLibraries some [] writesResponses_exampleOwnPart
      (configured_of_configure hloc)
      (by rw [hban]; exact nofun) hconfig hcaptcha req (.v4 (u32ToBeBytes 0xC0000201))
      [(.clearStaleCookie, answer)] 1700000000 (Vector.ofFn fun i => UInt8.ofNat i)
      (by decide +kernel) answer (by decide) []
  have hbefore : (ResponseCall.runAll exampleLibraries some loc [] req
      (.v4 (u32ToBeBytes 0xC0000201)) [(.clearStaleCookie, answer)] {}).sent = [] := by
    rw [ResponseCall.runAll, List.foldl_cons, List.foldl_nil, ResponseCall.run,
      ResponseState.maybeClearStaleCaptchaCookie]
    split <;> rfl
  have huri : captchaReturnUri req = "/".toList := by decide +kernel
  have hnames : ∀ call ∈ [(ResponseCall.clearStaleCookie, answer)], ∀ name ∈ call.1.fieldNames,
      eqIgnoreAsciiCase name "Location".toList = false :=
    List.forall_mem_singleton.mpr (List.forall_mem_singleton.mpr (by decide))
  rw [huri] at honly
  refine ⟨loc, hloc, r, m, pair, by rw [hsent, hbefore, List.nil_append],
    by rwa [List.append_nil] at hread, honly hnames, hkept, fun lines hback => ⟨?_, ?_⟩⟩
  · exact (hvalid lines _ _ hback (by decide)).mpr ⟨by decide, .inr rfl⟩
  · rw [← Bool.not_eq_true, hvalid lines _ _ hback (by decide)]
    exact fun h => absurd h.1 (by decide)

end CrowdSecBouncer
