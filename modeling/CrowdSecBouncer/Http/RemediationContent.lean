import CrowdSecBouncer.Http.Connection
import CrowdSecBouncer.Http.Remediation

/-!
# Remediations and their responses

The remediation of a request together with what its responses hold. Without the contents it is the
remediation of `Http/Remediation` (`forget_applyLookupRemediation`); with them it can be said what a
client gets to see: nothing where the request is let through, a refusal under a ban, a refusal or a
challenge under a captcha (`applyLookupRemediation_sends`).
-/

namespace CrowdSecBouncer

open Text HeaderBlock

/-- A request and its response. -/
structure ServedRequest where
  request : RequestState
  response : ResponseState

namespace ServedRequest

section Model

variable (fromU16 : ℕ → Option ℕ) (hreq : HttpRequest) (req : ResponseRequest) (loc : LocConfig)
  (main : MainConfig) (a : Answers) (trusted : List TrustedCidr) (clientIp : IpAddr)
  (lookup : LookupResult) (scenarios : List (List UInt8))

/-- One attempt to send a response; a success finalizes the request. -/
def attempt (send : SendAnswer → ResponseState → Bool × ResponseState) (s : ServedRequest) :
    Bool × ServedRequest :=
  let sent := send (a.send s.request.sends) s.response
  (sent.1,
    { request := { s.request with
        sends := s.request.sends + 1, finalized := s.request.finalized || sent.1 }
      response := sent.2 })

def banBlockStatus : ℕ := (fromU16 loc.banStatusCode).getD HTTP_FORBIDDEN

def finishBlockBan (s : ServedRequest) : HandlerResult × ServedRequest :=
  match s.attempt a fun answer response =>
      response.sendEmptyResponse answer (banBlockStatus fromU16 loc) with
  | (true, s) => (.done, s)
  | (false, s) =>
    (if banBlockStatus fromU16 loc = HTTP_FORBIDDEN then .forbidden else .error, s)

def applyUnenforceableAction (s : ServedRequest) : HandlerResult × ServedRequest :=
  match loc.unenforceableActionOrDefault with
  | .allow => (.declined, s)
  | .block => finishBlockBan fromU16 loc a s

def recordDropped (s : ServedRequest) : ServedRequest :=
  { s with request := s.request.recordDropped }

/-- `MOVED_TEMPORARILY` stands for a code that is none. -/
def tryBanRedirect (s : ServedRequest) : Bool × ServedRequest :=
  if loc.banAction = some .redirect then
    match loc.banRedirectUrl with
    | some url => s.attempt a fun answer response =>
      response.sendBanRedirect answer url.toList
        ((fromU16 (loc.banRedirectCode.getD 302)).getD 302)
    | none => (false, s)
  else (false, s)

/-- The response of a ban that is no redirect: a page, or an empty one. -/
def banResponse (answer : SendAnswer) (response : ResponseState) : Bool × ResponseState :=
  match loc.banTemplate with
  | some template => response.sendBanResponse answer template (banBlockStatus fromU16 loc) req
      clientIp lookup scenarios
  | none => response.sendEmptyResponse answer (banBlockStatus fromU16 loc)

/-- `handle_ban_decision` past the redirect. -/
def sendBan (s : ServedRequest) : HandlerResult × ServedRequest :=
  if isStaticAssetRequest hreq loc then finishBlockBan fromU16 loc a s.recordDropped
  else
    match s.attempt a (banResponse fromU16 req loc clientIp lookup scenarios) with
    | (true, s) => (.done, s.recordDropped)
    | (false, s) => applyUnenforceableAction fromU16 loc a s

def handleBanDecision (s : ServedRequest) : HandlerResult × ServedRequest :=
  match tryBanRedirect fromU16 loc a s with
  | (true, s) => (.done, s.recordDropped)
  | (false, s) => sendBan fromU16 hreq req loc a clientIp lookup scenarios s

/-! ### Captcha decisions -/

def trySendCaptchaPage (config : CaptchaConfig) (errorMessage : Option (List Char))
    (s : ServedRequest) : HandlerResult × ServedRequest :=
  match loc.captchaTemplate with
  | none => applyUnenforceableAction fromU16 loc a s
  | some template =>
    match s.attempt a fun answer response =>
        response.sendCaptchaPage answer config template req clientIp errorMessage with
    | (true, s) => (.done, s)
    | (false, s) => applyUnenforceableAction fromU16 loc a s

def handleCaptchaPost (config : CaptchaConfig) (s : ServedRequest) :
    HandlerResult × ServedRequest :=
  if !hreq.isFormUrlencoded then
    trySendCaptchaPage fromU16 req loc a clientIp config (some "Invalid request format".toList) s
  else if !hreq.isBodySizeAcceptable then
    trySendCaptchaPage fromU16 req loc a clientIp config (some "Request too large".toList) s
  else if loc.captchaTemplate.isNone then applyUnenforceableAction fromU16 loc a s
  else
    match initiateCaptchaRead a config clientIp s.request with
    | (.error, request) => applyUnenforceableAction fromU16 loc a { s with request }
    | (result, request) => (result, { s with request })

def challengePage (config : CaptchaConfig) (s : ServedRequest) : HandlerResult × ServedRequest :=
  match trySendCaptchaPage fromU16 req loc a clientIp config none s with
  | (.done, s) => (.done, s.recordDropped)
  | (result, s) => (result, s)

def captchaChallenge (config : CaptchaConfig) (s : ServedRequest) :
    HandlerResult × ServedRequest :=
  match hreq.method with
  | .post =>
    if loc.captchaTemplate.isNone then applyUnenforceableAction fromU16 loc a s
    else handleCaptchaPost fromU16 hreq req loc a clientIp config s.recordDropped
  | .get | .head | .other => challengePage fromU16 req loc a clientIp config s

def handleCaptchaDecision (s : ServedRequest) : HandlerResult × ServedRequest :=
  match s.request.ctx.resumeCaptcha with
  | some result => (result, s)
  | none =>
    if isStaticAssetRequest hreq loc then
      match s.attempt a fun answer response => response.sendEmptyResponse answer 200 with
      | (true, s) => (.done, s)
      | (false, s) => applyUnenforceableAction fromU16 loc a s
    else
      match loc.captchaConfig with
      | none => applyUnenforceableAction fromU16 loc a s
      | some config =>
        if a.sessionValid then (.declined, s)
        else captchaChallenge fromU16 hreq req loc a clientIp config s

/-! ### Any decision -/

def handleUnknownDecision (s : ServedRequest) : HandlerResult × ServedRequest :=
  match main.fallbackRemediationOrDefault with
  | .allow => (.declined, s)
  | .ban => handleBanDecision fromU16 hreq req loc a clientIp lookup scenarios s
  | .captcha => handleCaptchaDecision fromU16 hreq req loc a clientIp s

def applyLookupRemediation (s : ServedRequest) : HandlerResult × ServedRequest :=
  let s := { s with request := { s.request with remediated := true } }
  if !lookup.found then
    (.declined, { s with response := s.response.maybeClearStaleCaptchaCookie loc trusted req })
  else
    match lookup.decisionType with
    | .ban => handleBanDecision fromU16 hreq req loc a clientIp lookup scenarios s
    | .captcha => handleCaptchaDecision fromU16 hreq req loc a clientIp s
    | .unknown =>
      handleUnknownDecision fromU16 hreq req loc main a clientIp lookup scenarios s

end Model

/-! ### Without the contents -/

/-- The result and the request. -/
def forget (out : HandlerResult × ServedRequest) : HandlerResult × RequestState :=
  (out.1, out.2.request)

variable {fromU16 : ℕ → Option ℕ} {hreq : HttpRequest} {req : ResponseRequest} {loc : LocConfig}
  {main : MainConfig} {a : Answers} {trusted : List TrustedCidr} {clientIp : IpAddr}
  {lookup : LookupResult} {scenarios : List (List UInt8)} {s : ServedRequest}

/-- What is in a response makes no difference to whether it can be sent. -/
theorem attempt_cases {send : SendAnswer → ResponseState → Bool × ResponseState}
    {headerFailure : HeaderFailureAction} (a : Answers) (s : ServedRequest)
    (hsend : ∀ answer response, (send answer response).1 = answer.ok headerFailure) :
    (∃ t, s.attempt a send = (true, t) ∧
        sendResponse a s.request headerFailure = (true, t.request)) ∨
      ∃ t, s.attempt a send = (false, t) ∧
        sendResponse a s.request headerFailure = (false, t.request) := by
  have hok := hsend (a.send s.request.sends) s.response
  rw [attempt, sendResponse, ← hok]
  cases (send (a.send s.request.sends) s.response).1 with
  | false => exact .inr ⟨_, rfl, rfl⟩
  | true => exact .inl ⟨_, rfl, rfl⟩

theorem sendEmptyResponse_fst (answer : SendAnswer) (status : ℕ) (response : ResponseState) :
    (response.sendEmptyResponse answer status).1 = answer.ok .finalize :=
  ResponseState.sendBody_fst ..

theorem sendCaptchaPage_fst (answer : SendAnswer) (config : CaptchaConfig) (template : Template)
    (req : ResponseRequest) (clientIp : IpAddr) (errorMessage : Option (List Char))
    (response : ResponseState) :
    (response.sendCaptchaPage answer config template req clientIp errorMessage).1 =
      answer.ok .headOrError :=
  ResponseState.sendBody_fst ..

theorem banBlockStatus_eq (hfrom : KnowsCodes fromU16) (loc : LocConfig) :
    banBlockStatus fromU16 loc = CrowdSecBouncer.banBlockStatus loc := by
  obtain ⟨hlow, hhigh⟩ := banStatusCode_range loc
  rw [banBlockStatus, hfrom _ (by omega) hhigh]
  rfl

theorem forget_finishBlockBan (hfrom : KnowsCodes fromU16) (s : ServedRequest) :
    forget (finishBlockBan fromU16 loc a s) = CrowdSecBouncer.finishBlockBan loc a s.request := by
  rw [finishBlockBan, CrowdSecBouncer.finishBlockBan, banBlockStatus_eq hfrom]
  obtain ⟨t, ht, ht'⟩ | ⟨t, ht, ht'⟩ := attempt_cases a s
    fun answer response =>
      sendEmptyResponse_fst answer (CrowdSecBouncer.banBlockStatus loc) response
  · rw [ht, ht']
    rfl
  · rw [ht, ht']
    rfl

theorem forget_applyUnenforceableAction (hfrom : KnowsCodes fromU16) (s : ServedRequest) :
    forget (applyUnenforceableAction fromU16 loc a s) =
      CrowdSecBouncer.applyUnenforceableAction loc a s.request := by
  rw [applyUnenforceableAction, CrowdSecBouncer.applyUnenforceableAction]
  cases loc.unenforceableActionOrDefault with
  | allow => rfl
  | block => exact forget_finishBlockBan hfrom s

variable (fromU16 a) in
/-- A redirect is tried in the same cases. -/
theorem forget_tryBanRedirect (s : ServedRequest) :
    (∃ t, tryBanRedirect fromU16 loc a s = (true, t) ∧
        CrowdSecBouncer.tryBanRedirect loc a s.request = (true, t.request)) ∨
      ∃ t, tryBanRedirect fromU16 loc a s = (false, t) ∧
        CrowdSecBouncer.tryBanRedirect loc a s.request = (false, t.request) := by
  rw [tryBanRedirect, CrowdSecBouncer.tryBanRedirect]
  by_cases haction : loc.banAction = some .redirect
  · rw [if_pos haction]
    cases loc.banRedirectUrl with
    | none => exact .inr ⟨s, rfl, if_neg (by simp)⟩
    | some url =>
      rw [if_pos ⟨haction, rfl⟩]
      exact attempt_cases a s fun answer response => ResponseState.sendBody_fst ..
  · rw [if_neg haction, if_neg fun h => haction h.1]
    exact .inr ⟨s, rfl, rfl⟩

variable (fromU16 req loc clientIp lookup scenarios) in
theorem banResponse_fst (answer : SendAnswer) (response : ResponseState) :
    (banResponse fromU16 req loc clientIp lookup scenarios answer response).1 =
      answer.ok (if loc.banTemplate.isSome then .headOrError else .finalize) := by
  rw [banResponse]
  cases loc.banTemplate with
  | none => exact sendEmptyResponse_fst ..
  | some template => exact ResponseState.sendBody_fst ..

theorem forget_sendBan (hfrom : KnowsCodes fromU16) (s : ServedRequest) :
    forget (sendBan fromU16 hreq req loc a clientIp lookup scenarios s) =
      CrowdSecBouncer.sendBan hreq loc a s.request := by
  rw [sendBan, CrowdSecBouncer.sendBan]
  split
  · exact forget_finishBlockBan hfrom s.recordDropped
  · obtain ⟨t, ht, ht'⟩ | ⟨t, ht, ht'⟩ := attempt_cases a s
      (banResponse_fst fromU16 req loc clientIp lookup scenarios)
    · rw [ht, ht']
      rfl
    · rw [ht, ht']
      exact forget_applyUnenforceableAction hfrom t

theorem forget_handleBanDecision (hfrom : KnowsCodes fromU16) (s : ServedRequest) :
    forget (handleBanDecision fromU16 hreq req loc a clientIp lookup scenarios s) =
      CrowdSecBouncer.handleBanDecision hreq loc a s.request := by
  rw [handleBanDecision, CrowdSecBouncer.handleBanDecision]
  obtain ⟨t, ht, ht'⟩ | ⟨t, ht, ht'⟩ := forget_tryBanRedirect fromU16 a s
  · rw [ht, ht']
    rfl
  · rw [ht, ht']
    exact forget_sendBan hfrom t

variable (req clientIp) in
theorem forget_trySendCaptchaPage (hfrom : KnowsCodes fromU16) (config : CaptchaConfig)
    (errorMessage : Option (List Char)) (s : ServedRequest) :
    forget (trySendCaptchaPage fromU16 req loc a clientIp config errorMessage s) =
      CrowdSecBouncer.trySendCaptchaPage loc a s.request := by
  rw [trySendCaptchaPage, CrowdSecBouncer.trySendCaptchaPage]
  cases loc.captchaTemplate with
  | none => exact forget_applyUnenforceableAction hfrom s
  | some template =>
    rw [if_neg (by simp)]
    dsimp only
    obtain ⟨t, ht, ht'⟩ | ⟨t, ht, ht'⟩ := attempt_cases a s fun answer response =>
      sendCaptchaPage_fst answer config template req clientIp errorMessage response
    · rw [ht, ht']
      rfl
    · rw [ht, ht']
      exact forget_applyUnenforceableAction hfrom t

theorem forget_handleCaptchaPost (hfrom : KnowsCodes fromU16) (config : CaptchaConfig)
    (s : ServedRequest) :
    forget (handleCaptchaPost fromU16 hreq req loc a clientIp config s) =
      CrowdSecBouncer.handleCaptchaPost hreq loc a config clientIp s.request := by
  rw [handleCaptchaPost, CrowdSecBouncer.handleCaptchaPost]
  split
  · exact forget_trySendCaptchaPage req clientIp hfrom config _ s
  · split
    · exact forget_trySendCaptchaPage req clientIp hfrom config _ s
    · split
      · exact forget_applyUnenforceableAction hfrom s
      · rcases initiateCaptchaRead a config clientIp s.request with ⟨result, t⟩
        cases result with
        | error => exact forget_applyUnenforceableAction hfrom { s with request := t }
        | declined => rfl
        | forbidden => rfl
        | done => rfl
        | bodyReadPending => rfl

theorem forget_challengePage (hfrom : KnowsCodes fromU16) (config : CaptchaConfig)
    (s : ServedRequest) :
    forget (challengePage fromU16 req loc a clientIp config s) =
      CrowdSecBouncer.challengePage loc a s.request := by
  rw [challengePage, CrowdSecBouncer.challengePage,
    ← forget_trySendCaptchaPage req clientIp hfrom config none s]
  rcases trySendCaptchaPage fromU16 req loc a clientIp config none s with ⟨result, t⟩
  cases result with
  | error => rfl
  | declined => rfl
  | forbidden => rfl
  | done => rfl
  | bodyReadPending => rfl

theorem forget_captchaChallenge (hfrom : KnowsCodes fromU16) (config : CaptchaConfig)
    (s : ServedRequest) :
    forget (captchaChallenge fromU16 hreq req loc a clientIp config s) =
      CrowdSecBouncer.captchaChallenge hreq loc a config clientIp s.request := by
  rw [captchaChallenge, CrowdSecBouncer.captchaChallenge]
  cases hreq.method with
  | get => exact forget_challengePage hfrom config s
  | head => exact forget_challengePage hfrom config s
  | other => exact forget_challengePage hfrom config s
  | post =>
    dsimp only
    split
    · exact forget_applyUnenforceableAction hfrom s
    · exact forget_handleCaptchaPost hfrom config s.recordDropped

theorem forget_handleCaptchaDecision (hfrom : KnowsCodes fromU16) (s : ServedRequest) :
    forget (handleCaptchaDecision fromU16 hreq req loc a clientIp s) =
      CrowdSecBouncer.handleCaptchaDecision hreq loc a clientIp s.request := by
  rw [handleCaptchaDecision, CrowdSecBouncer.handleCaptchaDecision]
  cases s.request.ctx.resumeCaptcha with
  | some result => rfl
  | none =>
    dsimp only
    split
    · obtain ⟨t, ht, ht'⟩ | ⟨t, ht, ht'⟩ := attempt_cases a s fun answer response =>
        sendEmptyResponse_fst answer 200 response
      · rw [ht, ht']
        rfl
      · rw [ht, ht']
        exact forget_applyUnenforceableAction hfrom t
    · cases loc.captchaConfig with
      | none => exact forget_applyUnenforceableAction hfrom s
      | some config =>
        dsimp only
        split
        · rfl
        · exact forget_captchaChallenge hfrom config s

/-- **The same remediation**: with its contents left out, it is the one that the phase handlers of
the model run. -/
theorem forget_applyLookupRemediation (hfrom : KnowsCodes fromU16) (s : ServedRequest) :
    forget (applyLookupRemediation fromU16 hreq req loc main a trusted clientIp lookup scenarios
        s) =
      CrowdSecBouncer.applyLookupRemediation hreq loc main a clientIp lookup s.request := by
  rw [applyLookupRemediation, CrowdSecBouncer.applyLookupRemediation]
  dsimp only
  split
  · rfl
  · cases lookup.decisionType with
    | ban => exact forget_handleBanDecision hfrom _
    | captcha => exact forget_handleCaptchaDecision hfrom _
    | unknown =>
      dsimp only
      rw [handleUnknownDecision, CrowdSecBouncer.handleUnknownDecision]
      cases main.fallbackRemediationOrDefault with
      | allow => rfl
      | ban => exact forget_handleBanDecision hfrom _
      | captcha => exact forget_handleCaptchaDecision hfrom _

/-! ### What is sent -/

/-- A response that denies the request: an error, or the redirect of a ban. -/
def IsRefusal (loc : LocConfig) (r : HeadersOut × List Char) : Prop :=
  (400 ≤ r.1.status ∧ r.1.status < 600) ∨
    loc.banAction = some .redirect ∧ r.1.status ∈ [301, 302, 303, 307, 308] ∧
      ∃ url, loc.banRedirectUrl = some url ∧ ("Location".toList, url.toList) ∈ r.1.headers

/-- A response to a client that has to solve a captcha: the page, which is not to be stored, or
nothing but a line break for a static asset. -/
def IsChallenge (hreq : HttpRequest) (req : ResponseRequest) (loc : LocConfig) (clientIp : IpAddr)
    (r : HeadersOut × List Char) : Prop :=
  r.1.status = 200 ∧
    (isStaticAssetRequest hreq loc = true ∧ r.2 = ['\n'] ∨
      ∃ config template errorMessage, loc.captchaConfig = some config ∧
        loc.captchaTemplate = some template ∧
        r.2 = (Pages.Template.ofConfig template).render
          { captchaTemplateVars config clientIp (captchaReturnUri req) errorMessage with
            requestUri := req.path, requestMethod := some req.method } ∧
        ("Cache-Control".toList, "no-store, no-cache, must-revalidate, max-age=0".toList) ∈
          r.1.headers)

/-- What is in place under a captcha. -/
abbrev IsCaptchaAnswer (hreq : HttpRequest) (req : ResponseRequest) (loc : LocConfig)
    (clientIp : IpAddr) (r : HeadersOut × List Char) : Prop :=
  IsRefusal loc r ∨ IsChallenge hreq req loc clientIp r

/-- What a lookup demands; an unknown decision is what the fallback says. -/
def demanded (main : MainConfig) (lookup : LookupResult) : FallbackRemediation :=
  if !lookup.found then .allow
  else
    match lookup.decisionType with
    | .ban => .ban
    | .captcha => .captcha
    | .unknown => main.fallbackRemediationOrDefault

/-- The responses that are in place. -/
def IsAnswer (hreq : HttpRequest) (req : ResponseRequest) (loc : LocConfig) (clientIp : IpAddr) :
    FallbackRemediation → HeadersOut × List Char → Prop
  | .allow => fun _ => False
  | .ban => IsRefusal loc
  | .captcha => IsCaptchaAnswer hreq req loc clientIp

/-- An attempt sends a response with `P`, or nothing; it fails only with nothing sent. -/
structure Outputs (P : HeadersOut × List Char → Prop) (response : ResponseState)
    (out : Bool × ResponseState) : Prop where
  sent : out.2.sent = response.sent ∨ out.1 = true ∧ ∃ r, out.2.sent = response.sent ++ [r] ∧ P r
  wellFramed : response.WellFramed → out.2.WellFramed

/-- A handler sends at most one response, and with `P`; that ends the request. -/
structure Sends (P : HeadersOut × List Char → Prop) (s : ServedRequest)
    (out : HandlerResult × ServedRequest) : Prop where
  sent : out.2.response.sent = s.response.sent ∨
    (out.1 = .done ∧ out.2.request.finalized = true) ∧
      ∃ r, out.2.response.sent = s.response.sent ++ [r] ∧ P r
  wellFramed : s.response.WellFramed → out.2.response.WellFramed

variable {P Q : HeadersOut × List Char → Prop} {out : HandlerResult × ServedRequest}

theorem Sends.mono (h : Sends P s out) (hPQ : ∀ r, P r → Q r) : Sends Q s out where
  sent := h.sent.imp_right (And.imp_right fun ⟨r, hr, hP⟩ => ⟨r, hr, hPQ r hP⟩)
  wellFramed := h.wellFramed

/-- A first attempt has failed. -/
theorem Sends.of_failed {t : ServedRequest} (h : Sends P t out)
    (hsent : t.response.sent = s.response.sent)
    (hframed : s.response.WellFramed → t.response.WellFramed) : Sends P s out where
  sent := hsent ▸ h.sent
  wellFramed := h.wellFramed ∘ hframed

/-- The response is as it was. -/
theorem Sends.of_response_eq {t : ServedRequest} (h : Sends P t out)
    (heq : t.response = s.response) : Sends P s out :=
  h.of_failed (heq ▸ rfl) (heq ▸ id)

/-- Nothing is sent at all. -/
theorem sends_same {result : HandlerResult} {t : ServedRequest} (heq : t.response = s.response) :
    Sends P s (result, t) :=
  ⟨.inl (heq ▸ rfl), heq ▸ id⟩

theorem sent_sendBody {response : ResponseState} {body : List Char} (hP : P (response.out, body))
    (answer : SendAnswer) (headerFailure : HeaderFailureAction) :
    (response.sendBody answer headerFailure body).2.sent = response.sent ∨
      (response.sendBody answer headerFailure body).1 = true ∧
        ∃ r, (response.sendBody answer headerFailure body).2.sent = response.sent ++ [r] ∧ P r := by
  obtain heq | ⟨ok, heq⟩ := response.sendBody_cases answer headerFailure body
  · rw [heq]
    exact .inr ⟨rfl, _, rfl, hP⟩
  · rw [heq]
    exact .inl rfl

/-- A successful attempt ends the handler, a failed one leaves the rest to the next. -/
theorem attempt_outputs {send : SendAnswer → ResponseState → Bool × ResponseState}
    (hsend : ∀ answer response, Outputs P response (send answer response)) (s : ServedRequest) :
    (∃ t, s.attempt a send = (true, t) ∧ Sends P s (.done, t)) ∨
      ∃ t, s.attempt a send = (false, t) ∧ t.response.sent = s.response.sent ∧
        (s.response.WellFramed → t.response.WellFramed) := by
  have houtputs := hsend (a.send s.request.sends) s.response
  rw [attempt]
  cases hok : (send (a.send s.request.sends) s.response).1 with
  | false =>
    refine .inr ⟨_, rfl, houtputs.sent.resolve_right fun h => ?_, houtputs.wellFramed⟩
    exact absurd (hok.symm.trans h.1) (by simp)
  | true =>
    exact .inl ⟨_, rfl, houtputs.sent.imp_right fun h => ⟨⟨rfl, Bool.or_true _⟩, h.2⟩,
      houtputs.wellFramed⟩

theorem outputs_sendEmptyResponse {status : ℕ} {response : ResponseState}
    (h : ∀ headers, P ({ status, contentLengthN := some 1, headers }, ['\n']))
    (answer : SendAnswer) : Outputs P response (response.sendEmptyResponse answer status) :=
  ⟨sent_sendBody (h _) answer .finalize, fun hframed => hframed.sendEmptyResponse answer status⟩

theorem sends_finishBlockBan (hfrom : KnowsCodes fromU16) (s : ServedRequest) :
    Sends (IsRefusal loc) s (finishBlockBan fromU16 loc a s) := by
  have hrefusal (headers : List Field) : IsRefusal loc
      ({ status := banBlockStatus fromU16 loc, contentLengthN := some 1, headers }, ['\n']) := by
    rw [banBlockStatus_eq hfrom]
    exact .inl (banStatusCode_range loc)
  rw [finishBlockBan]
  obtain ⟨t, ht, hsends⟩ | ⟨t, ht, hsent, hframed⟩ := attempt_outputs (a := a)
    (fun answer response => outputs_sendEmptyResponse hrefusal answer) s
  · rw [ht]
    exact hsends
  · rw [ht]
    exact ⟨.inl hsent, hframed⟩

theorem sends_applyUnenforceableAction (hfrom : KnowsCodes fromU16) (s : ServedRequest) :
    Sends (IsRefusal loc) s (applyUnenforceableAction fromU16 loc a s) := by
  rw [applyUnenforceableAction]
  cases loc.unenforceableActionOrDefault with
  | allow => exact sends_same rfl
  | block => exact sends_finishBlockBan hfrom s

theorem Sends.recordDropped {result : HandlerResult} {t : ServedRequest}
    (h : Sends P s (result, t)) : Sends P s (result, t.recordDropped) :=
  ⟨h.sent, h.wellFramed⟩

/-- A failed attempt leaves the request to the action for what cannot be enforced. -/
theorem sends_attempt_or_unenforceable (hfrom : KnowsCodes fromU16)
    {send : SendAnswer → ResponseState → Bool × ResponseState}
    (hsend : ∀ answer response, Outputs P response (send answer response))
    (hP : ∀ r, IsRefusal loc r → P r) (s : ServedRequest) :
    Sends P s (match s.attempt a send with
      | (true, s) => (.done, s)
      | (false, s) => applyUnenforceableAction fromU16 loc a s) := by
  obtain ⟨t, ht, hsends⟩ | ⟨t, ht, hsent, hframed⟩ := attempt_outputs (a := a) hsend s
  · rw [ht]
    exact hsends
  · rw [ht]
    exact ((sends_applyUnenforceableAction hfrom t).mono hP).of_failed hsent hframed

theorem outputs_banResponse (hfrom : KnowsCodes fromU16) (hsafe : loc.HeaderSafe)
    (answer : SendAnswer) (response : ResponseState) : Outputs (IsRefusal loc) response
      (banResponse fromU16 req loc clientIp lookup scenarios answer response) := by
  have hstatus : 400 ≤ banBlockStatus fromU16 loc ∧ banBlockStatus fromU16 loc < 600 := by
    rw [banBlockStatus_eq hfrom]
    exact banStatusCode_range loc
  rw [banResponse]
  cases htemplate : loc.banTemplate with
  | none => exact outputs_sendEmptyResponse (fun _ => .inl hstatus) answer
  | some template =>
    exact ⟨sent_sendBody (.inl hstatus) answer .headOrError, fun hframed =>
      hframed.sendPage (hsafe.banTemplate template htemplate) answer _ _⟩

theorem sends_sendBan (hfrom : KnowsCodes fromU16) (hsafe : loc.HeaderSafe) (s : ServedRequest) :
    Sends (IsRefusal loc) s (sendBan fromU16 hreq req loc a clientIp lookup scenarios s) := by
  rw [sendBan]
  split
  · exact (sends_finishBlockBan hfrom s.recordDropped).of_response_eq rfl
  · obtain ⟨t, ht, hsends⟩ | ⟨t, ht, hsent, hframed⟩ := attempt_outputs (a := a)
      (outputs_banResponse hfrom hsafe) s
    · rw [ht]
      exact hsends.recordDropped
    · rw [ht]
      exact (sends_applyUnenforceableAction hfrom t).of_failed hsent hframed

/-- The redirect of a ban goes to the URL of the location, with a code that redirects. -/
theorem outputs_sendBanRedirect (hfrom : KnowsCodes fromU16) (hloc : loc.WellFormed)
    (hsafe : loc.HeaderSafe) (haction : loc.banAction = some .redirect) {url : String}
    (hurl : loc.banRedirectUrl = some url) (answer : SendAnswer) (response : ResponseState) :
    Outputs (IsRefusal loc) response (response.sendBanRedirect answer url.toList
      ((fromU16 (loc.banRedirectCode.getD 302)).getD 302)) := by
  refine ⟨sent_sendBody (.inr ⟨haction, banRedirectCode_mem hfrom hloc, url, hurl, ?_⟩) answer
    .finalize, fun hframed => hframed.sendBanRedirect (hsafe.banRedirectUrl url hurl) answer _⟩
  simp [ResponseState.noStore, ResponseState.addHeaderOut]

theorem sends_handleBanDecision (hfrom : KnowsCodes fromU16) (hloc : loc.WellFormed)
    (hsafe : loc.HeaderSafe) (s : ServedRequest) : Sends (IsRefusal loc) s
      (handleBanDecision fromU16 hreq req loc a clientIp lookup scenarios s) := by
  rw [handleBanDecision, tryBanRedirect]
  by_cases haction : loc.banAction = some .redirect
  · rw [if_pos haction]
    cases hurl : loc.banRedirectUrl with
    | none => exact sends_sendBan hfrom hsafe s
    | some url =>
      dsimp only
      obtain ⟨t, ht, hsends⟩ | ⟨t, ht, hsent, hframed⟩ := attempt_outputs (a := a)
        (outputs_sendBanRedirect hfrom hloc hsafe haction hurl) s
      · rw [ht]
        exact hsends.recordDropped
      · rw [ht]
        exact (sends_sendBan hfrom hsafe t).of_failed hsent hframed
  · rw [if_neg haction]
    exact sends_sendBan hfrom hsafe s

theorem outputs_sendCaptchaPage {config : CaptchaConfig} {template : Template}
    (hconfig : loc.captchaConfig = some config) (htemplate : loc.captchaTemplate = some template)
    (errorMessage : Option (List Char)) (answer : SendAnswer) (response : ResponseState) :
    Outputs (IsCaptchaAnswer hreq req loc clientIp) response
      (response.sendCaptchaPage answer config template req clientIp errorMessage) := by
  refine ⟨sent_sendBody (.inr ⟨rfl, .inr ⟨config, template, errorMessage, hconfig, htemplate, rfl,
    ?_⟩⟩) answer .headOrError, fun hframed => hframed.sendPage (by decide) answer _ _⟩
  simp [ResponseState.noStore, ResponseState.addHeaderOut]

section Captcha

variable {config : CaptchaConfig}

theorem sends_trySendCaptchaPage (hfrom : KnowsCodes fromU16)
    (hconfig : loc.captchaConfig = some config) (errorMessage : Option (List Char))
    (s : ServedRequest) : Sends (IsCaptchaAnswer hreq req loc clientIp) s
      (trySendCaptchaPage fromU16 req loc a clientIp config errorMessage s) := by
  rw [trySendCaptchaPage]
  cases htemplate : loc.captchaTemplate with
  | none => exact (sends_applyUnenforceableAction hfrom s).mono fun _ => .inl
  | some template =>
    exact sends_attempt_or_unenforceable hfrom
      (outputs_sendCaptchaPage hconfig htemplate errorMessage) (fun _ => .inl) s

theorem sends_handleCaptchaPost (hfrom : KnowsCodes fromU16)
    (hconfig : loc.captchaConfig = some config) (s : ServedRequest) :
    Sends (IsCaptchaAnswer hreq req loc clientIp) s
      (handleCaptchaPost fromU16 hreq req loc a clientIp config s) := by
  have hunenforceable (t : ServedRequest) : Sends (IsCaptchaAnswer hreq req loc clientIp) t
      (applyUnenforceableAction fromU16 loc a t) :=
    (sends_applyUnenforceableAction hfrom t).mono fun _ => .inl
  rw [handleCaptchaPost]
  split
  · exact sends_trySendCaptchaPage hfrom hconfig _ s
  · split
    · exact sends_trySendCaptchaPage hfrom hconfig _ s
    · split
      · exact hunenforceable s
      · -- the read of the body sends nothing
        rcases initiateCaptchaRead a config clientIp s.request with ⟨result, t⟩
        cases result with
        | error => exact (hunenforceable { s with request := t }).of_response_eq rfl
        | declined => exact sends_same rfl
        | forbidden => exact sends_same rfl
        | done => exact sends_same rfl
        | bodyReadPending => exact sends_same rfl

theorem sends_challengePage (hfrom : KnowsCodes fromU16)
    (hconfig : loc.captchaConfig = some config) (s : ServedRequest) :
    Sends (IsCaptchaAnswer hreq req loc clientIp) s
      (challengePage fromU16 req loc a clientIp config s) := by
  have hpage : Sends (IsCaptchaAnswer hreq req loc clientIp) s
      (trySendCaptchaPage fromU16 req loc a clientIp config none s) :=
    sends_trySendCaptchaPage hfrom hconfig none s
  rw [challengePage]
  rcases heq : trySendCaptchaPage fromU16 req loc a clientIp config none s with ⟨result, t⟩
  rw [heq] at hpage
  cases result with
  | error => exact hpage
  | declined => exact hpage
  | forbidden => exact hpage
  | done => exact hpage.recordDropped
  | bodyReadPending => exact hpage

theorem sends_handleCaptchaDecision (hfrom : KnowsCodes fromU16) (s : ServedRequest) :
    Sends (IsCaptchaAnswer hreq req loc clientIp) s
      (handleCaptchaDecision fromU16 hreq req loc a clientIp s) := by
  have hunenforceable (t : ServedRequest) : Sends (IsCaptchaAnswer hreq req loc clientIp) t
      (applyUnenforceableAction fromU16 loc a t) :=
    (sends_applyUnenforceableAction hfrom t).mono fun _ => .inl
  rw [handleCaptchaDecision]
  cases s.request.ctx.resumeCaptcha with
  | some result => exact sends_same rfl
  | none =>
    dsimp only
    split
    · next hstatic =>
      exact sends_attempt_or_unenforceable hfrom
        (fun answer response => outputs_sendEmptyResponse
          (fun _ => .inr ⟨rfl, .inl ⟨hstatic, rfl⟩⟩) answer)
        (fun _ => .inl) s
    · cases hconfig : loc.captchaConfig with
      | none => exact hunenforceable s
      | some config =>
        dsimp only
        split
        · exact sends_same rfl
        · rw [captchaChallenge]
          cases hreq.method with
          | get => exact sends_challengePage hfrom hconfig s
          | head => exact sends_challengePage hfrom hconfig s
          | other => exact sends_challengePage hfrom hconfig s
          | post =>
            dsimp only
            split
            · exact hunenforceable s
            · exact (sends_handleCaptchaPost hfrom hconfig s.recordDropped).of_response_eq rfl

end Captcha

theorem sent_maybeClearStaleCaptchaCookie (response : ResponseState) :
    (response.maybeClearStaleCaptchaCookie loc trusted req).sent = response.sent := by
  rw [ResponseState.maybeClearStaleCaptchaCookie]
  split
  · rfl
  · rfl

theorem sends_applyLookupRemediation (hfrom : KnowsCodes fromU16) (hloc : loc.WellFormed)
    (hsafe : loc.HeaderSafe) (s : ServedRequest) :
    Sends (IsAnswer hreq req loc clientIp (demanded main lookup)) s
      (applyLookupRemediation fromU16 hreq req loc main a trusted clientIp lookup scenarios s) := by
  rw [applyLookupRemediation, demanded]
  dsimp only
  split
  · exact ⟨.inl (sent_maybeClearStaleCaptchaCookie _), fun hframed =>
      hframed.maybeClearStaleCaptchaCookie hsafe.cookieName trusted req⟩
  · cases lookup.decisionType with
    | ban => exact (sends_handleBanDecision hfrom hloc hsafe _).of_response_eq rfl
    | captcha => exact (sends_handleCaptchaDecision hfrom _).of_response_eq rfl
    | unknown =>
      dsimp only
      rw [handleUnknownDecision]
      cases main.fallbackRemediationOrDefault with
      | allow => exact sends_same rfl
      | ban => exact (sends_handleBanDecision hfrom hloc hsafe _).of_response_eq rfl
      | captcha => exact (sends_handleCaptchaDecision hfrom _).of_response_eq rfl

end ServedRequest

section Answers

open ServedRequest

/-- **What a client gets to see of a decision.** The remediation of a request sends at most one
response, whichever attempts fail, and it ends the request: under a ban it is an error or the
redirect of the location, under a captcha one of these or the challenge. None of it breaks the
framing. Its contents left out, it is the remediation that the phase handlers run. -/
theorem applyLookupRemediation_sends {fromFile : List Char → Except (List Char) Template}
    {fromU16 : ℕ → Option ℕ} (hfrom : KnowsCodes fromU16) {loc : LocConfig}
    (hloc : Configured fromFile loc)
    (htemplate : ∀ template ∈ loc.banTemplate, ∃ extension,
      template.contentType.toList = Pages.contentTypeFromExtension extension)
    (hreq : HttpRequest) (req : ResponseRequest) (main : MainConfig) (a : Answers)
    (trusted : List TrustedCidr) (clientIp : IpAddr) (lookup : LookupResult)
    (scenarios : List (List UInt8)) (s : ServedRequest) :
    let out := ServedRequest.applyLookupRemediation fromU16 hreq req loc main a trusted clientIp
      lookup scenarios s
    Sends (IsAnswer hreq req loc clientIp (demanded main lookup)) s out ∧
      forget out =
        CrowdSecBouncer.applyLookupRemediation hreq loc main a clientIp lookup s.request :=
  ⟨sends_applyLookupRemediation hfrom (wellFormed_of_configured hloc)
    (headerSafe_of_configured hloc htemplate) s, forget_applyLookupRemediation hfrom s⟩

/-! ### One ban -/

/-- A location that redirects banned clients. -/
def exampleRedirectLocation : LocConfig :=
  { banAction := some .redirect, banRedirectUrl := some "https://example.org/"
    banRedirectCode := some 307 }

/-- A ban whose redirect cannot be sent. -/
def exampleBanAnswers : Answers where
  lookup := ⟨true, .ban, .crowdsec, 0⟩
  send := fun i => ⟨i ≠ 0, true, true, false⟩
  sessionValid := false
  appsecAlloc := true
  captchaAlloc := true
  appsecRead := .started
  captchaRead := .started
  posts := true
  captchaResponse := false

/-- The empty response is sent in its place, behind the fields of the redirect. -/
theorem applyLookupRemediation_sends_exampleBan :
    let out := ServedRequest.applyLookupRemediation some plainRequest exampleResponseRequest
      exampleRedirectLocation {} exampleBanAnswers [] (.v4 (u32ToBeBytes 0xC0000201))
      exampleBanAnswers.lookup [] ⟨.initial none, {}⟩
    Sends (IsRefusal exampleRedirectLocation) ⟨.initial none, {}⟩ out ∧ out.1 = .done ∧
      out.2.response.sent.map (fun r => (r.1.status, r.1.headers.map fun f => f.1, r.2)) =
        [(403, ["Location".toList, "Content-Type".toList, "Cache-Control".toList,
          "Pragma".toList, "Content-Type".toList], ['\n'])] := by
  have hconfigure : configure exampleFile [["crowdsec_ban_action", "redirect"],
      ["crowdsec_ban_redirect_url", "https://example.org/"],
      ["crowdsec_ban_redirect_code", "307"]] = some exampleRedirectLocation := by decide +kernel
  exact ⟨(applyLookupRemediation_sends (fun _ _ _ => rfl) (configured_of_configure hconfigure) nofun
    plainRequest exampleResponseRequest {} exampleBanAnswers [] (.v4 (u32ToBeBytes 0xC0000201))
    exampleBanAnswers.lookup [] ⟨.initial none, {}⟩).1, by decide +kernel, by decide +kernel⟩

end Answers

end CrowdSecBouncer
