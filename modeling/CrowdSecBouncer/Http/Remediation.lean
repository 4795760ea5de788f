import CrowdSecBouncer.Http.Request

/-!
# Remediations

What the module does with a request whose client is under a decision. Every way to enforce
one may fail to send its response, and then falls through to the next: a redirect to the ban
response, a page to `apply_unenforceable_action`, which lets the request through or sends a
last, empty response.
-/

namespace CrowdSecBouncer

section Model

variable (req : HttpRequest) (loc : LocConfig) (main : MainConfig) (a : Answers)

/-- Check if the request is for a static asset that shouldn't receive HTML pages. -/
def isStaticAssetRequest : Bool :=
  match req.path with
  | some path => loc.isStaticAssetPath path
  | none => false

def HTTP_FORBIDDEN : ℕ := 403

/-- The status of a block-mode ban; `HTTPStatus::from_u16` knows all of 400–599. -/
def banBlockStatus : ℕ := loc.banStatusCode

def finishBlockBan (s : RequestState) : HandlerResult × RequestState :=
  match sendResponse a s .finalize with
  | (true, s) => (.done, s)
  | (false, s) => (if banBlockStatus loc = HTTP_FORBIDDEN then .forbidden else .error, s)

def applyUnenforceableAction (s : RequestState) : HandlerResult × RequestState :=
  match loc.unenforceableActionOrDefault with
  | .allow => (.declined, s)
  | .block => finishBlockBan loc a s

/-- `send_ban_redirect`, when the configuration asks for a redirect. -/
def tryBanRedirect (s : RequestState) : Bool × RequestState :=
  if loc.banAction = some .redirect ∧ loc.banRedirectUrl.isSome then sendResponse a s .finalize
  else (false, s)

/-- `handle_ban_decision` past the redirect: an empty response for a static asset, else the
template or an empty response. -/
def sendBan (s : RequestState) : HandlerResult × RequestState :=
  if isStaticAssetRequest req loc then finishBlockBan loc a s.recordDropped
  else
    match sendResponse a s (if loc.banTemplate.isSome then .headOrError else .finalize) with
    | (true, s) => (.done, s.recordDropped)
    | (false, s) => applyUnenforceableAction loc a s

def handleBanDecision (s : RequestState) : HandlerResult × RequestState :=
  match tryBanRedirect loc a s with
  | (true, s) => (.done, s.recordDropped)
  | (false, s) => sendBan req loc a s

/-! ### Captcha decisions -/

def trySendCaptchaPage (s : RequestState) : HandlerResult × RequestState :=
  if loc.captchaTemplate.isNone then applyUnenforceableAction loc a s
  else
    match sendResponse a s .headOrError with
    | (true, s) => (.done, s)
    | (false, s) => applyUnenforceableAction loc a s

/-- `captcha::body::initiate_body_read`: from here on the body callback decides. -/
def initiateCaptchaRead (config : CaptchaConfig) (clientIp : IpAddr) (s : RequestState) :
    HandlerResult × RequestState :=
  if a.captchaAlloc then
    let s := { s with ctx := .captcha { clientIp, config, storedResult := .unset } }
    if a.captchaRead = .started then (.bodyReadPending, { s with reading := some .captcha })
    else (.error, s)
  else (.error, s)

def handleCaptchaPost (config : CaptchaConfig) (clientIp : IpAddr) (s : RequestState) :
    HandlerResult × RequestState :=
  if !req.isFormUrlencoded then trySendCaptchaPage loc a s
  else if !req.isBodySizeAcceptable then trySendCaptchaPage loc a s
  else if loc.captchaTemplate.isNone then applyUnenforceableAction loc a s
  else
    match initiateCaptchaRead a config clientIp s with
    | (.error, s) => applyUnenforceableAction loc a s
    | (result, s) => (result, s)

/-- The page of a request that is no form submission, counted once it was sent. -/
def challengePage (s : RequestState) : HandlerResult × RequestState :=
  match trySendCaptchaPage loc a s with
  | (.done, s) => (.done, s.recordDropped)
  | (result, s) => (result, s)

/-- `handle_captcha_decision` for a client without a session. -/
def captchaChallenge (config : CaptchaConfig) (clientIp : IpAddr) (s : RequestState) :
    HandlerResult × RequestState :=
  match req.method with
  | .post =>
    if loc.captchaTemplate.isNone then applyUnenforceableAction loc a s
    else handleCaptchaPost req loc a config clientIp s.recordDropped
  | .get | .head | .other => challengePage loc a s

/-- Handle a captcha decision for a client. -/
def handleCaptchaDecision (clientIp : IpAddr) (s : RequestState) :
    HandlerResult × RequestState :=
  match s.ctx.resumeCaptcha with
  | some result => (result, s)
  | none =>
    if isStaticAssetRequest req loc then
      match sendResponse a s .finalize with
      | (true, s) => (.done, s)
      | (false, s) => applyUnenforceableAction loc a s
    else
      match loc.captchaConfig with
      | none => applyUnenforceableAction loc a s
      | some config =>
        if a.sessionValid then (.declined, s)
        else captchaChallenge req loc a config clientIp s

/-! ### Any decision -/

def handleUnknownDecision (clientIp : IpAddr) (s : RequestState) : HandlerResult × RequestState :=
  match main.fallbackRemediationOrDefault with
  | .allow => (.declined, s)
  | .ban => handleBanDecision req loc a s
  | .captcha => handleCaptchaDecision req loc a clientIp s

/-- The cookie of a captcha that is over is cleared in the response headers, which are left
out here. -/
def applyLookupRemediation (clientIp : IpAddr) (lookup : LookupResult) (s : RequestState) :
    HandlerResult × RequestState :=
  let s := { s with remediated := true }
  if !lookup.found then (.declined, s)
  else
    match lookup.decisionType with
    | .ban => handleBanDecision req loc a s
    | .captcha => handleCaptchaDecision req loc a clientIp s
    | .unknown => handleUnknownDecision req loc main a clientIp s

/-! ### The captcha callbacks -/

/-- `CaptchaPostContext::finish`: store the outcome for the re-entry, then allow or deny. What
`finalize_allow` starts is the next run of the phase. -/
def finishCaptcha (result : HandlerResult) (s : RequestState) : RequestState :=
  match result with
  | .done | .bodyReadPending => s
  | .declined => { s with ctx := s.ctx.storeResult .declined }
  | .error | .forbidden => { s with ctx := s.ctx.storeResult result, finalized := true }

/-- A buffered response (`send_buffered_response`) finalizes the request on every path. -/
def sendBufferedResponse (s : RequestState) : RequestState := { s with finalized := true }

/-- `captcha_body_handler`: the body of a form submission is there. -/
def captchaBodyHandler (s : RequestState) : RequestState :=
  match s.ctx with
  | .captcha _ =>
    if loc.captchaTemplate.isNone then finishCaptcha .error s
    else
      match extractRequestBodyLimited s.body MAX_CAPTCHA_BODY_SIZE with
      | .ok body =>
        if body.isEmpty || !a.captchaResponse then sendBufferedResponse s
        else
          match postTask a s .verifyCaptcha with
          | (true, s) => s
          | (false, s) => sendBufferedResponse s
      | .tooLarge | .unreadable => sendBufferedResponse s
  | .empty | .appsec _ => { s with finalized := true } -- 500

/-- What the provider says, or how asking it failed; a panic of the task is a network error. -/
inductive VerifyResult
  | success
  | failed
  | networkError
  | timeout
  | invalidResponse
  | providerError
  deriving DecidableEq, Repr

/-- The errors that `captcha_fail_open` lets through. -/
def VerifyResult.isOutage : VerifyResult → Bool
  | .networkError | .timeout | .providerError => true
  | .success | .failed | .invalidResponse => false

/-- `complete_verification`: every outcome but a failing open sends a page or a redirect. -/
def completeVerification (result : VerifyResult) (s : RequestState) : RequestState :=
  match s.ctx with
  | .captcha ctx =>
    if loc.captchaTemplate.isNone then finishCaptcha .error s
    else if ctx.config.failOpen && result.isOutage then finishCaptcha .declined s
    else sendBufferedResponse s
  | .empty | .appsec _ => { s with finalized := true } -- 500

end Model

end CrowdSecBouncer
