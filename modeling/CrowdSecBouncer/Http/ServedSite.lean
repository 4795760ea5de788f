import CrowdSecBouncer.Http.Phases
import CrowdSecBouncer.Http.RemediationContent
import CrowdSecBouncer.Metrics.MetricsPage

/-!
# The handlers and their responses

The phase handlers and the callbacks of a request, as in `Http/Phases`, `Http/AppSec` and
`Http/Remediation`, together with what their responses hold: the metrics page, the remediations, the
challenges of AppSec and the pages of the captcha callbacks. `Http/ServedRun` has what a client gets
over a whole run of them.
-/

namespace CrowdSecBouncer

open Text HeaderBlock

/-- A site, and what the responses to its requests show. -/
structure ServedSite extends Site where
  request : ResponseRequest
  trusted : List TrustedCidr
  fromU16 : ℕ → Option ℕ
  lib : TokenLibraries

/-- What the responses of one step show besides. -/
structure Contents where
  scenarios : List (List UInt8)
  metrics : MetricsSnapshot
  now : ℤ
  random : Vector UInt8 16
  /-- What AppSec wants a challenge to be, apart from the body. -/
  challenge : ChallengePage
  /-- Why the provider rejects an answer. -/
  reason : List Char

namespace ServedSite

section Model

variable (w : ServedSite) (c : Contents) (a : Answers)

/-! ### The phase handlers -/

def tryServeMetrics (s : ServedRequest) : Option (HandlerResult × ServedRequest) :=
  if w.loc.metricsEnabled ≠ some true then none
  else
    match w.req.method with
    | .get | .head =>
      match s.attempt a fun answer response => response.sendTextResponse answer 200
          "text/plain; version=0.0.4; charset=utf-8".toList (metricsPage c.metrics) with
      | (true, s) => some (.done, s)
      | (false, s) => some (.error, s)
    | .post | .other =>
      match s.attempt a fun answer response => response.sendTextResponse answer 405
          "text/plain".toList "method not allowed\n".toList with
      | (_, s) => some (.done, s)

def handleBanDecision (ip : IpAddr) (lookup : LookupResult) (s : ServedRequest) :
    HandlerResult × ServedRequest :=
  s.handleBanDecision w.fromU16 w.req w.request w.loc a ip lookup c.scenarios

def applyLookupRemediation (ip : IpAddr) (s : ServedRequest) : HandlerResult × ServedRequest :=
  s.applyLookupRemediation w.fromU16 w.req w.request w.loc w.main a w.trusted ip a.lookup
    c.scenarios

def handleAccess (s : ServedRequest) : HandlerResult × ServedRequest :=
  match w.tryServeMetrics c a s with
  | some served => served
  | none =>
    if w.loc.enabled ≠ some true then (.declined, s)
    else
      match w.req.clientIp with
      | none => (.error, s)
      | some ip =>
        let processed := { s with request := s.request.recordProcessed }
        if bypassed w.main ip then (.declined, processed)
        else if shouldRunAppsec w.loc a.lookup then (.declined, processed)
        else w.applyLookupRemediation c a ip processed

/-! ### AppSec -/

/-- The lookup result is `LookupResult::appsec_ban`. -/
def applyAppsecBanPage (ip : IpAddr) (s : ServedRequest) : HandlerResult × ServedRequest :=
  w.handleBanDecision c a ip ⟨true, .ban, .appsec, 0⟩ s

def failClosed (ip : Option IpAddr) (action : AppSecFailureAction) (s : ServedRequest) :
    HandlerResult × ServedRequest :=
  match action with
  | .passthrough => (.declined, s)
  | .deny =>
    match ip with
    | some ip => w.applyAppsecBanPage c a ip s
    | none => (.forbidden, s)

def applyShmOrAppsecBan (ip : IpAddr) (s : ServedRequest) : HandlerResult × ServedRequest :=
  if a.lookup.found ∧ a.lookup.decisionType = .ban then w.handleBanDecision c a ip a.lookup s
  else w.applyAppsecBanPage c a ip s

def appsecContext (s : ServedRequest) :
    Except HandlerResult AppSec.Inspection × ServedRequest :=
  let internalChallenge := w.req.internalChallenge
  if w.loc.appsecEnabled ≠ some true then
    (.error (if internalChallenge then .forbidden else .declined), s)
  else if internalChallenge ∧ w.loc.botChallengeEnabled ≠ some true then (.error .forbidden, s)
  else
    let failureAction :=
      if internalChallenge then .deny else w.loc.appsecFailureAction.getD .passthrough
    match w.req.clientIp with
    | none =>
      if internalChallenge then (.error .forbidden, s)
      else
        match w.failClosed c a none failureAction s with
        | (result, s) => (.error result, s)
    | some ip =>
      match w.appsec with
      | none =>
        if internalChallenge then (.error .forbidden, s)
        else
          match w.failClosed c a (some ip) failureAction s with
          | (result, s) => (.error result, s)
      | some config => (.ok { config, ip, failureAction, internalChallenge }, s)

def queueExchange (call : AppSec.Inspection) (body : Option (List UInt8)) (shmBan : Bool)
    (s : ServedRequest) : HandlerResult × ServedRequest :=
  match postTask a s.request (.appsec call.ip call.failureAction shmBan body) with
  | (true, request) => (.bodyReadPending, { s with request })
  | (false, request) =>
    match w.failClosed c a (some call.ip) call.failureAction { s with request } with
    | (.done, s) => (.done, s)
    | (result, s) =>
      (result, { s with request := { s.request with ctx := s.request.ctx.storeResult result } })

def inspectWithBody (call : AppSec.Inspection) (body : Option (List UInt8)) (shmBan : Bool)
    (s : ServedRequest) : HandlerResult × ServedRequest :=
  match s.request.ctx with
  | .appsec _ => w.queueExchange c a call body shmBan s
  | .empty | .captcha _ =>
    if a.appsecAlloc then
      w.queueExchange c a call body shmBan
        { s with request := { s.request with ctx := AppSec.newContext call shmBan } }
    else w.failClosed c a (some call.ip) call.failureAction s

def inspectOrDropUnforwardableBody (call : AppSec.Inspection) (shmBan : Bool)
    (s : ServedRequest) : HandlerResult × ServedRequest :=
  if call.config.dropUnreadableBody then w.failClosed c a (some call.ip) .deny s
  else w.inspectWithBody c a call none shmBan s

def initiateAppsecBodyRead (call : AppSec.Inspection) (shmBan : Bool) (s : ServedRequest) :
    HandlerResult × ServedRequest :=
  if a.appsecAlloc then
    let s := { s with request := { s.request with ctx := AppSec.newContext call shmBan } }
    match a.appsecRead with
    | .started =>
      (.bodyReadPending, { s with request := { s.request with reading := some .appsec } })
    | .special => (.forbidden, s)
    | .failed => w.failClosed c a (some call.ip) call.failureAction s
  else w.failClosed c a (some call.ip) call.failureAction s

def inspectRequestBody (call : AppSec.Inspection) (shmBan : Bool) (s : ServedRequest) :
    HandlerResult × ServedRequest :=
  if requestBodyBuffered s.request.body then
    match extractRequestBodyLimited s.request.body call.config.maxBodySize with
    | .ok body => w.inspectWithBody c a call (some body) shmBan s
    | .tooLarge | .unreadable => w.inspectOrDropUnforwardableBody c a call shmBan s
  else if w.req.contentLength > call.config.maxBodySize then
    w.inspectOrDropUnforwardableBody c a call shmBan s
  else w.initiateAppsecBodyRead c a call shmBan s

def inspect (shmBan : Bool) (s : ServedRequest) : HandlerResult × ServedRequest :=
  let s := { s with request := { s.request with inspected := true } }
  match s.request.ctx.resumeAppSec with
  | some result => (result, s)
  | none =>
    match w.appsecContext c a s with
    | (.error result, s) => (result, s)
    | (.ok call, s) =>
      if !w.req.subrequest && w.req.hasRequestBody then w.inspectRequestBody c a call shmBan s
      else w.inspectWithBody c a call none shmBan s

def handlePrecontent (s : ServedRequest) : HandlerResult × ServedRequest :=
  if w.loc.enabled ≠ some true then (.declined, s)
  else if w.req.subrequest then (.declined, s)
  else
    match s.request.ctx.resumeCaptcha with
    | some result => (result, s)
    | none =>
      match w.req.clientIp with
      | none => (.error, s)
      | some ip =>
        if bypassed w.main ip then (.declined, s)
        else if !shouldRunAppsec w.loc a.lookup && !w.req.internalChallenge then (.declined, s)
        else
          let shmBan := a.lookup.found && a.lookup.decisionType = .ban
          match w.inspect c a shmBan s with
          | (.declined, s) => w.applyLookupRemediation c a ip s
          | (result, s) => (result, s)

/-! ### The callbacks of AppSec -/

/-- `AppSecBodyContext::finish` sends nothing. -/
def finish (out : HandlerResult × ServedRequest) : ServedRequest :=
  { out.2 with request := AppSec.finish out.1 out.2.request }

def appsecBodyHandler (s : ServedRequest) : ServedRequest :=
  match s.request.ctx with
  | .appsec ctx =>
    match w.appsec with
    | none => finish (w.failClosed c a (some ctx.clientIp) ctx.failureAction s)
    | some config =>
      let call : AppSec.Inspection := {
        config, ip := ctx.clientIp, failureAction := ctx.failureAction
        internalChallenge := ctx.internalChallenge }
      match extractRequestBodyLimited s.request.body config.maxBodySize with
      | .ok body => finish (w.inspectWithBody c a call (some body) ctx.shmBan s)
      | .tooLarge | .unreadable =>
        finish (w.inspectOrDropUnforwardableBody c a call ctx.shmBan s)
  | .empty | .captcha _ => { s with request := { s.request with finalized := true } } -- 500

def applyAppsecResponse (ip : IpAddr) (response : AppSecResponse)
    (failureAction : AppSecFailureAction) (shmBan : Bool) (s : ServedRequest) :
    HandlerResult × ServedRequest :=
  if response.status = 200 then (.declined, s)
  else if response.status ≠ 403 then w.failClosed c a (some ip) failureAction s
  else
    match response.envelope with
    | none => w.applyAppsecBanPage c a ip s
    | some envelope =>
      if envelope.action = "allow" then (.declined, s)
      else if envelope.action = "ban" ∨ envelope.action = "captcha" then
        w.applyShmOrAppsecBan c a ip s
      else if envelope.action = "challenge" ∧ shmBan then w.applyShmOrAppsecBan c a ip s
      else if envelope.action = "challenge" ∧ w.loc.botChallengeEnabled = some true ∧
          envelope.userBodyContent ≠ "" then
        match s.attempt a fun answer response => response.sendRawResponse answer
            ((w.fromU16 (if c.challenge.httpStatus = 0 then 200
              else c.challenge.httpStatus)).getD 403)
            envelope.userBodyContent.toList c.challenge.headers with
        | (true, s) => (.done, { s with request := s.request.recordAppsecDropped })
        | (false, s) => (.forbidden, { s with request := s.request.recordAppsecDropped })
      else (.forbidden, { s with request := s.request.recordAppsecDropped })

def complete (ip : IpAddr) (failureAction : AppSecFailureAction) (shmBan : Bool)
    (exchange : AppSecExchange) (s : ServedRequest) : ServedRequest :=
  match s.request.ctx with
  | .appsec _ =>
    match exchange.response with
    | some response => finish (w.applyAppsecResponse c a ip response failureAction shmBan s)
    | none => finish (w.failClosed c a (some ip) failureAction s)
  | .empty | .captcha _ =>
    match w.failClosed c a (some ip) failureAction s with
    | (result, s) => { s with request := AppSec.finalizeAsyncResult result s.request }

/-! ### The callbacks of a captcha -/

/-- A buffered response of a callback finalizes the request, sent or not. -/
def sendBuffered (send : SendAnswer → ResponseState → ResponseState) (s : ServedRequest) :
    ServedRequest where
  request := sendBufferedResponse s.request
  response := send (a.send s.request.sends) s.response

/-- `send_error` of the callbacks. -/
def sendError (template : Template) (ctx : CaptchaPostContext) (message : List Char)
    (s : ServedRequest) : ServedRequest :=
  sendBuffered a (fun answer response => response.sendCaptchaErrorPage answer template ctx.config
    ctx.clientIp (captchaReturnUri w.request) message) s

def captchaBodyHandler (s : ServedRequest) : ServedRequest :=
  match s.request.ctx with
  | .captcha ctx =>
    match w.loc.captchaTemplate with
    | none => { s with request := finishCaptcha .error s.request }
    | some template =>
      match extractRequestBodyLimited s.request.body MAX_CAPTCHA_BODY_SIZE with
      | .ok body =>
        if body.isEmpty then
          w.sendError a template ctx "No form data received. Please try again.".toList s
        else if !a.captchaResponse then
          w.sendError a template ctx
            "Captcha response not found. Please complete the challenge.".toList s
        else
          match postTask a s.request .verifyCaptcha with
          | (true, request) => { s with request }
          | (false, request) =>
            w.sendError a template ctx
              "Verification service unavailable. Please try again.".toList { s with request }
      | .tooLarge | .unreadable =>
        w.sendError a template ctx "Request too large or unreadable.".toList s
  | .empty | .appsec _ => { s with request := { s.request with finalized := true } } -- 500

def completeVerification (result : VerifyResult) (s : ServedRequest) : ServedRequest :=
  match s.request.ctx with
  | .captcha ctx =>
    match w.loc.captchaTemplate with
    | none => { s with request := finishCaptcha .error s.request }
    | some template =>
      match result with
      | .success =>
        sendBuffered a (fun answer response => response.answerSolved w.lib w.trusted w.request
          ctx.clientIp answer ctx.config template c.now c.random) s
      | .failed =>
        w.sendError a template ctx
          ("Verification failed: ".toList ++ c.reason ++ ". Please try again.".toList) s
      | .networkError | .timeout | .providerError =>
        if ctx.config.failOpen then { s with request := finishCaptcha .declined s.request }
        else
          w.sendError a template ctx
            "Verification service unavailable. Please try again.".toList s
      | .invalidResponse =>
        w.sendError a template ctx "Verification service unavailable. Please try again.".toList s
  | .empty | .appsec _ => { s with request := { s.request with finalized := true } } -- 500

end Model

end ServedSite

/-! ### Runs -/

/-- A request on its way, and its response. -/
structure ServedRun where
  phase : Phase
  state : ServedRequest

namespace ServedRun

def initial (body : Option RequestBody) : ServedRun := ⟨.access, .initial body, {}⟩

def advance (r : ServedRun) (next : Phase) : HandlerResult × ServedRequest → ServedRun
  | (result, s) =>
    match Status.ofHandlerResult result with
    | .ngxDeclined => ⟨next, s⟩
    | .httpForbidden => ⟨r.phase, { s with request := { s.request with finalized := true } }⟩
    | .ngxDone => ⟨r.phase, s⟩

/-- One step of a request that is not finalized, with what its responses show. -/
def step (w : ServedSite) (label : RequestAction × Contents) (r : ServedRun) : Option ServedRun :=
  let request := r.state.request
  if request.finalized then none
  else
    match label.1 with
    | .run a =>
      match r.phase with
      | .access => some (r.advance .precontent (w.handleAccess label.2 a r.state))
      | .precontent => some (r.advance .content (w.handlePrecontent label.2 a r.state))
      | .content => none
    | .bodyRead body a =>
      let s := { r.state with request := { request with reading := none, body } }
      match request.reading with
      | some .appsec => some ⟨r.phase, w.appsecBodyHandler label.2 a s⟩
      | some .captcha => some ⟨r.phase, w.captchaBodyHandler a s⟩
      | none => none
    | .appsecDone exchange a =>
      let s := { r.state with request := { request with task := none } }
      match request.task with
      | some (.appsec ip failureAction shmBan _) =>
        some ⟨r.phase, w.complete label.2 a ip failureAction shmBan exchange s⟩
      | some .verifyCaptcha | none => none
    | .verifyDone result a =>
      let s := { r.state with request := { request with task := none } }
      match request.task with
      | some .verifyCaptcha => some ⟨r.phase, w.completeVerification label.2 a result s⟩
      | some (.appsec ..) | none => none

/-- The contents left out. -/
def forget (r : ServedRun) : RequestRun := ⟨r.phase, r.state.request⟩

end ServedRun

end CrowdSecBouncer
