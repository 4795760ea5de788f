import CrowdSecBouncer.Http.Remediation

/-!
# AppSec inspection

A request is sent to the AppSec component from the PRECONTENT phase, with its body if it has
one and nginx can buffer it. The exchange runs on the thread pool; its outcome is stored in
the module context and read back when the phase is entered again. Where there is no verdict
the failure action decides: let the request through, or deny it like a ban.
-/

namespace CrowdSecBouncer

/-- What AppSec sends with status 403; headers, cookies and status of a challenge are left
out. -/
structure Envelope where
  action : String
  userBodyContent : String
  deriving DecidableEq, Repr

structure AppSecResponse where
  status : ℕ
  envelope : Option Envelope
  deriving DecidableEq, Repr

/-- How the exchange on the thread pool goes. `replied` is the final reply that the HTTP client
hands over, after any redirects that it has followed; `json` is what its body decodes to. -/
inductive AppSecExchange
  | panicked
  | failed
  | replied (status : ℕ) (json : Option Envelope)
  deriving DecidableEq, Repr

/-- What the task hands to its completion. The HTTP client makes every status from 400 on an
error; only 403 is taken for an answer all the same, and only its body is read. -/
def AppSecExchange.response : AppSecExchange → Option AppSecResponse
  | .panicked | .failed => none
  | .replied status json =>
    if status = 403 then some { status, envelope := json }
    else if status < 400 then some { status, envelope := none }
    else none

namespace AppSec

section Model

variable (req : HttpRequest) (loc : LocConfig) (config : Option AppSecConfig) (a : Answers)

/-- The ban page for a verdict of AppSec, under a synthetic lookup result. -/
def applyAppsecBanPage (s : RequestState) : HandlerResult × RequestState :=
  handleBanDecision req loc a s

def failClosed (ip : Option IpAddr) (action : AppSecFailureAction) (s : RequestState) :
    HandlerResult × RequestState :=
  match action with
  | .passthrough => (.declined, s)
  | .deny =>
    match ip with
    | some _ => applyAppsecBanPage req loc a s
    | none => (.forbidden, s)

def applyShmOrAppsecBan (s : RequestState) : HandlerResult × RequestState :=
  if a.lookup.found ∧ a.lookup.decisionType = .ban then handleBanDecision req loc a s
  else applyAppsecBanPage req loc a s

/-- What an inspection needs to know. -/
structure Inspection where
  config : AppSecConfig
  ip : IpAddr
  failureAction : AppSecFailureAction
  internalChallenge : Bool

/-- `appsec_context`: the settings of the inspection, or what to do without one. -/
def appsecContext (s : RequestState) : Except HandlerResult Inspection × RequestState :=
  let internalChallenge := req.internalChallenge
  if loc.appsecEnabled ≠ some true then
    (.error (if internalChallenge then .forbidden else .declined), s)
  else if internalChallenge ∧ loc.botChallengeEnabled ≠ some true then (.error .forbidden, s)
  else
    let failureAction :=
      if internalChallenge then .deny else loc.appsecFailureAction.getD .passthrough
    match req.clientIp with
    | none =>
      if internalChallenge then (.error .forbidden, s)
      else
        match failClosed req loc a none failureAction s with
        | (result, s) => (.error result, s)
    | some ip =>
      match config with
      | none =>
        if internalChallenge then (.error .forbidden, s)
        else
          match failClosed req loc a (some ip) failureAction s with
          | (result, s) => (.error result, s)
      | some config => (.ok { config, ip, failureAction, internalChallenge }, s)

/-- A fresh context, with no result stored. -/
def newContext (call : Inspection) (shmBan : Bool) : ModuleCtx :=
  .appsec {
    clientIp := call.ip, failureAction := call.failureAction
    internalChallenge := call.internalChallenge, storedResult := .unset, shmBan }

/-- Queue the exchange; when the queue refuses, decide at once and store the decision. -/
def queueExchange (call : Inspection) (body : Option (List UInt8)) (shmBan : Bool)
    (s : RequestState) : HandlerResult × RequestState :=
  match postTask a s
      (.appsec call.ip call.failureAction shmBan body) with
  | (true, s) => (.bodyReadPending, s)
  | (false, s) =>
    match failClosed req loc a (some call.ip) call.failureAction s with
    | (.done, s) => (.done, s)
    | (result, s) => (result, { s with ctx := s.ctx.storeResult result })

def inspectWithBody (call : Inspection) (body : Option (List UInt8)) (shmBan : Bool)
    (s : RequestState) : HandlerResult × RequestState :=
  match s.ctx with
  | .appsec _ => queueExchange req loc a call body shmBan s
  | .empty | .captcha _ =>
    if a.appsecAlloc then
      queueExchange req loc a call body shmBan { s with ctx := newContext call shmBan }
    else failClosed req loc a (some call.ip) call.failureAction s

def inspectOrDropUnforwardableBody (call : Inspection) (shmBan : Bool) (s : RequestState) :
    HandlerResult × RequestState :=
  if call.config.dropUnreadableBody then failClosed req loc a (some call.ip) .deny s
  else inspectWithBody req loc a call none shmBan s

def initiateAppsecBodyRead (call : Inspection) (shmBan : Bool) (s : RequestState) :
    HandlerResult × RequestState :=
  if a.appsecAlloc then
    let s := { s with ctx := newContext call shmBan }
    match a.appsecRead with
    | .started => (.bodyReadPending, { s with reading := some .appsec })
    | .special => (.forbidden, s)
    | .failed => failClosed req loc a (some call.ip) call.failureAction s
  else failClosed req loc a (some call.ip) call.failureAction s

def inspectRequestBody (call : Inspection) (shmBan : Bool) (s : RequestState) :
    HandlerResult × RequestState :=
  if requestBodyBuffered s.body then
    match extractRequestBodyLimited s.body call.config.maxBodySize with
    | .ok body => inspectWithBody req loc a call (some body) shmBan s
    | .tooLarge | .unreadable => inspectOrDropUnforwardableBody req loc a call shmBan s
  else if req.contentLength > call.config.maxBodySize then
    inspectOrDropUnforwardableBody req loc a call shmBan s
  else initiateAppsecBodyRead req loc a call shmBan s

/-- AppSec in PRECONTENT: headers/URI, plus body when the client sent one. -/
def inspect (shmBan : Bool) (s : RequestState) : HandlerResult × RequestState :=
  let s := { s with inspected := true }
  match s.ctx.resumeAppSec with
  | some result => (result, s)
  | none =>
    match appsecContext req loc config a s with
    | (.error result, s) => (result, s)
    | (.ok call, s) =>
      if !req.subrequest && req.hasRequestBody then inspectRequestBody req loc a call shmBan s
      else inspectWithBody req loc a call none shmBan s

/-! ### The callbacks -/

/-- A decision reached outside the phase: a denial ends the request, an allowance starts the
next run of the phase. -/
def finalizeAsyncResult (result : HandlerResult) (s : RequestState) : RequestState :=
  match result with
  | .forbidden => { s with finalized := true }
  | .declined | .error | .done | .bodyReadPending => s

/-- `AppSecBodyContext::finish`: store the outcome for the re-entry, then allow or deny. -/
def finish (result : HandlerResult) (s : RequestState) : RequestState :=
  match result with
  | .done | .bodyReadPending => s
  | .declined | .error | .forbidden =>
    finalizeAsyncResult result { s with ctx := s.ctx.storeResult result }

/-- `appsec_body_handler`: the request body is there. -/
def appsecBodyHandler (s : RequestState) : RequestState :=
  match s.ctx with
  | .appsec ctx =>
    match config with
    | none =>
      match failClosed req loc a (some ctx.clientIp) ctx.failureAction s with
      | (result, s) => finish result s
    | some config =>
      let call : Inspection := {
        config, ip := ctx.clientIp, failureAction := ctx.failureAction
        internalChallenge := ctx.internalChallenge }
      match extractRequestBodyLimited s.body config.maxBodySize with
      | .ok body =>
        match inspectWithBody req loc a call (some body) ctx.shmBan s with
        | (result, s) => finish result s
      | .tooLarge | .unreadable =>
        match inspectOrDropUnforwardableBody req loc a call ctx.shmBan s with
        | (result, s) => finish result s
  | .empty | .captcha _ => { s with finalized := true } -- 500

def applyAppsecResponse (ip : IpAddr) (response : AppSecResponse)
    (failureAction : AppSecFailureAction) (shmBan : Bool) (s : RequestState) :
    HandlerResult × RequestState :=
  if response.status = 200 then (.declined, s)
  else if response.status ≠ 403 then failClosed req loc a (some ip) failureAction s
  else
    match response.envelope with
    -- 403 with empty/invalid JSON is a ban
    | none => applyAppsecBanPage req loc a s
    | some envelope =>
      if envelope.action = "allow" then (.declined, s)
      -- a WAF match cannot be bypassed by solving a stream captcha
      else if envelope.action = "ban" ∨ envelope.action = "captcha" then
        applyShmOrAppsecBan req loc a s
      else if envelope.action = "challenge" ∧ shmBan then applyShmOrAppsecBan req loc a s
      else if envelope.action = "challenge" ∧ loc.botChallengeEnabled = some true ∧
          envelope.userBodyContent ≠ "" then
        match sendResponse a s .error with
        | (true, s) => (.done, s.recordAppsecDropped)
        | (false, s) => (.forbidden, s.recordAppsecDropped)
      -- any other action is denied, on internal challenge paths and elsewhere
      else (.forbidden, s.recordAppsecDropped)

/-- The completion of the exchange. -/
def complete (ip : IpAddr) (failureAction : AppSecFailureAction) (shmBan : Bool)
    (exchange : AppSecExchange) (s : RequestState) : RequestState :=
  match s.ctx with
  | .appsec _ =>
    match exchange.response with
    | some response =>
      match applyAppsecResponse req loc a ip response failureAction shmBan s with
      | (result, s) => finish result s
    | none =>
      match failClosed req loc a (some ip) failureAction s with
      | (result, s) => finish result s
  | .empty | .captcha _ =>
    match failClosed req loc a (some ip) failureAction s with
    | (result, s) => finalizeAsyncResult result s

end Model

end AppSec

end CrowdSecBouncer
