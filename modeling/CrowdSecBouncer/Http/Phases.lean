import CrowdSecBouncer.Foundations.LabelledRun
import CrowdSecBouncer.Http.AppSec

/-!
# The phase handlers and the run of a request

The ACCESS handler bans or challenges by the client's decision, the PRECONTENT handler asks
AppSec and then applies what ACCESS has deferred. A request runs through both; each may
suspend it, and nginx enters the phase again when a callback has allowed the request, or
earlier on a write event. `RequestRun.step` is that run: a label is one run of the current
phase's handler, the end of a body read, or the completion of a task, each with its own
answers of the world.
-/

namespace CrowdSecBouncer

section Model

variable (req : HttpRequest) (loc : LocConfig) (main : MainConfig)
  (config : Option AppSecConfig) (a : Answers)

def shouldRunAppsec (lookup : LookupResult) : Bool :=
  loc.appsecEnabled = some true ∧ (!lookup.found ∨ loc.appsecAlways = some true)

/-- The client is on the bypass list. -/
def bypassed (clientIp : IpAddr) : Bool :=
  !main.bypassCidrs.isEmpty && ipInCidrList clientIp main.bypassCidrs

/-- If `crowdsec_metrics` is enabled for this location, send Prometheus text and return a
terminal result; other methods than GET and HEAD get a 405, sent or not. -/
def tryServeMetrics (s : RequestState) : Option (HandlerResult × RequestState) :=
  if loc.metricsEnabled ≠ some true then none
  else
    match req.method with
    | .get | .head =>
      match sendResponse a s .finalize with
      | (true, s) => some (.done, s)
      | (false, s) => some (.error, s)
    | .post | .other =>
      match sendResponse a s .finalize with
      | (_, s) => some (.done, s)

/-- Main access phase handler: IP ban/captcha only (no AppSec body reads). -/
def handleAccess (s : RequestState) : HandlerResult × RequestState :=
  match tryServeMetrics req loc a s with
  | some served => served
  | none =>
    if loc.enabled ≠ some true then (.declined, s)
    else
      match req.clientIp with
      | none => (.error, s)
      | some clientIp =>
        if bypassed main clientIp then (.declined, s.recordProcessed)
        -- AppSec runs in PRECONTENT: defer the remediation, so that it can inspect first
        else if shouldRunAppsec loc a.lookup then (.declined, s.recordProcessed)
        else applyLookupRemediation req loc main a clientIp a.lookup s.recordProcessed

/-- PRECONTENT: AppSec headers/body, then any remediations deferred from ACCESS. -/
def handlePrecontent (s : RequestState) : HandlerResult × RequestState :=
  if loc.enabled ≠ some true then (.declined, s)
  else if req.subrequest then (.declined, s)
  else
    -- the end of a captcha must not run AppSec (and then verification) a second time
    match s.ctx.resumeCaptcha with
    | some result => (result, s)
    | none =>
      match req.clientIp with
      | none => (.error, s)
      | some clientIp =>
        if bypassed main clientIp then (.declined, s)
        else if !shouldRunAppsec loc a.lookup && !req.internalChallenge then (.declined, s)
        else
          let shmBan := a.lookup.found && a.lookup.decisionType = .ban
          match AppSec.inspect req loc config a shmBan s with
          | (.declined, s) => applyLookupRemediation req loc main a clientIp a.lookup s
          | (result, s) => (result, s)

end Model

/-! ### Runs -/

/-- The phases of a request as far as the module takes part in them. -/
inductive Phase
  | access
  | precontent
  /-- The content handler has the request. -/
  | content
  deriving DecidableEq, Repr

/-- A request on its way. -/
structure RequestRun where
  phase : Phase
  state : RequestState
  deriving DecidableEq, Repr

/-- The configuration and the request of a run. -/
structure Site where
  req : HttpRequest
  loc : LocConfig
  main : MainConfig
  /-- The AppSec settings of the worker, if an AppSec URL is configured. -/
  appsec : Option AppSecConfig

/-- A client that the module enforces decisions for. -/
structure Site.Enforces (site : Site) (ip : IpAddr) : Prop where
  enabled : site.loc.enabled = some true
  main : site.req.subrequest = false
  client : site.req.clientIp = some ip
  bypass : bypassed site.main ip = false

/-- What happens to a request. -/
inductive RequestAction
  /-- nginx runs the handler of the current phase. -/
  | run (a : Answers)
  /-- The request body has been read. -/
  | bodyRead (body : Option RequestBody) (a : Answers)
  /-- The AppSec exchange is over. -/
  | appsecDone (exchange : AppSecExchange) (a : Answers)
  /-- The captcha provider has been asked. -/
  | verifyDone (result : VerifyResult) (a : Answers)

/-- The answers of the world to a label. -/
def RequestAction.answers : RequestAction → Answers
  | .run a | .bodyRead _ a | .appsecDone _ a | .verifyDone _ a => a

namespace RequestRun

def initial (body : Option RequestBody) : RequestRun := ⟨.access, .initial body⟩

/-- What the phase engine makes of a handler's status. -/
def advance (r : RequestRun) (next : Phase) : HandlerResult × RequestState → RequestRun
  | (result, s) =>
    match Status.ofHandlerResult result with
    | .ngxDeclined => ⟨next, s⟩
    | .httpForbidden => ⟨r.phase, { s with finalized := true }⟩
    | .ngxDone => ⟨r.phase, s⟩

/-- One step of a request that is not finalized. -/
def step (site : Site) (action : RequestAction) (r : RequestRun) : Option RequestRun :=
  if r.state.finalized then none
  else
    match action with
    | .run a =>
      match r.phase with
      | .access =>
        some (r.advance .precontent (handleAccess site.req site.loc site.main a r.state))
      | .precontent =>
        some (r.advance .content
          (handlePrecontent site.req site.loc site.main site.appsec a r.state))
      | .content => none
    | .bodyRead body a =>
      let s := { r.state with reading := none, body }
      match r.state.reading with
      | some .appsec => some ⟨r.phase, AppSec.appsecBodyHandler site.req site.loc site.appsec a s⟩
      | some .captcha => some ⟨r.phase, captchaBodyHandler site.loc a s⟩
      | none => none
    | .appsecDone exchange a =>
      let s := { r.state with task := none }
      match r.state.task with
      | some (.appsec ip failureAction shmBan _) =>
        some ⟨r.phase, AppSec.complete site.req site.loc a ip failureAction shmBan exchange s⟩
      | some .verifyCaptcha | none => none
    | .verifyDone result _ =>
      let s := { r.state with task := none }
      match r.state.task with
      | some .verifyCaptcha => some ⟨r.phase, completeVerification site.loc result s⟩
      | some (.appsec ..) | none => none

variable {site : Site} {action : RequestAction} {a : Answers} {r r' : RequestRun}

theorem step_open (h : step site action r = some r') : r.state.finalized = false := by
  by_contra hfinal
  simp [step, hfinal] at h

/-- What a run of a handler does to a request. -/
theorem step_run (h : step site (.run a) r = some r') :
    (r.phase = .access ∧
        r' = r.advance .precontent (handleAccess site.req site.loc site.main a r.state)) ∨
      (r.phase = .precontent ∧
        r' = r.advance .content
          (handlePrecontent site.req site.loc site.main site.appsec a r.state)) := by
  have hopen := step_open h
  simp only [step, hopen] at h
  rcases hphase : r.phase with _ | _ | _
  · simp only [hphase] at h
    exact .inl ⟨rfl, (Option.some_injective _ h).symm⟩
  · simp only [hphase] at h
    exact .inr ⟨rfl, (Option.some_injective _ h).symm⟩
  · simp [hphase] at h

/-- What the end of a body read does. -/
theorem step_bodyRead {body : Option RequestBody} (h : step site (.bodyRead body a) r = some r') :
    (r.state.reading = some .appsec ∧
        r' = ⟨r.phase, AppSec.appsecBodyHandler site.req site.loc site.appsec a
          { r.state with reading := none, body }⟩) ∨
      (r.state.reading = some .captcha ∧
        r' = ⟨r.phase, captchaBodyHandler site.loc a { r.state with reading := none, body }⟩) := by
  simp only [step, Option.ite_none_left_eq_some] at h
  obtain ⟨-, h⟩ := h
  split at h
  · next hreading => exact .inl ⟨hreading, (Option.some_injective _ h).symm⟩
  · next hreading => exact .inr ⟨hreading, (Option.some_injective _ h).symm⟩
  · exact absurd h (by simp)

/-- What the end of an exchange with AppSec does. -/
theorem step_appsecDone {exchange : AppSecExchange}
    (h : step site (.appsecDone exchange a) r = some r') :
    ∃ ip failureAction shmBan body, r.state.task = some (.appsec ip failureAction shmBan body) ∧
      r' = ⟨r.phase, AppSec.complete site.req site.loc a ip failureAction shmBan exchange
        { r.state with task := none }⟩ := by
  simp only [step, Option.ite_none_left_eq_some] at h
  obtain ⟨-, h⟩ := h
  split at h
  · next htask => exact ⟨_, _, _, _, htask, (Option.some_injective _ h).symm⟩
  · exact absurd h (by simp)
  · exact absurd h (by simp)

/-- What the answer of the captcha provider does. -/
theorem step_verifyDone {result : VerifyResult}
    (h : step site (.verifyDone result a) r = some r') :
    r.state.task = some .verifyCaptcha ∧
      r' = ⟨r.phase, completeVerification site.loc result { r.state with task := none }⟩ := by
  simp only [step, Option.ite_none_left_eq_some] at h
  obtain ⟨-, h⟩ := h
  split at h
  · next htask => exact ⟨htask, (Option.some_injective _ h).symm⟩
  · exact absurd h (by simp)
  · exact absurd h (by simp)

end RequestRun

end CrowdSecBouncer
