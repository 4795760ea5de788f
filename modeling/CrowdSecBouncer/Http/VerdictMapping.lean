import CrowdSecBouncer.Http.Handover

/-!
# From AppSec's verdict to the fate of a request

The inspection of a request ends in one of three ways: AppSec replies, it does not, or the
request has a body that cannot be forwarded and is dropped for that (`AppSecOutcome`). The end
may come at once, in the body callback or when the exchange is over, and what it amounts to is
then returned to the phase engine or stored for the next run of the phase.

For a client that is under no decision, the outcome alone decides (`AppSecOutcome.Allows`): in
every run the request has at most one outcome, it goes on to the content handler when the
outcome allows it and is terminated otherwise (`followsVerdict`).
-/

namespace CrowdSecBouncer

open LabelledRun RequestRun AppSec

/-! ### Outcomes -/

/-- How the inspection of a request ends. -/
inductive AppSecOutcome
  /-- `json` is what the body of the reply decodes to. -/
  | replied (status : ℕ) (json : Option Envelope)
  /-- There is no reply: no configuration, a full queue, or an exchange that fails. -/
  | failed
  /-- The body cannot be forwarded, and such requests are dropped. -/
  | undeliverable
  deriving DecidableEq, Repr

/-- The failure action that counts; internal challenge paths are always denied. -/
def Site.failureAction (site : Site) : AppSecFailureAction :=
  if site.req.internalChallenge then .deny else site.loc.appsecFailureAction.getD .passthrough

/-- The outcome lets the request go on. -/
def AppSecOutcome.Allows (site : Site) : AppSecOutcome → Prop
  | replied status json =>
    status = 200 ∨ status = 403 ∧ json.map Envelope.action = some "allow" ∨
      status ≠ 200 ∧ status ≠ 403 ∧ site.failureAction = .passthrough
  | failed => site.failureAction = .passthrough
  | undeliverable => False

def AppSecExchange.outcome : AppSecExchange → AppSecOutcome
  | panicked | failed => .failed
  | replied status json => .replied status json

/-- The exchange is handed to the pool, which may refuse it. -/
def queueOutcome? (a : Answers) : Option AppSecOutcome := if a.posts then none else some .failed

/-- A body is forwarded, or left out, or the request is dropped. -/
def bodyOutcome? (config : AppSecConfig) (a : Answers) (forwardable : Bool) :
    Option AppSecOutcome :=
  if !forwardable && config.dropUnreadableBody then some .undeliverable else queueOutcome? a

/-- The body that nginx holds can be forwarded. -/
def forwardable (config : AppSecConfig) (body : Option RequestBody) : Bool :=
  match extractRequestBodyLimited body config.maxBodySize with
  | .ok _ => true
  | .unreadable | .tooLarge => false

/-- The outcome of an inspection that starts; `held` is the body that nginx holds by then. -/
def inspectOutcome? (site : Site) (a : Answers) (held : Option RequestBody) :
    Option AppSecOutcome :=
  match site.appsec with
  | none => some .failed
  | some config =>
    if !site.req.hasRequestBody then queueOutcome? a
    else if requestBodyBuffered held then bodyOutcome? config a (forwardable config held)
    else if site.req.contentLength > config.maxBodySize then bodyOutcome? config a false
    else none

/-- The outcome that a step brings, if it brings one. -/
def outcome? (site : Site) (action : RequestAction) (r : RequestRun) : Option AppSecOutcome :=
  match action with
  | .run a =>
    if r.phase = .precontent ∧ r.state.ctx = .empty then inspectOutcome? site a r.state.body
    else none
  | .bodyRead body a =>
    match site.appsec with
    | none => some .failed
    | some config => bodyOutcome? config a (forwardable config body)
  | .appsecDone exchange _ => some exchange.outcome
  | .verifyDone .. => none

/-- The outcomes of a run. -/
def outcomes (site : Site) : List RequestAction → RequestRun → List AppSecOutcome
  | [], _ => []
  | action :: l, r =>
    match step site action r with
    | some r' => (outcome? site action r).toList ++ outcomes site l r'
    | none => []

/-- The request has been passed on or answered. -/
def RequestRun.Over (r : RequestRun) : Prop := r.phase = .content ∨ r.state.finalized = true

/-! ### The setting -/

/-- The location asks for the inspection of the request, a main request of a known client that
is not on the bypass list. -/
structure Site.Inspects (site : Site) (clientIp : IpAddr) : Prop where
  enabled : site.loc.enabled = some true
  appsecEnabled : site.loc.appsecEnabled = some true
  botChallenge : site.req.internalChallenge = true → site.loc.botChallengeEnabled = some true
  main : site.req.subrequest = false
  client : site.req.clientIp = some clientIp
  bypass : bypassed site.main clientIp = false

/-- The client is under no decision, and nothing runs out or breaks on this side. -/
structure Answers.Clean (a : Answers) : Prop where
  lookup : a.lookup.found = false
  sends : a.SendsSucceed
  alloc : a.appsecAlloc = true
  read : a.appsecRead = .started

/-- The context of an inspection that waits. -/
def waitingCtx (site : Site) (ip : IpAddr) : ModuleCtx :=
  .appsec {
    clientIp := ip, failureAction := site.failureAction
    internalChallenge := site.req.internalChallenge, storedResult := .unset, shmBan := false }

/-- Nothing is under way for the request. -/
structure Quiet (s : RequestState) : Prop where
  reading : s.reading = none
  task : s.task = none
  finalized : s.finalized = false

/-- The request waits for its body or for the exchange. -/
structure Waiting (site : Site) (s : RequestState) : Prop where
  ctx : ∃ ip, s.ctx = waitingCtx site ip
  awaited : s.reading = some .appsec ∧ s.task = none ∨
    s.reading = none ∧ ∃ ip body, s.task = some (.appsec ip site.failureAction false body)
  finalized : s.finalized = false

/-- A handler that ends the request. -/
def Ends (out : HandlerResult × RequestState) : Prop :=
  out.1 = .forbidden ∨ out.1 = .done ∧ out.2.finalized = true

/-- What an inspection comes to that starts from the context `ctx`, given its outcome so far. -/
inductive Inspected (site : Site) (ctx : ModuleCtx) :
    Option AppSecOutcome → HandlerResult × RequestState → Prop
  | waits {s : RequestState} (h : Waiting site s) : Inspected site ctx none (.bodyReadPending, s)
  | allows {o : AppSecOutcome} {s : RequestState} (h : o.Allows site) (hs : Quiet s)
      (hctx : s.ctx = ctx ∨ ∃ c, s.ctx = .appsec c) : Inspected site ctx (some o) (.declined, s)
  | denies {o : AppSecOutcome} {out : HandlerResult × RequestState} (h : ¬ o.Allows site)
      (hends : Ends out) : Inspected site ctx (some o) out

variable {site : Site} {clientIp : IpAddr} {a : Answers} {s : RequestState} {r r' : RequestRun}
  {o : AppSecOutcome} {ip : IpAddr} {ctx : ModuleCtx}

/-! ### The inspection -/

theorem ends_handleBanDecision (site : Site) (ha : a.Clean) (s : RequestState) :
    Ends (handleBanDecision site.req site.loc a s) := by
  obtain ⟨s', heq, hfinal⟩ := handleBanDecision_of_succeeds site.req site.loc ha.sends s
  rw [heq]
  exact .inr ⟨rfl, hfinal⟩

/-- Without a verdict the failure action decides. -/
theorem inspected_failClosed (ha : a.Clean) (hs : Quiet s)
    (hctx : s.ctx = ctx ∨ ∃ c, s.ctx = .appsec c)
    (ho : o.Allows site ↔ site.failureAction = .passthrough) :
    Inspected site ctx (some o)
      (failClosed site.req site.loc a (some ip) site.failureAction s) := by
  cases haction : site.failureAction with
  | passthrough => exact .allows (ho.mpr haction) hs hctx
  | deny =>
    refine .denies (fun hallows => ?_) (ends_handleBanDecision site ha s)
    exact absurd (haction.symm.trans (ho.mp hallows)) (by simp)

/-- What the settings of the inspection are. -/
def inspectionOf (site : Site) (config : AppSecConfig) (ip : IpAddr) : Inspection :=
  { config, ip, failureAction := site.failureAction
    internalChallenge := site.req.internalChallenge }

variable {config : AppSecConfig} {body : Option (List UInt8)}

@[simp] theorem inspectionOf_config : (inspectionOf site config ip).config = config := rfl

/-- The exchange is under way, or refused and the outcome stored. -/
theorem inspected_queueExchange (ha : a.Clean) (hs : Quiet s) (hctx : s.ctx = waitingCtx site ip) :
    Inspected site ctx (queueOutcome? a)
      (queueExchange site.req site.loc a (inspectionOf site config ip) body false s) := by
  by_cases hposts : a.posts = true
  · have hnone : queueOutcome? a = none := if_pos hposts
    have htask : postTask a s (.appsec ip site.failureAction false body) =
        (true, { s with task := some (.appsec ip site.failureAction false body) }) :=
      if_pos ⟨hposts, hs.task⟩
    rw [hnone, queueExchange, inspectionOf, htask]
    exact .waits ⟨⟨ip, hctx⟩, .inr ⟨hs.reading, ip, body, rfl⟩, hs.finalized⟩
  · have hfailed : queueOutcome? a = some .failed := if_neg hposts
    have htask : postTask a s (.appsec ip site.failureAction false body) = (false, s) :=
      if_neg fun h => hposts h.1
    rw [hfailed, queueExchange, inspectionOf, htask]
    dsimp only
    cases haction : site.failureAction with
    | passthrough =>
      exact .allows haction ⟨hs.reading, hs.task, hs.finalized⟩ (.inr ⟨_, by rw [hctx]; rfl⟩)
    | deny =>
      obtain ⟨s', heq, hfinal⟩ := handleBanDecision_of_succeeds site.req site.loc ha.sends s
      have hban : failClosed site.req site.loc a (some ip) .deny s = (.done, s') := heq
      rw [hban]
      refine .denies (fun hallows => ?_) (.inr ⟨rfl, hfinal⟩)
      exact absurd (haction.symm.trans hallows) (by simp)

theorem inspected_inspectWithBody (ha : a.Clean) (hs : Quiet s)
    (hctx : s.ctx = .empty ∨ s.ctx = waitingCtx site ip) :
    Inspected site ctx (queueOutcome? a)
      (inspectWithBody site.req site.loc a (inspectionOf site config ip) body false s) := by
  rw [inspectWithBody]
  rcases hctx with hempty | hwaiting
  · rw [hempty]
    dsimp only
    rw [if_pos ha.alloc]
    exact inspected_queueExchange ha ⟨hs.reading, hs.task, hs.finalized⟩ rfl
  · rw [hwaiting]
    exact inspected_queueExchange ha hs hwaiting

/-- A body that cannot be forwarded is left out, or the request is denied whatever the failure
action. -/
theorem inspected_inspectOrDropUnforwardableBody (ha : a.Clean) (hs : Quiet s)
    (hctx : s.ctx = .empty ∨ s.ctx = waitingCtx site ip) :
    Inspected site ctx (bodyOutcome? config a false)
      (inspectOrDropUnforwardableBody site.req site.loc a (inspectionOf site config ip) false
        s) := by
  rw [inspectOrDropUnforwardableBody, bodyOutcome?]
  rw [inspectionOf_config]
  by_cases hdrop : config.dropUnreadableBody = true
  · rw [if_pos hdrop, if_pos (by simpa using hdrop)]
    exact .denies id (ends_handleBanDecision site ha s)
  · rw [if_neg hdrop, if_neg (by simpa using hdrop)]
    exact inspected_inspectWithBody ha hs hctx

theorem inspected_forwarded (ha : a.Clean) (hs : Quiet s)
    (hctx : s.ctx = .empty ∨ s.ctx = waitingCtx site ip) {held : Option RequestBody}
    {bytes : List UInt8} (hbody : extractRequestBodyLimited held config.maxBodySize = .ok bytes) :
    Inspected site ctx (bodyOutcome? config a (forwardable config held))
      (inspectWithBody site.req site.loc a (inspectionOf site config ip) (some bytes) false s) := by
  have hforward : forwardable config held = true := by rw [forwardable, hbody]
  rw [hforward]
  exact inspected_inspectWithBody ha hs hctx

theorem inspected_unforwardable (ha : a.Clean) (hs : Quiet s)
    (hctx : s.ctx = .empty ∨ s.ctx = waitingCtx site ip) {held : Option RequestBody}
    (hbody : forwardable config held = false) :
    Inspected site ctx (bodyOutcome? config a (forwardable config held))
      (inspectOrDropUnforwardableBody site.req site.loc a (inspectionOf site config ip) false
        s) := by
  rw [hbody]
  exact inspected_inspectOrDropUnforwardableBody ha hs hctx

/-- A body that is not there yet is awaited. -/
theorem inspected_initiateAppsecBodyRead (ha : a.Clean) (hs : Quiet s) :
    Inspected site ctx none
      (initiateAppsecBodyRead site.req site.loc a (inspectionOf site config ip) false s) := by
  rw [initiateAppsecBodyRead, if_pos ha.alloc, ha.read]
  exact .waits ⟨⟨ip, rfl⟩, .inl ⟨rfl, hs.task⟩, hs.finalized⟩

theorem inspected_inspectRequestBody (ha : a.Clean) (hs : Quiet s) (hempty : s.ctx = .empty) :
    Inspected site ctx
      (if requestBodyBuffered s.body then bodyOutcome? config a (forwardable config s.body)
        else if site.req.contentLength > config.maxBodySize then bodyOutcome? config a false
        else none)
      (inspectRequestBody site.req site.loc a (inspectionOf site config ip) false s) := by
  have hctx : s.ctx = .empty ∨ s.ctx = waitingCtx site ip := .inl hempty
  rw [inspectRequestBody, inspectionOf_config]
  by_cases hbuffered : requestBodyBuffered s.body = true
  · rw [if_pos hbuffered, if_pos hbuffered]
    rcases hbody : extractRequestBodyLimited s.body config.maxBodySize with bytes | _ | _
    · exact inspected_forwarded ha hs hctx hbody
    · exact inspected_unforwardable ha hs hctx (by rw [forwardable, hbody])
    · exact inspected_unforwardable ha hs hctx (by rw [forwardable, hbody])
  · rw [if_neg hbuffered, if_neg hbuffered]
    by_cases hlarge : site.req.contentLength > config.maxBodySize
    · rw [if_pos hlarge, if_pos hlarge]
      exact inspected_inspectOrDropUnforwardableBody ha hs hctx
    · rw [if_neg hlarge, if_neg hlarge]
      exact inspected_initiateAppsecBodyRead ha hs

/-- The settings of the inspection, or the failure of one that is not configured. -/
theorem appsecContext_of_inspects (hsite : site.Inspects clientIp) (ha : a.Clean) (hs : Quiet s)
    (hempty : s.ctx = .empty) :
    match site.appsec with
    | some config => appsecContext site.req site.loc site.appsec a s =
        (.ok (inspectionOf site config clientIp), s)
    | none => ∃ result t, appsecContext site.req site.loc site.appsec a s = (.error result, t) ∧
        Inspected site .empty (some .failed) (result, t) := by
  rw [appsecContext]
  dsimp only
  rw [if_neg (by simp [hsite.appsecEnabled]), if_neg (by simpa using hsite.botChallenge),
    hsite.client]
  rcases hconfig : site.appsec with _ | config
  · dsimp only
    by_cases hinternal : site.req.internalChallenge = true
    · rw [if_pos hinternal]
      refine ⟨_, _, rfl, .denies (fun hallows => ?_) (.inl rfl)⟩
      have hdeny : site.failureAction = .deny := if_pos hinternal
      exact absurd (hdeny.symm.trans hallows) (by simp)
    · have haction : site.failureAction = site.loc.appsecFailureAction.getD .passthrough :=
        if_neg hinternal
      rw [if_neg hinternal, if_neg hinternal, ← haction]
      have hinspected : Inspected site .empty (some .failed)
          (failClosed site.req site.loc a (some clientIp) site.failureAction s) :=
        inspected_failClosed ha hs (.inl hempty) Iff.rfl
      exact ⟨_, _, rfl, hinspected⟩
  · rfl

theorem inspected_inspect (hsite : site.Inspects clientIp) (ha : a.Clean) (hs : Quiet s)
    (hempty : s.ctx = .empty) :
    Inspected site .empty (inspectOutcome? site a s.body)
      (inspect site.req site.loc site.appsec a false s) := by
  have hs' : Quiet { s with inspected := true } := ⟨hs.reading, hs.task, hs.finalized⟩
  have hresume : s.ctx.resumeAppSec = none := by
    rw [hempty]
    rfl
  have hcontext := appsecContext_of_inspects hsite ha hs' hempty
  rw [inspect, inspectOutcome?]
  dsimp only
  rw [hresume]
  dsimp only
  rcases hconfig : site.appsec with _ | config
  · -- there is no exchange without a configuration; the context has decided already
    rw [hconfig] at hcontext
    obtain ⟨result, t, heq, hinspected⟩ := hcontext
    rw [heq]
    exact hinspected
  · rw [hconfig] at hcontext
    rw [hcontext]
    dsimp only
    rw [hsite.main]
    by_cases hbody : site.req.hasRequestBody = true
    · have hforward : (!false && site.req.hasRequestBody) = true := by simp [hbody]
      rw [if_neg (by simp [hbody]), if_pos hforward]
      exact inspected_inspectRequestBody ha hs' hempty
    · have hforward : ¬ (!false && site.req.hasRequestBody) = true := by simp [hbody]
      rw [if_pos (by simp [hbody]), if_neg hforward]
      exact inspected_inspectWithBody ha hs' (.inl hempty)

/-! ### The verdict -/

theorem ends_applyShmOrAppsecBan (site : Site) (ha : a.Clean) (s : RequestState) :
    Ends (applyShmOrAppsecBan site.req site.loc a s) := by
  rw [applyShmOrAppsecBan]
  split
  · exact ends_handleBanDecision site ha s
  · exact ends_handleBanDecision site ha s

/-- Every envelope but an allowance ends the request. -/
theorem ends_applyAppsecResponse (ha : a.Clean) {action : AppSecFailureAction}
    {envelope : Option Envelope} (hdenied : envelope.map Envelope.action ≠ some "allow") :
    Ends (applyAppsecResponse site.req site.loc a ip ⟨403, envelope⟩ action false s) := by
  rw [applyAppsecResponse, if_neg (by simp), if_neg (by simp)]
  rcases envelope with _ | envelope
  · exact ends_handleBanDecision site ha s
  · dsimp only
    rw [if_neg (by simpa using hdenied)]
    split
    · exact ends_applyShmOrAppsecBan site ha s
    · rw [if_neg (by simp)]
      split
      · rw [sendResponse_of_ok (ha.sends _ _)]
        exact .inr ⟨rfl, rfl⟩
      · exact .inl rfl

/-- Another status than these two is no verdict. -/
theorem replied_allows_iff {status : ℕ} {json : Option Envelope} (hok : status ≠ 200)
    (hforbidden : status ≠ 403) :
    (AppSecOutcome.replied status json).Allows site ↔ site.failureAction = .passthrough := by
  simp [AppSecOutcome.Allows, hok, hforbidden]

/-- The reply decides, or the failure action where its status is neither 200 nor 403. -/
theorem inspected_applyAppsecResponse (ha : a.Clean) (hs : Quiet s)
    (hctx : s.ctx = ctx ∨ ∃ c, s.ctx = .appsec c) {status : ℕ} {json envelope : Option Envelope}
    (henvelope : status = 403 → envelope = json) :
    Inspected site ctx (some (.replied status json))
      (applyAppsecResponse site.req site.loc a ip ⟨status, envelope⟩ site.failureAction false
        s) := by
  by_cases hok : status = 200
  · rw [applyAppsecResponse, if_pos hok]
    exact .allows (.inl hok) hs hctx
  · by_cases hforbidden : status = 403
    · obtain rfl : envelope = json := henvelope hforbidden
      subst hforbidden
      by_cases hallow : envelope.map Envelope.action = some "allow"
      · obtain ⟨verdict, rfl, haction⟩ := Option.map_eq_some_iff.mp hallow
        rw [applyAppsecResponse, if_neg hok, if_neg (by simp)]
        dsimp only
        rw [if_pos haction]
        exact .allows (.inr (.inl ⟨rfl, hallow⟩)) hs hctx
      · refine .denies ?_ (ends_applyAppsecResponse ha hallow)
        rintro (h | h | h)
        · exact hok h
        · exact hallow h.2
        · exact h.2.1 rfl
    · rw [applyAppsecResponse, if_neg hok, if_pos hforbidden]
      exact inspected_failClosed ha hs hctx (replied_allows_iff hok hforbidden)

/-! ### The stages of a request -/

/-- How far a request is, by the outcomes it has had. -/
inductive Stage (site : Site) : RequestRun → List AppSecOutcome → Prop
  | access {s : RequestState} (hs : Quiet s) (hctx : s.ctx = .empty) : Stage site ⟨.access, s⟩ []
  /-- The location serves metrics. -/
  | served {s : RequestState} (hmetrics : site.loc.metricsEnabled = some true)
      (hfinal : s.finalized = true) : Stage site ⟨.access, s⟩ []
  | precontent {s : RequestState} (hs : Quiet s) (hctx : s.ctx = .empty) :
      Stage site ⟨.precontent, s⟩ []
  | waiting {s : RequestState} (h : Waiting site s) : Stage site ⟨.precontent, s⟩ []
  | allowed {s : RequestState} {o : AppSecOutcome} (h : o.Allows site) (hs : Quiet s)
      (hctx : s.ctx.resumeAppSec = some .declined) : Stage site ⟨.precontent, s⟩ [o]
  | content {s : RequestState} {o : AppSecOutcome} (h : o.Allows site) (hs : Quiet s) :
      Stage site ⟨.content, s⟩ [o]
  | denied {s : RequestState} {o : AppSecOutcome} (h : ¬ o.Allows site)
      (hfinal : s.finalized = true) : Stage site ⟨.precontent, s⟩ [o]

/-- What an inspection comes to outside the phase is stored for its next run. -/
theorem stage_finish (ip : IpAddr) {o? : Option AppSecOutcome} {out : HandlerResult × RequestState}
    (h : Inspected site (waitingCtx site ip) o? out) :
    Stage site ⟨.precontent, finish out.1 out.2⟩ o?.toList := by
  cases h with
  | waits hwaiting => exact .waiting hwaiting
  | allows ho hs hctx =>
    refine .allowed ho ⟨hs.reading, hs.task, hs.finalized⟩ ?_
    rename_i t
    change (t.ctx.storeResult .declined).resumeAppSec = some .declined
    rcases hctx with hslot | ⟨c, hslot⟩
    · rw [hslot]
      rfl
    · rw [hslot]
      rfl
  | denies ho hends =>
    refine .denied ho ?_
    obtain ⟨result, t⟩ := out
    rcases hends with hforbidden | hdone
    · obtain rfl : result = .forbidden := hforbidden
      rfl
    · obtain rfl : result = .done := hdone.1
      exact hdone.2

/-- The body has been read. -/
theorem stage_appsecBodyHandler (ha : a.Clean) (hs : Quiet s) (hctx : s.ctx = waitingCtx site ip)
    (r : RequestRun) :
    Stage site ⟨.precontent, appsecBodyHandler site.req site.loc site.appsec a s⟩
      (outcome? site (.bodyRead s.body a) r).toList := by
  rw [appsecBodyHandler, hctx, waitingCtx, outcome?]
  dsimp only
  rcases hconfig : site.appsec with _ | config
  · have hfailed : Inspected site (waitingCtx site ip) (some .failed)
        (failClosed site.req site.loc a (some ip) site.failureAction s) :=
      inspected_failClosed ha hs (.inl hctx) Iff.rfl
    exact stage_finish ip hfailed
  · dsimp only
    rcases hbody : extractRequestBodyLimited s.body config.maxBodySize with bytes | _ | _
    · exact stage_finish ip (inspected_forwarded ha hs (.inr hctx) hbody)
    · exact stage_finish ip
        (inspected_unforwardable ha hs (.inr hctx) (by rw [forwardable, hbody]))
    · exact stage_finish ip
        (inspected_unforwardable ha hs (.inr hctx) (by rw [forwardable, hbody]))

/-- The exchange is over. -/
theorem stage_complete (ha : a.Clean) (hs : Quiet s) (hctx : s.ctx = waitingCtx site ip)
    (taskIp : IpAddr) (exchange : AppSecExchange) :
    Stage site
      ⟨.precontent, complete site.req site.loc a taskIp site.failureAction false exchange s⟩
      [exchange.outcome] := by
  have hfailed {o : AppSecOutcome} (ho : o.Allows site ↔ site.failureAction = .passthrough) :
      Stage site ⟨.precontent, finish (failClosed site.req site.loc a (some taskIp)
        site.failureAction s).1 (failClosed site.req site.loc a (some taskIp)
        site.failureAction s).2⟩ [o] := by
    have hinspected : Inspected site (waitingCtx site ip) (some o)
        (failClosed site.req site.loc a (some taskIp) site.failureAction s) :=
      inspected_failClosed ha hs (.inl hctx) ho
    exact stage_finish ip hinspected
  rw [complete, hctx, waitingCtx]
  dsimp only
  rcases exchange with _ | _ | ⟨status, json⟩
  · exact hfailed Iff.rfl
  · exact hfailed Iff.rfl
  · rw [AppSecExchange.response, AppSecExchange.outcome]
    by_cases hforbidden : status = 403
    · rw [if_pos hforbidden]
      exact stage_finish ip (inspected_applyAppsecResponse ha hs (.inl hctx) fun _ => rfl)
    · rw [if_neg hforbidden]
      by_cases hanswer : status < 400
      · rw [if_pos hanswer]
        exact stage_finish ip (inspected_applyAppsecResponse ha hs (.inl hctx)
          fun h => absurd h hforbidden)
      · rw [if_neg hanswer]
        exact hfailed (replied_allows_iff (by omega) hforbidden)

/-! ### Steps -/

theorem Answers.Clean.shouldRunAppsec (ha : a.Clean) (hsite : site.Inspects clientIp) :
    shouldRunAppsec site.loc a.lookup = true := by
  simp [CrowdSecBouncer.shouldRunAppsec, hsite.appsecEnabled, ha.lookup]

/-- ACCESS serves metrics where the location asks for them, and defers otherwise. -/
theorem stage_handleAccess (hsite : site.Inspects clientIp) (ha : a.Clean) (hs : Quiet s)
    (hctx : s.ctx = .empty) :
    Stage site (advance ⟨.access, s⟩ .precontent
      (handleAccess site.req site.loc site.main a s)) [] := by
  rw [handleAccess, tryServeMetrics]
  by_cases hmetrics : site.loc.metricsEnabled = some true
  · rw [if_neg (by simp [hmetrics]), sendResponse_of_ok (ha.sends _ _)]
    rcases site.req.method with _ | _ | _ | _ <;> exact .served hmetrics rfl
  · rw [if_pos hmetrics, if_neg (by simp [hsite.enabled]), hsite.client]
    dsimp only
    rw [if_neg (by simp [hsite.bypass]), if_pos (ha.shouldRunAppsec hsite)]
    exact .precontent ⟨hs.reading, hs.task, hs.finalized⟩ hctx

/-- PRECONTENT does what the inspection comes to; an allowance is followed by the lookup, which
finds nothing. -/
theorem handlePrecontent_of_inspects (hsite : site.Inspects clientIp) (ha : a.Clean)
    (hctx : s.ctx.resumeCaptcha = none) :
    (∃ t, inspect site.req site.loc site.appsec a false s = (.declined, t) ∧
        handlePrecontent site.req site.loc site.main site.appsec a s =
          (.declined, { t with remediated := true })) ∨
      (inspect site.req site.loc site.appsec a false s).1 ≠ .declined ∧
        handlePrecontent site.req site.loc site.main site.appsec a s =
          inspect site.req site.loc site.appsec a false s := by
  have hbypass (ip : IpAddr) (hclient : site.req.clientIp = some ip) :
      bypassed site.main ip = false :=
    Option.some_injective _ (hsite.client.symm.trans hclient) ▸ hsite.bypass
  have hinspect : precontentInspection site a s =
      inspect site.req site.loc site.appsec a false s := by
    rw [precontentInspection, ha.lookup]
    rfl
  have hasks : AsksAppSec site a := ⟨by simp [hsite.client], .inl (ha.shouldRunAppsec hsite)⟩
  rcases handlePrecontent_cases (a := a) hsite.enabled hsite.main hbypass hctx with
    ⟨hnot, -⟩ | ⟨-, ip, t, hdeclined, heq⟩ | ⟨-, hdeclined, heq⟩
  · exact absurd hasks hnot
  · refine .inl ⟨t, hinspect ▸ hdeclined, heq.trans ?_⟩
    rw [applyLookupRemediation, if_pos (by simp [ha.lookup])]
  · exact .inr (hinspect ▸ ⟨hdeclined, heq⟩)

/-- An inspection that starts. -/
theorem stage_precontent (hsite : site.Inspects clientIp) (ha : a.Clean) (hs : Quiet s)
    (hctx : s.ctx = .empty) :
    Stage site (advance ⟨.precontent, s⟩ .content
        (handlePrecontent site.req site.loc site.main site.appsec a s))
      (inspectOutcome? site a s.body).toList := by
  have hinspected := inspected_inspect hsite ha hs hctx
  have hresume : s.ctx.resumeCaptcha = none := by
    rw [hctx]
    rfl
  rcases handlePrecontent_of_inspects hsite ha hresume with
    ⟨t, hdeclined, heq⟩ | ⟨hdeclined, heq⟩
  · rw [hdeclined] at hinspected
    rw [heq]
    generalize inspectOutcome? site a s.body = o? at hinspected
    cases hinspected with
    | allows ho hquiet => exact .content ho ⟨hquiet.reading, hquiet.task, hquiet.finalized⟩
    | denies ho hends =>
      -- a denial does not decline
      rcases hends with hforbidden | hdone
      · exact absurd hforbidden (by simp)
      · exact absurd hdone.1 (by simp)
  · rw [heq]
    generalize inspectOutcome? site a s.body = o? at hinspected
    generalize inspect site.req site.loc site.appsec a false s = out at hinspected hdeclined
    cases hinspected with
    | waits hwaiting => exact .waiting hwaiting
    | allows => exact absurd rfl hdeclined
    | denies ho hends =>
      obtain ⟨result, t⟩ := out
      rcases hends with hforbidden | hdone
      · obtain rfl : result = .forbidden := hforbidden
        exact .denied ho rfl
      · obtain rfl : result = .done := hdone.1
        exact .denied ho hdone.2

/-- The phase is entered again. -/
theorem handlePrecontent_resume (hsite : site.Inspects clientIp) (ha : a.Clean)
    (hctx : s.ctx.resumeCaptcha = none) {result : HandlerResult}
    (hresume : s.ctx.resumeAppSec = some result) :
    handlePrecontent site.req site.loc site.main site.appsec a s =
      if result = .declined then (.declined, { s with inspected := true, remediated := true })
      else (result, { s with inspected := true }) := by
  have hinspect : inspect site.req site.loc site.appsec a false s =
      (result, { s with inspected := true }) := by
    rw [inspect]
    dsimp only
    rw [hresume]
  rcases handlePrecontent_of_inspects hsite ha hctx with ⟨t, hdeclined, heq⟩ | ⟨hdeclined, heq⟩
  · obtain ⟨rfl, rfl⟩ := Prod.mk.inj (hinspect.symm.trans hdeclined)
    rw [heq, if_pos rfl]
  · rw [hinspect] at hdeclined
    rw [heq, hinspect, if_neg hdeclined]

/-- The slot holds one context at most. -/
theorem ModuleCtx.of_resumeAppSec {result : HandlerResult} (h : ctx.resumeAppSec = some result) :
    ctx ≠ .empty ∧ ctx.resumeCaptcha = none := by
  rcases ctx with _ | c | c
  · exact absurd h (by simp [ModuleCtx.resumeAppSec])
  · exact ⟨by simp, rfl⟩
  · exact absurd h (by simp [ModuleCtx.resumeAppSec])

theorem Waiting.resume (h : Waiting site s) :
    s.ctx.resumeCaptcha = none ∧ s.ctx.resumeAppSec = some .bodyReadPending := by
  obtain ⟨ip, hctx⟩ := h.ctx
  rw [hctx]
  exact ⟨rfl, rfl⟩

/-- Only a request that waits is called back. -/
theorem Stage.waits {os : List AppSecOutcome} (h : Stage site r os)
    (hopen : r.state.finalized = false) (hpending : ¬ Quiet r.state) :
    r.phase = .precontent ∧ Waiting site r.state ∧ os = [] := by
  cases h with
  | access hs => exact absurd hs hpending
  | served _ hfinal => exact absurd (hopen.symm.trans hfinal) (by simp)
  | precontent hs => exact absurd hs hpending
  | waiting hwaiting => exact ⟨rfl, hwaiting, rfl⟩
  | allowed _ hs => exact absurd hs hpending
  | content _ hs => exact absurd hs hpending
  | denied _ hfinal => exact absurd (hopen.symm.trans hfinal) (by simp)

/-- A run of the current phase. -/
theorem stage_run {os : List AppSecOutcome} (hsite : site.Inspects clientIp) (ha : a.Clean)
    (h : Stage site r os) (hstep : step site (.run a) r = some r') :
    Stage site r' (os ++ (outcome? site (.run a) r).toList) := by
  have hopen := step_open hstep
  have hrun := step_run hstep
  cases h with
  | access hs hctx =>
    obtain ⟨-, rfl⟩ := hrun.resolve_right (by simp)
    exact stage_handleAccess hsite ha hs hctx
  | served _ hfinal => exact absurd (hopen.symm.trans hfinal) (by simp)
  | precontent hs hctx =>
    obtain ⟨-, rfl⟩ := hrun.resolve_left (by simp)
    rw [outcome?, if_pos ⟨rfl, hctx⟩]
    exact stage_precontent hsite ha hs hctx
  | waiting hwaiting =>
    obtain ⟨-, rfl⟩ := hrun.resolve_left (by simp)
    obtain ⟨ip, hctx⟩ := hwaiting.ctx
    obtain ⟨hcaptcha, hresume⟩ := hwaiting.resume
    -- nothing new is asked while the request waits
    rw [outcome?, if_neg (by simp [hctx, waitingCtx]),
      handlePrecontent_resume hsite ha hcaptcha hresume, if_neg (by simp)]
    exact .waiting ⟨⟨ip, hctx⟩, hwaiting.awaited, hwaiting.finalized⟩
  | @allowed s o ho hs hresume =>
    obtain ⟨-, rfl⟩ := hrun.resolve_left (by simp)
    have hstored : s.ctx ≠ .empty ∧ s.ctx.resumeCaptcha = none :=
      ModuleCtx.of_resumeAppSec hresume
    rw [outcome?, if_neg fun hstart => hstored.1 hstart.2,
      handlePrecontent_resume hsite ha hstored.2 hresume, if_pos rfl]
    exact .content ho ⟨hs.reading, hs.task, hs.finalized⟩
  | content =>
    rcases hrun with ⟨hphase, -⟩ | ⟨hphase, -⟩
    · exact absurd hphase (by simp)
    · exact absurd hphase (by simp)
  | denied _ hfinal => exact absurd (hopen.symm.trans hfinal) (by simp)

/-- **The step lemma.** A step brings the request to the stage of its outcomes. -/
theorem stage_step {action : RequestAction} {os : List AppSecOutcome}
    (hsite : site.Inspects clientIp) (ha : action.answers.Clean) (h : Stage site r os)
    (hstep : step site action r = some r') :
    Stage site r' (os ++ (outcome? site action r).toList) := by
  have hopen := step_open hstep
  have hwaits := h.waits hopen
  rcases action with a | ⟨body, a⟩ | ⟨exchange, a⟩ | ⟨result, a⟩
  · exact stage_run hsite ha h hstep
  · -- the body is there, and the inspection that waited for it goes on
    rcases step_bodyRead hstep with ⟨hreading, rfl⟩ | ⟨hreading, rfl⟩
    · obtain ⟨hphase, hwaiting, rfl⟩ := hwaits fun hs => by simp [hs.reading] at hreading
      obtain ⟨ip, hctx⟩ := hwaiting.ctx
      rw [hphase]
      have htask : r.state.task = none := by
        rcases hwaiting.awaited with hbody | hexchange
        · exact hbody.2
        · exact absurd (hexchange.1.symm.trans hreading) (by simp)
      have hs : Quiet { r.state with reading := none, body } := ⟨rfl, htask, hopen⟩
      exact stage_appsecBodyHandler ha hs hctx r
    · rcases (hwaits fun hs => by simp [hs.reading] at hreading).2.1.awaited with hbody | hexchange
      · exact absurd (hbody.1.symm.trans hreading) (by simp)
      · exact absurd (hexchange.1.symm.trans hreading) (by simp)
  · -- the task ends with the outcome of its exchange
    obtain ⟨taskIp, failureAction, shmBan, body, htask, rfl⟩ := step_appsecDone hstep
    obtain ⟨hphase, hwaiting, rfl⟩ := hwaits fun hs => by simp [hs.task] at htask
    obtain ⟨ip, hctx⟩ := hwaiting.ctx
    rcases hwaiting.awaited with hbody | ⟨hreading, taskIp', body', htask'⟩
    · exact absurd (hbody.2.symm.trans htask) (by simp)
    · obtain ⟨rfl, rfl, rfl, rfl⟩ : taskIp' = taskIp ∧ site.failureAction = failureAction ∧
          false = shmBan ∧ body' = body := by simpa using htask'.symm.trans htask
      have hs : Quiet { r.state with task := none } := ⟨hreading, rfl, hopen⟩
      rw [hphase]
      exact stage_complete ha hs hctx taskIp' exchange
  · -- no captcha is verified while AppSec inspects
    obtain ⟨htask, -⟩ := step_verifyDone hstep
    rcases (hwaits fun hs => by simp [hs.task] at htask).2.1.awaited with hbody | ⟨-, ip, body, heq⟩
    · exact absurd (hbody.2.symm.trans htask) (by simp)
    · exact absurd (heq.symm.trans htask) (by simp)

/-- **The run lemma.** -/
theorem stage_exec {l : List RequestAction} {os : List AppSecOutcome}
    (hsite : site.Inspects clientIp) (hclean : ∀ action ∈ l, action.answers.Clean)
    (h : Stage site r os) (hexec : exec (step site) l r = some r') :
    Stage site r' (os ++ outcomes site l r) := by
  induction l generalizing r os with
  | nil =>
    obtain rfl := Option.some_injective _ hexec
    simpa [outcomes] using h
  | cons action l ih =>
    obtain ⟨t, hstep, hrest⟩ := exec_cons.mp hexec
    have ht := stage_step hsite (hclean action List.mem_cons_self) h hstep
    have hrun := ih (fun b hb => hclean b (List.mem_cons_of_mem action hb)) ht hrest
    rw [outcomes, hstep]
    rwa [List.append_assoc] at hrun

/-! ### Runs -/

/-- What has become of a request that has had the outcomes `os`. -/
structure FollowsVerdict (site : Site) (r : RequestRun) (os : List AppSecOutcome) : Prop where
  single : os.length ≤ 1
  content_iff : r.Over → (r.phase = .content ↔ ∃ o ∈ os, o.Allows site)
  denied : ∀ o ∈ os, ¬ o.Allows site → r.phase ≠ .content ∧ r.state.finalized = true
  /-- The outcome may still be stored; the next run of the phase reads it back. -/
  allowed : ∀ o ∈ os, o.Allows site → r.state.finalized = false ∧
    (r.phase = .content ∨
      ∀ a : Answers, a.Clean → ∃ r', step site (.run a) r = some r' ∧ r'.phase = .content)
  pending : os = [] → r.phase ≠ .content ∧
    (r.state.finalized = true ∧ site.loc.metricsEnabled = some true ∨
      Quiet r.state ∨ Waiting site r.state)

/-- A stored allowance is followed. -/
theorem step_of_storedAllowance (hsite : site.Inspects clientIp) (ha : a.Clean)
    (hphase : r.phase = .precontent) (hopen : r.state.finalized = false)
    (hresume : r.state.ctx.resumeAppSec = some .declined) :
    ∃ r', step site (.run a) r = some r' ∧ r'.phase = .content := by
  have hctx := (ModuleCtx.of_resumeAppSec hresume).2
  refine ⟨r.advance .content
    (handlePrecontent site.req site.loc site.main site.appsec a r.state), ?_, ?_⟩
  · simp [step, hopen, hphase]
  · rw [handlePrecontent_resume hsite ha hctx hresume, if_pos rfl]
    rfl

theorem followsVerdict_nil (hphase : r.phase ≠ .content)
    (h : r.state.finalized = true ∧ site.loc.metricsEnabled = some true ∨
      Quiet r.state ∨ Waiting site r.state) : FollowsVerdict site r [] where
  single := Nat.zero_le 1
  content_iff _ := iff_of_false hphase (by simp)
  denied := by simp
  allowed := by simp
  pending _ := ⟨hphase, h⟩

theorem followsVerdict_allowed (ho : o.Allows site) (hopen : r.state.finalized = false)
    (h : r.phase = .content ∨
      ∀ a : Answers, a.Clean → ∃ r', step site (.run a) r = some r' ∧ r'.phase = .content) :
    FollowsVerdict site r [o] where
  single := le_rfl
  content_iff hover :=
    iff_of_true (hover.resolve_right (by simp [hopen])) ⟨o, List.mem_singleton_self o, ho⟩
  denied o' ho' hnot := absurd (List.mem_singleton.mp ho' ▸ ho) hnot
  allowed _ _ _ := ⟨hopen, h⟩
  pending hnil := absurd hnil (by simp)

theorem followsVerdict_denied (ho : ¬ o.Allows site) (hphase : r.phase ≠ .content)
    (hfinal : r.state.finalized = true) : FollowsVerdict site r [o] where
  single := le_rfl
  content_iff _ := by
    refine iff_of_false hphase ?_
    rintro ⟨o', ho', hallows⟩
    exact ho (List.mem_singleton.mp ho' ▸ hallows)
  denied _ _ _ := ⟨hphase, hfinal⟩
  allowed o' ho' hallows := absurd (List.mem_singleton.mp ho' ▸ hallows) ho
  pending hnil := absurd hnil (by simp)

theorem Stage.follows {os : List AppSecOutcome} (hsite : site.Inspects clientIp)
    (h : Stage site r os) : FollowsVerdict site r os := by
  cases h with
  | access hs => exact followsVerdict_nil (by simp) (.inr (.inl hs))
  | served hmetrics hfinal => exact followsVerdict_nil (by simp) (.inl ⟨hfinal, hmetrics⟩)
  | precontent hs => exact followsVerdict_nil (by simp) (.inr (.inl hs))
  | waiting hwaiting => exact followsVerdict_nil (by simp) (.inr (.inr hwaiting))
  | allowed ho hs hresume =>
    exact followsVerdict_allowed ho hs.finalized
      (.inr fun a ha => step_of_storedAllowance hsite ha rfl hs.finalized hresume)
  | content ho hs => exact followsVerdict_allowed ho hs.finalized (.inl rfl)
  | denied ho hfinal => exact followsVerdict_denied ho (by simp) hfinal

/-- **From AppSec's verdict to the fate of a request.** Let the client of a main request be known,
not on the bypass list and under no decision, in a location that has AppSec inspect the request.
However AppSec and the thread pool answer, when responses and allocations succeed and the body
can be read, the request follows the verdict after every run. -/
theorem followsVerdict {l : List RequestAction} {body : Option RequestBody}
    (hsite : site.Inspects clientIp) (hclean : ∀ action ∈ l, action.answers.Clean)
    (hexec : exec (step site) l (.initial body) = some r) :
    FollowsVerdict site r (outcomes site l (.initial body)) := by
  have hstart : Stage site (.initial body) [] := .access ⟨rfl, rfl, rfl⟩ rfl
  exact (stage_exec hsite hclean hstart hexec).follows hsite

/-- The exchange is over before nginx enters the phase again; AppSec has replied 200. -/
theorem followsVerdict_replied :
    FollowsVerdict deferringSite
      ⟨.content, { RequestState.initial none with
        ctx := .appsec ⟨.v4 #v[192, 0, 2, 1], .passthrough, false, .declined, false⟩
        processed := 1, inspected := true, remediated := true }⟩
      [.replied 200 none] := by
  have hsite : deferringSite.Inspects (.v4 #v[192, 0, 2, 1]) :=
    ⟨rfl, rfl, by decide, rfl, rfl, rfl⟩
  have hclear : clearAnswers.Clean := ⟨rfl, fun i => by rintro (_ | _ | _) <;> rfl, rfl, rfl⟩
  have hclean : ∀ action ∈ [RequestAction.run clearAnswers, .run clearAnswers,
      .appsecDone (.replied 200 none) clearAnswers, .run clearAnswers], action.answers.Clean := by
    simpa [RequestAction.answers] using hclear
  have hexec : exec (step deferringSite) [.run clearAnswers, .run clearAnswers,
      .appsecDone (.replied 200 none) clearAnswers, .run clearAnswers] (.initial none) =
        some ⟨.content, { RequestState.initial none with
          ctx := .appsec ⟨.v4 #v[192, 0, 2, 1], .passthrough, false, .declined, false⟩
          processed := 1, inspected := true, remediated := true }⟩ := rfl
  exact followsVerdict hsite hclean hexec

end CrowdSecBouncer
