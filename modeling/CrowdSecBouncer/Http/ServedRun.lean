import CrowdSecBouncer.Http.Handover
import CrowdSecBouncer.Http.InternalChallenge
import CrowdSecBouncer.Http.ServedSite

/-!
# What a client gets

Over the whole course of a request, whatever AppSec, the captcha provider and nginx answer, a client
is given at most one response of the module: nothing while the request is open, and at its end one
of the pages that the location is set up for (`servedRun_answered`). Each handler and each callback
is shown to send so, and to be the one of the model without contents, along its calls; a step of a
request, and so a run of it, erases to one of `RequestRun`.
-/

namespace CrowdSecBouncer

open Text HeaderBlock LabelledRun

/-! ### What the parts of a request's course send -/

namespace ServedSite

open ServedRequest

/-- The responses that a site is set up for. -/
inductive IsPage (w : ServedSite) (r : HeadersOut × List Char) : Prop
  | metrics (snapshot : MetricsSnapshot) (henabled : w.loc.metricsEnabled = some true)
      (hstatus : r.1.status = 200) (hpage : r.2 = metricsPage snapshot)
  /-- The metrics are read with GET and HEAD only. -/
  | notAllowed (henabled : w.loc.metricsEnabled = some true) (hstatus : r.1.status = 405)
  /-- Under a ban of LAPI or AppSec, and where nothing else can be shown. -/
  | refusal (h : IsRefusal w.loc r)
  | challenge (ip : IpAddr) (h : IsChallenge w.req w.request w.loc ip r)
  /-- To a form that was submitted: an error page, or the redirect with the session. -/
  | submitted (htemplate : w.loc.captchaTemplate.isSome)
      (hstatus : r.1.status = 200 ∨ r.1.status = 303)
  /-- A challenge of AppSec. -/
  | botChallenge (henabled : w.loc.botChallengeEnabled = some true) (hbody : r.2 ≠ [])

/-- The statuses are those of HTTP, and what is set up fits into header fields. -/
structure Sound (w : ServedSite) : Prop where
  codes : KnowsCodes w.fromU16
  wellFormed : w.loc.WellFormed
  headerSafe : w.loc.HeaderSafe

/-- A handler sends at most one response, which ends the request; without the contents it is
`plain`. -/
structure Handles (P : HeadersOut × List Char → Prop) (s : ServedRequest)
    (out : HandlerResult × ServedRequest) (plain : HandlerResult × RequestState) : Prop where
  sends : Sends P s out
  forget : forget out = plain

/-- The same of a callback, which has no result. -/
structure Serves (P : HeadersOut × List Char → Prop) (s t : ServedRequest)
    (plain : RequestState) : Prop where
  sent : t.response.sent = s.response.sent ∨
    t.request.finalized = true ∧ ∃ r, t.response.sent = s.response.sent ++ [r] ∧ P r
  wellFramed : s.response.WellFramed → t.response.WellFramed
  request : t.request = plain

variable {P : HeadersOut × List Char → Prop} {w : ServedSite} {c : Contents} {a : Answers}
  {s t t' : ServedRequest} {result : HandlerResult} {out : HandlerResult × ServedRequest}
  {plain : HandlerResult × RequestState}

theorem Handles.of_response_eq (h : Handles P t out plain) (heq : t.response = s.response) :
    Handles P s out plain :=
  ⟨h.sends.of_response_eq heq, h.forget⟩

theorem handles_same (heq : t.response = s.response) :
    Handles P s (result, t) (result, t.request) :=
  ⟨sends_same heq, rfl⟩

theorem Handles.eq_pair (h : Handles P s out plain) :
    ∃ result t, out = (result, t) ∧ plain = (result, t.request) ∧ Sends P s (result, t) :=
  ⟨out.1, out.2, rfl, h.forget.symm, h.sends⟩

/-- A handler with another result than `Done` has sent nothing. -/
theorem sent_of_sends (h : Sends P s (result, t)) (hresult : result ≠ .done) :
    t.response.sent = s.response.sent :=
  h.sent.resolve_right fun hsent => hresult hsent.1.1

theorem sends_with_request (h : Sends P s (result, t)) (hresult : result ≠ .done)
    (request : RequestState) : Sends P s (result, { t with request }) :=
  have hsent : t.response.sent = s.response.sent := sent_of_sends h hresult
  ⟨.inl hsent, h.wellFramed⟩

theorem Serves.of_response_eq {request : RequestState} (h : Serves P t t' request)
    (heq : t.response = s.response) : Serves P s t' request :=
  ⟨heq ▸ h.sent, heq ▸ h.wellFramed, h.request⟩

theorem serves_same (heq : t.response = s.response) : Serves P s t t.request :=
  ⟨.inl (heq ▸ rfl), heq ▸ id, rfl⟩

/-! ### The phase handlers -/

theorem handles_handleBanDecision (h : w.Sound) (ip : IpAddr) (lookup : LookupResult)
    (s : ServedRequest) : Handles w.IsPage s (w.handleBanDecision c a ip lookup s)
      (CrowdSecBouncer.handleBanDecision w.req w.loc a s.request) :=
  ⟨(sends_handleBanDecision h.codes h.wellFormed h.headerSafe s).mono fun _ => .refusal,
    forget_handleBanDecision h.codes s⟩

theorem handles_applyLookupRemediation (h : w.Sound) (ip : IpAddr) (s : ServedRequest) :
    Handles w.IsPage s (w.applyLookupRemediation c a ip s)
      (CrowdSecBouncer.applyLookupRemediation w.req w.loc w.main a ip a.lookup s.request) := by
  have hpage : ∀ r, IsAnswer w.req w.request w.loc ip (demanded w.main a.lookup) r →
      w.IsPage r := by
    intro r
    cases demanded w.main a.lookup with
    | allow => exact fun hr => absurd hr id
    | ban => exact .refusal
    | captcha => exact fun hr => hr.elim .refusal (.challenge ip)
  exact ⟨(sends_applyLookupRemediation h.codes h.wellFormed h.headerSafe s).mono hpage,
    forget_applyLookupRemediation h.codes s⟩

theorem outputs_sendTextResponse {contentType : List Char} (htype : fitsLine contentType = true)
    (status : ℕ) (body : List Char)
    (hP : ∀ headers, P ({ status, contentLengthN := some (utf8Bytes body).length, headers }, body))
    (answer : SendAnswer) (response : ResponseState) :
    Outputs P response (response.sendTextResponse answer status contentType body) :=
  ⟨sent_sendBody (hP _) answer .finalize, fun hframed =>
    hframed.sendTextResponse htype answer status body⟩

theorem sendTextResponse_fst {status : ℕ} {contentType body : List Char} (answer : SendAnswer)
    (response : ResponseState) :
    (response.sendTextResponse answer status contentType body).1 = answer.ok .finalize :=
  ResponseState.sendBody_fst ..

/-- An attempt to send, with what becomes of it and without the contents. -/
theorem attempt_handles {send : SendAnswer → ResponseState → Bool × ResponseState}
    {headerFailure : HeaderFailureAction}
    (hsend : ∀ answer response, Outputs P response (send answer response))
    (hok : ∀ answer response, (send answer response).1 = answer.ok headerFailure)
    (a : Answers) (s : ServedRequest) :
    (∃ t, s.attempt a send = (true, t) ∧ Sends P s (.done, t) ∧
        sendResponse a s.request headerFailure = (true, t.request)) ∨
      ∃ t, s.attempt a send = (false, t) ∧ (∀ result, Sends P s (result, t)) ∧
        sendResponse a s.request headerFailure = (false, t.request) := by
  obtain ⟨t, ht, hplain⟩ | ⟨t, ht, hplain⟩ := attempt_cases a s hok
  · obtain ⟨t', ht', hsends⟩ | ⟨t', ht', -⟩ := attempt_outputs (a := a) hsend s
    · obtain rfl := congrArg Prod.snd (ht.symm.trans ht')
      exact .inl ⟨t, ht, hsends, hplain⟩
    · exact absurd (congrArg Prod.fst (ht.symm.trans ht')) (by simp)
  · obtain ⟨t', ht', -⟩ | ⟨t', ht', hsent, hframed⟩ := attempt_outputs (a := a) hsend s
    · exact absurd (congrArg Prod.fst (ht.symm.trans ht')) (by simp)
    · obtain rfl := congrArg Prod.snd (ht.symm.trans ht')
      exact .inr ⟨t, ht, fun _ => ⟨.inl hsent, hframed⟩, hplain⟩

theorem handles_tryServeMetrics (s : ServedRequest) :
    (w.tryServeMetrics c a s = none ∧
        CrowdSecBouncer.tryServeMetrics w.req w.loc a s.request = none) ∨
      ∃ out plain, w.tryServeMetrics c a s = some out ∧
        CrowdSecBouncer.tryServeMetrics w.req w.loc a s.request = some plain ∧
        Handles w.IsPage s out plain := by
  rw [tryServeMetrics, CrowdSecBouncer.tryServeMetrics]
  by_cases henabled : w.loc.metricsEnabled = some true
  · rw [if_neg (not_not.mpr henabled), if_neg (not_not.mpr henabled)]
    have hversion : fitsLine "text/plain; version=0.0.4; charset=utf-8".toList = true := by decide
    have htext : fitsLine "text/plain".toList = true := by decide
    have hshown := attempt_handles (outputs_sendTextResponse (P := w.IsPage) hversion 200
      (metricsPage c.metrics) fun _ => .metrics c.metrics henabled rfl rfl)
      sendTextResponse_fst a s
    have hrefused := attempt_handles (outputs_sendTextResponse (P := w.IsPage) htext 405
      "method not allowed\n".toList fun _ => .notAllowed henabled rfl) sendTextResponse_fst a s
    refine .inr ?_
    cases w.req.method with
    | get | head =>
      obtain ⟨t, ht, hsends, hplain⟩ | ⟨t, ht, hsends, hplain⟩ := hshown
      · rw [ht, hplain]
        exact ⟨_, _, rfl, rfl, hsends, rfl⟩
      · rw [ht, hplain]
        exact ⟨_, _, rfl, rfl, hsends .error, rfl⟩
    | post | other =>
      obtain ⟨t, ht, hsends, hplain⟩ | ⟨t, ht, hsends, hplain⟩ := hrefused
      · rw [ht, hplain]
        exact ⟨_, _, rfl, rfl, hsends, rfl⟩
      · rw [ht, hplain]
        exact ⟨_, _, rfl, rfl, hsends .done, rfl⟩
  · rw [if_pos henabled, if_pos henabled]
    exact .inl ⟨rfl, rfl⟩

theorem handles_handleAccess (h : w.Sound) (s : ServedRequest) :
    Handles w.IsPage s (w.handleAccess c a s)
      (CrowdSecBouncer.handleAccess w.req w.loc w.main a s.request) := by
  rw [handleAccess, CrowdSecBouncer.handleAccess]
  obtain ⟨hnone, hplain⟩ | ⟨out, plain, hout, hplain, hhandles⟩ :=
    handles_tryServeMetrics (w := w) (c := c) (a := a) s
  · rw [hnone, hplain]
    dsimp only
    split
    · exact handles_same rfl
    · cases w.req.clientIp with
      | none => exact handles_same rfl
      | some ip =>
        dsimp only
        split
        · exact handles_same rfl
        · split
          · exact handles_same rfl
          · exact (handles_applyLookupRemediation h ip _).of_response_eq rfl
  · rw [hout, hplain]
    exact hhandles

/-! ### AppSec -/

theorem handles_failClosed (h : w.Sound) (ip : Option IpAddr) (action : AppSecFailureAction)
    (s : ServedRequest) : Handles w.IsPage s (w.failClosed c a ip action s)
      (AppSec.failClosed w.req w.loc a ip action s.request) := by
  cases action with
  | passthrough => exact handles_same rfl
  | deny =>
    cases ip with
    | none => exact handles_same rfl
    | some ip => exact handles_handleBanDecision h ip _ s

theorem handles_applyShmOrAppsecBan (h : w.Sound) (ip : IpAddr) (s : ServedRequest) :
    Handles w.IsPage s (w.applyShmOrAppsecBan c a ip s)
      (AppSec.applyShmOrAppsecBan w.req w.loc a s.request) := by
  rw [applyShmOrAppsecBan, AppSec.applyShmOrAppsecBan]
  split
  · exact handles_handleBanDecision h ip a.lookup s
  · exact handles_handleBanDecision h ip _ s

/-- Without a context to inspect with, the failure action decides. -/
theorem handles_appsecContext (h : w.Sound) (s : ServedRequest) :
    (∃ result t, w.appsecContext c a s = (.error result, t) ∧
        AppSec.appsecContext w.req w.loc w.appsec a s.request = (.error result, t.request) ∧
        Sends w.IsPage s (result, t)) ∨
      ∃ call, w.appsecContext c a s = (.ok call, s) ∧
        AppSec.appsecContext w.req w.loc w.appsec a s.request = (.ok call, s.request) := by
  rw [appsecContext, AppSec.appsecContext]
  dsimp only
  have hclosed (ip : Option IpAddr) (action : AppSecFailureAction) :=
    (handles_failClosed (c := c) (a := a) h ip action s).eq_pair
  split
  · exact .inl ⟨_, s, rfl, rfl, sends_same rfl⟩
  · split
    · exact .inl ⟨_, s, rfl, rfl, sends_same rfl⟩
    · cases w.req.clientIp with
      | none =>
        dsimp only
        split
        · exact .inl ⟨_, s, rfl, rfl, sends_same rfl⟩
        · obtain ⟨result, t, hout, hplain, hsends⟩ := hclosed none _
          rw [hout, hplain]
          exact .inl ⟨result, t, rfl, rfl, hsends⟩
      | some ip =>
        cases w.appsec with
        | none =>
          dsimp only
          split
          · exact .inl ⟨_, s, rfl, rfl, sends_same rfl⟩
          · obtain ⟨result, t, hout, hplain, hsends⟩ := hclosed (some ip) _
            rw [hout, hplain]
            exact .inl ⟨result, t, rfl, rfl, hsends⟩
        | some config => exact .inr ⟨_, rfl, rfl⟩

section Inspection

variable {call : AppSec.Inspection} {body : Option (List UInt8)} {shmBan : Bool}

theorem handles_queueExchange (h : w.Sound) (s : ServedRequest) :
    Handles w.IsPage s (w.queueExchange c a call body shmBan s)
      (AppSec.queueExchange w.req w.loc a call body shmBan s.request) := by
  rw [queueExchange, AppSec.queueExchange]
  rcases postTask a s.request _ with ⟨posted, request⟩
  cases posted with
  | true => exact handles_same rfl
  | false =>
    obtain ⟨result, t, hout, hplain, hsends⟩ := ((handles_failClosed (c := c) (a := a) h
      (some call.ip) call.failureAction { s with request }).of_response_eq (s := s) rfl).eq_pair
    dsimp only at hplain ⊢
    rw [hout, hplain]
    cases result with
    | done => exact ⟨hsends, rfl⟩
    | error | declined | forbidden | bodyReadPending =>
      dsimp only
      exact ⟨sends_with_request hsends (by simp) _, rfl⟩

theorem handles_inspectWithBody (h : w.Sound) (s : ServedRequest) :
    Handles w.IsPage s (w.inspectWithBody c a call body shmBan s)
      (AppSec.inspectWithBody w.req w.loc a call body shmBan s.request) := by
  have hfresh : Handles w.IsPage s
      (if a.appsecAlloc then w.queueExchange c a call body shmBan
          { s with request := { s.request with ctx := AppSec.newContext call shmBan } }
        else w.failClosed c a (some call.ip) call.failureAction s)
      (if a.appsecAlloc then AppSec.queueExchange w.req w.loc a call body shmBan
          { s.request with ctx := AppSec.newContext call shmBan }
        else AppSec.failClosed w.req w.loc a (some call.ip) call.failureAction s.request) := by
    split
    · exact (handles_queueExchange h _).of_response_eq rfl
    · exact handles_failClosed h _ _ s
  rw [inspectWithBody, AppSec.inspectWithBody]
  cases s.request.ctx with
  | empty | captcha ctx => exact hfresh
  | appsec ctx => exact handles_queueExchange h s

theorem handles_inspectOrDropUnforwardableBody (h : w.Sound) (s : ServedRequest) :
    Handles w.IsPage s (w.inspectOrDropUnforwardableBody c a call shmBan s)
      (AppSec.inspectOrDropUnforwardableBody w.req w.loc a call shmBan s.request) := by
  rw [inspectOrDropUnforwardableBody, AppSec.inspectOrDropUnforwardableBody]
  split
  · exact handles_failClosed h _ _ s
  · exact handles_inspectWithBody h s

theorem handles_initiateAppsecBodyRead (h : w.Sound) (s : ServedRequest) :
    Handles w.IsPage s (w.initiateAppsecBodyRead c a call shmBan s)
      (AppSec.initiateAppsecBodyRead w.req w.loc a call shmBan s.request) := by
  rw [initiateAppsecBodyRead, AppSec.initiateAppsecBodyRead]
  split
  · dsimp only
    cases a.appsecRead with
    | started | special => exact handles_same rfl
    | failed => exact (handles_failClosed h _ _ _).of_response_eq rfl
  · exact handles_failClosed h _ _ s

theorem handles_inspectRequestBody (h : w.Sound) (s : ServedRequest) :
    Handles w.IsPage s (w.inspectRequestBody c a call shmBan s)
      (AppSec.inspectRequestBody w.req w.loc a call shmBan s.request) := by
  rw [inspectRequestBody, AppSec.inspectRequestBody]
  split
  · cases extractRequestBodyLimited s.request.body call.config.maxBodySize with
    | ok body => exact handles_inspectWithBody h s
    | tooLarge | unreadable => exact handles_inspectOrDropUnforwardableBody h s
  · split
    · exact handles_inspectOrDropUnforwardableBody h s
    · exact handles_initiateAppsecBodyRead h s

theorem handles_inspect (h : w.Sound) (shmBan : Bool) (s : ServedRequest) :
    Handles w.IsPage s (w.inspect c a shmBan s)
      (AppSec.inspect w.req w.loc w.appsec a shmBan s.request) := by
  rw [inspect, AppSec.inspect]
  dsimp only
  cases s.request.ctx.resumeAppSec with
  | some result => exact handles_same rfl
  | none =>
    dsimp only
    obtain ⟨result, t, hout, hplain, hsends⟩ | ⟨call, hout, hplain⟩ := handles_appsecContext
      (c := c) (a := a) h { s with request := { s.request with inspected := true } }
    · rw [hout, hplain]
      exact ⟨hsends.of_response_eq rfl, rfl⟩
    · rw [hout, hplain]
      dsimp only
      split
      · exact (handles_inspectRequestBody h _).of_response_eq rfl
      · exact (handles_inspectWithBody h _).of_response_eq rfl

end Inspection

theorem handles_handlePrecontent (h : w.Sound) (s : ServedRequest) :
    Handles w.IsPage s (w.handlePrecontent c a s)
      (CrowdSecBouncer.handlePrecontent w.req w.loc w.main w.appsec a s.request) := by
  rw [handlePrecontent, CrowdSecBouncer.handlePrecontent]
  split
  · exact handles_same rfl
  · split
    · exact handles_same rfl
    · cases s.request.ctx.resumeCaptcha with
      | some result => exact handles_same rfl
      | none =>
        cases w.req.clientIp with
        | none => exact handles_same rfl
        | some ip =>
          dsimp only
          split
          · exact handles_same rfl
          · split
            · exact handles_same rfl
            · obtain ⟨result, t, hout, hplain, hsends⟩ :=
                (handles_inspect (c := c) (a := a) h
                  (a.lookup.found && a.lookup.decisionType = .ban) s).eq_pair
              rw [hout, hplain]
              cases result with
              | declined =>
                -- an inspection that lets the request on has sent nothing
                have hremedied := handles_applyLookupRemediation (c := c) (a := a) h ip t
                exact ⟨hremedied.sends.of_failed (sent_of_sends hsends (by simp)) hsends.wellFramed,
                  hremedied.forget⟩
              | done | error | forbidden | bodyReadPending => exact ⟨hsends, rfl⟩

/-! ### The callbacks of AppSec -/

/-- The result of a handler is stored, and sends nothing more. -/
theorem Handles.serves {f : HandlerResult → RequestState → RequestState} (h : Handles P s out plain)
    (hf : ∀ request, f .done request = request) :
    Serves P s { out.2 with request := f out.1 out.2.request } (f plain.1 plain.2) := by
  obtain ⟨result, t, rfl, rfl, hsends⟩ := h.eq_pair
  refine ⟨hsends.sent.imp_right fun hsent => ?_, hsends.wellFramed, rfl⟩
  obtain ⟨⟨rfl, hfinal⟩, hpage⟩ := hsent
  refine ⟨?_, hpage⟩
  dsimp only
  rwa [hf]

theorem Handles.finish (h : Handles P s out plain) :
    Serves P s (ServedSite.finish out) (AppSec.finish plain.1 plain.2) :=
  h.serves fun _ => rfl

/-- A callback without its context ends the request. -/
theorem serves_finalized {ctx : ModuleCtx} (hctx : s.request.ctx = ctx) :
    Serves P s { s with request := { s.request with finalized := true } }
      { s.request with ctx, finalized := true } := by
  subst hctx
  exact serves_same rfl

theorem serves_appsecBodyHandler (h : w.Sound) (s : ServedRequest) :
    Serves w.IsPage s (w.appsecBodyHandler c a s)
      (AppSec.appsecBodyHandler w.req w.loc w.appsec a s.request) := by
  rw [appsecBodyHandler, AppSec.appsecBodyHandler]
  cases hctx : s.request.ctx with
  | empty | captcha ctx => exact serves_finalized hctx
  | appsec ctx =>
    cases w.appsec with
    | none => exact (handles_failClosed h _ _ s).finish
    | some config =>
      dsimp only
      cases extractRequestBodyLimited s.request.body config.maxBodySize with
      | ok body => exact (handles_inspectWithBody h s).finish
      | tooLarge | unreadable => exact (handles_inspectOrDropUnforwardableBody h s).finish

/-- The headers of a challenge are added one by one. -/
theorem outputs_sendRawResponse (status : ℕ) (body : List Char) (page : ChallengePage)
    (hP : ∀ out, P (out, body)) (answer : SendAnswer) (response : ResponseState) :
    Outputs P response (response.sendRawResponse answer status body page.headers) := by
  refine ⟨?_, fun hframed =>
    hframed.sendRawResponse isField_of_mem_challengeHeaders answer status body⟩
  rw [ResponseState.sendRawResponse, ResponseState.foldl_addHeaderOut]
  exact sent_sendBody (hP _) answer .error

theorem handles_applyAppsecResponse (h : w.Sound) (ip : IpAddr) (response : AppSecResponse)
    (failureAction : AppSecFailureAction) (shmBan : Bool) (s : ServedRequest) :
    Handles w.IsPage s (w.applyAppsecResponse c a ip response failureAction shmBan s)
      (AppSec.applyAppsecResponse w.req w.loc a ip response failureAction shmBan s.request) := by
  rw [applyAppsecResponse, AppSec.applyAppsecResponse]
  split
  · exact handles_same rfl
  · split
    · exact handles_failClosed h _ _ s
    · cases response.envelope with
      | none => exact handles_handleBanDecision h ip _ s
      | some envelope =>
        dsimp only
        split
        · exact handles_same rfl
        · split
          · exact handles_applyShmOrAppsecBan h ip s
          · split
            · exact handles_applyShmOrAppsecBan h ip s
            · split
              · next hchallenge =>
                obtain ⟨-, henabled, hbody⟩ := hchallenge
                have hne : envelope.userBodyContent.toList ≠ [] :=
                  fun hnil => hbody (String.toList_eq_nil_iff.mp hnil)
                obtain ⟨t, ht, hsends, hplain⟩ | ⟨t, ht, hsends, hplain⟩ :=
                  attempt_handles (outputs_sendRawResponse (P := w.IsPage)
                    ((w.fromU16 (if c.challenge.httpStatus = 0 then 200
                      else c.challenge.httpStatus)).getD 403)
                    envelope.userBodyContent.toList c.challenge
                    fun _ => .botChallenge henabled hne)
                    (fun _ _ => ResponseState.sendBody_fst ..) a s
                · rw [ht, hplain]
                  exact ⟨⟨hsends.sent, hsends.wellFramed⟩, rfl⟩
                · rw [ht, hplain]
                  have hunsent := sent_of_sends (hsends .forbidden) (by simp)
                  exact ⟨⟨.inl hunsent, (hsends .forbidden).wellFramed⟩, rfl⟩
              · exact handles_same rfl

theorem serves_complete (h : w.Sound) (ip : IpAddr) (failureAction : AppSecFailureAction)
    (shmBan : Bool) (exchange : AppSecExchange) (s : ServedRequest) :
    Serves w.IsPage s (w.complete c a ip failureAction shmBan exchange s)
      (AppSec.complete w.req w.loc a ip failureAction shmBan exchange s.request) := by
  have hclosed := handles_failClosed (c := c) (a := a) h (some ip) failureAction s
  rw [complete, AppSec.complete]
  cases s.request.ctx with
  | empty | captcha ctx =>
    exact hclosed.serves (f := AppSec.finalizeAsyncResult) fun _ => rfl
  | appsec ctx =>
    cases exchange.response with
    | none => exact hclosed.finish
    | some response =>
      exact (handles_applyAppsecResponse h ip response failureAction shmBan s).finish

/-! ### The callbacks of a captcha -/

/-- A buffered response goes out with its status and body, or not at all. -/
theorem sent_sendBufferedResponse {status : ℕ} {body : List Char}
    (hP : ∀ out : HeadersOut, out.status = status → P (out, body)) (answer : SendAnswer)
    (headers : List Field) (response : ResponseState) :
    (response.sendBufferedResponse answer status headers body).sent = response.sent ∨
      ∃ r, (response.sendBufferedResponse answer status headers body).sent =
        response.sent ++ [r] ∧ P r := by
  obtain ⟨added, -, heq⟩ := ResponseState.foldl_addHeader headers
    ((response.disableKeepalive.setStatus status).setContentLengthN (utf8Bytes body).length)
  rw [ResponseState.sendBufferedResponse, heq]
  dsimp only
  split
  · exact .inr ⟨_, rfl, hP _ rfl⟩
  · exact .inl rfl

theorem serves_sendBuffered {send : SendAnswer → ResponseState → ResponseState}
    (hsend : ∀ answer response, (send answer response).sent = response.sent ∨
      ∃ r, (send answer response).sent = response.sent ++ [r] ∧ P r)
    (hframed : ∀ answer response, response.WellFramed → (send answer response).WellFramed)
    (s : ServedRequest) : Serves P s (sendBuffered a send s) (sendBufferedResponse s.request) :=
  ⟨(hsend _ _).imp_right fun h => ⟨rfl, h⟩, hframed _ _, rfl⟩

section Captcha

variable {template : Template}

theorem serves_sendError (htemplate : w.loc.captchaTemplate = some template)
    (ctx : CaptchaPostContext) (message : List Char) (s : ServedRequest) :
    Serves w.IsPage s (w.sendError a template ctx message s) (sendBufferedResponse s.request) := by
  refine serves_sendBuffered (fun answer response => ?_) (fun answer response hframed =>
    hframed.sendCaptchaErrorPage answer template ctx.config ctx.clientIp _ message) s
  have hsome : w.loc.captchaTemplate.isSome := by
    rw [htemplate]
    rfl
  exact sent_sendBufferedResponse (fun _ hstatus => .submitted hsome (.inl hstatus)) ..

theorem serves_answerSolved (htemplate : w.loc.captchaTemplate = some template)
    (ctx : CaptchaPostContext) (now : ℤ) (random : Vector UInt8 16) (s : ServedRequest) :
    Serves w.IsPage s
      (sendBuffered a (fun answer response => response.answerSolved w.lib w.trusted w.request
        ctx.clientIp answer ctx.config template now random) s)
      (sendBufferedResponse s.request) := by
  have hsome : w.loc.captchaTemplate.isSome := by
    rw [htemplate]
    rfl
  refine serves_sendBuffered (fun answer response => ?_)
    (fun answer response hframed => hframed.answerSolved ..) s
  rw [ResponseState.answerSolved]
  split
  · exact sent_sendBufferedResponse (fun _ hstatus => .submitted hsome (.inr hstatus)) ..
  · exact sent_sendBufferedResponse (fun _ hstatus => .submitted hsome (.inl hstatus)) ..

end Captcha

theorem serves_captchaBodyHandler (s : ServedRequest) :
    Serves w.IsPage s (w.captchaBodyHandler a s)
      (CrowdSecBouncer.captchaBodyHandler w.loc a s.request) := by
  rw [captchaBodyHandler, CrowdSecBouncer.captchaBodyHandler]
  cases hctx : s.request.ctx with
  | empty | appsec ctx => exact serves_finalized hctx
  | captcha ctx =>
    cases htemplate : w.loc.captchaTemplate with
    | none => exact serves_same rfl
    | some template =>
      have herror := serves_sendError (a := a) htemplate ctx
      dsimp only
      cases extractRequestBodyLimited s.request.body MAX_CAPTCHA_BODY_SIZE with
      | tooLarge | unreadable => exact herror _ s
      | ok body =>
        cases hempty : body.isEmpty with
        | true => simpa [hempty] using herror _ s
        | false =>
          cases hresponse : a.captchaResponse with
          | false => simpa [hempty, hresponse] using herror _ s
          | true =>
            simp only [hempty, Bool.not_true, Bool.or_false, Bool.false_eq_true,
              if_false, Option.isNone_some]
            rcases postTask a s.request .verifyCaptcha with ⟨posted, request⟩
            cases posted with
            | true => exact serves_same rfl
            | false => exact (herror _ { s with request }).of_response_eq rfl

theorem serves_completeVerification (result : VerifyResult) (s : ServedRequest) :
    Serves w.IsPage s (w.completeVerification c a result s)
      (CrowdSecBouncer.completeVerification w.loc result s.request) := by
  rw [completeVerification, CrowdSecBouncer.completeVerification]
  cases hctx : s.request.ctx with
  | empty | appsec ctx => exact serves_finalized hctx
  | captcha ctx =>
    cases htemplate : w.loc.captchaTemplate with
    | none => exact serves_same rfl
    | some template =>
      have herror := serves_sendError (a := a) htemplate ctx
      have houtage (message : List Char) : Serves w.IsPage s
          (if ctx.config.failOpen then { s with request := finishCaptcha .declined s.request }
            else w.sendError a template ctx message s)
          (if ctx.config.failOpen then finishCaptcha .declined s.request
            else sendBufferedResponse s.request) := by
        split
        · exact serves_same rfl
        · exact herror _ s
      cases result with
      | success =>
        simp only [VerifyResult.isOutage, Bool.and_false, Bool.false_eq_true, if_false,
          Option.isNone_some]
        exact serves_answerSolved htemplate ctx c.now c.random s
      | failed | invalidResponse =>
        simp only [VerifyResult.isOutage, Bool.and_false, Bool.false_eq_true, if_false,
          Option.isNone_some]
        exact herror _ s
      | networkError | timeout | providerError =>
        simp only [VerifyResult.isOutage, Bool.and_true, Bool.false_eq_true, if_false,
          Option.isNone_some]
        exact houtage _

end ServedSite

/-! ### What a run sends -/

namespace ServedRun

open ServedRequest ServedSite

variable {w : ServedSite} {label : RequestAction × Contents} {r r' : ServedRun}

/-- The client has got nothing, or one page and the request is over. -/
structure Answered (w : ServedSite) (r : ServedRun) : Prop where
  sent : r.state.response.sent = [] ∨
    r.state.request.finalized = true ∧ ∃ page, r.state.response.sent = [page] ∧ w.IsPage page
  wellFramed : r.state.response.WellFramed

theorem forget_advance (r : ServedRun) (next : Phase) (out : HandlerResult × ServedRequest) :
    (r.advance next out).forget = r.forget.advance next (ServedRequest.forget out) := by
  obtain ⟨result, t⟩ := out
  cases result with
  | declined | done | error | forbidden | bodyReadPending => rfl

/-- What a handler sends, it sends for an open request. -/
theorem Answered.advance {next : Phase} {out : HandlerResult × ServedRequest}
    (h : r.Answered w) (hopen : r.state.request.finalized = false)
    (hsends : Sends w.IsPage r.state out) : (r.advance next out).Answered w := by
  obtain ⟨result, t⟩ := out
  have hnil : r.state.response.sent = [] := h.sent.resolve_right (by simp [hopen])
  have hsent : t.response.sent = [] ∨ (result = .done ∧ t.request.finalized = true) ∧
      ∃ page, t.response.sent = [page] ∧ w.IsPage page := by
    simpa only [hnil, List.nil_append] using hsends.sent
  have hframed := hsends.wellFramed h.wellFramed
  cases result with
  | done => exact ⟨hsent.imp_right fun hsent => ⟨hsent.1.2, hsent.2⟩, hframed⟩
  | declined | error | forbidden | bodyReadPending =>
    exact ⟨.inl (hsent.resolve_right nofun), hframed⟩

/-- So does a callback. -/
theorem spec_of_serves (r : ServedRun) {s t : ServedRequest} {plain : RequestState}
    (hopen : r.state.request.finalized = false) (hs : s.response = r.state.response)
    (hserves : Serves w.IsPage s t plain) (phase : Phase) :
    (some (⟨phase, t⟩ : ServedRun)).map forget = some ⟨phase, plain⟩ ∧
      ∀ r', r.Answered w → some (⟨phase, t⟩ : ServedRun) = some r' → r'.Answered w := by
  refine ⟨congrArg (fun request => some (⟨phase, request⟩ : RequestRun)) hserves.request, ?_⟩
  rintro r' h ⟨⟩
  have hnil : s.response.sent = [] := hs ▸ h.sent.resolve_right (by simp [hopen])
  refine ⟨?_, hserves.wellFramed (hs ▸ h.wellFramed)⟩
  simpa only [hnil, List.nil_append] using hserves.sent

theorem spec_of_none (r : ServedRun) : (none : Option ServedRun).map forget = none ∧
    ∀ r', r.Answered w → (none : Option ServedRun) = some r' → r'.Answered w :=
  ⟨rfl, fun _ _ hstep => absurd hstep.symm (Option.some_ne_none _)⟩

/-- **Step lemma.** -/
theorem step_spec (hw : w.Sound) (label : RequestAction × Contents) (r : ServedRun) :
    (step w label r).map forget = RequestRun.step w.toSite label.1 r.forget ∧
      ∀ r', r.Answered w → step w label r = some r' → r'.Answered w := by
  obtain ⟨action, c⟩ := label
  obtain ⟨phase, s⟩ := r
  rw [step, RequestRun.step.eq_def, forget]
  dsimp only
  cases hopen : s.request.finalized with
  | true =>
    rw [if_pos rfl, if_pos rfl]
    exact spec_of_none _
  | false =>
    rw [if_neg Bool.false_ne_true, if_neg Bool.false_ne_true]
    cases action with
    | run a =>
      dsimp only
      cases phase with
      | access =>
        have hhandles := handles_handleAccess (c := c) (a := a) hw s
        refine ⟨?_, fun r' h hstep => ?_⟩
        · exact congrArg some ((forget_advance ..).trans (congrArg _ hhandles.forget))
        · exact Option.some_injective _ hstep ▸ h.advance hopen hhandles.sends
      | precontent =>
        have hhandles := handles_handlePrecontent (c := c) (a := a) hw s
        refine ⟨?_, fun r' h hstep => ?_⟩
        · exact congrArg some ((forget_advance ..).trans (congrArg _ hhandles.forget))
        · exact Option.some_injective _ hstep ▸ h.advance hopen hhandles.sends
      | content => exact spec_of_none _
    | bodyRead body a =>
      dsimp only
      cases s.request.reading with
      | none => exact spec_of_none _
      | some callback =>
        cases callback with
        | appsec =>
          refine spec_of_serves ⟨phase, s⟩ hopen ?_ (serves_appsecBodyHandler hw _) phase
          rfl
        | captcha =>
          refine spec_of_serves ⟨phase, s⟩ hopen ?_ (serves_captchaBodyHandler _) phase
          rfl
    | appsecDone exchange a =>
      dsimp only
      cases s.request.task with
      | none => exact spec_of_none _
      | some task =>
        cases task with
        | verifyCaptcha => exact spec_of_none _
        | appsec ip failureAction shmBan body =>
          refine spec_of_serves ⟨phase, s⟩ hopen ?_ (serves_complete hw ..) phase
          rfl
    | verifyDone result a =>
      dsimp only
      cases s.request.task with
      | none => exact spec_of_none _
      | some task =>
        cases task with
        | appsec ip failureAction shmBan body => exact spec_of_none _
        | verifyCaptcha =>
          refine spec_of_serves ⟨phase, s⟩ hopen ?_ (serves_completeVerification ..) phase
          rfl

/-- A run is a run of the request without the contents. -/
theorem map_forget_exec (hw : w.Sound) (labels : List (RequestAction × Contents))
    (r : ServedRun) : (exec (step w) labels r).map forget =
      exec (RequestRun.step w.toSite) (labels.map Prod.fst) r.forget := by
  induction labels generalizing r with
  | nil => rfl
  | cons label labels ih =>
    rw [List.map_cons, exec, exec, ← (step_spec hw label r).1]
    cases step w label r with
    | none => rfl
    | some r' => exact ih r'

end ServedRun

section Runs

open ServedRequest

/-- **What a client gets over the whole course of its request.** In every run, whatever AppSec, the
captcha provider and nginx answer and whichever attempts to send fail, an open request has no
response; it is given at most one, which ends it, of a kind that the location is set up for, and
which is well framed. The contents left out, the runs are those of `RequestRun`. -/
theorem servedRun_answered {fromFile : List Char → Except (List Char) Template} {w : ServedSite}
    (hcodes : KnowsCodes w.fromU16) (hloc : Configured fromFile w.loc)
    (htemplate : ∀ template ∈ w.loc.banTemplate, ∃ extension,
      template.contentType.toList = Pages.contentTypeFromExtension extension)
    (body : Option RequestBody) (labels : List (RequestAction × Contents)) :
    EveryState (ServedRun.step w) (ServedRun.Answered w) labels (.initial body) ∧
      (exec (ServedRun.step w) labels (.initial body)).map ServedRun.forget =
        exec (RequestRun.step w.toSite) (labels.map Prod.fst) (.initial body) := by
  have hw : w.Sound :=
    ⟨hcodes, wellFormed_of_configured hloc, headerSafe_of_configured hloc htemplate⟩
  have hsteps : EveryStep (ServedRun.step w) (fun _ _ => True) labels (.initial body) :=
    everyStep_of_mem fun _ _ _ => trivial
  refine ⟨everyState_of_step (fun label r r' _ h hstep => ?_) hsteps ⟨.inl rfl, wellFramed_empty⟩,
    ServedRun.map_forget_exec hw labels _⟩
  exact (ServedRun.step_spec hw label r).2 r' h hstep

end Runs

/-! ### A challenge -/

/-- The location challenges bots, under whatever path. -/
def exampleServedSite : ServedSite where
  toSite := { challengeSite with req := plainRequest }
  request := exampleResponseRequest
  trusted := []
  fromU16 := some
  lib := exampleLibraries

def exampleContents : Contents where
  scenarios := []
  metrics := metricsPrometheusSnapshot (fun _ => ⟨none, none⟩) 0
  now := 1700000000
  random := Vector.replicate 16 0
  challenge := exampleChallenge
  reason := []

/-- A client under no decision, that AppSec wants to be challenged. -/
def challengeRun : List (RequestAction × Contents) :=
  [.run clearAnswers, .run clearAnswers,
    .appsecDone (.replied 403 (some ⟨"challenge", "ü"⟩)) clearAnswers].map
      fun action => (action, exampleContents)

/-- The challenge is sent without the fields that break out of their lines or of the message. -/
theorem servedRun_answered_challengeRun :
    EveryState (ServedRun.step exampleServedSite) (ServedRun.Answered exampleServedSite)
        challengeRun (.initial none) ∧
      (exec (ServedRun.step exampleServedSite) challengeRun (.initial none)).map
          (fun r => r.state.response.sent) =
        some [({ status := 200, contentLengthN := some 2, headers := [
          ("X-A".toList, "1".toList), ("Set-Cookie".toList, "a=b".toList)] }, ['ü'])] := by
  have hconfigure : configure exampleFile [["crowdsec", "on"], ["crowdsec_appsec", "on"],
      ["crowdsec_bot_challenge", "on"]] = some exampleServedSite.loc := by decide +kernel
  exact ⟨(servedRun_answered (fun _ _ _ => rfl) (configured_of_configure hconfigure) nofun none
    challengeRun).1, by decide +kernel⟩

end CrowdSecBouncer
