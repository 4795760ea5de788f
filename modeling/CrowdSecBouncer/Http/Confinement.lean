import CrowdSecBouncer.Http.Phases

/-!
# What a suspended request can come back with

While a request is suspended, the reasons for which a later run may let it through lie in its
state: a stored outcome, the failure action of a context or of a pending task. `Confined`
bounds them by two propositions, `allow` for everything that AppSec may decide and `captcha`
for the presence of a captcha submission, and the lemmas below show what each AppSec function
and each callback adds when responses can be sent: nothing beyond these bounds. The claims
about whole runs instantiate the bounds.
-/

namespace CrowdSecBouncer

variable {req : HttpRequest} {loc : LocConfig} {main : MainConfig}
  {config : Option AppSecConfig} {a : Answers} {s s' : RequestState} {allow captcha : Prop}

/-! ### Confined states and results -/

/-- No outcome stored or under way lets the request through, except by an `allow` of AppSec;
and a captcha submission is under way only by `captcha`. -/
structure Confined (allow captcha : Prop) (s : RequestState) : Prop where
  ctx : match s.ctx with
    | .empty => True
    | .appsec c =>
      (c.storedResult = .declined ∨ c.failureAction = .passthrough → allow) ∧
        c.storedResult ≠ .error ∧ c.storedResult ≠ .done
    | .captcha c => captcha ∧ c.storedResult ≠ .declined ∧ c.storedResult ≠ .error
  reading : s.reading = some .captcha → captcha
  task : match s.task with
    | some (.appsec _ failureAction _ _) => failureAction = .passthrough → allow
    | some .verifyCaptcha => captcha
    | none => True

/-- Only context, body read and task matter. -/
theorem Confined.of_eq (h : Confined allow captcha s) (hctx : s'.ctx = s.ctx)
    (hreading : s'.reading = s.reading) (htask : s'.task = s.task) :
    Confined allow captcha s' := by
  obtain ⟨h₁, h₂, h₃⟩ := h
  exact ⟨hctx ▸ h₁, hreading ▸ h₂, htask ▸ h₃⟩

theorem Confined.initial (body : Option RequestBody) :
    Confined allow captcha (RequestState.initial body) :=
  ⟨trivial, fun h => absurd h (by simp [RequestState.initial]), trivial⟩

/-- Storing a result keeps the kind of context. -/
theorem ModuleCtx.resumeCaptcha_storeResult {ctx : ModuleCtx} (h : ctx.resumeCaptcha = none)
    (result : HandlerResult) : (ctx.storeResult result).resumeCaptcha = none := by
  rcases ctx with _ | c | c
  · rfl
  · rfl
  · exact absurd h (by simp [ModuleCtx.resumeCaptcha])

/-- An allowance may be stored where `allow` permits it. -/
theorem Confined.storeDeclined (h : Confined allow captcha s) (hctx : s.ctx.resumeCaptcha = none)
    (hallow : allow) : Confined allow captcha { s with ctx := s.ctx.storeResult .declined } := by
  refine ⟨?_, h.reading, h.task⟩
  rcases hslot : s.ctx with _ | c | c
  · trivial
  · exact ⟨fun _ => hallow, by simp [StoredPhaseResult.encode], by simp [StoredPhaseResult.encode]⟩
  · exact absurd (hslot ▸ hctx) (by simp [ModuleCtx.resumeCaptcha])

/-- The request is answered, or still confined. -/
def Settled (allow captcha : Prop) (s : RequestState) : Prop :=
  s.finalized = true ∨ Confined allow captcha s

/-- What an AppSec function may return when responses can be sent. -/
def ConfinedResult (allow captcha : Prop) : HandlerResult × RequestState → Prop
  | (.declined, s) => allow ∧ Confined allow captcha s ∧ s.ctx.resumeCaptcha = none
  | (.forbidden, _) => True
  | (.error, _) => False
  | (.done, s) => s.finalized = true
  | (.bodyReadPending, s) => Confined allow captcha s

/-- A handler that does not decline suspends or ends the request. -/
theorem ConfinedResult.advance {out : HandlerResult × RequestState} {r : RequestRun}
    (next : Phase) (h : ConfinedResult allow captcha out) (hdeclined : out.1 ≠ .declined) :
    (r.advance next out).phase = r.phase ∧ Settled allow captcha (r.advance next out).state := by
  obtain ⟨result, t⟩ := out
  rcases result with _ | _ | _ | _ | _
  · exact absurd rfl hdeclined
  · exact ⟨rfl, .inl rfl⟩
  · exact h.elim
  · exact ⟨rfl, .inl h⟩
  · exact ⟨rfl, .inr h⟩

/-! ### Bans and failures -/

variable (loc) in
theorem finishBlockBan_of_succeeds (h : a.SendsSucceed) (s : RequestState) :
    ∃ s', finishBlockBan loc a s = (.done, s') ∧ s'.finalized = true := by
  rw [finishBlockBan]
  rw [sendResponse_of_ok (h _ _)]
  exact ⟨_, rfl, rfl⟩

variable (req loc) in
/-- A ban is enforced when responses can be sent. -/
theorem handleBanDecision_of_succeeds (h : a.SendsSucceed) (s : RequestState) :
    ∃ s', handleBanDecision req loc a s = (.done, s') ∧ s'.finalized = true := by
  have hsend (t : RequestState) :
      ∃ s', sendBan req loc a t = (.done, s') ∧ s'.finalized = true := by
    rw [sendBan]
    split
    · exact finishBlockBan_of_succeeds loc h _
    · rw [sendResponse_of_ok (h _ _)]
      exact ⟨_, rfl, rfl⟩
  rw [handleBanDecision, tryBanRedirect]
  split
  · next hredirect =>
    split at hredirect
    · rw [sendResponse_of_ok (h _ _)] at hredirect
      obtain ⟨-, rfl⟩ := Prod.mk.inj hredirect
      exact ⟨_, rfl, rfl⟩
    · exact absurd (Prod.mk.inj hredirect).1 (by simp)
  · exact hsend _

namespace AppSec

theorem failClosed_confined {action : AppSecFailureAction} (ip : IpAddr) (ha : a.SendsSucceed)
    (h : Confined allow captcha s) (hctx : s.ctx.resumeCaptcha = none)
    (haction : action = .passthrough → allow) :
    ConfinedResult allow captcha (failClosed req loc a (some ip) action s) := by
  rcases action with _ | _
  · exact ⟨haction rfl, h, hctx⟩
  · obtain ⟨s', hban, hfinal⟩ := handleBanDecision_of_succeeds req loc ha s
    change ConfinedResult allow captcha (handleBanDecision req loc a s)
    rw [hban]
    exact hfinal

/-! ### The inspection -/

variable {call : Inspection} {shmBan : Bool} {body : Option (List UInt8)}

theorem queueExchange_confined (ha : a.SendsSucceed) (h : Confined allow captcha s)
    (hctx : s.ctx.resumeCaptcha = none) (haction : call.failureAction = .passthrough → allow) :
    ConfinedResult allow captcha (queueExchange req loc a call body shmBan s) := by
  rw [queueExchange, postTask]
  by_cases hpost : a.posts = true ∧ s.task = none
  · rw [if_pos hpost]
    exact ⟨h.ctx, h.reading, haction⟩
  · rw [if_neg hpost]
    rcases hcall : call.failureAction with _ | _
    · exact ⟨haction hcall, h.storeDeclined hctx (haction hcall),
        ModuleCtx.resumeCaptcha_storeResult hctx _⟩
    · obtain ⟨s', hban, hfinal⟩ := handleBanDecision_of_succeeds req loc ha s
      simp only [failClosed, applyAppsecBanPage, hban]
      exact hfinal

/-- A fresh context brings nothing that the inspection does not. -/
theorem newContext_confined (h : Confined allow captcha s)
    (haction : call.failureAction = .passthrough → allow) :
    Confined allow captcha { s with ctx := newContext call shmBan } :=
  ⟨⟨fun hcase => by
    rcases hcase with hstored | hpass
    · exact absurd hstored (by simp)
    · exact haction hpass, by simp, by simp⟩, h.reading, h.task⟩

theorem inspectWithBody_confined (ha : a.SendsSucceed) (h : Confined allow captcha s)
    (hctx : s.ctx.resumeCaptcha = none) (haction : call.failureAction = .passthrough → allow) :
    ConfinedResult allow captcha (inspectWithBody req loc a call body shmBan s) := by
  have hfresh : ConfinedResult allow captcha
      (if a.appsecAlloc then
        queueExchange req loc a call body shmBan { s with ctx := newContext call shmBan }
      else failClosed req loc a (some call.ip) call.failureAction s) := by
    split
    · exact queueExchange_confined ha (newContext_confined h haction) rfl haction
    · exact failClosed_confined _ ha h hctx haction
  rw [inspectWithBody]
  split
  · exact queueExchange_confined ha h hctx haction
  · exact hfresh
  · exact hfresh

theorem inspectOrDropUnforwardableBody_confined (ha : a.SendsSucceed)
    (h : Confined allow captcha s) (hctx : s.ctx.resumeCaptcha = none)
    (haction : call.failureAction = .passthrough → allow) :
    ConfinedResult allow captcha (inspectOrDropUnforwardableBody req loc a call shmBan s) := by
  rw [inspectOrDropUnforwardableBody]
  split
  · exact failClosed_confined _ ha h hctx (fun hpass => absurd hpass (by simp))
  · exact inspectWithBody_confined ha h hctx haction

theorem initiateAppsecBodyRead_confined (ha : a.SendsSucceed) (h : Confined allow captcha s)
    (hctx : s.ctx.resumeCaptcha = none) (haction : call.failureAction = .passthrough → allow) :
    ConfinedResult allow captcha (initiateAppsecBodyRead req loc a call shmBan s) := by
  have hnew : Confined allow captcha { s with ctx := newContext call shmBan } :=
    newContext_confined h haction
  rw [initiateAppsecBodyRead]
  split
  · rcases a.appsecRead with _ | _ | _
    · exact ⟨hnew.ctx, fun hread => absurd hread (by simp), hnew.task⟩
    · trivial
    · exact failClosed_confined _ ha hnew rfl haction
  · exact failClosed_confined _ ha h hctx haction

theorem inspectRequestBody_confined (ha : a.SendsSucceed) (h : Confined allow captcha s)
    (hctx : s.ctx.resumeCaptcha = none) (haction : call.failureAction = .passthrough → allow) :
    ConfinedResult allow captcha (inspectRequestBody req loc a call shmBan s) := by
  rw [inspectRequestBody]
  split
  · split
    · exact inspectWithBody_confined ha h hctx haction
    · exact inspectOrDropUnforwardableBody_confined ha h hctx haction
    · exact inspectOrDropUnforwardableBody_confined ha h hctx haction
  · split
    · exact inspectOrDropUnforwardableBody_confined ha h hctx haction
    · exact initiateAppsecBodyRead_confined ha h hctx haction

/-- The outcome of an earlier run is read back. -/
theorem resumeAppSec_confined {result : HandlerResult} (h : Confined allow captcha s)
    (hctx : s.ctx.resumeCaptcha = none) (hresume : s.ctx.resumeAppSec = some result) :
    ConfinedResult allow captcha (result, s) := by
  have hold := h.ctx
  rcases hslot : s.ctx with _ | c | c
  · exact absurd (hslot ▸ hresume) (by simp [ModuleCtx.resumeAppSec])
  · rw [hslot] at hresume hold
    simp only [ModuleCtx.resumeAppSec, Option.some.injEq] at hresume
    subst hresume
    rcases hstored : c.storedResult with _ | _ | _ | _ | _
    · exact h
    · exact ⟨hold.1 (.inl hstored), h, hctx⟩
    · trivial
    · exact absurd hstored hold.2.2
    · exact absurd hstored hold.2.1
  · exact absurd (hslot ▸ hresume) (by simp [ModuleCtx.resumeAppSec])

variable (loc config) in
/-- The context of an inspection either decides by itself or leaves the state alone; on an
internal challenge path neither needs `allow`. -/
theorem appsecContext_confined (ha : a.SendsSucceed) (h : Confined allow captcha s)
    (hctx : s.ctx.resumeCaptcha = none) (hip : req.clientIp ≠ none)
    (hpass : req.internalChallenge = false → allow) :
    (∃ result t, appsecContext req loc config a s = (.error result, t) ∧
        ConfinedResult allow captcha (result, t)) ∨
      ∃ call, appsecContext req loc config a s = (.ok call, s) ∧
        (call.failureAction = .passthrough → allow) := by
  obtain ⟨ip, hip⟩ := Option.ne_none_iff_exists'.mp hip
  rw [appsecContext]
  dsimp only
  rw [hip]
  split
  · rcases hinternal : req.internalChallenge with _ | _
    · exact .inl ⟨_, _, rfl, hpass hinternal, h, hctx⟩
    · exact .inl ⟨_, _, rfl, trivial⟩
  · split
    · exact .inl ⟨_, _, rfl, trivial⟩
    · dsimp only
      rcases hinternal : req.internalChallenge with _ | _
      · rcases config with _ | config
        · refine .inl ⟨_, _, rfl, ?_⟩
          exact failClosed_confined ip ha h hctx fun _ => hpass hinternal
        · exact .inr ⟨_, rfl, fun _ => hpass hinternal⟩
      · rcases config with _ | config
        · exact .inl ⟨_, _, rfl, trivial⟩
        · exact .inr ⟨_, rfl, fun hcase => absurd hcase (by simp)⟩

/-- **The inspection.** -/
theorem inspect_confined (ha : a.SendsSucceed) (h : Confined allow captcha s)
    (hctx : s.ctx.resumeCaptcha = none) (hip : req.clientIp ≠ none)
    (hpass : req.internalChallenge = false → allow) :
    ConfinedResult allow captcha (inspect req loc config a shmBan s) := by
  have hs : Confined allow captcha { s with inspected := true } := h.of_eq rfl rfl rfl
  rw [inspect]
  dsimp only
  rcases hresume : s.ctx.resumeAppSec with _ | result
  · rcases appsecContext_confined loc config ha hs hctx hip hpass with
      ⟨result, t, heq, hresult⟩ | ⟨call, heq, haction⟩
    · rw [heq]
      exact hresult
    · rw [heq]
      dsimp only
      split
      · exact inspectRequestBody_confined ha hs hctx haction
      · exact inspectWithBody_confined ha hs hctx haction
  · exact resumeAppSec_confined hs hctx hresume

/-! ### The callbacks -/

theorem finish_settled {out : HandlerResult × RequestState}
    (h : ConfinedResult allow captcha out) : Settled allow captcha (finish out.1 out.2) := by
  obtain ⟨result, t⟩ := out
  rcases result with _ | _ | _ | _ | _
  · exact .inr (h.2.1.storeDeclined h.2.2 h.1)
  · exact .inl rfl
  · exact h.elim
  · exact .inl h
  · exact .inr h

theorem appsecBodyHandler_settled (ha : a.SendsSucceed) (h : Confined allow captcha s) :
    Settled allow captcha (appsecBodyHandler req loc config a s) := by
  have hold := h.ctx
  rw [appsecBodyHandler]
  rcases hslot : s.ctx with _ | c | c
  · exact .inl rfl
  · rw [hslot] at hold
    have hctx : s.ctx.resumeCaptcha = none := by
      rw [hslot]
      rfl
    have haction : c.failureAction = .passthrough → allow := fun hpass => hold.1 (.inr hpass)
    dsimp only
    rcases config with _ | config
    · exact finish_settled (failClosed_confined c.clientIp ha h hctx haction)
    · dsimp only
      split
      · exact finish_settled (inspectWithBody_confined ha h hctx haction)
      · exact finish_settled (inspectOrDropUnforwardableBody_confined ha h hctx haction)
      · exact finish_settled (inspectOrDropUnforwardableBody_confined ha h hctx haction)
  · exact .inl rfl

end AppSec

/-- AppSec allows the request: status 200, or an envelope that says so. -/
def AppSecExchange.Allows (exchange : AppSecExchange) : Prop :=
  ∃ response, exchange.response = some response ∧
    (response.status = 200 ∨
      ∃ envelope, response.envelope = some envelope ∧ envelope.action = "allow")

namespace AppSec

theorem applyAppsecResponse_confined {ip : IpAddr} {response : AppSecResponse}
    {failureAction : AppSecFailureAction} {shmBan : Bool} (ha : a.SendsSucceed)
    (h : Confined allow captcha s) (hctx : s.ctx.resumeCaptcha = none)
    (haction : failureAction = .passthrough → allow)
    (hreply : (response.status = 200 ∨
      ∃ envelope, response.envelope = some envelope ∧ envelope.action = "allow") → allow) :
    ConfinedResult allow captcha
      (applyAppsecResponse req loc a ip response failureAction shmBan s) := by
  have hban : ConfinedResult allow captcha (handleBanDecision req loc a s) := by
    obtain ⟨s', heq, hfinal⟩ := handleBanDecision_of_succeeds req loc ha s
    rw [heq]
    exact hfinal
  have hshm : ConfinedResult allow captcha (applyShmOrAppsecBan req loc a s) := by
    rw [applyShmOrAppsecBan, applyAppsecBanPage]
    split <;> exact hban
  rw [applyAppsecResponse]
  split
  · next hstatus => exact ⟨hreply (.inl hstatus), h, hctx⟩
  · split
    · exact failClosed_confined ip ha h hctx haction
    · rcases henvelope : response.envelope with _ | envelope
      · exact hban
      · dsimp only
        split
        · next hallow => exact ⟨hreply (.inr ⟨envelope, henvelope, hallow⟩), h, hctx⟩
        · split
          · exact hshm
          · split
            · exact hshm
            · split
              · -- the page of a bot challenge ends the request, since it can be sent
                rw [sendResponse_of_ok (ha _ _)]
                rfl
              · trivial

theorem complete_settled {ip : IpAddr} {failureAction : AppSecFailureAction} {shmBan : Bool}
    {exchange : AppSecExchange} (ha : a.SendsSucceed) (h : Confined allow captcha s)
    (haction : failureAction = .passthrough → allow) (hreply : exchange.Allows → allow) :
    Settled allow captcha (complete req loc a ip failureAction shmBan exchange s) := by
  -- without a context nothing is stored
  have hlost : Settled allow captcha
      (finalizeAsyncResult (failClosed req loc a (some ip) failureAction s).1
        (failClosed req loc a (some ip) failureAction s).2) := by
    rcases failureAction with _ | _
    · exact .inr h
    · obtain ⟨s', heq, hfinal⟩ := handleBanDecision_of_succeeds req loc ha s
      simp only [failClosed, applyAppsecBanPage, heq]
      exact .inl hfinal
  rw [complete]
  rcases hslot : s.ctx with _ | c | c
  · exact hlost
  · have hctx : s.ctx.resumeCaptcha = none := by
      rw [hslot]
      rfl
    dsimp only
    rcases hresponse : exchange.response with _ | response
    · exact finish_settled (failClosed_confined ip ha h hctx haction)
    · exact finish_settled (applyAppsecResponse_confined ha h hctx haction
        fun hallow => hreply ⟨response, hresponse, hallow⟩)
  · exact hlost

end AppSec

/-! ### Captcha submissions -/

theorem captchaBodyHandler_settled (h : Confined allow captcha s) :
    Settled allow captcha (captchaBodyHandler loc a s) := by
  have hold := h.ctx
  rw [captchaBodyHandler]
  rcases hslot : s.ctx with _ | c | c
  · exact .inl rfl
  · exact .inl rfl
  · rw [hslot] at hold
    dsimp only
    split
    · exact .inl rfl
    · split
      · split
        · exact .inl rfl
        · rw [postTask]
          by_cases hpost : a.posts = true ∧ s.task = none
          · rw [if_pos hpost]
            exact .inr ⟨h.ctx, h.reading, hold.1⟩
          · rw [if_neg hpost]
            exact .inl rfl
      · exact .inl rfl
      · exact .inl rfl

/-- Only a verification that fails open lets the request through. -/
theorem completeVerification_settled {result : VerifyResult}
    (hclosed : ∀ c, s.ctx = .captcha c → (c.config.failOpen && result.isOutage) = false) :
    Settled allow captcha (completeVerification loc result s) := by
  rw [completeVerification]
  rcases hslot : s.ctx with _ | c | c
  · exact .inl rfl
  · exact .inl rfl
  · dsimp only
    rw [hclosed c hslot]
    split
    · exact .inl rfl
    · exact .inl rfl

/-! ### Remediations -/

theorem applyUnenforceableAction_settled (ha : a.SendsSucceed) (h : Confined allow captcha s) :
    Settled allow captcha (applyUnenforceableAction loc a s).2 := by
  rw [applyUnenforceableAction]
  split
  · exact .inr h
  · obtain ⟨s', heq, hfinal⟩ := finishBlockBan_of_succeeds loc ha s
    rw [heq]
    exact .inl hfinal

theorem trySendCaptchaPage_settled (ha : a.SendsSucceed) (h : Confined allow captcha s) :
    Settled allow captcha (trySendCaptchaPage loc a s).2 := by
  rw [trySendCaptchaPage]
  split
  · exact applyUnenforceableAction_settled ha h
  · rw [sendResponse_of_ok (ha _ _)]
    exact .inl rfl

theorem handleCaptchaPost_settled {captchaCfg : CaptchaConfig} {clientIp : IpAddr}
    (ha : a.SendsSucceed) (h : Confined allow captcha s) (hcaptcha : captcha) :
    Settled allow captcha (handleCaptchaPost req loc a captchaCfg clientIp s).2 := by
  rw [handleCaptchaPost]
  split
  · exact trySendCaptchaPage_settled ha h
  · split
    · exact trySendCaptchaPage_settled ha h
    · split
      · exact applyUnenforceableAction_settled ha h
      · have hnew : Confined allow captcha { s with ctx := .captcha {
            clientIp, config := captchaCfg, storedResult := .unset } } :=
          ⟨⟨hcaptcha, by simp, by simp⟩, h.reading, h.task⟩
        rw [initiateCaptchaRead]
        by_cases halloc : a.captchaAlloc = true
        · rw [if_pos halloc]
          by_cases hread : a.captchaRead = .started
          · simp only [hread, if_true]
            exact .inr ⟨hnew.ctx, fun _ => hcaptcha, h.task⟩
          · simp only [hread, if_false]
            exact applyUnenforceableAction_settled ha hnew
        · rw [if_neg halloc]
          exact applyUnenforceableAction_settled ha h

theorem challengePage_settled (ha : a.SendsSucceed) (h : Confined allow captcha s) :
    Settled allow captcha (challengePage loc a s).2 := by
  have hpage : Settled allow captcha (trySendCaptchaPage loc a s).2 :=
    trySendCaptchaPage_settled ha h
  rw [challengePage]
  split
  · next heq =>
    rw [heq] at hpage
    rcases hpage with hfinal | hconf
    · exact .inl hfinal
    · exact .inr (hconf.of_eq rfl rfl rfl)
  · next heq =>
    rw [heq] at hpage
    exact hpage

theorem handleCaptchaDecision_settled {clientIp : IpAddr} (ha : a.SendsSucceed)
    (h : Confined allow captcha s) (hcaptcha : captcha) :
    Settled allow captcha (handleCaptchaDecision req loc a clientIp s).2 := by
  rw [handleCaptchaDecision]
  split
  · exact .inr h
  · split
    · rw [sendResponse_of_ok (ha _ _)]
      exact .inl rfl
    · split
      · exact applyUnenforceableAction_settled ha h
      · split
        · exact .inr h
        · rw [captchaChallenge]
          split
          · split
            · exact applyUnenforceableAction_settled ha h
            · exact handleCaptchaPost_settled ha (h.of_eq rfl rfl rfl) hcaptcha
          · exact challengePage_settled ha h
          · exact challengePage_settled ha h
          · exact challengePage_settled ha h

theorem applyLookupRemediation_settled {clientIp : IpAddr} {lookup : LookupResult}
    (ha : a.SendsSucceed) (h : Confined allow captcha s) (hcaptcha : captcha) :
    Settled allow captcha (applyLookupRemediation req loc main a clientIp lookup s).2 := by
  have hs : Confined allow captcha { s with remediated := true } := h.of_eq rfl rfl rfl
  have hban : Settled allow captcha
      (handleBanDecision req loc a { s with remediated := true }).2 := by
    obtain ⟨s', heq, hfinal⟩ := handleBanDecision_of_succeeds req loc ha
      { s with remediated := true }
    rw [heq]
    exact .inl hfinal
  unfold applyLookupRemediation
  dsimp only
  split
  · exact .inr hs
  · split
    · exact hban
    · exact handleCaptchaDecision_settled ha hs hcaptcha
    · rw [handleUnknownDecision]
      split
      · exact .inr hs
      · exact hban
      · exact handleCaptchaDecision_settled ha hs hcaptcha

/-! ### Callback steps -/

namespace RequestAction

/-- The label is no callback that may let the request through: no allowance by AppSec, no
captcha verification that fails open. -/
def Denies (action : RequestAction) (r : RequestRun) : Prop :=
  match action with
  | .appsecDone exchange _ => ¬ exchange.Allows
  | .verifyDone result _ =>
    ∀ c, r.state.ctx = .captcha c → (c.config.failOpen && result.isOutage) = false
  | .run _ | .bodyRead .. => True

/-- The label is a captcha verification that fails open. -/
def FailsOpen (action : RequestAction) (r : RequestRun) : Prop :=
  match action with
  | .verifyDone result _ =>
    ∃ c, r.state.ctx = .captcha c ∧ (c.config.failOpen && result.isOutage) = true
  | .run _ | .bodyRead .. | .appsecDone .. => False

theorem Denies.not_failsOpen {action : RequestAction} {r : RequestRun} (h : action.Denies r) :
    ¬ action.FailsOpen r := by
  rcases action with b | ⟨body, b⟩ | ⟨exchange, b⟩ | ⟨result, b⟩
  · exact id
  · exact id
  · exact id
  · rintro ⟨c, hslot, hopen⟩
    exact absurd ((h c hslot).symm.trans hopen) (by simp)

end RequestAction

/-- A callback stays in its phase, and leaves the request settled when it does not let it
through in a way that the bounds rule out. -/
theorem callback_settled_of {site : Site} {action : RequestAction} {r r' : RequestRun}
    (ha : action.answers.SendsSucceed) (h : Confined allow captcha r.state)
    (hdeny : ¬ allow → action.Denies r) (hopen : captcha → ¬ action.FailsOpen r)
    (hrun : ∀ b, action ≠ .run b) (hstep : RequestRun.step site action r = some r') :
    r'.phase = r.phase ∧ Settled allow captcha r'.state := by
  have hreading : Confined allow captcha { r.state with reading := none } :=
    ⟨h.ctx, fun hread => absurd hread (by simp), h.task⟩
  have htask : Confined allow captcha { r.state with task := none } :=
    ⟨h.ctx, h.reading, trivial⟩
  have hold := h.task
  rcases action with b | ⟨body, b⟩ | ⟨exchange, b⟩ | ⟨result, b⟩
  · exact absurd rfl (hrun b)
  · have hbody : Confined allow captcha { r.state with reading := none, body } :=
      hreading.of_eq rfl rfl rfl
    rcases RequestRun.step_bodyRead hstep with ⟨-, rfl⟩ | ⟨-, rfl⟩
    · exact ⟨rfl, AppSec.appsecBodyHandler_settled ha hbody⟩
    · exact ⟨rfl, captchaBodyHandler_settled hbody⟩
  · obtain ⟨ip, failureAction, shmBan, body, heq, rfl⟩ := RequestRun.step_appsecDone hstep
    rw [heq] at hold
    refine ⟨rfl, AppSec.complete_settled ha htask hold fun hallows => ?_⟩
    by_contra hnot
    exact hdeny hnot hallows
  · obtain ⟨heq, rfl⟩ := RequestRun.step_verifyDone hstep
    rw [heq] at hold
    refine ⟨rfl, completeVerification_settled fun c hslot => Bool.eq_false_iff.mpr fun hfails => ?_⟩
    exact hopen hold ⟨c, hslot, hfails⟩

/-- A callback stays in its phase, and leaves the request settled if it is one of those that
the bounds provide for. -/
theorem callback_settled {site : Site} {action : RequestAction} {r r' : RequestRun}
    (ha : action.answers.SendsSucceed) (h : Confined allow captcha r.state)
    (hdeny : ¬ allow → action.Denies r) (hopen : captcha → action.Denies r)
    (hrun : ∀ b, action ≠ .run b) (hstep : RequestRun.step site action r = some r') :
    r'.phase = r.phase ∧ Settled allow captcha r'.state :=
  callback_settled_of ha h hdeny (fun hcaptcha => (hopen hcaptcha).not_failsOpen) hrun hstep

end CrowdSecBouncer
