import CrowdSecBouncer.Http.Confinement
import CrowdSecBouncer.Http.Responses

/-!
# What is kept of a request's history

`RequestState` marks whether a request has been inspected and whether the remediation of a
lookup has been run. `Follows` relates the states before and after a function of the model: no
mark is lost, and a captcha context comes only to a request that is marked as remediated. Each
function has its lemma, up to a step of the run (`RequestRun.step_follows`).
-/

namespace CrowdSecBouncer

/-- From `s` to `t` no mark is lost, and a captcha context comes only to a request that is
marked as remediated. -/
structure Follows (s t : RequestState) : Prop where
  inspected : s.inspected = true → t.inspected = true
  remediated : s.remediated = true → t.remediated = true
  captcha : t.ctx.resumeCaptcha ≠ none → t.remediated = true ∨ s.ctx.resumeCaptcha ≠ none

theorem Follows.refl (s : RequestState) : Follows s s := ⟨id, id, .inr⟩

theorem Follows.trans {s t u : RequestState} (h : Follows s t) (h' : Follows t u) :
    Follows s u := by
  refine ⟨fun hs => h'.inspected (h.inspected hs), fun hs => h'.remediated (h.remediated hs),
    fun hcaptcha => ?_⟩
  rcases h'.captcha hcaptcha with hu | ht
  · exact .inl hu
  · rcases h.captcha ht with ht | hs
    · exact .inl (h'.remediated ht)
    · exact .inr hs

/-- The state that a function returns, in its pair with the result. -/
theorem Follows.of_eq {β : Type} {s t : RequestState} {out : β × RequestState} {b : β}
    (h : Follows s out.2) (heq : out = (b, t)) : Follows s t := by
  rw [heq] at h
  exact h

variable {req : HttpRequest} {loc : LocConfig} {main : MainConfig}
  {config : Option AppSecConfig} {a : Answers}

/-- A response loses nothing. -/
theorem SameRequest.follows {s t : RequestState} (h : SameRequest s t) : Follows s t where
  inspected := h.inspected.trans
  remediated := h.remediated.trans
  captcha := fun hcaptcha => .inr (h.ctx ▸ hcaptcha)

theorem Answered.follows {n : ℕ} {s : RequestState} {out : HandlerResult × RequestState}
    (h : Answered n s out) : Follows s out.2 :=
  h.same.follows

theorem sendResponse_follows (s : RequestState) (headerFailure : HeaderFailureAction) :
    Follows s (sendResponse a s headerFailure).2 :=
  (sameRequest_update s _ _ _ _).follows

theorem postTask_follows (s : RequestState) (task : PendingTask) :
    Follows s (postTask a s task).2 := by
  rw [postTask]
  split
  · exact ⟨id, id, .inr⟩
  · exact .refl s

theorem storeResult_follows (s : RequestState) (result : HandlerResult) :
    Follows s { s with ctx := s.ctx.storeResult result } := by
  refine ⟨id, id, fun hcaptcha => .inr fun hnone => ?_⟩
  exact hcaptcha (ModuleCtx.resumeCaptcha_storeResult hnone result)

/-! ### The captcha -/

/-- The only function that makes a captcha context: the request is marked by then. -/
theorem initiateCaptchaRead_follows {captchaCfg : CaptchaConfig} {clientIp : IpAddr}
    {s : RequestState} (hmark : s.remediated = true) :
    Follows s (initiateCaptchaRead a captchaCfg clientIp s).2 := by
  rw [initiateCaptchaRead]
  split
  · dsimp only
    split
    · exact ⟨id, id, fun _ => .inl hmark⟩
    · exact ⟨id, id, fun _ => .inl hmark⟩
  · exact .refl s

theorem handleCaptchaPost_follows {captchaCfg : CaptchaConfig} {clientIp : IpAddr}
    {s : RequestState} (hmark : s.remediated = true) :
    Follows s (handleCaptchaPost req loc a captchaCfg clientIp s).2 := by
  have hread : Follows s (initiateCaptchaRead a captchaCfg clientIp s).2 :=
    initiateCaptchaRead_follows hmark
  rw [handleCaptchaPost]
  split
  · exact (trySendCaptchaPage_answered s).follows
  · split
    · exact (trySendCaptchaPage_answered s).follows
    · split
      · exact (applyUnenforceableAction_answered loc a s).follows
      · split
        · next heq =>
          exact (hread.of_eq heq).trans (applyUnenforceableAction_answered loc a _).follows
        · next heq => exact hread.of_eq heq

theorem handleCaptchaDecision_follows {clientIp : IpAddr} {s : RequestState}
    (hmark : s.remediated = true) :
    Follows s (handleCaptchaDecision req loc a clientIp s).2 := by
  have hsend := sendResponse_follows (a := a) s .finalize
  have hcounted : Follows s s.recordDropped := ⟨id, id, .inr⟩
  rw [handleCaptchaDecision]
  split
  · exact .refl s
  · split
    · split
      · next heq => exact hsend.of_eq heq
      · next heq =>
        exact (hsend.of_eq heq).trans (applyUnenforceableAction_answered loc a _).follows
    · split
      · exact (applyUnenforceableAction_answered loc a s).follows
      · split
        · exact .refl s
        · rw [captchaChallenge]
          split
          · split
            · exact (applyUnenforceableAction_answered loc a s).follows
            · exact hcounted.trans (handleCaptchaPost_follows hmark)
          · exact (challengePage_answered s).follows
          · exact (challengePage_answered s).follows
          · exact (challengePage_answered s).follows

/-- The remediation of a lookup marks the request. -/
theorem applyLookupRemediation_follows {clientIp : IpAddr} {lookup : LookupResult}
    (s : RequestState) :
    Follows s (applyLookupRemediation req loc main a clientIp lookup s).2 ∧
      (applyLookupRemediation req loc main a clientIp lookup s).2.remediated = true := by
  have hrest : Follows { s with remediated := true }
      (applyLookupRemediation req loc main a clientIp lookup s).2 := by
    unfold applyLookupRemediation
    dsimp only
    split
    · exact .refl _
    · split
      · exact (handleBanDecision_answered _).follows
      · exact handleCaptchaDecision_follows rfl
      · rw [handleUnknownDecision]
        split
        · exact .refl _
        · exact (handleBanDecision_answered _).follows
        · exact handleCaptchaDecision_follows rfl
  have hmarked : Follows s { s with remediated := true } := ⟨id, fun _ => rfl, .inr⟩
  exact ⟨hmarked.trans hrest, hrest.remediated rfl⟩

theorem captchaBodyHandler_follows (s : RequestState) :
    Follows s (captchaBodyHandler loc a s) := by
  have hpost := postTask_follows (a := a) s .verifyCaptcha
  have hstored := storeResult_follows s .error
  rw [captchaBodyHandler]
  split
  · split
    · exact hstored.trans ⟨id, id, .inr⟩
    · split
      · split
        · exact ⟨id, id, .inr⟩
        · split
          · next heq => exact hpost.of_eq heq
          · next heq => exact (hpost.of_eq heq).trans ⟨id, id, .inr⟩
      · exact ⟨id, id, .inr⟩
      · exact ⟨id, id, .inr⟩
  · exact ⟨id, id, .inr⟩
  · exact ⟨id, id, .inr⟩

theorem completeVerification_follows (result : VerifyResult) (s : RequestState) :
    Follows s (completeVerification loc result s) := by
  have hstored := storeResult_follows s .error
  rw [completeVerification]
  split
  · split
    · exact hstored.trans ⟨id, id, .inr⟩
    · split
      · exact storeResult_follows s .declined
      · exact ⟨id, id, .inr⟩
  · exact ⟨id, id, .inr⟩
  · exact ⟨id, id, .inr⟩

/-! ### AppSec -/

namespace AppSec

variable {call : Inspection} {shmBan : Bool} {body : Option (List UInt8)}

theorem appsecContext_follows (s : RequestState) :
    Follows s (appsecContext req loc config a s).2 := by
  rcases appsecContext_answered req loc a config s with ⟨result, t, heq, hanswer⟩ | ⟨call, heq⟩
  · rw [heq]
    exact hanswer.follows
  · rw [heq]
    exact .refl s

theorem queueExchange_follows (s : RequestState) :
    Follows s (queueExchange req loc a call body shmBan s).2 := by
  have hpost := postTask_follows (a := a) s (.appsec call.ip call.failureAction shmBan body)
  rw [queueExchange]
  split
  · next heq => exact hpost.of_eq heq
  · next t heq =>
    rw [heq] at hpost
    have hclosed : Follows t (failClosed req loc a (some call.ip) call.failureAction t).2 :=
      (failClosed_answered _ _ t).follows
    split
    · next hresult => exact hpost.trans (hclosed.of_eq hresult)
    · next hresult => exact (hpost.trans (hclosed.of_eq hresult)).trans (storeResult_follows _ _)

theorem newContext_follows (s : RequestState) :
    Follows s { s with ctx := newContext call shmBan } :=
  ⟨id, id, fun hcaptcha => absurd rfl hcaptcha⟩

theorem inspectWithBody_follows (s : RequestState) :
    Follows s (inspectWithBody req loc a call body shmBan s).2 := by
  have hfresh : Follows s
      (if a.appsecAlloc then
        queueExchange req loc a call body shmBan { s with ctx := newContext call shmBan }
      else failClosed req loc a (some call.ip) call.failureAction s).2 := by
    split
    · exact (newContext_follows s).trans (queueExchange_follows _)
    · exact (failClosed_answered _ _ s).follows
  rw [inspectWithBody]
  split
  · exact queueExchange_follows s
  · exact hfresh
  · exact hfresh

theorem inspectOrDropUnforwardableBody_follows (s : RequestState) :
    Follows s (inspectOrDropUnforwardableBody req loc a call shmBan s).2 := by
  rw [inspectOrDropUnforwardableBody]
  split
  · exact (failClosed_answered _ _ s).follows
  · exact inspectWithBody_follows s

theorem initiateAppsecBodyRead_follows (s : RequestState) :
    Follows s (initiateAppsecBodyRead req loc a call shmBan s).2 := by
  have hnew : Follows s { s with ctx := newContext call shmBan } := newContext_follows s
  rw [initiateAppsecBodyRead]
  split
  · dsimp only
    split
    · exact hnew.trans ⟨id, id, .inr⟩
    · exact hnew
    · exact hnew.trans (failClosed_answered _ _ _).follows
  · exact (failClosed_answered _ _ s).follows

theorem inspectRequestBody_follows (s : RequestState) :
    Follows s (inspectRequestBody req loc a call shmBan s).2 := by
  rw [inspectRequestBody]
  split
  · split
    · exact inspectWithBody_follows s
    · exact inspectOrDropUnforwardableBody_follows s
    · exact inspectOrDropUnforwardableBody_follows s
  · split
    · exact inspectOrDropUnforwardableBody_follows s
    · exact initiateAppsecBodyRead_follows s

/-- The inspection marks the request. -/
theorem inspect_follows (s : RequestState) :
    Follows s (inspect req loc config a shmBan s).2 ∧
      (inspect req loc config a shmBan s).2.inspected = true := by
  have hrest : Follows { s with inspected := true } (inspect req loc config a shmBan s).2 := by
    have hcontext : Follows { s with inspected := true }
        (appsecContext req loc config a { s with inspected := true }).2 := appsecContext_follows _
    rw [inspect]
    dsimp only
    split
    · exact .refl _
    · split
      · next heq => exact hcontext.of_eq heq
      · next heq =>
        rw [heq] at hcontext
        split
        · exact hcontext.trans (inspectRequestBody_follows _)
        · exact hcontext.trans (inspectWithBody_follows _)
  have hmarked : Follows s { s with inspected := true } := ⟨fun _ => rfl, id, .inr⟩
  exact ⟨hmarked.trans hrest, hrest.inspected rfl⟩

theorem finalizeAsyncResult_follows (result : HandlerResult) (s : RequestState) :
    Follows s (finalizeAsyncResult result s) := by
  rcases result with _ | _ | _ | _ | _ <;> exact ⟨id, id, .inr⟩

theorem finish_follows {s : RequestState} {out : HandlerResult × RequestState}
    (h : Follows s out.2) : Follows s (finish out.1 out.2) := by
  obtain ⟨result, t⟩ := out
  have hstored :=
    (h.trans (storeResult_follows t result)).trans (finalizeAsyncResult_follows result _)
  rcases result with _ | _ | _ | _ | _
  · exact hstored
  · exact hstored
  · exact hstored
  · exact h
  · exact h

theorem appsecBodyHandler_follows (s : RequestState) :
    Follows s (appsecBodyHandler req loc config a s) := by
  rw [appsecBodyHandler]
  split
  · next ctx _ =>
    split
    · exact finish_follows (failClosed_answered (some ctx.clientIp) ctx.failureAction s).follows
    · dsimp only
      split
      · exact finish_follows (inspectWithBody_follows s)
      · exact finish_follows (inspectOrDropUnforwardableBody_follows s)
      · exact finish_follows (inspectOrDropUnforwardableBody_follows s)
  · exact ⟨id, id, .inr⟩
  · exact ⟨id, id, .inr⟩

theorem complete_follows (ip : IpAddr) (failureAction : AppSecFailureAction)
    (exchange : AppSecExchange) (s : RequestState) :
    Follows s (complete req loc a ip failureAction shmBan exchange s) := by
  have hlost : Follows s
      (finalizeAsyncResult (failClosed req loc a (some ip) failureAction s).1
        (failClosed req loc a (some ip) failureAction s).2) :=
    (failClosed_answered (some ip) failureAction s).follows.trans (finalizeAsyncResult_follows _ _)
  rw [complete]
  split
  · split
    · exact finish_follows (applyAppsecResponse_answered _ _ _ s).follows
    · exact finish_follows (failClosed_answered (some ip) failureAction s).follows
  · exact hlost
  · exact hlost

end AppSec

/-! ### Steps -/

theorem tryServeMetrics_follows {s : RequestState} {out : HandlerResult × RequestState}
    (h : tryServeMetrics req loc a s = some out) : Follows s out.2 := by
  have hsend := sendResponse_follows (a := a) s .finalize
  rw [tryServeMetrics] at h
  split at h
  · exact absurd h (by simp)
  · rcases hanswer : sendResponse a s .finalize with ⟨ok, t⟩
    rw [hanswer] at h hsend
    generalize req.method = method at h
    -- sent or not, there is a result for every method
    rcases method with _ | _ | _ | _ <;> rcases ok with _ | _ <;>
      exact Option.some_injective _ h ▸ hsend

theorem handleAccess_follows (s : RequestState) : Follows s (handleAccess req loc main a s).2 := by
  have hcounted : Follows s s.recordProcessed := ⟨id, id, .inr⟩
  rw [handleAccess]
  split
  · next hserved => exact tryServeMetrics_follows hserved
  · split
    · exact .refl s
    · split
      · exact .refl s
      · split
        · exact hcounted
        · split
          · exact hcounted
          · exact hcounted.trans (applyLookupRemediation_follows _).1

theorem handlePrecontent_follows (s : RequestState) :
    Follows s (handlePrecontent req loc main config a s).2 := by
  have hinspect : Follows s (AppSec.inspect req loc config a
      (a.lookup.found && a.lookup.decisionType = .ban) s).2 := (AppSec.inspect_follows s).1
  rw [handlePrecontent]
  split
  · exact .refl s
  · split
    · exact .refl s
    · split
      · exact .refl s
      · split
        · exact .refl s
        · split
          · exact .refl s
          · split
            · exact .refl s
            · dsimp only
              split
              · next heq => exact (hinspect.of_eq heq).trans (applyLookupRemediation_follows _).1
              · next heq => exact hinspect.of_eq heq

namespace RequestRun

variable {site : Site} {action : RequestAction} {r r' : RequestRun}

theorem advance_follows {s : RequestState} {out : HandlerResult × RequestState} (next : Phase)
    (h : Follows s out.2) : Follows s (r.advance next out).state := by
  obtain ⟨result, t⟩ := out
  rcases result with _ | _ | _ | _ | _
  · exact h
  · exact h.trans ⟨id, id, .inr⟩
  · exact h
  · exact h
  · exact h

/-- Only a run of a handler changes the phase, and no step loses a mark. -/
theorem step_follows (h : step site action r = some r') :
    Follows r.state r'.state ∧ ((∀ b, action ≠ .run b) → r'.phase = r.phase) := by
  by_cases hrun : ∃ b, action = .run b
  · obtain ⟨b, rfl⟩ := hrun
    refine ⟨?_, fun hnot => absurd rfl (hnot b)⟩
    rcases step_run h with ⟨-, rfl⟩ | ⟨-, rfl⟩
    · exact advance_follows _ (handleAccess_follows r.state)
    · exact advance_follows _ (handlePrecontent_follows r.state)
  · have hreading (body : Option RequestBody) :
        Follows r.state { r.state with reading := none, body } := ⟨id, id, .inr⟩
    have htask : Follows r.state { r.state with task := none } := ⟨id, id, .inr⟩
    rcases action with b | ⟨body, b⟩ | ⟨exchange, b⟩ | ⟨result, b⟩
    · exact absurd ⟨b, rfl⟩ hrun
    · rcases step_bodyRead h with ⟨-, rfl⟩ | ⟨-, rfl⟩
      · exact ⟨(hreading body).trans (AppSec.appsecBodyHandler_follows _), fun _ => rfl⟩
      · exact ⟨(hreading body).trans (captchaBodyHandler_follows _), fun _ => rfl⟩
    · obtain ⟨ip, failureAction, shmBan, body, -, rfl⟩ := step_appsecDone h
      exact ⟨htask.trans (AppSec.complete_follows _ _ _ _), fun _ => rfl⟩
    · obtain ⟨-, rfl⟩ := step_verifyDone h
      exact ⟨htask.trans (completeVerification_follows _ _), fun _ => rfl⟩

end RequestRun

/-- The invariant: a captcha context belongs to a request that is marked as remediated. -/
def CaptchaMarked (r : RequestRun) : Prop :=
  r.state.ctx.resumeCaptcha ≠ none → r.state.remediated = true

open LabelledRun RequestRun

/-- Every state of a run has the invariant. -/
theorem captchaMarked_run (site : Site) (l : List RequestAction) (body : Option RequestBody) :
    EveryState (step site) CaptchaMarked l (.initial body) := by
  have hstep (action : RequestAction) (r r' : RequestRun) (_ : True) (h : CaptchaMarked r)
      (hstep : step site action r = some r') : CaptchaMarked r' := by
    obtain ⟨hfollows, -⟩ := step_follows hstep
    intro hcaptcha
    rcases hfollows.captcha hcaptcha with hmark | hold
    · exact hmark
    · exact hfollows.remediated (h hold)
  exact everyState_of_step hstep (everyStep_of_mem fun _ _ _ => trivial)
    fun hcaptcha => absurd rfl hcaptcha

end CrowdSecBouncer
