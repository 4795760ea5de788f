import CrowdSecBouncer.Http.FailClosed
import CrowdSecBouncer.Http.Handover

/-!
# How often a request is counted

Usage metrics are recorded while handlers and callbacks run, and the handler of a phase runs
again from the top when a suspended request is resumed. What a function counts is stated by
one structure for each kind of function: `Answered` where a response is sent or refused,
`Remedied` for the remediations of a lookup, `Judged` for an inspection. From these comes an
invariant of the run, `Counted`: the request is recorded as processed once, at most one drop is
recorded, and who still has an inspection to come has none so far.

**The exception.** ACCESS counts again a request that it has suspended for a captcha form, and
PRECONTENT may inspect a request for which ACCESS has counted a drop that it could not
enforce. `CountsOnce` rules out these two steps and nothing else.
-/

namespace CrowdSecBouncer

def PendingTask.isInspection : PendingTask → Bool
  | .appsec .. => true
  | .verifyCaptcha => false

/-- How many callbacks of AppSec are still to come. -/
def RequestState.inspections (s : RequestState) : ℕ :=
  (if s.reading = some .appsec then 1 else 0) +
    (if s.task.any PendingTask.isInspection then 1 else 0)

theorem SameRequest.inspections {s t : RequestState} (h : SameRequest s t) :
    t.inspections = s.inspections := by
  rw [RequestState.inspections, h.reading, h.task]
  rfl

/-! ### Remediations -/

/-- The remediation of a lookup: at most `n` drops are counted, and a request that neither
continues nor is answered waits for a captcha form. -/
structure Remedied (n : ℕ) (s : RequestState) (out : HandlerResult × RequestState) : Prop where
  processed : out.2.processed = s.processed
  ctx : out.2.ctx = s.ctx ∨ out.2.ctx.resumeCaptcha ≠ none
  inspections : out.2.inspections ≤ s.inspections
  drops : out.2.drops ≤ s.drops + n
  stays : out.1 = .done ∨ out.1 = .bodyReadPending →
    out.2.finalized = true ∨ out.2.ctx.resumeCaptcha ≠ none

section Remediations

variable {req : HttpRequest} {loc : LocConfig} {main : MainConfig} {a : Answers} {n : ℕ}
  {s t : RequestState} {out : HandlerResult × RequestState}

theorem Answered.remedied (h : Answered n s out) : Remedied n s out where
  processed := h.same.processed
  ctx := .inl h.same.ctx
  inspections := h.same.inspections.le
  drops := h.drops
  stays := by
    rintro (hdone | hpending)
    · exact .inl (h.done hdone)
    · exact absurd hpending h.answers

/-- A response after a first attempt at the remediation. -/
theorem Remedied.answered {result : HandlerResult} (h : Remedied n s (result, t))
    (hanswer : Answered 0 t out) : Remedied n s out where
  processed := hanswer.same.processed.trans h.processed
  ctx := by
    rw [hanswer.same.ctx]
    exact h.ctx
  inspections := hanswer.same.inspections.le.trans h.inspections
  drops := hanswer.drops.trans h.drops
  stays := by
    rintro (hdone | hpending)
    · exact .inl (hanswer.done hdone)
    · exact absurd hpending hanswer.answers

/-- The drop is counted before the remediation. -/
theorem Remedied.counted (h : Remedied 0 s.recordDropped out) : Remedied 1 s out where
  processed := h.processed
  ctx := h.ctx
  inspections := h.inspections
  drops := h.drops.trans s.drops_recordDropped.le
  stays := h.stays

theorem initiateCaptchaRead_remedied {config : CaptchaConfig} {clientIp : IpAddr}
    (s : RequestState) : Remedied 0 s (initiateCaptchaRead a config clientIp s) := by
  rw [initiateCaptchaRead]
  split
  · dsimp only
    split
    · refine ⟨rfl, .inr (by simp [ModuleCtx.resumeCaptcha]), ?_, le_rfl, fun _ => .inr ?_⟩
      · simp [RequestState.inspections]
      · simp [ModuleCtx.resumeCaptcha]
    · exact ⟨rfl, .inr (by simp [ModuleCtx.resumeCaptcha]), le_rfl, le_rfl, by simp⟩
  · exact ⟨rfl, .inl rfl, le_rfl, le_rfl, by simp⟩

theorem handleCaptchaPost_remedied {config : CaptchaConfig} {clientIp : IpAddr}
    (s : RequestState) : Remedied 0 s (handleCaptchaPost req loc a config clientIp s) := by
  have hread : Remedied 0 s (initiateCaptchaRead a config clientIp s) :=
    initiateCaptchaRead_remedied s
  rw [handleCaptchaPost]
  split
  · exact (trySendCaptchaPage_answered s).remedied
  · split
    · exact (trySendCaptchaPage_answered s).remedied
    · split
      · exact (applyUnenforceableAction_answered loc a s).remedied
      · split
        · next heq =>
          rw [heq] at hread
          exact hread.answered (applyUnenforceableAction_answered loc a _)
        · next heq =>
          rw [heq] at hread
          exact hread

theorem handleCaptchaDecision_remedied {clientIp : IpAddr} (s : RequestState) :
    Remedied 1 s (handleCaptchaDecision req loc a clientIp s) := by
  rw [handleCaptchaDecision]
  split
  · next hresume =>
    -- the stored outcome of a captcha form
    exact ⟨rfl, .inl rfl, le_rfl, Nat.le_succ _, fun _ => .inr (by simp [hresume])⟩
  · split
    · rcases hok : (a.send s.sends).ok .finalize with _ | _
      · rw [sendResponse_of_fails hok]
        have hanswer : Answered 1 s (applyUnenforceableAction loc a
            { s with sends := s.sends + 1 }) :=
          (applyUnenforceableAction_answered loc a _).mono.of_failedSend
        exact hanswer.remedied
      · rw [sendResponse_of_ok hok]
        exact (answered_sent s _).mono.remedied
    · split
      · exact (applyUnenforceableAction_answered loc a s).mono.remedied
      · split
        · exact (answered_declined s).mono.remedied
        · rw [captchaChallenge]
          split
          · split
            · exact (applyUnenforceableAction_answered loc a s).mono.remedied
            · exact (handleCaptchaPost_remedied _).counted
          · exact (challengePage_answered s).remedied
          · exact (challengePage_answered s).remedied
          · exact (challengePage_answered s).remedied

theorem applyLookupRemediation_remedied {clientIp : IpAddr} {lookup : LookupResult}
    (s : RequestState) :
    Remedied 1 s (applyLookupRemediation req loc main a clientIp lookup s) := by
  have hrest : Remedied 1 { s with remediated := true }
      (applyLookupRemediation req loc main a clientIp lookup s) := by
    unfold applyLookupRemediation
    dsimp only
    split
    · exact (answered_declined _).mono.remedied
    · split
      · exact (handleBanDecision_answered _).remedied
      · exact handleCaptchaDecision_remedied _
      · rw [handleUnknownDecision]
        split
        · exact (answered_declined _).mono.remedied
        · exact (handleBanDecision_answered _).remedied
        · exact handleCaptchaDecision_remedied _
  exact ⟨hrest.processed, hrest.ctx, hrest.inspections, hrest.drops, hrest.stays⟩

end Remediations

/-! ### The captcha callbacks -/

/-- A captcha callback counts nothing, and the request keeps its captcha context or is
answered. -/
structure CaptchaKept (s t : RequestState) : Prop where
  processed : t.processed = s.processed
  drops : t.drops = s.drops
  inspections : t.inspections = s.inspections
  ctx : t.finalized = true ∨ s.ctx.resumeCaptcha ≠ none ∧ t.ctx.resumeCaptcha ≠ none

section CaptchaCallbacks

variable {loc : LocConfig} {a : Answers} {s : RequestState}

theorem captchaKept_finalized (s : RequestState) : CaptchaKept s { s with finalized := true } :=
  ⟨rfl, rfl, rfl, .inl rfl⟩

theorem postTask_kept {ctx : CaptchaPostContext} (hctx : s.ctx = .captcha ctx) :
    CaptchaKept s (postTask a s .verifyCaptcha).2 := by
  have hcaptcha : s.ctx.resumeCaptcha ≠ none := by simp [hctx, ModuleCtx.resumeCaptcha]
  rw [postTask]
  split_ifs with hposts
  · refine ⟨rfl, rfl, ?_, .inr ⟨hcaptcha, hcaptcha⟩⟩
    simp [RequestState.inspections, hposts.2, PendingTask.isInspection]
  · exact ⟨rfl, rfl, rfl, .inr ⟨hcaptcha, hcaptcha⟩⟩

theorem finishCaptcha_kept {ctx : CaptchaPostContext} (hctx : s.ctx = .captcha ctx)
    {result : HandlerResult} (hresult : result = .declined ∨ result = .error) :
    CaptchaKept s (finishCaptcha result s) := by
  rcases hresult with rfl | rfl
  · refine ⟨rfl, rfl, rfl, .inr ⟨by simp [hctx, ModuleCtx.resumeCaptcha], ?_⟩⟩
    simp [finishCaptcha, hctx, ModuleCtx.storeResult, ModuleCtx.resumeCaptcha]
  · exact ⟨rfl, rfl, rfl, .inl rfl⟩

theorem captchaBodyHandler_kept (s : RequestState) :
    CaptchaKept s (captchaBodyHandler loc a s) := by
  rw [captchaBodyHandler]
  split
  · next ctx hctx =>
    split
    · exact finishCaptcha_kept hctx (.inr rfl)
    · split
      · split
        · exact captchaKept_finalized s
        · have hkept := postTask_kept (a := a) hctx
          split
          · next heq =>
            rw [heq] at hkept
            exact hkept
          · next heq =>
            rw [heq] at hkept
            exact ⟨hkept.processed, hkept.drops, hkept.inspections, .inl rfl⟩
      · exact captchaKept_finalized s
      · exact captchaKept_finalized s
  · exact captchaKept_finalized s
  · exact captchaKept_finalized s

theorem completeVerification_kept (result : VerifyResult) (s : RequestState) :
    CaptchaKept s (completeVerification loc result s) := by
  rw [completeVerification]
  split
  · next ctx hctx =>
    split
    · exact finishCaptcha_kept hctx (.inr rfl)
    · split
      · exact finishCaptcha_kept hctx (.inl rfl)
      · exact captchaKept_finalized s
  · exact captchaKept_finalized s
  · exact captchaKept_finalized s

end CaptchaCallbacks

/-! ### Inspections -/

/-- No outcome of an inspection is stored. -/
def Unjudged (s : RequestState) : Prop :=
  ∀ result, s.ctx.resumeAppSec = some result → result = .bodyReadPending

/-- An inspection that begins or goes on: at most one drop is counted, and none where it allows
the request or is not over. -/
structure Judged (s : RequestState) (out : HandlerResult × RequestState) : Prop where
  processed : out.2.processed = s.processed
  drops : out.2.drops ≤ s.drops + 1
  declined : out.1 = .declined → out.2.drops ≤ s.drops
  done : out.1 = .done → out.2.finalized = true
  pending : out.1 = .bodyReadPending → out.2.drops ≤ s.drops ∧
    out.2.inspections ≤ s.inspections + 1 ∧ out.2.ctx.resumeAppSec = some .bodyReadPending
  ended : out.1 ≠ .bodyReadPending → out.2.inspections = s.inspections

theorem Answered.judged {s : RequestState} {out : HandlerResult × RequestState}
    (h : Answered 1 s out) : Judged s out where
  processed := h.same.processed
  drops := h.drops
  declined := h.declined
  done := h.done
  pending := fun hpending => absurd hpending h.answers
  ended := fun _ => h.same.inspections

/-- A new context and the mark of an inspection count nothing. -/
theorem Judged.of_update {s : RequestState} {ctx : ModuleCtx} {inspected : Bool}
    {out : HandlerResult × RequestState} (h : Judged { s with ctx, inspected } out) :
    Judged s out :=
  ⟨h.processed, h.drops, h.declined, h.done, h.pending, h.ended⟩

namespace AppSec

variable {req : HttpRequest} {loc : LocConfig} {config : Option AppSecConfig} {a : Answers}
  {call : Inspection} {shmBan : Bool} {body : Option (List UInt8)}

theorem newContext_resumeAppSec :
    (newContext call shmBan).resumeAppSec = some .bodyReadPending := rfl

theorem queueExchange_judged {s : RequestState}
    (hctx : s.ctx.resumeAppSec = some .bodyReadPending) :
    Judged s (queueExchange req loc a call body shmBan s) := by
  rw [queueExchange, postTask]
  split_ifs with hposts
  · refine ⟨rfl, Nat.le_succ _, by simp, by simp, fun _ => ⟨le_rfl, ?_, hctx⟩, by simp⟩
    simp [RequestState.inspections, hposts.2, PendingTask.isInspection]
  · have hclosed : Answered 1 s (failClosed req loc a (some call.ip) call.failureAction s) :=
      failClosed_answered _ _ s
    dsimp only
    split
    · next heq =>
      rw [heq] at hclosed
      exact hclosed.judged
    · next heq =>
      rw [heq] at hclosed
      have hjudged := hclosed.judged
      exact ⟨hjudged.processed, hjudged.drops, hjudged.declined, hjudged.done,
        fun hpending => absurd hpending hclosed.answers, hjudged.ended⟩

theorem inspectWithBody_judged {s : RequestState} (hctx : Unjudged s) :
    Judged s (inspectWithBody req loc a call body shmBan s) := by
  have hfresh : Judged s
      (if a.appsecAlloc then
        queueExchange req loc a call body shmBan { s with ctx := newContext call shmBan }
      else failClosed req loc a (some call.ip) call.failureAction s) := by
    split
    · have hqueued : Judged { s with ctx := newContext call shmBan }
          (queueExchange req loc a call body shmBan { s with ctx := newContext call shmBan }) :=
        queueExchange_judged newContext_resumeAppSec
      exact hqueued.of_update
    · exact (failClosed_answered _ _ s).judged
  rw [inspectWithBody]
  split
  · next hslot =>
    refine queueExchange_judged ?_
    have hsome := hctx _ (by rw [hslot, ModuleCtx.resumeAppSec])
    rw [hslot, ModuleCtx.resumeAppSec, hsome]
  · exact hfresh
  · exact hfresh

theorem inspectOrDropUnforwardableBody_judged {s : RequestState} (hctx : Unjudged s) :
    Judged s (inspectOrDropUnforwardableBody req loc a call shmBan s) := by
  rw [inspectOrDropUnforwardableBody]
  split
  · exact (failClosed_answered _ _ s).judged
  · exact inspectWithBody_judged hctx

theorem initiateAppsecBodyRead_judged (s : RequestState) :
    Judged s (initiateAppsecBodyRead req loc a call shmBan s) := by
  rw [initiateAppsecBodyRead]
  split
  · dsimp only
    split
    · refine ⟨rfl, Nat.le_succ _, by simp, by simp, fun _ => ⟨le_rfl, ?_, rfl⟩, by simp⟩
      simp only [RequestState.inspections]
      split_ifs <;> omega
    · exact ⟨rfl, Nat.le_succ _, by simp, by simp, by simp, fun _ => rfl⟩
    · have hclosed : Judged { s with ctx := newContext call shmBan }
          (failClosed req loc a (some call.ip) call.failureAction
            { s with ctx := newContext call shmBan }) := (failClosed_answered _ _ _).judged
      exact hclosed.of_update
  · exact (failClosed_answered _ _ s).judged

theorem inspectRequestBody_judged {s : RequestState} (hctx : Unjudged s) :
    Judged s (inspectRequestBody req loc a call shmBan s) := by
  rw [inspectRequestBody]
  split
  · split
    · exact inspectWithBody_judged hctx
    · exact inspectOrDropUnforwardableBody_judged hctx
    · exact inspectOrDropUnforwardableBody_judged hctx
  · split
    · exact inspectOrDropUnforwardableBody_judged hctx
    · exact initiateAppsecBodyRead_judged s

theorem inspect_judged {s : RequestState} (hctx : s.ctx.resumeAppSec = none) :
    Judged s (inspect req loc config a shmBan s) := by
  have hrest : Judged { s with inspected := true } (inspect req loc config a shmBan s) := by
    have hunjudged : Unjudged { s with inspected := true } := by
      intro result hresult
      exact absurd (hctx.symm.trans hresult) (by simp)
    rw [inspect]
    dsimp only
    rw [hctx]
    dsimp only
    rcases appsecContext_answered req loc a config { s with inspected := true } with
      ⟨result, t, heq, hanswer⟩ | ⟨call, heq⟩
    · rw [heq]
      exact hanswer.judged
    · rw [heq]
      dsimp only
      split
      · exact inspectRequestBody_judged hunjudged
      · exact inspectWithBody_judged hunjudged
  exact hrest.of_update

end AppSec

/-! ### What may still be dropped -/

/-- Whoever may still count a drop finds none: at most one callback of AppSec is to come, and
neither it nor the remediation after an allowance follows a drop. -/
structure DropsLeft (s : RequestState) : Prop where
  awaited : s.inspections ≠ 0 →
    s.inspections = 1 ∧ s.drops = 0 ∧ s.ctx.resumeAppSec = some .bodyReadPending
  allowed : s.ctx.resumeAppSec = some .declined → s.drops = 0

theorem dropsLeft_of_noInspection {s : RequestState} (hinspections : s.inspections = 0)
    (hctx : s.ctx.resumeAppSec ≠ some .declined) : DropsLeft s :=
  ⟨fun hsome => absurd hinspections hsome, fun hdeclined => absurd hdeclined hctx⟩

theorem DropsLeft.noInspection {s : RequestState} (h : DropsLeft s)
    (hctx : s.ctx.resumeAppSec ≠ some .bodyReadPending) : s.inspections = 0 := by
  by_contra hsome
  exact hctx (h.awaited hsome).2.2

theorem ModuleCtx.resumeAppSec_of_captcha {ctx : ModuleCtx} (h : ctx.resumeCaptcha ≠ none) :
    ctx.resumeAppSec = none := by
  rcases ctx with _ | c | c
  · rfl
  · exact absurd rfl h
  · rfl

/-- An inspection that begins without a drop and waits has its callback to come. -/
theorem Judged.dropsLeft {s : RequestState} {out : HandlerResult × RequestState}
    (h : Judged s out) (hinspections : s.inspections = 0) (hdrops : s.drops = 0)
    (hpending : out.1 = .bodyReadPending) : DropsLeft out.2 := by
  obtain ⟨hnone, hone, hctx⟩ := h.pending hpending
  rw [hinspections] at hone
  rw [hdrops] at hnone
  refine ⟨fun hsome => ⟨?_, Nat.le_zero.mp hnone, hctx⟩, fun hdeclined => ?_⟩
  · exact le_antisymm hone (Nat.one_le_iff_ne_zero.mpr hsome)
  · exact absurd (hctx.symm.trans hdeclined) (by simp)

/-- What a callback of AppSec leaves behind. -/
structure Completed (s t : RequestState) : Prop where
  processed : t.processed = s.processed
  drops : t.drops ≤ 1
  left : t.finalized = true ∨ DropsLeft t

namespace AppSec

variable {req : HttpRequest} {loc : LocConfig} {config : Option AppSecConfig} {a : Answers}

/-- A stored denial or error does not start a remediation. -/
theorem resumeAppSec_storeResult_ne {ctx : ModuleCtx} {result : HandlerResult}
    (h : result ≠ .declined) : (ctx.storeResult result).resumeAppSec ≠ some .declined := by
  rcases ctx with _ | c | c
  · simp [ModuleCtx.storeResult, ModuleCtx.resumeAppSec]
  · rcases result with _ | _ | _ | _ | _
    · exact absurd rfl h
    all_goals simp [ModuleCtx.storeResult, ModuleCtx.resumeAppSec, StoredPhaseResult.encode,
      StoredPhaseResult.decode]
  · simp [ModuleCtx.storeResult, ModuleCtx.resumeAppSec]

theorem finish_completed {s : RequestState} {out : HandlerResult × RequestState}
    (h : Judged s out) (hinspections : s.inspections = 0) (hdrops : s.drops = 0) :
    Completed s (finish out.1 out.2) := by
  have hone : out.2.drops ≤ 1 := h.drops.trans_eq (by rw [hdrops])
  obtain ⟨result, t⟩ := out
  rcases result with _ | _ | _ | _ | _
  · have hover : t.inspections = 0 := (h.ended (by simp)).trans hinspections
    refine ⟨h.processed, hone, .inr ⟨fun hsome => absurd hover hsome, fun _ => ?_⟩⟩
    exact Nat.le_zero.mp (hdrops ▸ h.declined rfl)
  · exact ⟨h.processed, hone, .inl rfl⟩
  · have hover : t.inspections = 0 := (h.ended (by simp)).trans hinspections
    refine ⟨h.processed, hone, .inr (dropsLeft_of_noInspection hover ?_)⟩
    exact resumeAppSec_storeResult_ne (by simp)
  · exact ⟨h.processed, hone, .inl (h.done rfl)⟩
  · exact ⟨h.processed, hone, .inr (h.dropsLeft hinspections hdrops rfl)⟩

theorem appsecBodyHandler_completed {s : RequestState}
    (hctx : s.ctx.resumeAppSec = some .bodyReadPending) (hinspections : s.inspections = 0)
    (hdrops : s.drops = 0) : Completed s (appsecBodyHandler req loc config a s) := by
  have hunjudged : Unjudged s := by
    intro result hresult
    exact (Option.some_injective _ (hctx.symm.trans hresult)).symm
  rw [appsecBodyHandler]
  split
  · next ctx _ =>
    split
    · exact finish_completed (failClosed_answered (some ctx.clientIp) _ s).judged hinspections
        hdrops
    · dsimp only
      split
      · exact finish_completed (inspectWithBody_judged hunjudged) hinspections hdrops
      · exact finish_completed (inspectOrDropUnforwardableBody_judged hunjudged) hinspections
          hdrops
      · exact finish_completed (inspectOrDropUnforwardableBody_judged hunjudged) hinspections
          hdrops
  · next hslot => exact absurd (hslot ▸ hctx) (by simp [ModuleCtx.resumeAppSec])
  · next hslot => exact absurd (hslot ▸ hctx) (by simp [ModuleCtx.resumeAppSec])

theorem complete_completed {s : RequestState} {ip : IpAddr}
    {failureAction : AppSecFailureAction} {shmBan : Bool} {exchange : AppSecExchange}
    (hctx : s.ctx.resumeAppSec = some .bodyReadPending) (hinspections : s.inspections = 0)
    (hdrops : s.drops = 0) :
    Completed s (complete req loc a ip failureAction shmBan exchange s) := by
  rw [complete]
  split
  · split
    · exact finish_completed (applyAppsecResponse_answered ip _ failureAction s).judged
        hinspections hdrops
    · exact finish_completed (failClosed_answered (some ip) failureAction s).judged hinspections
        hdrops
  · next hslot => exact absurd (hslot ▸ hctx) (by simp [ModuleCtx.resumeAppSec])
  · next hslot => exact absurd (hslot ▸ hctx) (by simp [ModuleCtx.resumeAppSec])

end AppSec

/-! ### The run -/

open LabelledRun RequestRun

/-- What holds of a request after its first run of ACCESS, which leaves it there only to wait
for a captcha form. -/
structure Counted (site : Site) (r : RequestRun) : Prop where
  processed : site.req.clientIp.isSome → r.state.processed = 1
  drops : r.state.drops ≤ 1
  access : r.state.finalized = false → r.phase = .access → r.state.ctx.resumeCaptcha ≠ none
  left : r.state.finalized = false →
    DropsLeft r.state ∨ r.phase = .content ∧ r.state.inspections = 0

/-- PRECONTENT starts an inspection: the lookup or the path asks for AppSec, the client is not
bypassed, and nothing is known of the request yet. -/
def StartsInspection (site : Site) (a : Answers) (r : RequestRun) : Prop :=
  r.phase = .precontent ∧ r.state.ctx = .empty ∧ AsksAppSec site a ∧
    ∀ ip, site.req.clientIp = some ip → bypassed site.main ip = false

/-- ACCESS does not run again where it has suspended the request for a captcha form, and
PRECONTENT starts no inspection where ACCESS has counted a drop. -/
def CountsOnce (site : Site) : RequestAction → RequestRun → Prop
  | .run a, r =>
    (r.phase = .access → r.state.ctx.resumeCaptcha = none) ∧
      (StartsInspection site a r → r.state.drops = 0)
  | .bodyRead .., _ | .appsecDone .., _ | .verifyDone .., _ => True

variable {site : Site} {a : Answers} {r r' : RequestRun}

/-- What the phase engine makes of a handler's result. -/
theorem counted_advance {next : Phase} {out : HandlerResult × RequestState}
    (hnext : next = .precontent ∨ next = .content)
    (hprocessed : site.req.clientIp.isSome → out.2.processed = 1) (hdrops : out.2.drops ≤ 1)
    (hstays : out.1 = .done ∨ out.1 = .bodyReadPending → out.2.finalized = true ∨
      DropsLeft out.2 ∧ (r.phase = .access → out.2.ctx.resumeCaptcha ≠ none))
    (hcontinues : out.1.Continues →
      DropsLeft out.2 ∨ next = .content ∧ out.2.inspections = 0) :
    Counted site (r.advance next out) := by
  obtain ⟨result, t⟩ := out
  have hon (hresult : result.Continues) : Counted site ⟨next, t⟩ := by
    refine ⟨hprocessed, hdrops, fun _ haccess => ?_, fun _ => hcontinues hresult⟩
    rcases hnext with rfl | rfl
    · exact absurd haccess (by simp)
    · exact absurd haccess (by simp)
  have hwaits (hresult : result = .done ∨ result = .bodyReadPending) :
      Counted site ⟨r.phase, t⟩ := by
    have hopened (hopen : t.finalized = false) :
        DropsLeft t ∧ (r.phase = .access → t.ctx.resumeCaptcha ≠ none) :=
      (hstays hresult).resolve_left (by simp [hopen])
    exact ⟨hprocessed, hdrops, fun hopen => (hopened hopen).2, fun hopen =>
      .inl (hopened hopen).1⟩
  rcases result with _ | _ | _ | _ | _
  · exact hon (by decide)
  · exact ⟨hprocessed, hdrops, by simp [advance, Status.ofHandlerResult],
      by simp [advance, Status.ofHandlerResult]⟩
  · exact hon (by decide)
  · exact hwaits (.inl rfl)
  · exact hwaits (.inr rfl)

/-- A run of PRECONTENT that has nothing to do, but for the mark of an inspection. -/
theorem Counted.unchanged (h : Counted site r) (hopen : r.state.finalized = false)
    (hphase : r.phase = .precontent) (result : HandlerResult) (inspected : Bool) :
    Counted site (r.advance .content (result, { r.state with inspected })) := by
  have hleft : DropsLeft r.state := (h.left hopen).resolve_right (by simp [hphase])
  have hleft' : DropsLeft { r.state with inspected } := ⟨hleft.awaited, hleft.allowed⟩
  refine counted_advance (.inr rfl) h.processed h.drops (fun _ => .inr ⟨hleft', ?_⟩)
    fun _ => .inl hleft'
  simp [hphase]

/-- The remediation in PRECONTENT, after an allowance. -/
theorem Remedied.counted_precontent {s : RequestState} {out : HandlerResult × RequestState}
    (h : Remedied 1 s out) (hphase : r.phase = .precontent)
    (hprocessed : site.req.clientIp.isSome → s.processed = 1) (hinspections : s.inspections = 0)
    (hdrops : s.drops = 0) : Counted site (r.advance .content out) := by
  have hover : out.2.inspections = 0 := Nat.le_zero.mp (hinspections ▸ h.inspections)
  refine counted_advance (.inr rfl) (fun hip => h.processed.trans (hprocessed hip))
    (h.drops.trans_eq (by rw [hdrops])) (fun hstays => ?_) fun _ => .inr ⟨rfl, hover⟩
  refine (h.stays hstays).imp_right fun hcaptcha => ⟨?_, by simp [hphase]⟩
  refine dropsLeft_of_noInspection hover ?_
  rw [ModuleCtx.resumeAppSec_of_captcha hcaptcha]
  simp

/-- The inspection in PRECONTENT, where it does not allow the request. -/
theorem Judged.counted_precontent {s : RequestState} {out : HandlerResult × RequestState}
    (h : Judged s out) (hphase : r.phase = .precontent) (hdeclined : out.1 ≠ .declined)
    (hprocessed : site.req.clientIp.isSome → s.processed = 1) (hinspections : s.inspections = 0)
    (hdrops : s.drops = 0) : Counted site (r.advance .content out) := by
  refine counted_advance (.inr rfl) (fun hip => h.processed.trans (hprocessed hip))
    (h.drops.trans_eq (by rw [hdrops])) (fun hstays => ?_) fun hcontinues => ?_
  · rcases hstays with hdone | hpending
    · exact .inl (h.done hdone)
    · exact .inr ⟨h.dropsLeft hinspections hdrops hpending, by simp [hphase]⟩
  · have herror := (HandlerResult.continues_iff.mp hcontinues).resolve_left hdeclined
    exact .inr ⟨rfl, (h.ended (by simp [herror])).trans hinspections⟩

/-- **A run of PRECONTENT.** Only one that starts an inspection depends on what ACCESS has
counted. -/
theorem handlePrecontent_counted (henabled : site.loc.enabled = some true)
    (hmain : site.req.subrequest = false) (h : Counted site r)
    (hopen : r.state.finalized = false) (hphase : r.phase = .precontent)
    (hstarts : StartsInspection site a r → r.state.drops = 0) :
    Counted site (r.advance .content
      (handlePrecontent site.req site.loc site.main site.appsec a r.state)) := by
  have hleft : DropsLeft r.state := (h.left hopen).resolve_right (by simp [hphase])
  by_cases hcaptcha : r.state.ctx.resumeCaptcha = none
  · by_cases hbypass : ∀ ip, site.req.clientIp = some ip → bypassed site.main ip = false
    · -- an inspection that starts, or one that has an outcome
      have hinspection : r.state.ctx.resumeAppSec = none → AsksAppSec site a →
          Judged r.state (precontentInspection site a r.state) ∧ r.state.drops = 0 ∧
            r.state.inspections = 0 := by
        intro hnone hasks
        have hempty : r.state.ctx = .empty := by
          rcases hslot : r.state.ctx with _ | c | c
          · rfl
          · exact absurd (hslot ▸ hnone) (by simp [ModuleCtx.resumeAppSec])
          · exact absurd (hslot ▸ hcaptcha) (by simp [ModuleCtx.resumeCaptcha])
        exact ⟨AppSec.inspect_judged hnone, hstarts ⟨hphase, hempty, hasks, hbypass⟩,
          hleft.noInspection (by simp [hnone])⟩
      have hstored (result : HandlerResult) (hsome : r.state.ctx.resumeAppSec = some result) :
          precontentInspection site a r.state = (result, { r.state with inspected := true }) := by
        simp [precontentInspection, AppSec.inspect, hsome]
      rcases handlePrecontent_cases (a := a) henabled hmain hbypass hcaptcha with
        ⟨-, result, -, heq⟩ | ⟨hasks, clientIp, t, hinspect, heq⟩ | ⟨hasks, hdeclined, heq⟩
      · rw [heq]
        exact h.unchanged hopen hphase result r.state.inspected
      · rw [heq]
        rcases hresume : r.state.ctx.resumeAppSec with _ | result
        · obtain ⟨hjudged, hdrops, hinspections⟩ := hinspection hresume hasks
          rw [hinspect] at hjudged
          refine (applyLookupRemediation_remedied t).counted_precontent hphase
            (fun hip => hjudged.processed.trans (h.processed hip)) ?_ ?_
          · exact (hjudged.ended (by simp)).trans hinspections
          · exact Nat.le_zero.mp (hdrops ▸ hjudged.declined rfl)
        · obtain ⟨rfl, rfl⟩ := Prod.mk.inj ((hstored result hresume).symm.trans hinspect)
          exact (applyLookupRemediation_remedied _).counted_precontent hphase h.processed
            (hleft.noInspection (by simp [hresume])) (hleft.allowed hresume)
      · rw [heq]
        rcases hresume : r.state.ctx.resumeAppSec with _ | result
        · obtain ⟨hjudged, hdrops, hinspections⟩ := hinspection hresume hasks
          exact hjudged.counted_precontent hphase hdeclined h.processed hinspections hdrops
        · rw [hstored result hresume]
          exact h.unchanged hopen hphase result true
    · have hdeclines : handlePrecontent site.req site.loc site.main site.appsec a r.state =
          (.declined, r.state) := by
        push Not at hbypass
        obtain ⟨ip, hip, hlisted⟩ := hbypass
        simp [handlePrecontent, henabled, hmain, hcaptcha, hip, hlisted]
      rw [hdeclines]
      exact h.unchanged hopen hphase .declined r.state.inspected
  · obtain ⟨result, hresult⟩ := Option.ne_none_iff_exists'.mp hcaptcha
    rw [handlePrecontent_of_resumeCaptcha henabled hmain hresult]
    exact h.unchanged hopen hphase result r.state.inspected

/-- The first run of ACCESS. -/
theorem handleAccess_counted (henabled : site.loc.enabled = some true)
    (hmetrics : site.loc.metricsEnabled ≠ some true) (body : Option RequestBody) :
    Counted site ((RequestRun.initial body).advance .precontent
      (handleAccess site.req site.loc site.main a (.initial body))) := by
  have hfresh : DropsLeft (RequestState.initial body).recordProcessed :=
    dropsLeft_of_noInspection rfl (by simp [RequestState.initial, RequestState.recordProcessed,
      ModuleCtx.resumeAppSec])
  rw [handleAccess, tryServeMetrics]
  rw [if_pos hmetrics, if_neg (by simp [henabled])]
  rcases hclient : site.req.clientIp with _ | clientIp
  · refine counted_advance (.inl rfl) (fun hip => absurd hip (by simp [hclient])) (Nat.zero_le 1)
      (by simp) fun _ => .inl ?_
    exact ⟨hfresh.awaited, hfresh.allowed⟩
  · have hdeclines : Counted site ((RequestRun.initial body).advance .precontent
        (.declined, (RequestState.initial body).recordProcessed)) :=
      counted_advance (.inl rfl) (fun _ => rfl) (Nat.zero_le 1) (by simp) fun _ => .inl hfresh
    dsimp only
    split
    · exact hdeclines
    · split
      · exact hdeclines
      · -- the lookup's remediation counts at most one drop, and a captcha that waits counts none
        have hremedied : Remedied 1 (RequestState.initial body).recordProcessed
            (applyLookupRemediation site.req site.loc site.main a clientIp a.lookup
              (RequestState.initial body).recordProcessed) := applyLookupRemediation_remedied _
        have hover := Nat.le_zero.mp hremedied.inspections
        have hctx : (applyLookupRemediation site.req site.loc site.main a clientIp a.lookup
            (RequestState.initial body).recordProcessed).2.ctx.resumeAppSec = none := by
          rcases hremedied.ctx with hsame | hcaptcha
          · rw [hsame]
            rfl
          · exact ModuleCtx.resumeAppSec_of_captcha hcaptcha
        have hleft := dropsLeft_of_noInspection hover (by simp [hctx])
        refine counted_advance (.inl rfl) (fun _ => hremedied.processed) hremedied.drops
          (fun hstays => ?_) fun _ => .inl hleft
        exact (hremedied.stays hstays).imp_right fun hcaptcha => ⟨hleft, fun _ => hcaptcha⟩

/-- A callback of AppSec: the request has waited for it, so no drop is counted yet. -/
theorem Completed.counted {s t : RequestState} (h : Completed s t) (hcounted : Counted site r)
    (hopen : r.state.finalized = false) (hprocessed : s.processed = r.state.processed)
    (hctx : r.state.ctx.resumeAppSec = some .bodyReadPending) : Counted site ⟨r.phase, t⟩ := by
  have hopened (ht : t.finalized = false) : DropsLeft t := h.left.resolve_left (by simp [ht])
  refine ⟨fun hip => (h.processed.trans hprocessed).trans (hcounted.processed hip), h.drops,
    fun _ haccess => ?_, fun ht => .inl (hopened ht)⟩
  have hnone := ModuleCtx.resumeAppSec_of_captcha (hcounted.access hopen haccess)
  exact absurd (hctx.symm.trans hnone) (by simp)

/-- A callback of the captcha counts nothing. -/
theorem CaptchaKept.counted {s t : RequestState} (h : CaptchaKept s t)
    (hcounted : Counted site r) (hopen : r.state.finalized = false)
    (hprocessed : s.processed = r.state.processed) (hdrops : s.drops = r.state.drops)
    (hctx : s.ctx = r.state.ctx) (hinspections : s.inspections ≤ r.state.inspections) :
    Counted site ⟨r.phase, t⟩ := by
  have hopened (ht : t.finalized = false) :
      r.state.ctx.resumeCaptcha ≠ none ∧ t.ctx.resumeCaptcha ≠ none :=
    hctx ▸ h.ctx.resolve_left (by simp [ht])
  refine ⟨fun hip => (h.processed.trans hprocessed).trans (hcounted.processed hip),
    (h.drops.trans hdrops).le.trans hcounted.drops, fun ht _ => (hopened ht).2,
    fun ht => .inl ?_⟩
  have hnone : r.state.inspections = 0 := by
    rcases hcounted.left hopen with hleft | ⟨-, hnone⟩
    · refine hleft.noInspection ?_
      rw [ModuleCtx.resumeAppSec_of_captcha (hopened ht).1]
      simp
    · exact hnone
  refine dropsLeft_of_noInspection ?_ ?_
  · exact Nat.le_zero.mp ((h.inspections.le.trans hinspections).trans_eq hnone)
  · rw [ModuleCtx.resumeAppSec_of_captcha (hopened ht).2]
    simp

/-- A callback that AppSec waits for finds the request as the inspection has left it. -/
theorem Counted.awaited (h : Counted site r) (hopen : r.state.finalized = false)
    (hsome : r.state.inspections ≠ 0) :
    r.state.inspections = 1 ∧ r.state.drops = 0 ∧
      r.state.ctx.resumeAppSec = some .bodyReadPending := by
  rcases h.left hopen with hleft | ⟨-, hnone⟩
  · exact hleft.awaited hsome
  · exact absurd hnone hsome

/-- The body read that an inspection waits for, once it is over. -/
theorem inspections_bodyRead {s : RequestState} (h : s.reading = some .appsec)
    (body : Option RequestBody) :
    s.inspections ≠ 0 ∧
      (s.inspections = 1 → RequestState.inspections { s with reading := none, body } = 0) := by
  simp [RequestState.inspections, h]

/-- The exchange that an inspection waits for, once it is over. -/
theorem inspections_taskDone {s : RequestState} {task : PendingTask} (h : s.task = some task)
    (htask : task.isInspection = true) :
    s.inspections ≠ 0 ∧
      (s.inspections = 1 → RequestState.inspections { s with task := none } = 0) := by
  simp [RequestState.inspections, h, htask]

/-- **The step lemma.** -/
theorem counted_step {action : RequestAction} (henabled : site.loc.enabled = some true)
    (hmain : site.req.subrequest = false) (hok : CountsOnce site action r) (h : Counted site r)
    (hstep : step site action r = some r') : Counted site r' := by
  have hopen := step_open hstep
  rcases action with a | ⟨body, a⟩ | ⟨exchange, a⟩ | ⟨result, a⟩
  · rcases step_run hstep with ⟨haccess, -⟩ | ⟨hphase, rfl⟩
    · exact absurd (hok.1 haccess) (h.access hopen haccess)
    · exact handlePrecontent_counted henabled hmain h hopen hphase hok.2
  · rcases step_bodyRead hstep with ⟨hreading, rfl⟩ | ⟨hreading, rfl⟩
    · obtain ⟨hsome, hover⟩ := inspections_bodyRead hreading body
      obtain ⟨hone, hdrops, hctx⟩ := h.awaited hopen hsome
      have hcompleted : Completed { r.state with reading := none, body }
          (AppSec.appsecBodyHandler site.req site.loc site.appsec a
            { r.state with reading := none, body }) :=
        AppSec.appsecBodyHandler_completed hctx (hover hone) hdrops
      exact hcompleted.counted h hopen rfl hctx
    · refine (captchaBodyHandler_kept _).counted h hopen rfl rfl rfl ?_
      simp [RequestState.inspections]
  · obtain ⟨ip, failureAction, shmBan, body, htask, rfl⟩ := step_appsecDone hstep
    obtain ⟨hsome, hover⟩ := inspections_taskDone htask rfl
    obtain ⟨hone, hdrops, hctx⟩ := h.awaited hopen hsome
    have hcompleted : Completed { r.state with task := none }
        (AppSec.complete site.req site.loc a ip failureAction shmBan exchange
          { r.state with task := none }) :=
      AppSec.complete_completed hctx (hover hone) hdrops
    exact hcompleted.counted h hopen rfl hctx
  · obtain ⟨htask, rfl⟩ := step_verifyDone hstep
    refine (completeVerification_kept result _).counted h hopen rfl rfl rfl ?_
    simp [RequestState.inspections]

/-- The request is counted once after a run: it has been recorded as processed once, if its
address is known and ACCESS has run, and at most one drop has been recorded. -/
def CountedOnce (site : Site) (l : List RequestAction) (r : RequestRun) : Prop :=
  (l ≠ [] → site.req.clientIp.isSome → r.state.processed = 1) ∧
    r.state.dropped + r.state.appsecDropped ≤ 1

/-- **Counted once.** Where `crowdsec` is on and no metrics are served, a main request is counted
once in every state of every run whose steps `CountsOnce` allows. -/
theorem countedOnce_of_countsOnce {l : List RequestAction} {body : Option RequestBody}
    (henabled : site.loc.enabled = some true) (hmetrics : site.loc.metricsEnabled ≠ some true)
    (hmain : site.req.subrequest = false)
    (hsteps : EveryStep (step site) (CountsOnce site) l (.initial body))
    (hexec : exec (step site) l (.initial body) = some r) : CountedOnce site l r := by
  rcases l with _ | ⟨action, l⟩
  · obtain rfl := Option.some_injective _ hexec
    exact ⟨fun hne => absurd rfl hne, Nat.zero_le 1⟩
  · obtain ⟨r₁, hfirst, hrest⟩ := exec_cons.mp hexec
    have hcounted : Counted site r₁ := by
      rcases action with a | _ | _ | _
      · rcases step_run hfirst with ⟨-, rfl⟩ | ⟨hphase, -⟩
        · exact handleAccess_counted henabled hmetrics body
        · exact absurd hphase (by simp [RequestRun.initial])
      all_goals simp [step, RequestRun.initial, RequestState.initial] at hfirst
    have hlast : Counted site r :=
      (everyState_of_step (fun _ _ _ hok h hstep => counted_step henabled hmain hok h hstep)
        (hsteps.2 r₁ hfirst) hcounted).last hrest
    exact ⟨fun _ => hlast.processed, hlast.drops⟩

/-- AppSec does not answer, its failure action lets the request through, and the ban is
counted. -/
theorem countedOnce_of_countsOnce_passthrough :
    ∃ r, exec (step inspectingSite) [.run banAnswers, .run banAnswers,
        .appsecDone .failed banAnswers, .run banAnswers] (.initial none) = some r ∧
      CountedOnce inspectingSite [.run banAnswers, .run banAnswers,
        .appsecDone .failed banAnswers, .run banAnswers] r := by
  refine ⟨_, rfl, countedOnce_of_countsOnce rfl (by decide) rfl ?_ rfl⟩
  refine ⟨⟨fun _ => rfl, fun _ => rfl⟩, fun r₁ h₁ => ⟨⟨fun haccess => ?_, fun _ => ?_⟩,
    fun r₂ h₂ => ⟨trivial, fun r₃ h₃ => ⟨⟨fun haccess => ?_, fun _ => ?_⟩, fun _ _ => trivial⟩⟩⟩⟩
  · obtain rfl := Option.some_injective _ h₁
    exact absurd haccess (by decide)
  · obtain rfl := Option.some_injective _ h₁
    rfl
  all_goals
    obtain rfl := Option.some_injective _ h₁
    obtain rfl := Option.some_injective _ h₂
    obtain rfl := Option.some_injective _ h₃
  · exact absurd haccess (by decide)
  · rfl

/-- A captcha form is submitted at a location with a complete captcha configuration. -/
def submittingSite : Site where
  req := { plainRequest with
    method := .post, contentType := some "application/x-www-form-urlencoded", contentLength := 3 }
  loc := {
    enabled := some true, captchaTemplate := some ⟨"", "text/html"⟩
    captchaProvider := some .turnstile, captchaSiteKey := some "a", captchaSecretKey := some "b"
    captchaSigningKey := some (Vector.replicate 32 1) }
  main := {}
  appsec := none

/-- The client is under a captcha decision, and the form names the response field. -/
def submissionAnswers : Answers :=
  { banAnswers with lookup := ⟨true, .captcha, .crowdsec, 0⟩, captchaResponse := true }

/-- The provider cannot be reached, the location fails open, and ACCESS runs again. -/
def outageRun : List RequestAction :=
  [.run submissionAnswers, .bodyRead (some ⟨[[97, 61, 98]], false⟩) submissionAnswers,
    .verifyDone .networkError submissionAnswers, .run submissionAnswers]

theorem not_countedOnce :
    ¬ ∀ (site : Site) (l : List RequestAction) (body : Option RequestBody) (r : RequestRun),
      site.loc.validateEnforcement = .ok () → site.loc.enabled = some true →
        site.loc.metricsEnabled ≠ some true → site.req.subrequest = false →
          exec (step site) l (.initial body) = some r → CountedOnce site l r := by
  intro h
  have hreach : ∃ r, exec (step submittingSite) outageRun (.initial none) = some r ∧
      r.state.processed = 2 := ⟨_, rfl, by decide +kernel⟩
  obtain ⟨r, hexec, htwice⟩ := hreach
  have honce := (h submittingSite outageRun none r (by decide +kernel) rfl (by decide) rfl hexec).1
    (by decide) (by decide)
  exact absurd (htwice.symm.trans honce) (by decide)

/-- The ban of a static asset is counted in ACCESS, but its response cannot be sent; it ends before
PRECONTENT, where AppSec bans the request again. -/
example :
    let site : Site := { inspectingSite with
      req := { plainRequest with path := some "/a.ico" }
      loc := { enabled := some true, appsecEnabled := some true, banStatus := some 429 } }
    (exec (step site) [.run exhaustedPool, .run clearAnswers,
      .appsecDone (.replied 403 none) clearAnswers] (.initial none)).map
        (fun r => r.state.drops) = some 2 := by
  decide +kernel

end CrowdSecBouncer
