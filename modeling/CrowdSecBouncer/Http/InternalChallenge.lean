import CrowdSecBouncer.Http.Handover

/-!
# Internal challenge paths

The paths of the bot challenge are served by AppSec and are to stay on the bouncer. PRECONTENT
asks AppSec about them whatever the lookup says, and on them whatever goes wrong with AppSec is
a denial. What remains are the ways past AppSec: a client on the bypass list, an allowance of
AppSec itself, and a captcha verification that fails open.
-/

namespace CrowdSecBouncer

open LabelledRun RequestRun

variable {site : Site} {a : Answers} {r r' : RequestRun} {clientIp : IpAddr}
  {allow captcha : Prop}

theorem Settled.advance {out : HandlerResult × RequestState} (next : Phase)
    (h : Settled allow captcha out.2) : Settled allow captcha (r.advance next out).state := by
  obtain ⟨result, t⟩ := out
  rcases result with _ | _ | _ | _ | _
  · exact h
  · exact .inl rfl
  · exact h
  · exact h
  · exact h

/-- ACCESS adds nothing but captcha submissions to a confined request. -/
theorem handleAccess_settled (ha : a.SendsSucceed) {s : RequestState}
    (h : Confined allow captcha s) (hcaptcha : captcha) :
    Settled allow captcha (handleAccess site.req site.loc site.main a s).2 := by
  have hcounted : Confined allow captcha s.recordProcessed := h.of_eq rfl rfl rfl
  rw [handleAccess, tryServeMetrics]
  by_cases hmetrics : site.loc.metricsEnabled = some true
  · rw [if_neg (by simp [hmetrics]), sendResponse_of_ok (ha _ _)]
    rcases site.req.method with _ | _ | _ | _ <;> exact .inl rfl
  · rw [if_pos hmetrics]
    dsimp only
    split
    · exact .inr h
    · split
      · exact .inr h
      · split
        · exact .inr hcounted
        · split
          · exact .inr hcounted
          · exact applyLookupRemediation_settled ha hcounted hcaptcha

/-- A captcha that is not over, or was not passed, ends no run of PRECONTENT with an
allowance. -/
theorem resumeCaptcha_confined {s : RequestState} {result : HandlerResult}
    (h : Confined allow captcha s) (hresume : s.ctx.resumeCaptcha = some result) :
    ¬ result.Continues := by
  have hold := h.ctx
  rcases hslot : s.ctx with _ | c | c
  · exact absurd (hslot ▸ hresume) (by simp [ModuleCtx.resumeCaptcha])
  · exact absurd (hslot ▸ hresume) (by simp [ModuleCtx.resumeCaptcha])
  · rw [hslot] at hresume hold
    simp only [ModuleCtx.resumeCaptcha, Option.some.injEq] at hresume
    subst hresume
    rcases hstored : c.storedResult with _ | _ | _ | _ | _
    · decide
    · exact absurd hstored hold.2.1
    · decide
    · decide
    · exact absurd hstored hold.2.2

/-- PRECONTENT does not let a request to an internal path continue. -/
theorem handlePrecontent_internal (henabled : site.loc.enabled = some true)
    (hmain : site.req.subrequest = false) (hinternal : site.req.internalChallenge = true)
    (hclient : site.req.clientIp = some clientIp) (hbypass : bypassed site.main clientIp = false)
    (ha : a.SendsSucceed) (hphase : r.phase = .precontent) (h : Confined False True r.state) :
    (r.advance .content
        (handlePrecontent site.req site.loc site.main site.appsec a r.state)).phase =
        .precontent ∧
      Settled False True (r.advance .content
        (handlePrecontent site.req site.loc site.main site.appsec a r.state)).state := by
  rcases hctx : r.state.ctx.resumeCaptcha with _ | result
  · have hinspect : ConfinedResult False True (precontentInspection site a r.state) :=
      AppSec.inspect_confined ha h hctx (by simp [hclient]) fun hnot => by simp [hinternal] at hnot
    have hbypass' : ∀ ip, site.req.clientIp = some ip → bypassed site.main ip = false := by
      intro ip hip
      obtain rfl := Option.some_injective _ (hclient.symm.trans hip)
      exact hbypass
    rcases handlePrecontent_cases (a := a) henabled hmain hbypass' hctx with
      ⟨hasks, -⟩ | ⟨-, ip, t, heq, -⟩ | ⟨-, hdeclined, heq⟩
    · -- an internal path is always inspected, and AppSec allows nothing here
      exact absurd ⟨by simp [hclient], .inr hinternal⟩ hasks
    · rw [heq] at hinspect
      exact hinspect.1.elim
    · rw [heq]
      have hstays := hinspect.advance (r := r) .content hdeclined
      exact ⟨hstays.1.trans hphase, hstays.2⟩
  · rw [handlePrecontent_of_resumeCaptcha henabled hmain hctx]
    -- the outcome of a captcha is handed on as it is
    have hnot := resumeCaptcha_confined h hctx
    refine ⟨?_, Settled.advance .content (.inr h)⟩
    rcases result with _ | _ | _ | _ | _
    · exact absurd rfl hnot
    · exact hphase
    · exact absurd rfl hnot
    · exact hphase
    · exact hphase

/-- The invariant: not at the content handler; and answered, or confined with no allowance of
AppSec. -/
def InternalPending (r : RequestRun) : Prop := r.phase ≠ .content ∧ Settled False True r.state

/-- **The step lemma.** -/
theorem internalPending_step {action : RequestAction} (henabled : site.loc.enabled = some true)
    (hmain : site.req.subrequest = false) (hinternal : site.req.internalChallenge = true)
    (hclient : site.req.clientIp = some clientIp) (hbypass : bypassed site.main clientIp = false)
    (ha : action.answers.SendsSucceed) (hdenies : action.Denies r) (h : InternalPending r)
    (hstep : step site action r = some r') : InternalPending r' := by
  have hconf : Confined False True r.state := h.2.resolve_left (by simp [step_open hstep])
  by_cases hrun : ∃ b, action = .run b
  · obtain ⟨b, rfl⟩ := hrun
    rcases step_run hstep with ⟨hphase, rfl⟩ | ⟨hphase, rfl⟩
    · refine ⟨?_, Settled.advance .precontent (handleAccess_settled ha hconf trivial)⟩
      rcases handleAccess site.req site.loc site.main b r.state with ⟨result, t⟩
      rcases result with _ | _ | _ | _ | _ <;>
        simp [advance, Status.ofHandlerResult, hphase]
    · obtain ⟨hstays, hsettled⟩ :=
        handlePrecontent_internal henabled hmain hinternal hclient hbypass ha hphase hconf
      exact ⟨fun hcontent => absurd (hstays.symm.trans hcontent) (by simp), hsettled⟩
  · obtain ⟨hstays, hsettled⟩ := callback_settled ha hconf (fun _ => hdenies) (fun _ => hdenies)
      (fun b heq => hrun ⟨b, heq⟩) hstep
    exact ⟨by simp [hstays, h.1], hsettled⟩

/-- **Internal challenge paths.** Let the client of a main request to an internal path be known
and not on the bypass list, in a location with `crowdsec on`. While every response can be sent,
AppSec does not allow the request and no captcha verification fails open, the content handler
does not get it. -/
theorem internalChallenge_neverContent {l : List RequestAction} {body : Option RequestBody}
    (henabled : site.loc.enabled = some true) (hmain : site.req.subrequest = false)
    (hinternal : site.req.internalChallenge = true) (hclient : site.req.clientIp = some clientIp)
    (hbypass : bypassed site.main clientIp = false)
    (hsends : ∀ action ∈ l, action.answers.SendsSucceed)
    (hdenies : EveryStep (step site) RequestAction.Denies l (.initial body)) :
    EveryState (step site) (fun r => r.phase ≠ .content) l (.initial body) := by
  have hlabels : EveryStep (step site) (fun action _ => action.answers.SendsSucceed) l
      (.initial body) := everyStep_of_mem fun action hmem _ => hsends action hmem
  have hstart : InternalPending (.initial body) :=
    ⟨by simp [RequestRun.initial], .inr (.initial body)⟩
  have hinv : EveryState (step site) InternalPending l (.initial body) :=
    everyState_of_step (fun action r r' hok h hstep => internalPending_step henabled hmain
      hinternal hclient hbypass hok.1 hok.2 h hstep) (hlabels.and hdenies) hstart
  exact hinv.mono fun r h => h.1

/-- A location with the bot challenge, and a request to an internal path. -/
def challengeSite : Site where
  req := { plainRequest with
    path := some "/crowdsec-internal/challenge/js"
    unparsedUri := some "/crowdsec-internal/challenge/js" }
  loc := { enabled := some true, appsecEnabled := some true, botChallengeEnabled := some true }
  main := {}
  appsec := some { maxBodySize := 1024, dropUnreadableBody := false }

/-- AppSec does not answer, and the request is denied. -/
theorem internalChallenge_neverContent_noReply :
    EveryState (step challengeSite) (fun r => r.phase ≠ .content)
      [.run clearAnswers, .run clearAnswers, .appsecDone .failed clearAnswers]
      (.initial none) := by
  refine internalChallenge_neverContent rfl rfl (by decide) rfl rfl
    (fun action h i headerFailure => ?_) (everyStep_of_mem fun action h r => ?_)
  · simp only [List.mem_cons, List.not_mem_nil, or_false] at h
    rcases h with rfl | rfl | rfl <;> cases headerFailure <;> rfl
  · simp only [List.mem_cons, List.not_mem_nil, or_false] at h
    rcases h with rfl | rfl | rfl
    · trivial
    · trivial
    · rintro ⟨response, hresponse, -⟩
      exact absurd hresponse (by simp [AppSecExchange.response])

/-- The client is on the bypass list. -/
def bypassingSite : Site :=
  { challengeSite with main := { bypassCidrs := [.v4 0xc0000200 0xffffff00] } }

/-- Both handlers decline the request of a bypassed client, whatever its path. -/
theorem not_internalChallenge_neverContent :
    ¬ ∀ (site : Site) (l : List RequestAction) (body : Option RequestBody),
      site.loc.validateEnforcement = .ok () → site.loc.enabled = some true →
        site.req.subrequest = false → site.req.internalChallenge = true →
          EveryState (step site) (fun r => r.phase ≠ .content) l (.initial body) := by
  intro h
  have hrun := h bypassingSite [.run clearAnswers, .run clearAnswers] none rfl rfl rfl (by decide)
  have hreach : ∃ r, exec (step bypassingSite) [.run clearAnswers, .run clearAnswers]
      (.initial none) = some r ∧ r.phase = .content := ⟨_, rfl, rfl⟩
  obtain ⟨r, hexec, hcontent⟩ := hreach
  exact hrun.last hexec hcontent

end CrowdSecBouncer
