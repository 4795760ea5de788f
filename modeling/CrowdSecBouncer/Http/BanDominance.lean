import CrowdSecBouncer.Http.Confinement

/-!
# A live ban dominates

While every lookup of a request returns a ban, the request never reaches the content handler,
whatever AppSec is configured to do and whatever it answers. ACCESS bans at once, or defers
the ban because AppSec inspects banned clients too; and then every allowance of AppSec, made
at once or read back after a suspension, is followed by the deferred ban.
-/

namespace CrowdSecBouncer

/-- A lookup that returns a ban. -/
def LookupResult.IsBan (lookup : LookupResult) : Prop :=
  lookup.found = true ∧ lookup.decisionType = .ban

variable {site : Site} {a : Answers} {r r' : RequestRun} {clientIp : IpAddr}

variable (site clientIp) in
/-- A banned client's lookup is remediated by the ban. -/
theorem applyLookupRemediation_of_ban (ha : a.SendsSucceed) (hban : a.lookup.IsBan)
    (s : RequestState) :
    ∃ s', applyLookupRemediation site.req site.loc site.main a clientIp a.lookup s = (.done, s') ∧
      s'.finalized = true := by
  unfold applyLookupRemediation
  dsimp only
  rw [if_neg (by simp [hban.1]), hban.2]
  exact handleBanDecision_of_succeeds _ _ ha _

/-- ACCESS lets a banned client on only to have it inspected first. -/
theorem handleAccess_of_ban (henabled : site.loc.enabled = some true)
    (hclient : site.req.clientIp = some clientIp) (hbypass : bypassed site.main clientIp = false)
    (ha : a.SendsSucceed) (hban : a.lookup.IsBan) (s : RequestState) :
    (∃ s', handleAccess site.req site.loc site.main a s = (.done, s') ∧ s'.finalized = true) ∨
      handleAccess site.req site.loc site.main a s = (.declined, s.recordProcessed) ∧
        shouldRunAppsec site.loc a.lookup = true := by
  rw [handleAccess, tryServeMetrics]
  by_cases hmetrics : site.loc.metricsEnabled = some true
  · rw [if_neg (by simp [hmetrics]), sendResponse_of_ok (ha _ _)]
    rcases site.req.method with _ | _ | _ | _ <;> exact .inl ⟨_, rfl, rfl⟩
  · rw [if_pos hmetrics, if_neg (by simp [henabled]), hclient]
    simp only [hbypass]
    by_cases hrun : shouldRunAppsec site.loc a.lookup = true
    · exact .inr ⟨by simp [hrun], hrun⟩
    · simp only [hrun]
      exact .inl (applyLookupRemediation_of_ban site clientIp ha hban _)

/-- PRECONTENT follows every allowance of AppSec by the deferred ban. -/
theorem handlePrecontent_of_ban {s : RequestState} (henabled : site.loc.enabled = some true)
    (hmain : site.req.subrequest = false) (hclient : site.req.clientIp = some clientIp)
    (hbypass : bypassed site.main clientIp = false) (ha : a.SendsSucceed)
    (hban : a.lookup.IsBan) (hrun : shouldRunAppsec site.loc a.lookup = true)
    (h : Confined True False s) :
    ConfinedResult True False
        (handlePrecontent site.req site.loc site.main site.appsec a s) ∧
      (handlePrecontent site.req site.loc site.main site.appsec a s).1 ≠ .declined := by
  have hctx : s.ctx.resumeCaptcha = none := by
    have hold := h.ctx
    rcases hslot : s.ctx with _ | c | c
    · rfl
    · rfl
    · rw [hslot] at hold
      exact hold.1.elim
  have hinspect : ConfinedResult True False
      (AppSec.inspect site.req site.loc site.appsec a
        (a.lookup.found && a.lookup.decisionType = .ban) s) :=
    AppSec.inspect_confined ha h hctx (by simp [hclient]) fun _ => trivial
  rw [handlePrecontent]
  rw [if_neg (by simp [henabled]), if_neg (by simp [hmain]), hctx, hclient]
  dsimp only
  rw [if_neg (by simp [hbypass]), if_neg (by simp [hrun])]
  split
  · next t _ =>
    -- AppSec declined, and the ban of the lookup is still to be enforced
    obtain ⟨s', heq, hfinal⟩ :=
      applyLookupRemediation_of_ban site clientIp ha hban t
    rw [heq]
    exact ⟨hfinal, by simp⟩
  · next result t hne heq =>
    rw [heq] at hinspect
    refine ⟨hinspect, ?_⟩
    rintro rfl
    exact hne rfl

/-- The invariant: not at the content handler; and the request is answered, or confined
without a captcha, and past ACCESS only if AppSec inspects banned clients. -/
structure BanPending (site : Site) (r : RequestRun) : Prop where
  phase : r.phase ≠ .content
  settled : Settled True False r.state
  inspects : r.phase = .precontent →
    site.loc.appsecEnabled = some true ∧ site.loc.appsecAlways = some true

open LabelledRun RequestRun

/-- **The step lemma.** -/
theorem banPending_step {action : RequestAction} (henabled : site.loc.enabled = some true)
    (hmain : site.req.subrequest = false) (hclient : site.req.clientIp = some clientIp)
    (hbypass : bypassed site.main clientIp = false) (ha : action.answers.SendsSucceed)
    (hban : action.answers.lookup.IsBan) (h : BanPending site r)
    (hstep : step site action r = some r') : BanPending site r' := by
  have hconf : Confined True False r.state :=
    h.settled.resolve_left (by simp [step_open hstep])
  by_cases hrun : ∃ b, action = .run b
  · obtain ⟨b, rfl⟩ := hrun
    have ha : b.SendsSucceed := ha
    have hban : b.lookup.IsBan := hban
    rcases step_run hstep with ⟨hphase, rfl⟩ | ⟨hphase, rfl⟩
    · -- ACCESS bans, or leaves the ban to PRECONTENT when AppSec is to inspect
      rcases handleAccess_of_ban henabled hclient hbypass ha hban r.state with
        ⟨s', heq, hfinal⟩ | ⟨heq, hinspect⟩
      · have hdone : ConfinedResult True False (.done, s') := hfinal
        have hstays := hdone.advance (r := r) .precontent (by simp)
        rw [heq]
        refine ⟨by simp [hstays.1, hphase], hstays.2, fun hcontent => ?_⟩
        exact absurd (hstays.1.symm.trans hcontent) (by simp [hphase])
      · rw [heq]
        refine ⟨by simp [advance, Status.ofHandlerResult], .inr (hconf.of_eq rfl rfl rfl),
          fun _ => ?_⟩
        simpa [shouldRunAppsec, hban.1] using hinspect
    · have hinspect : shouldRunAppsec site.loc b.lookup = true := by
        simp [shouldRunAppsec, h.inspects hphase]
      obtain ⟨hresult, hdeclined⟩ :=
        handlePrecontent_of_ban henabled hmain hclient hbypass ha hban hinspect hconf
      have hstays := hresult.advance (r := r) .content hdeclined
      exact ⟨by simp [hstays.1, hphase], hstays.2, fun _ => h.inspects hphase⟩
  · have hstays := callback_settled ha hconf (fun hnot => absurd trivial hnot) False.elim
      (fun b heq => hrun ⟨b, heq⟩) hstep
    exact ⟨by simp [hstays.1, h.phase], hstays.2, fun hphase => h.inspects (hstays.1 ▸ hphase)⟩

/-- **A live ban dominates.** Let the client of a main request be known and not on the bypass
list, in a location with `crowdsec on`. If every lookup made during the request returns a ban
and every response can be sent, the content handler never gets the request. -/
theorem liveBan_neverContent {l : List RequestAction} {body : Option RequestBody}
    (henabled : site.loc.enabled = some true) (hmain : site.req.subrequest = false)
    (hclient : site.req.clientIp = some clientIp) (hbypass : bypassed site.main clientIp = false)
    (hban : ∀ action ∈ l, action.answers.lookup.IsBan)
    (hsends : ∀ action ∈ l, action.answers.SendsSucceed) :
    EveryState (step site) (fun r => r.phase ≠ .content) l (.initial body) := by
  have hlabels : EveryStep (step site)
      (fun action _ => action.answers.SendsSucceed ∧ action.answers.lookup.IsBan) l
      (.initial body) :=
    everyStep_of_mem fun action hmem _ => ⟨hsends action hmem, hban action hmem⟩
  have hstart : BanPending site (.initial body) :=
    ⟨by simp [RequestRun.initial], .inr (.initial body), by simp [RequestRun.initial]⟩
  have hinv : EveryState (step site) (BanPending site) l (.initial body) :=
    everyState_of_step (fun action r r' hok h hstep =>
      banPending_step henabled hmain hclient hbypass hok.1 hok.2 h hstep) hlabels hstart
  exact hinv.mono fun r h => h.phase

/-- A location where AppSec inspects banned clients and lets through what it cannot judge. -/
def inspectingSite : Site where
  req := plainRequest
  loc := { enabled := some true, appsecEnabled := some true, appsecAlways := some true }
  main := {}
  appsec := some { maxBodySize := 1024, dropUnreadableBody := false }

/-- Every lookup returns a ban, and everything asked for is there. -/
def banAnswers : Answers :=
  { lookup := ⟨true, .ban, .crowdsec, 0⟩
    send := fun _ => ⟨true, true, true, false⟩
    sessionValid := false, appsecAlloc := true, captchaAlloc := true
    appsecRead := .started, captchaRead := .started, posts := true, captchaResponse := false }

/-- AppSec does not answer, its failure action lets the request through, and the ban stops
it. -/
theorem liveBan_neverContent_passthrough :
    EveryState (step inspectingSite) (fun r => r.phase ≠ .content)
      [.run banAnswers, .run banAnswers, .appsecDone .failed banAnswers, .run banAnswers]
      (.initial none) := by
  have hanswers : ∀ action ∈ [RequestAction.run banAnswers, .run banAnswers,
      .appsecDone .failed banAnswers, .run banAnswers], action.answers = banAnswers := by
    simp [RequestAction.answers]
  refine liveBan_neverContent rfl rfl rfl rfl
    (fun action h => ?_) (fun action h => ?_)
  · rw [hanswers action h]
    exact ⟨rfl, rfl⟩
  · rw [hanswers action h]
    intro i headerFailure
    cases headerFailure <;> rfl

end CrowdSecBouncer
