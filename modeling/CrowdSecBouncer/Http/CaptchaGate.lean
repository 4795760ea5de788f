import CrowdSecBouncer.Http.BanDominance

/-!
# A captcha holds a client back

While every lookup of a request finds a decision, be it a ban or a captcha, a request without a
valid session is held back: it is banned, challenged, or suspended until the provider has been
asked, and no outcome of that but a verification that fails open lets it through. This needs a
captcha that can be enforced: settings that are complete, a template, and a submission whose body
can be read, or else `crowdsec_unenforceable_action block`. Under AppSec too a client that is let
on by the inspection still meets the captcha.
-/

namespace CrowdSecBouncer

/-- A lookup that finds a ban or a captcha. -/
def LookupResult.IsRemediation (lookup : LookupResult) : Prop :=
  lookup.found = true ∧ lookup.decisionType ≠ .unknown

/-- A client that the module can also challenge. -/
structure Site.Challenges (site : Site) (ip : IpAddr) : Prop extends site.Enforces ip where
  config : site.loc.captchaConfig.isSome = true
  template : site.loc.captchaTemplate.isSome = true

/-- A submission can be taken in: its body is read, or what cannot be enforced is blocked. -/
def Answers.TakesSubmission (a : Answers) (loc : LocConfig) : Prop :=
  a.captchaAlloc = true ∧ a.captchaRead = .started ∨ loc.unenforceableActionOrDefault = .block

variable {site : Site} {a : Answers} {r r' : RequestRun} {s : RequestState} {clientIp : IpAddr}

/-! ### The handlers -/

/-- The handler does not let the request on, and leaves it answered or waiting. -/
def HoldsBack (out : HandlerResult × RequestState) : Prop :=
  ¬ out.1.Continues ∧ (out.1 ≠ .forbidden → Settled True True out.2)

theorem HoldsBack.advance {out : HandlerResult × RequestState} (next : Phase)
    (h : HoldsBack out) :
    (r.advance next out).phase = r.phase ∧ Settled True True (r.advance next out).state := by
  obtain ⟨result, t⟩ := out
  obtain ⟨hstays, hsettled⟩ := h
  rcases result with _ | _ | _ | _ | _
  · exact absurd rfl hstays
  · exact ⟨rfl, .inl rfl⟩
  · exact absurd rfl hstays
  · exact ⟨rfl, hsettled (by simp)⟩
  · exact ⟨rfl, hsettled (by simp)⟩

theorem holdsBack_of_done {t : RequestState} (hfinal : t.finalized = true) :
    HoldsBack (.done, t) :=
  ⟨by simp [HandlerResult.continues_iff], fun _ => .inl hfinal⟩

/-- A captcha that is under way is waited for, or was denied. -/
theorem holdsBack_of_resume {result : HandlerResult} (h : Confined True True s)
    (hresume : s.ctx.resumeCaptcha = some result) : HoldsBack (result, s) := by
  have hold := h.ctx
  rcases hslot : s.ctx with _ | c | c
  · exact absurd (hslot ▸ hresume) (by simp [ModuleCtx.resumeCaptcha])
  · exact absurd (hslot ▸ hresume) (by simp [ModuleCtx.resumeCaptcha])
  · rw [hslot] at hresume hold
    simp only [ModuleCtx.resumeCaptcha, Option.some.injEq] at hresume
    subst hresume
    refine ⟨?_, fun _ => .inr h⟩
    rw [HandlerResult.continues_iff]
    rcases hstored : c.storedResult with _ | _ | _ | _ | _
    · simp [StoredPhaseResult.decode]
    · exact absurd hstored hold.2.1
    · simp [StoredPhaseResult.decode]
    · simp [StoredPhaseResult.decode]
    · exact absurd hstored hold.2.2

/-- The challenge of a client whose submission can be taken in. -/
theorem captchaChallenge_holdsBack {config : CaptchaConfig}
    (htemplate : site.loc.captchaTemplate.isSome = true) (ha : a.SendsSucceed)
    (hsubmission : a.TakesSubmission site.loc) (h : Confined True True s) :
    HoldsBack (captchaChallenge site.req site.loc a config clientIp s) := by
  have hnone : site.loc.captchaTemplate.isNone = false := by
    rw [← Option.not_isSome, htemplate]
    rfl
  have hpage (t : RequestState) : ∃ t', trySendCaptchaPage site.loc a t = (.done, t') ∧
      t'.finalized = true := by
    rw [trySendCaptchaPage, if_neg (by simp [hnone]), sendResponse_of_ok (ha _ _)]
    exact ⟨_, rfl, rfl⟩
  have hchallenge : HoldsBack (challengePage site.loc a s) := by
    obtain ⟨t', heq, hfinal⟩ := hpage s
    rw [challengePage, heq]
    exact holdsBack_of_done hfinal
  rw [captchaChallenge]
  split
  · rw [if_neg (by simp [hnone]), handleCaptchaPost]
    obtain ⟨t', heq, hfinal⟩ := hpage s.recordDropped
    split
    · rw [heq]
      exact holdsBack_of_done hfinal
    · split
      · rw [heq]
        exact holdsBack_of_done hfinal
      · rw [if_neg (by simp [hnone]), initiateCaptchaRead]
        have hnew : Confined True True { s.recordDropped with ctx := .captcha {
            clientIp, config, storedResult := .unset } } :=
          ⟨⟨trivial, by simp, by simp⟩, h.reading, h.task⟩
        by_cases hstarts : a.captchaAlloc = true ∧ a.captchaRead = .started
        · rw [if_pos hstarts.1, hstarts.2]
          exact ⟨by simp [HandlerResult.continues_iff],
            fun _ => .inr ⟨hnew.ctx, fun _ => trivial, h.task⟩⟩
        · have hblock : site.loc.unenforceableActionOrDefault = .block :=
            hsubmission.resolve_left hstarts
          have hblocked (t : RequestState) :
              HoldsBack (applyUnenforceableAction site.loc a t) := by
            obtain ⟨t', heq, hfinal⟩ := finishBlockBan_of_succeeds site.loc ha t
            rw [applyUnenforceableAction, hblock]
            dsimp only
            rw [heq]
            exact holdsBack_of_done hfinal
          by_cases halloc : a.captchaAlloc = true
          · have hread : a.captchaRead ≠ .started := fun hread => hstarts ⟨halloc, hread⟩
            simp only [if_pos halloc, if_neg hread]
            exact hblocked _
          · simp only [if_neg halloc]
            exact hblocked _
  · exact hchallenge
  · exact hchallenge
  · exact hchallenge

/-- **A decision holds a client back** that has no valid session. -/
theorem applyLookupRemediation_holdsBack (hsite : site.Challenges clientIp) (ha : a.SendsSucceed)
    (hlookup : a.lookup.IsRemediation) (hsession : a.sessionValid = false)
    (hsubmission : a.TakesSubmission site.loc) (h : Confined True True s) :
    HoldsBack (applyLookupRemediation site.req site.loc site.main a clientIp a.lookup s) := by
  have hs : Confined True True { s with remediated := true } := h.of_eq rfl rfl rfl
  unfold applyLookupRemediation
  dsimp only
  rw [if_neg (by simp [hlookup.1])]
  rcases htype : a.lookup.decisionType with _ | _ | _
  · obtain ⟨s', heq, hfinal⟩ := handleBanDecision_of_succeeds site.req site.loc ha
      { s with remediated := true }
    rw [heq]
    exact holdsBack_of_done hfinal
  · dsimp only
    rw [handleCaptchaDecision]
    rcases hresume : s.ctx.resumeCaptcha with _ | result
    · dsimp only
      split
      · rw [sendResponse_of_ok (ha _ _)]
        exact holdsBack_of_done rfl
      · obtain ⟨config, hconfig⟩ := Option.isSome_iff_exists.mp hsite.config
        rw [hconfig]
        dsimp only
        rw [if_neg (by simp [hsession])]
        exact captchaChallenge_holdsBack hsite.template ha hsubmission hs
    · exact holdsBack_of_resume hs hresume
  · exact absurd htype hlookup.2

/-- ACCESS lets such a client on only to have it inspected first. -/
theorem handleAccess_holdsBack (hsite : site.Challenges clientIp) (ha : a.SendsSucceed)
    (hlookup : a.lookup.IsRemediation) (hsession : a.sessionValid = false)
    (hsubmission : a.TakesSubmission site.loc) (h : Confined True True s) :
    HoldsBack (handleAccess site.req site.loc site.main a s) ∨
      handleAccess site.req site.loc site.main a s = (.declined, s.recordProcessed) ∧
        shouldRunAppsec site.loc a.lookup = true := by
  rw [handleAccess, tryServeMetrics]
  by_cases hmetrics : site.loc.metricsEnabled = some true
  · rw [if_neg (by simp [hmetrics]), sendResponse_of_ok (ha _ _)]
    rcases site.req.method with _ | _ | _ | _ <;> exact .inl (holdsBack_of_done rfl)
  · rw [if_pos hmetrics, if_neg (by simp [hsite.enabled]), hsite.client]
    simp only [hsite.bypass]
    by_cases hrun : shouldRunAppsec site.loc a.lookup = true
    · exact .inr ⟨by simp [hrun], hrun⟩
    · simp only [hrun]
      exact .inl (applyLookupRemediation_holdsBack hsite ha hlookup hsession hsubmission
        (h.of_eq rfl rfl rfl))

/-- PRECONTENT follows every allowance of AppSec by the deferred decision. -/
theorem handlePrecontent_holdsBack (hsite : site.Challenges clientIp) (ha : a.SendsSucceed)
    (hlookup : a.lookup.IsRemediation) (hsession : a.sessionValid = false)
    (hsubmission : a.TakesSubmission site.loc)
    (hrun : shouldRunAppsec site.loc a.lookup = true) (h : Confined True True s) :
    HoldsBack (handlePrecontent site.req site.loc site.main site.appsec a s) := by
  rw [handlePrecontent]
  rw [if_neg (by simp [hsite.enabled]), if_neg (by simp [hsite.main])]
  rcases hresume : s.ctx.resumeCaptcha with _ | result
  · have hinspect : ConfinedResult True True
        (AppSec.inspect site.req site.loc site.appsec a
          (a.lookup.found && a.lookup.decisionType = .ban) s) :=
      AppSec.inspect_confined ha h hresume (by simp [hsite.client]) fun _ => trivial
    rw [hsite.client]
    dsimp only
    rw [if_neg (by simp [hsite.bypass]), if_neg (by simp [hrun])]
    split
    · next heq =>
      rw [heq] at hinspect
      exact applyLookupRemediation_holdsBack hsite ha hlookup hsession hsubmission hinspect.2.1
    · next result t hne heq =>
      rw [heq] at hinspect
      rcases result with _ | _ | _ | _ | _
      · exact absurd rfl hne
      · exact ⟨by simp [HandlerResult.continues_iff], fun hne => absurd rfl hne⟩
      · exact hinspect.elim
      · exact holdsBack_of_done hinspect
      · exact ⟨by simp [HandlerResult.continues_iff], fun _ => .inr hinspect⟩
  · exact holdsBack_of_resume h hresume

/-! ### The run -/

/-- The invariant: not at the content handler; and the request is answered or waiting, and past
ACCESS only if AppSec inspects clients under a decision. -/
structure HeldBack (site : Site) (r : RequestRun) : Prop where
  phase : r.phase ≠ .content
  settled : Settled True True r.state
  inspects : r.phase = .precontent →
    site.loc.appsecEnabled = some true ∧ site.loc.appsecAlways = some true

theorem heldBack_initial (site : Site) (body : Option RequestBody) :
    HeldBack site (.initial body) :=
  ⟨by simp [RequestRun.initial], .inr (.initial body), by simp [RequestRun.initial]⟩

open RequestRun

/-- **The step lemma.** -/
theorem heldBack_step {action : RequestAction} (hsite : site.Challenges clientIp)
    (ha : action.answers.SendsSucceed) (hlookup : action.answers.lookup.IsRemediation)
    (hsession : action.answers.sessionValid = false)
    (hsubmission : action.answers.TakesSubmission site.loc) (hopen : ¬ action.FailsOpen r)
    (h : HeldBack site r) (hstep : step site action r = some r') : HeldBack site r' := by
  have hconf : Confined True True r.state :=
    h.settled.resolve_left (by simp [step_open hstep])
  by_cases hrun : ∃ b, action = .run b
  · obtain ⟨b, rfl⟩ := hrun
    rcases step_run hstep with ⟨hphase, rfl⟩ | ⟨hphase, rfl⟩
    · rcases handleAccess_holdsBack (a := b) hsite ha hlookup hsession hsubmission hconf with
        hheld | ⟨heq, hinspect⟩
      · have hstays := hheld.advance (r := r) .precontent
        refine ⟨by simp [hstays.1, hphase], hstays.2, fun hcontent => ?_⟩
        exact absurd (hstays.1.symm.trans hcontent) (by simp [hphase])
      · rw [heq]
        refine ⟨by simp [RequestRun.advance, Status.ofHandlerResult],
          .inr (hconf.of_eq rfl rfl rfl), fun _ => ?_⟩
        have hfound : b.lookup.found = true := hlookup.1
        simpa [shouldRunAppsec, hfound] using hinspect
    · have hinspect : shouldRunAppsec site.loc b.lookup = true := by
        simp [shouldRunAppsec, h.inspects hphase]
      have hheld : HoldsBack (handlePrecontent site.req site.loc site.main site.appsec b r.state) :=
        handlePrecontent_holdsBack hsite ha hlookup hsession hsubmission hinspect hconf
      have hstays := hheld.advance (r := r) .content
      exact ⟨by simp [hstays.1, hphase], hstays.2, fun _ => h.inspects hphase⟩
  · have hstays := callback_settled_of ha hconf (fun hnot => absurd trivial hnot) (fun _ => hopen)
      (fun b heq => hrun ⟨b, heq⟩) hstep
    exact ⟨by simp [hstays.1, h.phase], hstays.2, fun hphase => h.inspects (hstays.1 ▸ hphase)⟩

end CrowdSecBouncer
