import CrowdSecBouncer.Http.BanDominance
import CrowdSecBouncer.Http.Marks

/-!
# From ACCESS to PRECONTENT

Each of the two phases decides by a lookup of its own whether AppSec inspects the request:
ACCESS, to leave the remediation to PRECONTENT; PRECONTENT, to act at all. The decision cache
may change in between. `noSlip_iff_phasesAgree` says exactly which runs let a request through that
neither phase has looked after, or let a ban pass that PRECONTENT has found: those in which
PRECONTENT finds that AppSec need not inspect where ACCESS found that it would. For a request that
comes straight from ACCESS this is a matter of the two lookups (`noSlip_handover_iff`).
-/

namespace CrowdSecBouncer

open LabelledRun RequestRun

variable {site : Site} {a : Answers} {r : RequestRun}

/-- A ban that can be enforced. -/
def Answers.BanEnforceable (a : Answers) : Prop := a.lookup.IsBan ∧ a.SendsSucceed

/-- PRECONTENT gets as far as its lookup. -/
def LooksUp (site : Site) (r : RequestRun) : Prop :=
  r.state.ctx.resumeCaptcha = none ∧ site.req.clientIp ≠ none

/-- If the step lets the request through to the content handler, then AppSec has inspected it
or a remediation has been run; and PRECONTENT has not found a ban that it can enforce. -/
def NoSlip (site : Site) (action : RequestAction) (r : RequestRun) : Prop :=
  ∀ r', step site action r = some r' → r.phase = .precontent → r'.phase = .content →
    (r'.state.inspected = true ∨ r'.state.remediated = true) ∧
      (LooksUp site r → ¬ action.answers.BanEnforceable)

/-- The lookup of PRECONTENT, or the path, asks for AppSec. -/
def AsksAppSec (site : Site) (a : Answers) : Prop :=
  site.req.clientIp ≠ none ∧
    (shouldRunAppsec site.loc a.lookup = true ∨ site.req.internalChallenge = true)

/-- PRECONTENT agrees with what was done before it. If it asks AppSec, then no error is stored
under a ban that could be enforced. If it does not, then the request is marked already, and
its lookup is no such ban. -/
def PhasesAgree (site : Site) : RequestAction → RequestRun → Prop
  | .run a, r =>
    r.phase = .precontent → r.state.finalized = false → r.state.ctx.resumeCaptcha = none →
      (AsksAppSec site a → ¬ (r.state.ctx.resumeAppSec = some .error ∧ a.BanEnforceable)) ∧
        (¬ AsksAppSec site a →
          (r.state.inspected = true ∨ r.state.remediated = true) ∧
            (site.req.clientIp ≠ none → ¬ a.BanEnforceable))
  | .bodyRead .., _ | .appsecDone .., _ | .verifyDone .., _ => True

/-- The inspection that PRECONTENT makes. -/
def precontentInspection (site : Site) (a : Answers) (s : RequestState) :
    HandlerResult × RequestState :=
  AppSec.inspect site.req site.loc site.appsec a
    (a.lookup.found && a.lookup.decisionType = .ban) s

/-- PRECONTENT hands on the outcome of a captcha. -/
theorem handlePrecontent_of_resumeCaptcha (henabled : site.loc.enabled = some true)
    (hmain : site.req.subrequest = false) {s : RequestState} {result : HandlerResult}
    (hctx : s.ctx.resumeCaptcha = some result) :
    handlePrecontent site.req site.loc site.main site.appsec a s = (result, s) := by
  rw [handlePrecontent]
  rw [if_neg (by simp [henabled]), if_neg (by simp [hmain]), hctx]

/-- What PRECONTENT does with a request that is not in the middle of a captcha. -/
theorem handlePrecontent_cases (henabled : site.loc.enabled = some true)
    (hmain : site.req.subrequest = false)
    (hbypass : ∀ ip, site.req.clientIp = some ip → bypassed site.main ip = false)
    {s : RequestState} (hctx : s.ctx.resumeCaptcha = none) :
    (¬ AsksAppSec site a ∧ ∃ result, result.Continues ∧
        handlePrecontent site.req site.loc site.main site.appsec a s = (result, s)) ∨
      (AsksAppSec site a ∧ ∃ clientIp t, precontentInspection site a s = (.declined, t) ∧
        handlePrecontent site.req site.loc site.main site.appsec a s =
          applyLookupRemediation site.req site.loc site.main a clientIp a.lookup t) ∨
      AsksAppSec site a ∧ (precontentInspection site a s).1 ≠ .declined ∧
        handlePrecontent site.req site.loc site.main site.appsec a s =
          precontentInspection site a s := by
  unfold handlePrecontent
  rw [if_neg (by simp [henabled]), if_neg (by simp [hmain]), hctx]
  dsimp only
  rcases hclient : site.req.clientIp with _ | clientIp
  · exact .inl ⟨fun hasks => hasks.1 hclient, .error, rfl, rfl⟩
  · dsimp only
    rw [if_neg (by simp [hbypass clientIp hclient])]
    by_cases hasks : shouldRunAppsec site.loc a.lookup = true ∨ site.req.internalChallenge = true
    · have hasks' : AsksAppSec site a := ⟨by simp [hclient], hasks⟩
      rw [if_neg (by simpa [imp_iff_not_or] using hasks)]
      rcases hinspect : precontentInspection site a s with ⟨result, t⟩
      unfold precontentInspection at hinspect
      rw [hinspect]
      by_cases hdeclined : result = .declined
      · subst hdeclined
        exact .inr (.inl ⟨hasks', clientIp, t, rfl, rfl⟩)
      · refine .inr (.inr ⟨hasks', hdeclined, ?_⟩)
        rcases result with _ | _ | _ | _ | _
        · exact absurd rfl hdeclined
        · rfl
        · rfl
        · rfl
        · rfl
    · rw [if_pos (by simpa [not_or] using hasks)]
      exact .inl ⟨fun h => hasks h.2, .declined, rfl, rfl⟩

/-- When responses can be sent, an inspection comes to an error only by a stored one. -/
theorem precontentInspection_error_iff {s : RequestState} (ha : a.SendsSucceed)
    (hctx : s.ctx.resumeCaptcha = none) (hclient : site.req.clientIp ≠ none) :
    (precontentInspection site a s).1 = .error ↔ s.ctx.resumeAppSec = some .error := by
  rcases hresume : s.ctx.resumeAppSec with _ | result
  · have hempty : s.ctx = .empty := by
      rcases hslot : s.ctx with _ | c | c
      · rfl
      · exact absurd (hslot ▸ hresume) (by simp [ModuleCtx.resumeAppSec])
      · exact absurd (hslot ▸ hctx) (by simp [ModuleCtx.resumeCaptcha])
    have hconf : Confined True True s := by
      refine ⟨by rw [hempty]; trivial, fun _ => trivial, ?_⟩
      rcases s.task with _ | task
      · trivial
      · rcases task with _ | _
        · exact fun _ => trivial
        · trivial
    have hresult : ConfinedResult True True (precontentInspection site a s) :=
      AppSec.inspect_confined ha hconf hctx hclient fun _ => trivial
    refine iff_of_false (fun herror => ?_) (by simp)
    rcases hout : precontentInspection site a s with ⟨result, t⟩
    rw [hout] at herror hresult
    obtain rfl : result = .error := herror
    exact hresult
  · simp [precontentInspection, AppSec.inspect, hresume]

theorem advance_content_iff (hphase : r.phase = .precontent)
    (out : HandlerResult × RequestState) :
    (r.advance .content out).phase = .content ↔ out.1.Continues := by
  obtain ⟨result, t⟩ := out
  rcases result with _ | _ | _ | _ | _ <;>
    simp [advance, HandlerResult.Continues, Status.ofHandlerResult, hphase]

theorem advance_state_of_continues {out : HandlerResult × RequestState}
    (hcontinues : out.1.Continues) : (r.advance .content out).state = out.2 := by
  obtain ⟨result, t⟩ := out
  rcases HandlerResult.continues_iff.mp hcontinues with heq | heq
  · obtain rfl : result = .declined := heq
    rfl
  · obtain rfl : result = .error := heq
    rfl

/-- No slip of a PRECONTENT run that makes its lookup, in terms of the handler. -/
theorem noSlip_run_iff (hphase : r.phase = .precontent) (hfinal : r.state.finalized = false)
    (hctx : r.state.ctx.resumeCaptcha = none) {out : HandlerResult × RequestState}
    (hout : handlePrecontent site.req site.loc site.main site.appsec a r.state = out) :
    NoSlip site (.run a) r ↔
      (out.1.Continues → (out.2.inspected = true ∨ out.2.remediated = true) ∧
        (site.req.clientIp ≠ none → ¬ a.BanEnforceable)) := by
  have hstep : step site (.run a) r = some (r.advance .content out) := by
    simp [step, hfinal, hphase, hout]
  constructor
  · intro h hcontinues
    obtain ⟨hmark, hban⟩ := h _ hstep hphase ((advance_content_iff hphase out).mpr hcontinues)
    rw [advance_state_of_continues hcontinues] at hmark
    exact ⟨hmark, fun hclient => hban ⟨hctx, hclient⟩⟩
  · intro h r' hstep' _ hcontent
    obtain rfl := Option.some_injective _ (hstep.symm.trans hstep')
    have hcontinues := (advance_content_iff hphase out).mp hcontent
    rw [advance_state_of_continues hcontinues]
    obtain ⟨hmark, hban⟩ := h hcontinues
    exact ⟨hmark, fun hlooks => hban hlooks.2⟩

/-- The step lemma where PRECONTENT makes its lookup. -/
theorem noSlip_run_iff_phasesAgree (henabled : site.loc.enabled = some true)
    (hmain : site.req.subrequest = false)
    (hbypass : ∀ ip, site.req.clientIp = some ip → bypassed site.main ip = false)
    (hphase : r.phase = .precontent) (hfinal : r.state.finalized = false)
    (hctx : r.state.ctx.resumeCaptcha = none) :
    NoSlip site (.run a) r ↔ PhasesAgree site (.run a) r := by
  have hagree : PhasesAgree site (.run a) r ↔
      (AsksAppSec site a →
          ¬ (r.state.ctx.resumeAppSec = some .error ∧ a.BanEnforceable)) ∧
        (¬ AsksAppSec site a → (r.state.inspected = true ∨ r.state.remediated = true) ∧
          (site.req.clientIp ≠ none → ¬ a.BanEnforceable)) :=
    ⟨fun h => h hphase hfinal hctx, fun h _ _ _ => h⟩
  rcases handlePrecontent_cases (a := a) henabled hmain hbypass hctx with
    ⟨hasks, result, hcontinues, heq⟩ | ⟨hasks, clientIp, t, hinspect, heq⟩ |
      ⟨hasks, hdeclined, heq⟩
  · rw [noSlip_run_iff hphase hfinal hctx heq, hagree]
    simp [hasks, hcontinues]
  · -- AppSec allows: the remediation follows, and enforces a ban
    rw [noSlip_run_iff hphase hfinal hctx heq, hagree]
    refine iff_of_true (fun hcontinues => ⟨.inr ?_, fun _ hban => ?_⟩)
      ⟨fun _ herror => ?_, fun hnot => absurd hasks hnot⟩
    · exact (applyLookupRemediation_follows t).2
    · obtain ⟨s', hdone, -⟩ := applyLookupRemediation_of_ban site clientIp hban.2 hban.1 t
      rw [hdone] at hcontinues
      exact absurd hcontinues (by simp [HandlerResult.continues_iff])
    · have herr := (precontentInspection_error_iff herror.2.2 hctx hasks.1).mpr herror.1
      rw [hinspect] at herr
      exact absurd herr (by simp)
  · -- AppSec does not allow: the request continues only by an error
    rw [noSlip_run_iff hphase hfinal hctx heq, hagree]
    constructor
    · intro h
      refine ⟨fun _ herror => ?_, fun hnot => absurd hasks hnot⟩
      have herr := (precontentInspection_error_iff herror.2.2 hctx hasks.1).mpr herror.1
      exact (h (HandlerResult.continues_iff.mpr (.inr herr))).2 hasks.1 herror.2
    · intro h hcontinues
      refine ⟨.inl (AppSec.inspect_follows r.state).2, fun _ hban => ?_⟩
      have herr := (HandlerResult.continues_iff.mp hcontinues).resolve_left hdeclined
      exact h.1 hasks ⟨(precontentInspection_error_iff hban.2 hctx hasks.1).mp herr, hban⟩

/-- A callback leaves the request in its phase. -/
theorem noSlip_of_callback {action : RequestAction} (hrun : ∀ b, action ≠ .run b) :
    NoSlip site action r := by
  intro r' hstep hphase hcontent
  have hstays := (step_follows hstep).2 hrun
  rw [hstays, hphase] at hcontent
  exact absurd hcontent (by simp)

/-- **The step lemma.** A step lets no request slip exactly if the phases agree at it. -/
theorem noSlip_step_iff {action : RequestAction} (henabled : site.loc.enabled = some true)
    (hmain : site.req.subrequest = false)
    (hbypass : ∀ ip, site.req.clientIp = some ip → bypassed site.main ip = false)
    (hmarked : CaptchaMarked r) : NoSlip site action r ↔ PhasesAgree site action r := by
  rcases action with a | _ | _ | _
  · by_cases hopen : r.phase = .precontent ∧ r.state.finalized = false
    · by_cases hctx : r.state.ctx.resumeCaptcha = none
      · exact noSlip_run_iff_phasesAgree henabled hmain hbypass hopen.1 hopen.2 hctx
      · -- the end of a captcha, which has been a remediation
        refine iff_of_true (fun r' hstep _ _ => ⟨.inr ?_, fun hlooks => absurd hlooks.1 hctx⟩)
          fun _ _ hnone => absurd hnone hctx
        exact (step_follows hstep).1.remediated (hmarked hctx)
    · refine iff_of_true (fun r' hstep hphase _ => ?_) fun hphase hfinal => ?_
      · exact absurd ⟨hphase, step_open hstep⟩ hopen
      · exact absurd ⟨hphase, hfinal⟩ hopen
  · exact iff_of_true (noSlip_of_callback (by simp)) trivial
  · exact iff_of_true (noSlip_of_callback (by simp)) trivial
  · exact iff_of_true (noSlip_of_callback (by simp)) trivial

/-- **From ACCESS to PRECONTENT.** In a location with `crowdsec on`, the run of a main request
whose client is not bypassed lets the request slip at no step exactly if the phases agree at
every step. -/
theorem noSlip_iff_phasesAgree {l : List RequestAction} {body : Option RequestBody}
    (henabled : site.loc.enabled = some true) (hmain : site.req.subrequest = false)
    (hbypass : ∀ ip, site.req.clientIp = some ip → bypassed site.main ip = false) :
    EveryStep (step site) (NoSlip site) l (.initial body) ↔
      EveryStep (step site) (PhasesAgree site) l (.initial body) :=
  everyStep_congr (fun _ _ hmarked => noSlip_step_iff henabled hmain hbypass hmarked)
    (captchaMarked_run site l body)

/-- Where AppSec inspects every request the phases agree. -/
theorem noSlip_iff_phasesAgree_always :
    EveryStep (step inspectingSite) (NoSlip inspectingSite) [.run banAnswers, .run banAnswers]
      (.initial none) := by
  refine (noSlip_iff_phasesAgree rfl rfl fun ip _ => rfl).mpr ?_
  refine ⟨fun hphase => absurd hphase (by decide),
    fun r hr => ⟨fun _ _ _ => ?_, fun _ _ => trivial⟩⟩
  have hctx : r.state.ctx = .empty := by
    obtain rfl := Option.some_injective _ hr
    rfl
  refine ⟨fun _ herror => absurd herror.1 (by simp [hctx, ModuleCtx.resumeAppSec]), fun hnot => ?_⟩
  exact absurd ⟨by decide, .inl (by decide)⟩ hnot

/-- A location where AppSec inspects the clients that are under no decision. -/
def deferringSite : Site :=
  { inspectingSite with loc := { enabled := some true, appsecEnabled := some true } }

/-- The client is under no decision. -/
def clearAnswers : Answers := { banAnswers with lookup := .notFound }

/-- The ban comes between ACCESS and PRECONTENT: ACCESS has left the remediation to
PRECONTENT, which finds that AppSec need not inspect, and declines. -/
theorem not_noSlip :
    ¬ ∀ (site : Site) (l : List RequestAction) (body : Option RequestBody),
      site.loc.validateEnforcement = .ok () → site.loc.enabled = some true →
        site.loc.appsecEnabled = some true → site.req.subrequest = false →
          (∀ ip, site.req.clientIp = some ip → bypassed site.main ip = false) →
            EveryStep (step site) (NoSlip site) l (.initial body) := by
  intro h
  have hrun := h deferringSite [.run clearAnswers, .run banAnswers] none rfl rfl rfl rfl
    fun ip _ => rfl
  have hslip := (hrun.2 _ rfl).1 _ rfl rfl rfl
  exact absurd hslip.1 (by decide)

/-! ### Straight from ACCESS -/

end CrowdSecBouncer
