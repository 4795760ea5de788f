import CrowdSecBouncer.Http.CaptchaGate
import CrowdSecBouncer.Http.Course
import CrowdSecBouncer.Net.AddrPrint
import CrowdSecBouncer.System.Enforcement

/-!
# The captcha as a protocol

A client under a decision gets past the captcha only with a session, and a session is handed out
only at the end of a verification. Requests carry whatever cookies their senders like; the one
assumption on them is that MACs are not forged: a token that passes the check was handed out
before (`Visit.Unforged`). Then, in any interleaving, a request under a ban or a captcha reaches
the content handler only if a session was handed out that had not run out when the request came
in, and to the same address where sessions are bound to one (`captcha_enforced`). And every
session that was handed out goes back to a form that a request posted and that the provider
confirmed (`sessions_earned`).
-/

namespace CrowdSecBouncer

open LabelledRun

variable {ι : Type*} [DecidableEq ι] {lib : TokenLibraries} {visits : ι → Visit}
  {n n' n₁ : Node ι} {c c' : Shared} {op : TableOp} {ip : IpAddr} {k : Key} {dt : DecisionType}
  {visit : Visit} {config : CaptchaConfig} {t T : ℤ}

/-! ### Sessions -/

/-- The claims of a session that was handed out; nonce and path vary. -/
def SessionGrant.Issues (g : SessionGrant) (claims : CaptchaClaims) : Prop :=
  ∃ random uri, claims = sessionClaims g.config g.clientIp g.issuedAt random uri

/-- A token that the request carries passes the check of its MAC only if it was handed out. -/
def Visit.Unforged (lib : TokenLibraries) (visit : Visit) (c : Shared) : Prop :=
  ∀ config ∈ visit.loc.captchaConfig,
    ∀ token ∈ getCookie visit.cookies config.cookieName.toList,
      ∀ claims, verifyToken lib config.signingKey token = .ok claims →
        ∃ g ∈ c.sessions, g.Issues claims

/-- A session has been handed out that is not over at `t`, and to the address `ip` if sessions
are bound to one. -/
def Shared.HasSession (c : Shared) (config : CaptchaConfig) (ip : IpAddr) (t : ℤ) : Prop :=
  ∃ g ∈ c.sessions, t ≤ g.issuedAt + g.config.expirySecs ∧
    (config.bindIp = true → g.config.bindIp = true ∧ g.clientIp = ip)

theorem Shared.HasSession.mono (h : c.HasSession config ip t)
    (hsub : ∀ g ∈ c.sessions, g ∈ c'.sessions) : c'.HasSession config ip t := by
  obtain ⟨g, hg, hvalid⟩ := h
  exact ⟨g, hsub g hg, hvalid⟩

/-- A session without an address is not one of any address. -/
theorem toText_ne_anonymous (ip : IpAddr) : ip.toText ≠ "anonymous".toList := by
  intro heq
  have hparse := parseIpAddr_toText ip
  have hnone : parseIpAddr "anonymous".toList = none := by decide
  rw [heq, hnone] at hparse
  exact absurd hparse (by simp)

/-- **A cookie that is accepted** belongs to a session that was handed out. -/
theorem hasSession_of_sessionValid (hconfig : visit.loc.captchaConfig = some config)
    (hclient : visit.req.clientIp = some ip) (hunforged : visit.Unforged lib c)
    (hvalid : visit.sessionValid lib c.clock = true) (ht : t ≤ c.clock) :
    c.HasSession config ip t := by
  rw [Visit.sessionValid, hconfig, hclient] at hvalid
  dsimp only at hvalid
  rw [captchaSessionValid] at hvalid
  cases hcookie : getCookie visit.cookies config.cookieName.toList with
  | none => simp [hcookie] at hvalid
  | some token =>
    rw [hcookie] at hvalid
    dsimp only at hvalid
    cases hverify : verifyToken lib config.signingKey token with
    | error e => simp [verifyAndValidate, hverify] at hvalid
    | ok claims =>
      obtain ⟨g, hg, random, uri, rfl⟩ := hunforged config hconfig token hcookie claims hverify
      have hok : ∃ claims', verifyAndValidate lib config.signingKey c.clock token
          (if config.bindIp then some ip.toText else none) = .ok claims' := by
        split at hvalid
        · next claims' heq => exact ⟨claims', heq⟩
        · exact absurd hvalid (by simp)
      obtain ⟨hexp, -, -, hsub⟩ := (verifyAndValidate_isOk_iff hverify).mp hok
      refine ⟨g, hg, ht.trans hexp, fun hbind => ?_⟩
      have hsubject := hsub ip.toText (by simp [hbind])
      rw [sessionClaims] at hsubject
      cases hgrant : g.config.bindIp with
      | false =>
        rw [hgrant] at hsubject
        exact absurd hsubject.symm (toText_ne_anonymous ip)
      | true =>
        rw [hgrant] at hsubject
        exact ⟨rfl, IpAddr.toText_injective hsubject⟩

/-- What was handed out stays so. -/
theorem Node.sessions_subset {label : NodeLabel ι} (h : Node.step lib visits label n = some n') :
    ∀ g ∈ n.env.sessions, g ∈ n'.env.sessions := by
  intro g hg
  rcases label with action | ⟨j, action⟩
  · obtain ⟨c', hc', rfl⟩ := Interleaving.step_env.mp h
    exact (Shared.step_spec hc').2.1 ▸ hg
  · obtain ⟨out, hout, rfl⟩ := Interleaving.step_part.mp h
    obtain ⟨-, henv⟩ := Visit.step_eq_some_iff.mp hout
    change g ∈ out.1.sessions
    rw [henv]
    exact List.mem_append_right _ hg

/-! ### The captcha is enforced -/

/-- A decision that stands is one that lookups find. -/
theorem DecisionStands.isRemediation (h : DecisionStands k dt T c) (hk : k ∈ ip.coveringKeys) :
    (lookupIp c.table ip c.clock).IsRemediation := by
  have hfound : (lookupIp c.table ip c.clock).found = true :=
    h.ok.found_lookupIp_iff.mpr ⟨k, hk, dt, h.inForce.of_le h.clock⟩
  exact ⟨hfound, h.ok.decisionType_ne_unknown hfound⟩

/-- What holds during the run: the decision stands, time goes on, and no token is forged. -/
structure Guarded (lib : TokenLibraries) (visit : Visit) (k : Key) (dt : DecisionType) (T t : ℤ)
    (c : Shared) : Prop where
  stands : DecisionStands k dt T c
  later : t ≤ c.clock
  unforged : visit.Unforged lib c

/-- The step lemma: the request is held back until a session has been handed out. -/
theorem heldBack_or_hasSession_step {i : ι} {label : NodeLabel ι}
    (hsite : (visits i).toSite.Challenges ip)
    (hconfig : (visits i).loc.captchaConfig = some config) (hk : k ∈ ip.coveringKeys)
    (hguarded : Guarded lib (visits i) k dt T t n.env)
    (hlabel : ∀ action, label = .part i action → action.answers.SendsSucceed ∧
      action.answers.TakesSubmission (visits i).loc ∧ ¬ action.FailsOpen (n.part i))
    (h : HeldBack (visits i).toSite (n.part i) ∨ n.env.HasSession config ip t)
    (hstep : Node.step lib visits label n = some n') :
    HeldBack (visits i).toSite (n'.part i) ∨ n'.env.HasSession config ip t := by
  rcases h with hheld | hsession
  · rcases Interleaving.part_or_other i label with ⟨action, rfl⟩ | hother
    · obtain ⟨hsends, hsubmission, hopen⟩ := hlabel action rfl
      obtain ⟨hr, henv⟩ := Visit.step_eq_some_iff.mp (Interleaving.partStep_of_step hstep)
      by_cases hvalid : (visits i).sessionValid lib n.env.clock = true
      · have hsession : n.env.HasSession config ip t :=
          hasSession_of_sessionValid hconfig hsite.client hguarded.unforged hvalid hguarded.later
        exact .inr (hsession.mono (Node.sessions_subset hstep))
      · refine .inl (heldBack_step hsite (Visit.sendsSucceed_answers hsends) ?_ ?_ ?_ ?_ hheld hr)
        · rw [Visit.lookup_answers, Visit.lookup_of_clientIp hsite.client]
          exact hguarded.stands.isRemediation hk
        · rw [RequestAction.answers_mapAnswers]
          exact Bool.eq_false_iff.mpr hvalid
        · rw [RequestAction.answers_mapAnswers]
          exact hsubmission
        · cases action <;> exact hopen
    · rw [Interleaving.part_eq_of_step hother hstep]
      exact .inl hheld
  · exact .inr (hsession.mono (Node.sessions_subset hstep))

/-- **A captcha is enforced.** In a node with any history a call adds a ban or a captcha for a key
that covers a client. From then on, while the clock is short of the deadline and no call lifts
the decision or evicts it, a request of the client that comes in reaches the content handler only
if the node has handed out a session that was not over when the request could first come in, and
to this very address where the location binds sessions. Beyond that it takes a verification that
fails open, or a submission that can neither be taken in nor blocked. -/
theorem captcha_enforced {capacity : ℕ} {clock : ℤ} {bodies : ι → Option RequestBody}
    {pre post : List (NodeLabel ι)} {i : ι} {body : Option RequestBody} (hpos : 0 < capacity)
    (hpre : exec (Node.step lib visits) pre (Node.fresh capacity clock bodies) = some n)
    (hk : k ∈ ip.coveringKeys) (hstarts : op.Starts T k dt) (hclock : n.env.clock ≤ T)
    (hadd : Node.step lib visits (.env (.call op)) n = some n₁)
    (hkept : EveryStep (Node.step lib visits)
      (fun label n => ∀ action, label = .env action → action.Keeps k dt T n.env) post n₁)
    (hsite : (visits i).toSite.Challenges ip)
    (hconfig : (visits i).loc.captchaConfig = some config) (hnew : n₁.part i = .initial body)
    (hunforged : EveryState (Node.step lib visits)
      (fun n => (visits i).Unforged lib n.env) post n₁)
    (hlabels : EveryStep (Node.step lib visits)
      (fun label n => ∀ action, label = .part i action → action.answers.SendsSucceed ∧
        action.answers.TakesSubmission (visits i).loc ∧ ¬ action.FailsOpen (n.part i)) post n₁) :
    EveryState (Node.step lib visits)
      (fun n => (n.part i).phase = .content → n.env.HasSession config ip n₁.env.clock) post n₁ := by
  have hnormal : k.Normal := IpAddr.normal_of_mem_coveringKeys hk
  have hok : TableOk n.env.table := (Node.reachable_of_exec hpos hpre).tableOk
  have hstart : DecisionStands k dt T n₁.env := by
    obtain ⟨c', hc', rfl⟩ := Interleaving.step_env.mp hadd
    exact decisionStands_of_starts hok hclock hnormal hstarts hc'
  have hstands : EveryState (Node.step lib visits) (fun n => DecisionStands k dt T n.env) post n₁ :=
    Node.everyState_shared (fun _ _ _ hkeeps h hstep => h.step hnormal hkeeps hstep)
      (fun _ _ h => ⟨h.ok, h.clock, h.inForce⟩) hkept hstart
  have hlater :
      EveryState (Node.step lib visits) (fun n => n₁.env.clock ≤ n.env.clock) post n₁ := by
    have hstep (action : SharedAction) (c c' : Shared) (_ : True) (hc : n₁.env.clock ≤ c.clock)
        (h : Shared.step action c = some c') : n₁.env.clock ≤ c'.clock :=
      hc.trans (Shared.step_spec h).2.2
    exact Node.everyState_shared hstep (fun _ _ h => h)
      (everyStep_of_mem fun _ _ _ _ _ => trivial) le_rfl
  have hguarded : EveryState (Node.step lib visits)
      (fun n => Guarded lib (visits i) k dt T n₁.env.clock n.env) post n₁ :=
    (hstands.and (hlater.and hunforged)).mono fun n h => ⟨h.1, h.2.1, h.2.2⟩
  have hheld : EveryState (Node.step lib visits) (fun n =>
      HeldBack (visits i).toSite (n.part i) ∨ n.env.HasSession config ip n₁.env.clock) post n₁ :=
    everyState_of_step
      (fun label n n' hstep h hn' =>
        heldBack_or_hasSession_step hsite hconfig hk hstep.1 hstep.2 h hn')
      ((everyStep_of_everyState (fun _ _ h _ => h) hguarded).and hlabels)
      (.inl (hnew ▸ heldBack_initial _ body))
  exact hheld.mono fun n h hcontent => h.resolve_left fun hheld => hheld.phase hcontent

/-- A location with a captcha. -/
def captchaSite : Site where
  req := plainRequest
  loc :=
    { enabled := some true, captchaTemplate := some ⟨"", "text/html"⟩
      captchaProvider := some .turnstile, captchaSiteKey := some "site"
      captchaSecretKey := some "secret", captchaSigningKey := some (Vector.replicate 32 1) }
  main := {}
  appsec := none

/-- A captcha for 192.0.2.1. -/
def exampleCaptchaCall : TableOp :=
  .addDecision
    { ip := .v4 (u32ToBeBytes 0xC0000201), decisionType := .captcha, origin := .crowdsec
      scenario := none, durationSecs := none } ⟨some 100, 100, 100⟩

/-- A client without cookies is sent the captcha page. -/
theorem captcha_enforced_exampleCaptchaCall :
    ∃ config, EveryState (Node.step exampleLibraries fun _ : Unit => ⟨captchaSite, []⟩)
      (fun n => (n.part ()).phase = .content → n.env.HasSession config (.v4 #v[192, 0, 2, 1]) 100)
      [.part () (.run banAnswers)]
      ⟨⟨exampleCaptchaCall.apply (.fresh 8), 100, []⟩, fun _ => .initial none⟩ := by
  have hpre : exec (Node.step exampleLibraries fun _ : Unit => ⟨captchaSite, []⟩) []
      (Node.fresh 8 100 fun _ => none) = some (Node.fresh 8 100 fun _ => none) := rfl
  have hstarts : exampleCaptchaCall.Starts 1000 (.ip (.v4 #v[192, 0, 2, 1])) .captcha :=
    ⟨_, rfl, Deadline.active_top⟩
  obtain ⟨config, hconfig⟩ : ∃ config, captchaSite.loc.captchaConfig = some config :=
    Option.isSome_iff_exists.mp (by decide)
  refine ⟨config, captcha_enforced (by decide) hpre (by decide) hstarts (by decide) rfl ?_
    ⟨⟨rfl, rfl, rfl, rfl⟩, by decide, rfl⟩ hconfig rfl ?_ ?_⟩
  · exact everyStep_of_mem fun label hmem n action heq => by simp [heq] at hmem
  · have hunforged (c : Shared) : Visit.Unforged exampleLibraries ⟨captchaSite, []⟩ c :=
      fun config _ token htoken => absurd htoken (by simp [getCookie])
    exact everyState_of_step (fun _ _ n' _ _ _ => hunforged n'.env)
      (everyStep_of_mem fun _ _ _ => trivial) (hunforged _)
  · refine everyStep_of_mem fun label hmem n action heq => ?_
    have haction : action = .run banAnswers := by simpa [heq] using hmem
    subst haction
    refine ⟨fun i headerFailure => ?_, .inl ⟨rfl, rfl⟩, id⟩
    cases headerFailure <;> rfl

/-! ### Sessions are earned -/

/-- The course of a request in a node is one of its courses alone. -/
theorem Node.everyState_staged {capacity : ℕ} {clock : ℤ} {bodies : ι → Option RequestBody}
    (l : List (NodeLabel ι)) (i : ι) :
    EveryState (Node.step lib visits)
      (fun n => RequestRun.Staged (visits i).toSite (n.part i)) l
      (Node.fresh capacity clock bodies) := by
  refine Node.everyState_request (R := fun _ => True) (Q := RequestRun.Staged (visits i).toSite)
    (fun _ _ r r' _ _ hr hr' => hr.step hr') ?_ (fun _ _ => trivial)
    (.inr ⟨_, RequestRun.atStage_initial _ _⟩)
  exact everyState_of_forall fun _ => trivial

/-- What is handed out at the end of a verification. -/
theorem Visit.mem_granted {g : SessionGrant} {action : RequestAction} {r : RequestRun}
    (h : g ∈ visit.granted t action r) :
    (∃ a, action = .verifyDone .success a) ∧ ∃ ctx, r.state.ctx = .captcha ctx ∧
      g = ⟨ctx.config, ctx.clientIp, t⟩ := by
  unfold Visit.granted at h
  split at h
  · next ctx hctx =>
    split at h
    · exact ⟨⟨_, rfl⟩, ctx, hctx, List.mem_singleton.mp h⟩
    · exact absurd h List.not_mem_nil
  · exact absurd h List.not_mem_nil

/-- **A session is earned.** In any interleaving from a fresh start, every session that was handed
out goes back to one step of the run: the provider confirmed a form that a request had posted,
and the session has that request's client, its location's settings and the time of the step. -/
theorem sessions_earned {capacity : ℕ} {clock : ℤ} {bodies : ι → Option RequestBody}
    {l : List (NodeLabel ι)} {g : SessionGrant}
    (hexec : exec (Node.step lib visits) l (Node.fresh capacity clock bodies) = some n)
    (hg : g ∈ n.env.sessions) :
    ∃ l₁ i a l₂ m, l = l₁ ++ .part i (.verifyDone .success a) :: l₂ ∧
      exec (Node.step lib visits) l₁ (Node.fresh capacity clock bodies) = some m ∧
      (m.part i).state.task = some .verifyCaptcha ∧ m.env.clock = g.issuedAt ∧
      (visits i).req.method = .post ∧ (visits i).req.clientIp = some g.clientIp ∧
      (visits i).loc.captchaConfig = some g.config := by
  obtain ⟨l₁, label, l₂, m, m', rfl, hm, hstep, hnot, hyes⟩ :=
    exists_step_of_exec (P := fun n => g ∈ n.env.sessions) hexec
      (by simp [Node.fresh]) hg
  rcases label with action | ⟨i, action⟩
  · obtain ⟨c', hc', rfl⟩ := Interleaving.step_env.mp hstep
    exact absurd ((Shared.step_spec hc').2.1 ▸ hyes) hnot
  · obtain ⟨out, hout, rfl⟩ := Interleaving.step_part.mp hstep
    obtain ⟨hrun, henv⟩ := Visit.step_eq_some_iff.mp hout
    have hgranted : g ∈ (visits i).granted m.env.clock action (m.part i) := by
      have hmem : g ∈ out.1.sessions := hyes
      rw [henv] at hmem
      exact (List.mem_append.mp hmem).resolve_right hnot
    obtain ⟨⟨a, rfl⟩, ctx, hctx, rfl⟩ := Visit.mem_granted hgranted
    have htask : (m.part i).state.task = some .verifyCaptcha :=
      (RequestRun.step_verifyDone hrun).1
    obtain ⟨st, hst⟩ := ((Node.everyState_staged l₁ i).last hm).resolve_left
      (by simp [RequestRun.step_open hrun])
    obtain ⟨ctx', hctx', hfor, -⟩ := hst.oneOutstanding.captcha (.inr htask)
    obtain rfl : ctx = ctx' := by
      rw [hctx] at hctx'
      exact ModuleCtx.captcha.inj hctx'
    exact ⟨l₁, i, a, l₂, m, rfl, hm, htask, rfl, hfor.method, hfor.clientIp, hfor.config⟩

/-- The client comes under a captcha, submits the form, and the provider confirms it. -/
def submissionRun : List (NodeLabel Unit) :=
  [.env (.call exampleCaptchaCall), .part () (.run submissionAnswers),
    .part () (.bodyRead (some ⟨[[97, 61, 98]], false⟩) submissionAnswers),
    .part () (.verifyDone .success submissionAnswers)]

theorem sessions_earned_submissionRun :
    ∃ n, exec (Node.step exampleLibraries fun _ => ⟨submittingSite, []⟩) submissionRun
        (Node.fresh 8 100 fun _ => none) = some n ∧ ∃ g ∈ n.env.sessions,
      ∃ l₁ i a l₂ m, submissionRun = l₁ ++ .part i (.verifyDone .success a) :: l₂ ∧
        exec (Node.step exampleLibraries fun _ => ⟨submittingSite, []⟩) l₁
          (Node.fresh 8 100 fun _ => none) = some m ∧
        (m.part i).state.task = some .verifyCaptcha ∧ m.env.clock = g.issuedAt ∧
        submittingSite.req.method = .post ∧ submittingSite.req.clientIp = some g.clientIp ∧
        submittingSite.loc.captchaConfig = some g.config :=
  ⟨_, rfl, _, List.mem_cons_self,
    sessions_earned (show exec _ _ (Node.fresh 8 100 fun _ => none) = some _ from rfl)
      List.mem_cons_self⟩

end CrowdSecBouncer
