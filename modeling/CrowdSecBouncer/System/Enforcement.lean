import CrowdSecBouncer.Http.BanDominance
import CrowdSecBouncer.Shm.Eviction
import CrowdSecBouncer.System.Node

/-!
# From the table to the request

What the poller writes into the table decides what happens to the requests, whatever else goes
on in between. A ban that is added for a key that covers a client, in a node with any history,
stops every request of that client that comes in afterwards, until the ban is lifted, evicted
or past its deadline, or a captcha takes precedence (`ban_enforced`). And the table stops
nobody else: a client that no decision in force covers is let on by every handler
(`unlisted_let_on`).
-/

namespace CrowdSecBouncer

open LabelledRun

variable {ι : Type*} [DecidableEq ι] {lib : TokenLibraries} {visits : ι → Visit}
  {l : List (NodeLabel ι)} {n n₁ : Node ι} {c c' : Shared} {op : TableOp}
  {ip : IpAddr} {before after : List Key} {k : Key} {dt : DecisionType} {T : ℤ}

/-! ### A decision that stands -/

/-- The decision holds up to the time `T`, which is yet to come. -/
structure DecisionStands (k : Key) (dt : DecisionType) (T : ℤ) (c : Shared) : Prop where
  ok : TableOk c.table
  clock : c.clock ≤ T
  inForce : c.table.InForce T k dt

/-- A decision that is in force later is in force now. -/
theorem ShmData.InForce.of_le {s : ShmData} {now later : ℤ} (h : s.InForce later k dt)
    (hle : now ≤ later) : s.InForce now k dt :=
  Deadline.Active.of_le h hle

/-- A call leaves the decision alone, and time does not pass beyond `T`. -/
def SharedAction.Keeps (k : Key) (dt : DecisionType) (T : ℤ) : SharedAction → Shared → Prop
  | .call op, c => ¬ op.Ends c.table k dt
  | .tick secs, c => c.clock + secs ≤ T

/-- **A decision stands for as long as it is kept.** -/
theorem DecisionStands.step {action : SharedAction} (h : DecisionStands k dt T c) (hk : k.Normal)
    (hkeeps : action.Keeps k dt T c) (hstep : Shared.step action c = some c') :
    DecisionStands k dt T c' := by
  rcases action with op | secs
  · obtain ⟨htime, rfl⟩ := Shared.step_call hstep
    have hlater : ∀ t ∈ op.time?, t ≤ T := fun t ht => (htime t ht).trans h.clock
    exact ⟨h.ok.apply op, h.clock,
      (h.ok.inForce_apply_iff hlater hk).mpr (.inl ⟨h.inForce, hkeeps⟩)⟩
  · obtain rfl := Shared.step_tick hstep
    exact ⟨h.ok, hkeeps, h.inForce⟩

/-- The call that adds the decision. -/
theorem decisionStands_of_starts (h : TableOk c.table) (hclock : c.clock ≤ T) (hk : k.Normal)
    (hstarts : op.Starts T k dt) (hstep : Shared.step (.call op) c = some c') :
    DecisionStands k dt T c' := by
  obtain ⟨htime, rfl⟩ := Shared.step_call hstep
  have hlater : ∀ t ∈ op.time?, t ≤ T := fun t ht => (htime t ht).trans hclock
  exact ⟨h.apply op, hclock, (h.inForce_apply_iff hlater hk).mpr (.inr hstarts)⟩

/-- The ban of `k` stands, and no captcha is in force for the keys before. -/
structure BanStands (before : List Key) (k : Key) (T : ℤ) (c : Shared) : Prop
    extends DecisionStands k .ban T c where
  captcha : ∀ k' ∈ before, ¬ c.table.InForce c.clock k' .captcha

/-- The ban of `k` is kept, and no call starts a captcha for the keys before. -/
def SharedAction.KeepsBan (before : List Key) (k : Key) (T : ℤ) (action : SharedAction)
    (c : Shared) : Prop :=
  action.Keeps k .ban T c ∧
    ∀ op, action = .call op → ∀ k' ∈ before, ¬ op.Starts c.clock k' .captcha

/-- A ban that stands is what a lookup finds. -/
theorem BanStands.isBan (h : BanStands before k T c)
    (hkeys : ip.coveringKeys = before ++ k :: after) :
    (lookupIp c.table ip c.clock).IsBan :=
  h.ok.reportsBan_iff.mpr ⟨before, k, after, hkeys, h.inForce.of_le h.clock, h.captcha⟩

/-- **A ban stands for as long as it is kept.** -/
theorem BanStands.step {action : SharedAction} (h : BanStands before k T c)
    (hnormal : ∀ k' ∈ before ++ [k], k'.Normal) (hkeeps : action.KeepsBan before k T c)
    (hstep : Shared.step action c = some c') : BanStands before k T c' := by
  refine ⟨h.toDecisionStands.step (hnormal k (by simp)) hkeeps.1 hstep, fun k' hk' => ?_⟩
  rcases action with op | secs
  · obtain ⟨htime, rfl⟩ := Shared.step_call hstep
    rw [h.ok.inForce_apply_iff htime (hnormal k' (List.mem_append_left _ hk'))]
    rintro (⟨hforce, -⟩ | hstarts)
    · exact h.captcha k' hk' hforce
    · exact hkeeps.2 op rfl k' hk' hstarts
  · obtain rfl := Shared.step_tick hstep
    have hle : c.clock ≤ c.clock + secs := Int.le_add_of_nonneg_right (Int.natCast_nonneg secs)
    exact fun hforce => h.captcha k' hk' (hforce.of_le hle)

/-- The call that adds the ban. -/
theorem banStands_of_starts (h : TableOk c.table) (hclock : c.clock ≤ T)
    (hnormal : ∀ k' ∈ before ++ [k], k'.Normal) (hstarts : op.Starts T k .ban)
    (hcaptcha : ∀ k' ∈ before, ¬ c.table.InForce c.clock k' .captcha)
    (hstep : Shared.step (.call op) c = some c') : BanStands before k T c' := by
  refine ⟨decisionStands_of_starts h hclock (hnormal k (by simp)) hstarts hstep,
    fun k' hk' => ?_⟩
  obtain ⟨htime, rfl⟩ := Shared.step_call hstep
  rw [h.inForce_apply_iff htime (hnormal k' (List.mem_append_left _ hk'))]
  rintro (⟨hforce, -⟩ | ⟨x, hjoin, -⟩)
  · exact hcaptcha k' hk' hforce
  · -- a call adds one decision, and this one adds a ban
    obtain ⟨y, hban, -⟩ := hstarts
    have heq := hjoin.symm.trans hban
    simp at heq

/-! ### Enforcement -/

/-- Keys that cover an address are normal. -/
theorem normal_of_coveringKeys (hkeys : ip.coveringKeys = before ++ k :: after) :
    ∀ k' ∈ before ++ [k], k'.Normal := by
  intro k' hk'
  have hmem : k' ∈ ip.coveringKeys := by
    rw [hkeys, List.append_cons]
    exact List.mem_append_left after hk'
  exact IpAddr.normal_of_mem_coveringKeys hmem

/-- Where a ban stands and is kept, a request that comes in never reaches the content handler. -/
theorem BanStands.enforced {i : ι} {body : Option RequestBody}
    (h : BanStands before k T n.env) (hkeys : ip.coveringKeys = before ++ k :: after)
    (hkept : EveryStep (Node.step lib visits)
      (fun label n => ∀ action, label = .env action → action.KeepsBan before k T n.env) l n)
    (hsite : (visits i).toSite.Enforces ip) (hnew : n.part i = .initial body)
    (hsends : ∀ action, .part i action ∈ l → action.answers.SendsSucceed) :
    EveryState (Node.step lib visits) (fun n => (n.part i).phase ≠ .content) l n := by
  have hrely : EveryState (Node.step lib visits) (fun n => BanStands before k T n.env) l n :=
    Node.everyState_shared
      (fun _ _ _ hkeeps h hstep => h.step (normal_of_coveringKeys hkeys) hkeeps hstep)
      (fun _ _ h => ⟨⟨h.ok, h.clock, h.inForce⟩, h.captcha⟩) hkept h
  have hstep (c : Shared) (action : RequestAction) (r r' : RequestRun)
      (hc : BanStands before k T c) (hsend : action.answers.SendsSucceed)
      (hr : BanPending (visits i).toSite r)
      (hr' : RequestRun.step (visits i).toSite (action.mapAnswers ((visits i).answers lib c)) r =
        some r') : BanPending (visits i).toSite r' := by
    refine banPending_step hsite.enabled hsite.main hsite.client hsite.bypass
      (Visit.sendsSucceed_answers hsend) ?_ hr hr'
    rw [Visit.lookup_answers, Visit.lookup_of_clientIp hsite.client]
    exact hc.isBan hkeys
  have hinit : BanPending (visits i).toSite (n.part i) := by
    refine ⟨?_, ?_, ?_⟩
    · rw [hnew]
      simp [RequestRun.initial]
    · rw [hnew]
      exact .inr (.initial body)
    · rw [hnew]
      simp [RequestRun.initial]
  have hpending : EveryState (Node.step lib visits)
      (fun n => BanPending (visits i).toSite (n.part i)) l n :=
    Node.everyState_request hstep hrely hsends hinit
  exact hpending.mono fun n h => h.phase

/-- **A ban is enforced.** In a node with any history a call adds a ban for a key that covers a
client, and none of the keys before it has a captcha in force. From then on, while the clock
is short of the deadline and no call lifts the ban, evicts it or adds a captcha for a key
before it, no request of the client that comes in reaches the content handler: not in any
order of the calls and of the steps of any number of requests. -/
theorem ban_enforced {capacity : ℕ} {clock : ℤ} {bodies : ι → Option RequestBody}
    {pre post : List (NodeLabel ι)} {i : ι} {body : Option RequestBody} (hpos : 0 < capacity)
    (hpre : exec (Node.step lib visits) pre (Node.fresh capacity clock bodies) = some n)
    (hkeys : ip.coveringKeys = before ++ k :: after) (hban : op.Starts T k .ban)
    (hclock : n.env.clock ≤ T)
    (hcaptcha : ∀ k' ∈ before, ¬ n.env.table.InForce n.env.clock k' .captcha)
    (hadd : Node.step lib visits (.env (.call op)) n = some n₁)
    (hkept : EveryStep (Node.step lib visits)
      (fun label n => ∀ action, label = .env action → action.KeepsBan before k T n.env) post n₁)
    (hsite : (visits i).toSite.Enforces ip) (hnew : n₁.part i = .initial body)
    (hsends : ∀ action, .part i action ∈ post → action.answers.SendsSucceed) :
    EveryState (Node.step lib visits) (fun n => (n.part i).phase ≠ .content) post n₁ := by
  have hok : TableOk n.env.table := (Node.reachable_of_exec hpos hpre).tableOk
  obtain ⟨c', hc', rfl⟩ := Interleaving.step_env.mp hadd
  have hstands : BanStands before k T c' :=
    banStands_of_starts hok hclock (normal_of_coveringKeys hkeys) hban hcaptcha hc'
  exact BanStands.enforced (n := { n with env := c' }) hstands hkeys hkept hsite hnew hsends

/-- A ban of 192.0.2.1 for a minute. -/
def exampleBanCall : TableOp :=
  .addDecision
    { ip := .v4 (u32ToBeBytes 0xC0000201), decisionType := .ban, origin := .crowdsec
      scenario := none, durationSecs := some 60 } ⟨some 100, 100, 100⟩

/-- The ban is added; while AppSec inspects a request of the client and gives no verdict,
seconds pass and another ban is lifted. -/
theorem ban_enforced_exampleBanCall :
    EveryState (Node.step exampleLibraries fun _ : Unit => ⟨inspectingSite, []⟩)
      (fun n => (n.part ()).phase ≠ .content)
      [.env (.tick 5), .part () (.run banAnswers),
        .env (.call (.removeDecisionType (.v4 #v[192, 0, 2, 2]) .ban 105)),
        .part () (.run banAnswers), .part () (.appsecDone .failed banAnswers),
        .part () (.run banAnswers)]
      ⟨⟨exampleBanCall.apply (.fresh 8), 100, []⟩, fun _ => .initial none⟩ := by
  have hkeeps (s : ShmData) : ¬ (TableOp.removeDecisionType (.v4 #v[192, 0, 2, 2]) .ban 105).Ends s
      (.ip (.v4 #v[192, 0, 2, 1])) .ban := by
    rw [TableOp.Ends, TableOp.evictedKey?, if_neg (by simp [TableOp.reachesEvictClock])]
    simp [TableOp.update?]
  have hpre : exec (Node.step exampleLibraries fun _ : Unit => ⟨inspectingSite, []⟩) []
      (Node.fresh 8 100 fun _ => none) = some (Node.fresh 8 100 fun _ => none) := rfl
  have hban : exampleBanCall.Starts 150 (.ip (.v4 #v[192, 0, 2, 1])) .ban :=
    ⟨_, rfl, DecisionExpiry.active_ofStored.mpr
      (.inr (by decide : (150 : ℤ) < (100 + 60 : ℤ).bmod (2 ^ 64)))⟩
  have hkeys : (IpAddr.v4 #v[192, 0, 2, 1]).coveringKeys =
      [] ++ .ip (.v4 #v[192, 0, 2, 1]) :: _ := rfl
  refine ban_enforced (by decide) hpre hkeys hban (by decide) (by simp) rfl ?_
    ⟨rfl, rfl, rfl, rfl⟩ rfl ?_
  · refine ⟨fun action heq => ?_, fun n hn => everyStep_of_mem fun label hmem n action heq => ?_⟩
    · obtain rfl := Interleaving.Label.env.inj heq
      refine ⟨?_, by simp⟩
      change (100 : ℤ) + (5 : ℕ) ≤ 150
      decide
    · subst heq
      have hcall : action = .call (.removeDecisionType (.v4 #v[192, 0, 2, 2]) .ban 105) := by
        simpa using hmem
      exact hcall ▸ ⟨hkeeps n.env.table, by simp⟩
  · intro action hmem
    have hcases : action = .run banAnswers ∨ action = .appsecDone .failed banAnswers ∨
        action = .run banAnswers := by simpa using hmem
    have hanswers : action.answers = banAnswers := by
      rcases hcases with rfl | rfl | rfl
      · rfl
      · rfl
      · rfl
    rw [hanswers]
    intro i headerFailure
    cases headerFailure <;> rfl

/-! ### Nobody else is stopped -/

/-- No decision is in force for a key that covers the address. -/
def Shared.Unlisted (c : Shared) (ip : IpAddr) : Prop :=
  ∀ k ∈ ip.coveringKeys, ∀ dt, ¬ c.table.InForce c.clock k dt

/-- The module has left the request alone. -/
structure RequestState.LetOn (s : RequestState) : Prop where
  ctx : s.ctx = .empty
  reading : s.reading = none
  task : s.task = none
  sends : s.sends = 0
  finalized : s.finalized = false
  dropped : s.dropped = 0
  appsecDropped : s.appsecDropped = 0

/-- The phase that the engine goes on to. -/
def Phase.next : Phase → Phase
  | .access => .precontent
  | .precontent | .content => .content

/-- Nothing but the table may stop requests of this client: AppSec is off, the location serves
no metrics, and the request is not for a path of the bot challenge. -/
structure Site.TableOnly (site : Site) (ip : IpAddr) : Prop where
  metrics : site.loc.metricsEnabled ≠ some true
  appsec : site.loc.appsecEnabled ≠ some true
  challenge : site.req.internalChallenge = false
  client : site.req.clientIp = some ip

variable {site : Site} {a : Answers} {s : RequestState} {r r' : RequestRun}

/-- A client is unlisted when its lookup finds nothing. -/
theorem unlisted_iff (h : TableOk c.table) :
    c.Unlisted ip ↔ (lookupIp c.table ip c.clock).found = false := by
  rw [← Bool.not_eq_true, h.found_lookupIp_iff]
  simp only [Shared.Unlisted, not_exists, not_and]

theorem RequestState.LetOn.processed (h : s.LetOn) : s.recordProcessed.LetOn :=
  ⟨h.ctx, h.reading, h.task, h.sends, h.finalized, h.dropped, h.appsecDropped⟩

/-- ACCESS lets a request on whose lookup finds nothing. -/
theorem handleAccess_of_notFound (hsite : site.TableOnly ip) (hfound : a.lookup.found = false)
    (h : s.LetOn) : ∃ s', handleAccess site.req site.loc site.main a s = (.declined, s') ∧
      s'.LetOn := by
  have hrun : shouldRunAppsec site.loc a.lookup = false := by simp [shouldRunAppsec, hsite.appsec]
  rw [handleAccess, tryServeMetrics, if_pos hsite.metrics, hsite.client]
  dsimp only
  split
  · exact ⟨s, rfl, h⟩
  · split
    · exact ⟨_, rfl, h.processed⟩
    · rw [if_neg (by simp [hrun]), applyLookupRemediation, if_pos (by simp [hfound])]
      exact ⟨_, rfl, h.ctx, h.reading, h.task, h.sends, h.finalized, h.dropped, h.appsecDropped⟩

/-- So does PRECONTENT. -/
theorem handlePrecontent_of_letOn (hsite : site.TableOnly ip) (h : s.LetOn) :
    handlePrecontent site.req site.loc site.main site.appsec a s = (.declined, s) := by
  have hrun : shouldRunAppsec site.loc a.lookup = false := by simp [shouldRunAppsec, hsite.appsec]
  have hctx : s.ctx.resumeCaptcha = none := by
    rw [h.ctx]
    rfl
  rw [handlePrecontent, hctx, hsite.client]
  dsimp only
  split
  · rfl
  · split
    · rfl
    · split
      · rfl
      · rw [if_pos (by simp [hrun, hsite.challenge])]

/-- Nothing but the run of a handler can happen to the request. -/
theorem RequestState.LetOn.exists_run {action : RequestAction} (h : r.state.LetOn)
    (hstep : RequestRun.step site action r = some r') : ∃ b, action = .run b := by
  rcases action with b | ⟨body, b⟩ | ⟨exchange, b⟩ | ⟨result, b⟩
  · exact ⟨b, rfl⟩
  · rcases RequestRun.step_bodyRead hstep with ⟨hreading, -⟩ | ⟨hreading, -⟩
    · exact absurd (h.reading.symm.trans hreading) (by simp)
    · exact absurd (h.reading.symm.trans hreading) (by simp)
  · obtain ⟨_, _, _, _, htask, -⟩ := RequestRun.step_appsecDone hstep
    exact absurd (h.task.symm.trans htask) (by simp)
  · obtain ⟨htask, -⟩ := RequestRun.step_verifyDone hstep
    exact absurd (h.task.symm.trans htask) (by simp)

/-- A run of a handler leads to the next phase. -/
theorem letOn_step {action : RequestAction} (hsite : site.TableOnly ip)
    (hfound : action.answers.lookup.found = false) (h : r.state.LetOn)
    (hstep : RequestRun.step site action r = some r') :
    r'.state.LetOn ∧ r'.phase = r.phase.next := by
  obtain ⟨b, rfl⟩ := h.exists_run hstep
  rcases RequestRun.step_run hstep with ⟨hphase, rfl⟩ | ⟨hphase, rfl⟩
  · obtain ⟨s', heq, hs'⟩ := handleAccess_of_notFound (a := b) hsite hfound h
    rw [heq, hphase]
    exact ⟨hs', rfl⟩
  · rw [handlePrecontent_of_letOn hsite h, hphase]
    exact ⟨h, rfl⟩

variable (site a) in
/-- A handler can run for a request that is not finalized. -/
theorem exists_step_run (hopen : r.state.finalized = false) (hphase : r.phase ≠ .content) :
    ∃ r', RequestRun.step site (.run a) r = some r' := by
  simp only [RequestRun.step, hopen]
  rcases hcase : r.phase with _ | _ | _
  · exact ⟨_, rfl⟩
  · exact ⟨_, rfl⟩
  · exact absurd hcase hphase

/-- Where no decision in force covers a client, a request that only the table could stop is let
on by every handler that runs for it. -/
theorem letOn_of_unlisted {i : ι} {body : Option RequestBody} (h : n.env.table.Reachable)
    (hunlisted : EveryState (Node.step lib visits) (fun n => n.env.Unlisted ip) l n)
    (hsite : (visits i).toSite.TableOnly ip) (hnew : n.part i = .initial body) :
    EveryState (Node.step lib visits) (fun n => (n.part i).state.LetOn) l n ∧
      EveryStep (Node.step lib visits)
        (fun label n => ∀ a, label = .part i (.run a) → (n.part i).phase ≠ .content →
          ∃ n', Node.step lib visits label n = some n' ∧
            (n'.part i).phase = (n.part i).phase.next) l n := by
  have hrely : EveryState (Node.step lib visits)
      (fun n => n.env.table.Reachable ∧ n.env.Unlisted ip) l n :=
    (Node.everyState_reachable h l).and hunlisted
  have hfound (c : Shared) (action : RequestAction)
      (hc : c.table.Reachable ∧ c.Unlisted ip) :
      (action.mapAnswers ((visits i).answers lib c)).answers.lookup.found = false := by
    rw [Visit.lookup_answers, Visit.lookup_of_clientIp hsite.client]
    exact (unlisted_iff hc.1.tableOk).mp hc.2
  have hstep (c : Shared) (action : RequestAction) (r r' : RequestRun)
      (hc : c.table.Reachable ∧ c.Unlisted ip) (_ : True) (hr : r.state.LetOn)
      (hr' : RequestRun.step (visits i).toSite (action.mapAnswers ((visits i).answers lib c)) r =
        some r') : r'.state.LetOn :=
    (letOn_step hsite (hfound c action hc) hr hr').1
  have hinit : (n.part i).state.LetOn := by
    rw [hnew]
    exact ⟨rfl, rfl, rfl, rfl, rfl, rfl, rfl⟩
  have hlet : EveryState (Node.step lib visits) (fun n => (n.part i).state.LetOn) l n :=
    Node.everyState_request (R := fun c => c.table.Reachable ∧ c.Unlisted ip)
      (Q := fun r => r.state.LetOn) hstep hrely (fun _ _ => trivial) hinit
  refine ⟨hlet, everyStep_of_everyState (fun label n h _ a heq hphase => ?_) (hrely.and hlet)⟩
  subst heq
  obtain ⟨r', hr'⟩ := exists_step_run (visits i).toSite ((visits i).answers lib n.env a)
    h.2.finalized hphase
  obtain ⟨n', hn'⟩ : ∃ n', Node.step lib visits (.part i (.run a)) n = some n' :=
    ⟨_, Interleaving.step_part.mpr ⟨_, Visit.step_eq_some_iff.mpr ⟨hr', rfl⟩, rfl⟩⟩
  have hpart := (Visit.step_eq_some_iff.mp (Interleaving.partStep_of_step hn')).1
  exact ⟨n', hn', (letOn_step hsite (hfound n.env (.run a) h.1) h.2 hpart).2⟩

/-- **The table stops nobody else.** While no decision in force covers a client, a request of it
that only the table could stop is never answered, suspended or counted as dropped, and every
handler that runs for it lets it on to the next phase: in a node with any history and in any
order of the calls and of the steps of any number of requests. -/
theorem unlisted_let_on {capacity : ℕ} {clock : ℤ} {bodies : ι → Option RequestBody}
    {pre : List (NodeLabel ι)} {i : ι} {body : Option RequestBody} (hpos : 0 < capacity)
    (hpre : exec (Node.step lib visits) pre (Node.fresh capacity clock bodies) = some n)
    (hunlisted : EveryState (Node.step lib visits) (fun n => n.env.Unlisted ip) l n)
    (hsite : (visits i).toSite.TableOnly ip) (hnew : n.part i = .initial body) :
    EveryState (Node.step lib visits) (fun n => (n.part i).state.LetOn) l n ∧
      EveryStep (Node.step lib visits)
        (fun label n => ∀ a, label = .part i (.run a) → (n.part i).phase ≠ .content →
          ∃ n', Node.step lib visits label n = some n' ∧
            (n'.part i).phase = (n.part i).phase.next) l n :=
  letOn_of_unlisted (Node.reachable_of_exec hpos hpre) hunlisted hsite hnew

/-- A location that only enforces what is in the table. -/
def tableSite : Site where
  req := { plainRequest with clientIp := some (.v4 #v[192, 0, 2, 3]) }
  loc := { enabled := some true }
  main := {}
  appsec := none

/-- Another client is banned, and this one is let on by both handlers. -/
theorem unlisted_let_on_exampleBanCall :
    let step := Node.step exampleLibraries fun _ : Unit => ⟨tableSite, []⟩
    let n : Node Unit := ⟨⟨exampleBanCall.apply (.fresh 8), 100, []⟩, fun _ => .initial none⟩
    let l : List (NodeLabel Unit) := [.part () (.run banAnswers), .part () (.run banAnswers)]
    EveryState step (fun n => (n.part ()).state.LetOn) l n ∧
      EveryStep step
        (fun label n => ∀ a, label = .part () (.run a) → (n.part ()).phase ≠ .content →
          ∃ n', step label n = some n' ∧ (n'.part ()).phase = (n.part ()).phase.next) l n := by
  intro step n l
  have hpre : exec step [.env (.call exampleBanCall)] (Node.fresh 8 100 fun _ => none) = some n :=
    rfl
  have hsame (action : SharedAction) (c c' : Shared) (h : False)
      (_ : c.table = n.env.table ∧ c.clock = n.env.clock) (_ : Shared.step action c = some c') :
      c'.table = n.env.table ∧ c'.clock = n.env.clock := h.elim
  have henv : EveryState step
      (fun n' => n'.env.table = n.env.table ∧ n'.env.clock = n.env.clock) l n :=
    Node.everyState_shared hsame (fun _ _ h => h)
      (everyStep_of_mem fun label hmem _ b heq => by simp [l, heq] at hmem) ⟨rfl, rfl⟩
  have hunlisted : n.env.Unlisted (.v4 #v[192, 0, 2, 3]) :=
    (unlisted_iff (Node.reachable_of_exec (by decide) hpre).tableOk).mpr (by decide +kernel)
  refine unlisted_let_on (by decide) hpre (henv.mono fun n' h => ?_)
    ⟨by decide, by decide, by decide, rfl⟩ rfl
  rw [Shared.Unlisted, h.1, h.2]
  exact hunlisted

end CrowdSecBouncer
