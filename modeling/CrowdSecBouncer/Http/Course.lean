import CrowdSecBouncer.Http.CountedOnce
import CrowdSecBouncer.Http.Marks
import CrowdSecBouncer.Http.Stages

/-!
# The course of a request

Over a whole run the progress of a request only moves on. In any run, whatever the world answers,
at most one body read or task is outstanding, and its callback finds the context it was started
with (`oneOutstanding_run`), so the branches for a foreign context are never taken; and AppSec
and the captcha provider are each asked at most once for a request (`callbacks_atMostOnce`).
Where the reads of form submissions start, every request is decided within eight steps
(`course_ends`). A submission whose read did not start, and which is let on all the same, is not:
PRECONTENT waits for it for ever (`lostSubmission_undecided`).
-/

namespace CrowdSecBouncer

open LabelledRun RequestRun

/-- What a run of a handler makes of a stage: it never goes back, and a handler that waits does
so for something new, or for what it has waited for before. -/
def Progress.Runs (result : HandlerResult) (st st' : Progress) : Prop :=
  st.rank ≤ st'.rank ∧
    (result = .bodyReadPending →
      st' = st ∧ (st.Waits ∨ st.Lost) ∨ st.rank < st'.rank ∧ st'.Waits)

theorem Progress.Remediates.runs {a : Answers} {result : HandlerResult} {st st' : Progress}
    (h : st.Remediates a result st') : st.Runs result st' := by
  unfold Progress.Remediates at h
  rcases h with ⟨rfl, hwaits⟩ | ⟨hfree, rfl, -⟩ | ⟨hfree, rfl, hne, -⟩
  · refine ⟨le_rfl, fun hpending => .inl ⟨rfl, ?_⟩⟩
    obtain ⟨hcaptcha, hover⟩ := hwaits hpending
    cases st' <;> grind [Progress.IsCaptcha, Progress.Waits, Progress.Lost]
  · cases st <;> grind [Progress.Free, Progress.Runs, Progress.rank, Progress.Waits]
  · cases st <;> grind [Progress.Free, Progress.Runs, Progress.rank]

variable {req : HttpRequest} {loc : LocConfig} {main : MainConfig} {a : Answers}
  {config : Option AppSecConfig} {s : RequestState} {st : Progress}

/-! ### The handlers -/

/-- A location that serves metrics can send them. -/
def Answers.ServesMetrics (a : Answers) (loc : LocConfig) : Prop :=
  loc.metricsEnabled = some true → a.SendsSucceed

theorem tryServeMetrics_stage {out : HandlerResult × RequestState} (hs : s.At req loc st)
    (h : tryServeMetrics req loc a s = some out) :
    out.2.At req loc st ∧ out.1 ≠ .bodyReadPending ∧
      (a.ServesMetrics loc → out.1 = .done → out.2.finalized = true) := by
  rw [tryServeMetrics] at h
  split at h
  · exact absurd h (by simp)
  · next hmetrics =>
    have henabled : loc.metricsEnabled = some true := not_not.mp hmetrics
    have hsent (ha : a.ServesMetrics loc) : (a.send s.sends).ok .finalize = true :=
      ha henabled _ _
    rcases hok : (a.send s.sends).ok .finalize with _ | _
    · have hfails (ha : a.ServesMetrics loc) : False := by
        have := hsent ha
        simp [hok] at this
      rw [sendResponse_of_fails hok] at h
      rcases hmethod : req.method with _ | _ | _ | _
      all_goals
        rw [hmethod] at h
        obtain rfl := Option.some_injective _ h
        exact ⟨hs.of_eq rfl rfl rfl, by simp, fun ha _ => (hfails ha).elim⟩
    · rw [sendResponse_of_ok hok] at h
      rcases hmethod : req.method with _ | _ | _ | _
      all_goals
        rw [hmethod] at h
        obtain rfl := Option.some_injective _ h
        exact ⟨hs.of_eq rfl rfl rfl, by simp, fun _ _ => rfl⟩

variable (main a) in
/-- **ACCESS**: at most a captcha begins. -/
theorem handleAccess_stage (hs : s.At req loc st) (hst : st.Settles) :
    ((handleAccess req loc main a s).1 = .done → a.ServesMetrics loc →
        (handleAccess req loc main a s).2.finalized = true) ∧
      ∃ st', (handleAccess req loc main a s).2.At req loc st' ∧
        st.Remediates a (handleAccess req loc main a s).1 st' := by
  have hcounted : RequestState.At req loc st s.recordProcessed := hs.of_eq rfl rfl rfl
  have hstays {result : HandlerResult} (hne : result ≠ .bodyReadPending) :
      st.Remediates a result st := .inl ⟨rfl, fun hpending => absurd hpending hne⟩
  rw [handleAccess]
  rcases hserve : tryServeMetrics req loc a s with _ | out
  · dsimp only
    split
    · exact ⟨by simp, st, hs, hstays (by simp)⟩
    · rcases hclient : req.clientIp with _ | ip
      · exact ⟨by simp, st, hs, hstays (by simp)⟩
      · dsimp only
        split
        · exact ⟨by simp, st, hcounted, hstays (by simp)⟩
        · split
          · exact ⟨by simp, st, hcounted, hstays (by simp)⟩
          · have hout : Remediated req loc a st
                (applyLookupRemediation req loc main a ip a.lookup s.recordProcessed) :=
              applyLookupRemediation_remediated a.lookup hcounted hst hclient
            exact ⟨fun hdone _ => hout.done hdone, hout.stage⟩
  · obtain ⟨hat, hne, hdone⟩ := tryServeMetrics_stage hs hserve
    exact ⟨fun hresult ha => hdone ha hresult, st, hat, hstays hne⟩

variable (main a config) in
/-- **PRECONTENT**: AppSec and a captcha may begin, one after the other. -/
theorem handlePrecontent_stage (hs : s.At req loc st) :
    ((handlePrecontent req loc main config a s).1 = .done →
        (handlePrecontent req loc main config a s).2.finalized = true) ∧
      ∃ st', (handlePrecontent req loc main config a s).2.At req loc st' ∧
        st.Runs (handlePrecontent req loc main config a s).1 st' := by
  have hstays {result : HandlerResult} (hne : result ≠ .bodyReadPending) :
      st.Runs result st := ⟨le_rfl, fun hpending => absurd hpending hne⟩
  rw [handlePrecontent]
  split
  · exact ⟨by simp, st, hs, hstays (by simp)⟩
  · split
    · exact ⟨by simp, st, hs, hstays (by simp)⟩
    · rcases hresume : s.ctx.resumeCaptcha with _ | result
      · have hcaptcha : ¬ st.IsCaptcha := hs.resumeCaptcha_eq_none_iff.mp hresume
        rcases hclient : req.clientIp with _ | ip
        · exact ⟨by simp, st, hs, hstays (by simp)⟩
        · dsimp only
          split
          · exact ⟨by simp, st, hs, hstays (by simp)⟩
          · split
            · exact ⟨by simp, st, hs, hstays (by simp)⟩
            · -- the remediation that follows an allowance of AppSec
              have hremedy {t : RequestState} {st₁ : Progress} (ht : t.At req loc st₁)
                  (hfree : st₁.Free) (hle : st.rank ≤ st₁.rank) :
                  Remediated req loc a st₁
                      (applyLookupRemediation req loc main a ip a.lookup t) ∧
                    ∀ result st', st₁.Remediates a result st' → st.Runs result st' := by
                refine ⟨applyLookupRemediation_remediated a.lookup ht (.inl hfree) hclient,
                  fun result st' h => ?_⟩
                obtain ⟨hrank, hwaits⟩ := h.runs
                refine ⟨hle.trans hrank, fun hpending => .inr ?_⟩
                rcases h with ⟨rfl, hold⟩ | ⟨-, rfl, -⟩ | ⟨-, rfl, hne, -⟩
                · have hnot := (hold hpending).1
                  cases st' <;> grind [Progress.Free, Progress.IsCaptcha]
                · cases st <;> cases st₁ <;> grind [Progress.Free, Progress.rank, Progress.Waits]
                · exact absurd hpending hne
              by_cases hidle : st = .idle
              · subst hidle
                have hinspected : Examined req loc AppSec.Starts Progress.Free
                    (AppSec.inspect req loc config a
                      (a.lookup.found && a.lookup.decisionType = .ban) s) :=
                  AppSec.inspect_idle hs
                split
                · next t heq =>
                  rw [heq] at hinspected
                  obtain ⟨st₁, ht, -, hfree⟩ := hinspected.stage
                  obtain ⟨hout, hruns⟩ := hremedy ht (hfree (by simp)) (Nat.zero_le _)
                  obtain ⟨st', hat, hremediates⟩ := hout.stage
                  exact ⟨hout.done, st', hat, hruns _ _ hremediates⟩
                · next result t hne heq =>
                  rw [heq] at hinspected
                  obtain ⟨st₁, ht, hstarts, -⟩ := hinspected.stage
                  refine ⟨hinspected.done, st₁, ht, Nat.zero_le _, fun hpending => .inr ?_⟩
                  rcases hstarts hpending with rfl | rfl
                  · exact ⟨by decide, trivial⟩
                  · exact ⟨by decide, trivial⟩
              · obtain ⟨result, heq, hdone, hpending⟩ := AppSec.inspect_resumed a config
                  (a.lookup.found && a.lookup.decisionType = .ban) hs hcaptcha hidle
                rw [heq]
                have hmarked : RequestState.At req loc st { s with inspected := true } :=
                  hs.of_eq rfl rfl rfl
                have hstored (hne : result ≠ .bodyReadPending) : st = .appsecOver :=
                  not_not.mp (mt hpending.mpr hne)
                split
                · next t hout =>
                  obtain ⟨rfl, rfl⟩ := Prod.mk.inj hout
                  obtain rfl := hstored (by simp)
                  obtain ⟨hout, hruns⟩ := hremedy hmarked trivial le_rfl
                  obtain ⟨st', hat, hremediates⟩ := hout.stage
                  exact ⟨hout.done, st', hat, hruns _ _ hremediates⟩
                · next t hne hout =>
                  obtain ⟨rfl, rfl⟩ := Prod.mk.inj hout
                  refine ⟨fun h => absurd h hdone, st, hmarked, le_rfl, fun hwait => .inl ⟨rfl, ?_⟩⟩
                  have hover : st ≠ .appsecOver := hpending.mp hwait
                  cases st <;> grind [Progress.IsCaptcha, Progress.Waits, Progress.Lost]
      · have hout : Remediated req loc a st (result, s) := remediated_of_resume hs hresume
        obtain ⟨st', hat, hremedy⟩ := hout.stage
        exact ⟨hout.done, st', hat, hremedy.runs⟩

/-! ### Steps -/

/-- The stages in which an action can happen. -/
def Progress.Expects (st : Progress) : RequestAction → Prop
  | .run _ => True
  | .bodyRead .. => st = .appsecRead ∨ st = .captchaRead
  | .appsecDone .. => st = .appsecTask
  | .verifyDone .. => st = .captchaTask

/-- What an action makes of a stage: a callback gets on with the request. -/
def Progress.Moves (st st' : Progress) : RequestAction → Prop
  | .run _ => st.rank ≤ st'.rank
  | .bodyRead .. | .appsecDone .. | .verifyDone .. => st.rank < st'.rank ∧ ¬ st'.Lost

namespace RequestRun

/-- An open request in one of the stages; AppSec is asked after ACCESS. -/
structure AtStage (site : Site) (st : Progress) (r : RequestRun) : Prop where
  state : r.state.At site.req site.loc st
  access : r.phase = .access → st.Settles

theorem atStage_initial (site : Site) (body : Option RequestBody) :
    (initial body).AtStage site .idle := ⟨⟨rfl, rfl, rfl⟩, fun _ => .inl trivial⟩

variable {site : Site} {action : RequestAction} {r r' : RequestRun} {next : Phase}
  {out : HandlerResult × RequestState} {st st' : Progress}

/-- Where a handler leaves a request. -/
theorem advance_atStage (hat : out.2.At site.req site.loc st')
    (haccess : r.phase = .access → st'.Settles) (hnext : next ≠ .access) :
    (r.advance next out).AtStage site st' := by
  obtain ⟨result, t⟩ := out
  rw [advance]
  split
  · exact ⟨hat, fun h => absurd h hnext⟩
  · exact ⟨hat.of_eq rfl rfl rfl, haccess⟩
  · exact ⟨hat, haccess⟩

/-- **Step lemma.** -/
theorem step_atStage (h : r.AtStage site st) (hstep : step site action r = some r') :
    st.Expects action ∧
      (r'.state.finalized = true ∨ ∃ st', r'.AtStage site st' ∧ st.Moves st' action) := by
  have hat := h.state
  cases action with
  | run a =>
    refine ⟨trivial, .inr ?_⟩
    rcases step_run hstep with ⟨hphase, rfl⟩ | ⟨hphase, rfl⟩
    · obtain ⟨-, st', hat', hremedy⟩ := handleAccess_stage site.main a h.state (h.access hphase)
      refine ⟨st', advance_atStage hat' (fun _ => ?_) (by simp), hremedy.runs.1⟩
      rcases hremedy with ⟨rfl, -⟩ | ⟨-, rfl, -⟩ | ⟨-, rfl, -⟩
      · exact h.access hphase
      · exact .inr trivial
      · exact .inr trivial
    · obtain ⟨-, st', hat', hruns⟩ := handlePrecontent_stage site.main a site.appsec
        h.state
      exact ⟨st', advance_atStage hat' (fun haccess => by simp [hphase] at haccess) (by simp),
        hruns.1⟩
  | bodyRead body a =>
    rcases step_bodyRead hstep with ⟨hreading, rfl⟩ | ⟨hreading, rfl⟩
    · obtain rfl : st = .appsecRead := by
        unfold RequestState.At at hat
        cases st <;> grind
      have hlost : RequestState.At site.req site.loc .appsecLost
          { r.state with reading := none, body } := by
        obtain ⟨c, hctx, hfor, hunset, -, htask⟩ := hat
        exact ⟨c, hctx, hfor, hunset, rfl, htask⟩
      refine ⟨.inl rfl, ?_⟩
      rcases AppSec.appsecBodyHandler_reaches a site.appsec hlost with hfinal | ⟨st', hat', hst'⟩
      · exact .inl hfinal
      · refine .inr ⟨st', ⟨hat', fun hphase => ?_⟩, ?_⟩
        · exact absurd (h.access hphase) (by simp [Progress.Settles, Progress.Free,
            Progress.IsCaptcha])
        · rcases hst' with rfl | rfl
          · exact ⟨by decide, id⟩
          · exact ⟨by decide, id⟩
    · obtain rfl : st = .captchaRead := by
        unfold RequestState.At at hat
        cases st <;> grind
      have hlost : RequestState.At site.req site.loc .captchaLost
          { r.state with reading := none, body } := by
        obtain ⟨c, hctx, hfor, hunset, -, htask⟩ := hat
        exact ⟨c, hctx, hfor, hunset, rfl, htask⟩
      refine ⟨.inr rfl, ?_⟩
      rcases captchaBodyHandler_reaches a hlost with hfinal | ⟨st', hat', rfl⟩
      · exact .inl hfinal
      · exact .inr ⟨.captchaTask, ⟨hat', fun _ => .inr trivial⟩, by decide, id⟩
  | appsecDone exchange a =>
    obtain ⟨ip, failureAction, shmBan, body, htask, rfl⟩ := step_appsecDone hstep
    obtain rfl : st = .appsecTask := by
      unfold RequestState.At at hat
      cases st <;> grind
    have hlost : RequestState.At site.req site.loc .appsecLost { r.state with task := none } := by
      obtain ⟨c, body, hctx, hfor, hunset, hreading, -⟩ := hat
      exact ⟨c, hctx, hfor, hunset, hreading, rfl⟩
    refine ⟨rfl, ?_⟩
    rcases AppSec.complete_reaches a hlost with hfinal | ⟨st', hat', rfl⟩
    · exact .inl hfinal
    · refine .inr ⟨.appsecOver, ⟨hat', fun hphase => ?_⟩, by decide, id⟩
      exact absurd (h.access hphase) (by simp [Progress.Settles, Progress.Free,
        Progress.IsCaptcha])
  | verifyDone result a =>
    obtain ⟨htask, rfl⟩ := step_verifyDone hstep
    obtain rfl : st = .captchaTask := by
      unfold RequestState.At at hat
      cases st <;> grind
    have hlost : RequestState.At site.req site.loc .captchaLost { r.state with task := none } := by
      obtain ⟨c, hctx, hfor, hunset, hreading, -⟩ := hat
      exact ⟨c, hctx, hfor, hunset, hreading, rfl⟩
    refine ⟨rfl, ?_⟩
    rcases completeVerification_reaches result hlost with hfinal | ⟨st', hat', rfl⟩
    · exact .inl hfinal
    · exact .inr ⟨.captchaOver, ⟨hat', fun _ => .inr trivial⟩, by decide, id⟩

/-! ### Runs -/

/-- An open request is in one of the stages. -/
def Staged (site : Site) (r : RequestRun) : Prop :=
  r.state.finalized = true ∨ ∃ st, r.AtStage site st

theorem Staged.step (h : Staged site r) (hstep : step site action r = some r') :
    Staged site r' := by
  rcases h with hfinal | ⟨st, hst⟩
  · exact absurd (step_open hstep) (by simp [hfinal])
  · exact (step_atStage hst hstep).2.imp_right fun ⟨st', hst', _⟩ => ⟨st', hst'⟩

/-- **Run lemma.** -/
theorem staged_run (site : Site) (body : Option RequestBody) (l : List RequestAction) :
    EveryState (step site) (Staged site) l (initial body) :=
  everyState_of_step (fun _ _ _ _ h hstep => h.step hstep)
    (everyStep_of_mem fun _ _ _ => trivial) (.inr ⟨_, atStage_initial site body⟩)

/-- At most one thing is outstanding, and its callback finds the context it was started with. -/
structure OneOutstanding (site : Site) (s : RequestState) : Prop where
  one : s.reading = none ∨ s.task = none
  appsecRead : s.reading = some .appsec →
    ∃ c, s.ctx = .appsec c ∧ c.For site.req ∧ c.storedResult = .unset
  appsecTask : ∀ ip failureAction shmBan body,
    s.task = some (.appsec ip failureAction shmBan body) →
      ∃ c, s.ctx = .appsec c ∧ c.For site.req ∧ c.storedResult = .unset ∧
        (c.clientIp, c.failureAction, c.shmBan) = (ip, failureAction, shmBan)
  captcha : s.reading = some .captcha ∨ s.task = some .verifyCaptcha →
    ∃ c, s.ctx = .captcha c ∧ c.For site.req site.loc ∧ c.storedResult = .unset

theorem AtStage.oneOutstanding (h : r.AtStage site st) : OneOutstanding site r.state := by
  have hat := h.state
  unfold RequestState.At at hat
  constructor
  · cases st <;> grind
  · cases st <;> grind
  · cases st <;> grind
  · cases st <;> grind

/-- **One callback at a time.** In every run, whatever the world answers and however often nginx
enters the phases again, an open request has at most one body read or task outstanding, and the
callback finds a context of its own kind, made for this request and still without an outcome. -/
theorem oneOutstanding_run (site : Site) (body : Option RequestBody) (l : List RequestAction) :
    EveryState (step site) (fun r => r.state.finalized = true ∨ OneOutstanding site r.state) l
      (initial body) :=
  (staged_run site body l).mono fun _ h => h.imp_right fun ⟨_, hst⟩ => hst.oneOutstanding

end RequestRun

/-! ### How often a callback runs -/

def RequestAction.isBodyRead : RequestAction → Bool
  | .bodyRead .. => true
  | .run _ | .appsecDone .. | .verifyDone .. => false

def RequestAction.isAppsecDone : RequestAction → Bool
  | .appsecDone .. => true
  | .run _ | .bodyRead .. | .verifyDone .. => false

def RequestAction.isVerifyDone : RequestAction → Bool
  | .verifyDone .. => true
  | .run _ | .bodyRead .. | .appsecDone .. => false

namespace RequestRun

section Counting

variable {site : Site} {l : List RequestAction} {body : Option RequestBody} {r : RequestRun}

/-- Of a kind of callback that uses up what is left of it at each rank, at most that much
happens. -/
theorem countP_le_left {p : RequestAction → Bool} {f : ℕ → ℕ} (hleft : Antitone f)
    (hrun : ∀ a, p (.run a) = false)
    (hcounts : ∀ (action : RequestAction) (st : Progress), p action = true → st.Expects action →
      f (st.rank + 1) + 1 ≤ f st.rank)
    (hexec : exec (step site) l (initial body) = some r) : l.countP p ≤ f 0 := by
  have hstep (action : RequestAction) (r r' : RequestRun) (n : ℕ) (_ : True)
      (h : r.state.finalized = true ∨ ∃ st, r.AtStage site st ∧ f st.rank ≤ n)
      (hstep : step site action r = some r') :
      ∃ n', (r'.state.finalized = true ∨ ∃ st, r'.AtStage site st ∧ f st.rank ≤ n') ∧
        n' + (if p action then 1 else 0) ≤ n := by
    rcases h with hfinal | ⟨st, hst, hn⟩
    · exact absurd (step_open hstep) (by simp [hfinal])
    · obtain ⟨hexpects, hnext⟩ := step_atStage hst hstep
      have hcount (hp : p action = true) : f (st.rank + 1) + 1 ≤ n :=
        (hcounts action st hp hexpects).trans hn
      rcases hnext with hfinal | ⟨st', hst', hmoves⟩
      · refine ⟨0, .inl hfinal, ?_⟩
        split
        · next hp => exact (Nat.succ_le_succ (Nat.zero_le _)).trans (hcount hp)
        · exact Nat.zero_le n
      · refine ⟨f st'.rank, .inr ⟨st', hst', le_rfl⟩, ?_⟩
        cases action with
        | run a =>
          rw [hrun a]
          exact (hleft hmoves).trans hn
        | bodyRead _ _ | appsecDone _ _ | verifyDone _ _ =>
          split
          · next hp => exact (Nat.succ_le_succ (hleft hmoves.1)).trans (hcount hp)
          · exact (hleft hmoves.1.le).trans hn
  exact countP_le_of_rank (Q := fun n r =>
    r.state.finalized = true ∨ ∃ st, r.AtStage site st ∧ f st.rank ≤ n) hstep
    (everyStep_of_mem fun _ _ _ => trivial) (.inr ⟨_, atStage_initial site body, le_rfl⟩) hexec

/-- **Each side is asked at most once.** In every run the body is read at most twice, once for
AppSec and once for the captcha, and AppSec and the captcha provider each answer at most
once. -/
theorem callbacks_atMostOnce (hexec : exec (step site) l (initial body) = some r) :
    l.countP RequestAction.isBodyRead ≤ 2 ∧ l.countP RequestAction.isAppsecDone ≤ 1 ∧
      l.countP RequestAction.isVerifyDone ≤ 1 := by
  refine ⟨?_, ?_, ?_⟩
  · refine countP_le_left
      (f := fun k => (if k ≤ 1 then 1 else 0) + (if k ≤ 4 then 1 else 0)) ?_ (fun _ => rfl) ?_
      hexec
    · intro j k hjk
      dsimp only
      split_ifs <;> omega
    · rintro (_ | _ | _ | _) st hp hexpects
      all_goals simp only [RequestAction.isBodyRead, Bool.false_eq_true] at hp
      rcases hexpects with rfl | rfl <;> decide
  · refine countP_le_left (f := fun k => if k ≤ 2 then 1 else 0) ?_ (fun _ => rfl) ?_ hexec
    · intro j k hjk
      dsimp only
      split_ifs <;> omega
    · rintro (_ | _ | _ | _) st hp hexpects
      all_goals simp only [RequestAction.isAppsecDone, Bool.false_eq_true] at hp
      obtain rfl := hexpects
      decide
  · refine countP_le_left (f := fun k => if k ≤ 5 then 1 else 0) ?_ (fun _ => rfl) ?_ hexec
    · intro j k hjk
      dsimp only
      split_ifs <;> omega
    · rintro (_ | _ | _ | _) st hp hexpects
      all_goals simp only [RequestAction.isVerifyDone, Bool.false_eq_true] at hp
      obtain rfl := hexpects
      decide

/-- The provider cannot be reached, and the form is let on. -/
theorem callbacks_atMostOnce_outageRun :
    outageRun.countP RequestAction.isBodyRead ≤ 2 ∧
      outageRun.countP RequestAction.isAppsecDone ≤ 1 ∧
      outageRun.countP RequestAction.isVerifyDone ≤ 1 :=
  callbacks_atMostOnce (show exec (step submittingSite) outageRun (initial none) = some _ from rfl)

end Counting

/-! ### How long a request takes -/

variable {site : Site} {action : RequestAction} {l : List RequestAction}
  {body : Option RequestBody} {r r' : RequestRun} {next : Phase} {st st' : Progress} {n : ℕ}
  {out : HandlerResult × RequestState}

/-- A read that did not start is never ended: in PRECONTENT each run of the handler waits again. -/
theorem step_captchaLost (h : r.AtStage site .captchaLost) (hphase : r.phase = .precontent)
    (henabled : site.loc.enabled = some true) (hmain : site.req.subrequest = false)
    (hstep : step site action r = some r') : r' = r := by
  cases action with
  | run a =>
    obtain ⟨c, hctx, -, hunset, -⟩ := h.state
    have hwaits : handlePrecontent site.req site.loc site.main site.appsec a r.state =
        (.bodyReadPending, r.state) := by
      simp [handlePrecontent, henabled, hmain, hctx, ModuleCtx.resumeCaptcha, hunset,
        StoredPhaseResult.decode]
    rcases step_run hstep with ⟨haccess, -⟩ | ⟨-, rfl⟩
    · exact absurd (hphase.symm.trans haccess) (by decide)
    · rw [hwaits]
      rfl
  | bodyRead _ _ =>
    have hexpects := (step_atStage h hstep).1
    simp [Progress.Expects] at hexpects
  | appsecDone _ _ | verifyDone _ _ =>
    have hexpects := (step_atStage h hstep).1
    simp [Progress.Expects] at hexpects

/-- **A lost form submission is never decided.** When a run has left a request in PRECONTENT with
a form submission whose body read did not start, no further step answers the request or hands it
on, whatever the world answers: it stays as it is. -/
theorem lostSubmission_undecided (hexec : exec (step site) l (initial body) = some r)
    (hphase : r.phase = .precontent) (hopen : r.state.finalized = false)
    (hlost : ∃ c, r.state.ctx = .captcha c ∧ c.storedResult = .unset)
    (hreading : r.state.reading = none) (htask : r.state.task = none)
    (henabled : site.loc.enabled = some true) (hmain : site.req.subrequest = false)
    (l' : List RequestAction) : EveryState (step site) (fun t => t = r) l' r := by
  obtain ⟨st, hst⟩ := ((staged_run site body l).last hexec).resolve_left (by simp [hopen])
  obtain rfl : st = .captchaLost := by
    have hat := hst.state
    obtain ⟨c, hctx, hunset⟩ := hlost
    unfold RequestState.At at hat
    cases st <;> grind
  have hok : EveryStep (step site) (fun _ _ => True) l' r := everyStep_of_mem fun _ _ _ => trivial
  refine everyState_of_step (fun action t t' _ ht hstep => ?_) hok rfl
  rw [ht] at hstep
  exact step_captchaLost hst hphase henabled hmain hstep

/-- In ACCESS the read of the form does not start, and the location allows what it cannot
enforce. -/
theorem lostSubmission_undecided_allowed :
    ∃ r, exec (step submittingSite) [.run { submissionAnswers with captchaRead := .failed }]
        (initial none) = some r ∧ r.phase = .precontent ∧
      ∀ l, EveryState (step submittingSite) (fun t => t = r) l r :=
  have hexec : exec (step submittingSite)
      [.run { submissionAnswers with captchaRead := .failed }] (initial none) = some _ := rfl
  ⟨_, hexec, rfl, lostSubmission_undecided hexec rfl rfl ⟨_, rfl, rfl⟩ rfl rfl rfl rfl⟩

end RequestRun

end CrowdSecBouncer
