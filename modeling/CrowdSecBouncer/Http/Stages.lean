import CrowdSecBouncer.Http.Confinement
import CrowdSecBouncer.Http.Responses

/-!
# The stages of a request

A request may be suspended up to four times: AppSec may read its body and may then ask its
component, and the captcha may read the body and may then ask its provider. How far it has come
lies in three places, the module context, the outstanding body read and the pending task. Here
they are the states of one machine, `Progress`, and each function of the model is related to it:
at most one thing is outstanding at a time, a callback finds the context that its read or task was
started with, and that context belongs to the client and the location of the request. The rank
of the stage never falls, and every callback raises it.
-/

namespace CrowdSecBouncer

/-- How far AppSec and the captcha have come with a request. -/
inductive Progress
  | idle
  | appsecRead
  | appsecTask
  /-- The body read did not start, and the context is still waiting for it. -/
  | appsecLost
  | appsecOver
  | captchaRead
  | captchaTask
  /-- The body read did not start, and the context is still waiting for it. -/
  | captchaLost
  | captchaOver
  deriving DecidableEq, Repr

namespace Progress

def rank : Progress → ℕ
  | idle => 0
  | appsecRead => 1
  | appsecTask => 2
  | appsecLost | appsecOver => 3
  | captchaRead => 4
  | captchaTask => 5
  | captchaLost | captchaOver => 6

/-- A body read or a task is outstanding. -/
def Waits : Progress → Prop
  | appsecRead | appsecTask | captchaRead | captchaTask => True
  | idle | appsecLost | appsecOver | captchaLost | captchaOver => False

/-- A body read did not start, and the context is still waiting for it. -/
def Lost : Progress → Prop
  | appsecLost | captchaLost => True
  | idle | appsecRead | appsecTask | appsecOver | captchaRead | captchaTask | captchaOver => False

/-- Nothing is outstanding, and the captcha has not been asked for. -/
def Free : Progress → Prop
  | idle | appsecLost | appsecOver => True
  | appsecRead | appsecTask | captchaRead | captchaTask | captchaLost | captchaOver => False

def IsCaptcha : Progress → Prop
  | captchaRead | captchaTask | captchaLost | captchaOver => True
  | idle | appsecRead | appsecTask | appsecLost | appsecOver => False

end Progress

/-! ### The stage of a state -/

/-- The context was made for this request. -/
def AppSecBodyContext.For (c : AppSecBodyContext) (req : HttpRequest) : Prop :=
  req.clientIp = some c.clientIp

/-- The context was made for a form submission of this request, under this location's settings. -/
structure CaptchaPostContext.For (c : CaptchaPostContext) (req : HttpRequest) (loc : LocConfig) :
    Prop where
  clientIp : req.clientIp = some c.clientIp
  config : loc.captchaConfig = some c.config
  method : req.method = .post

/-- Context, body read and task are those of the stage. -/
def RequestState.At (req : HttpRequest) (loc : LocConfig) (st : Progress) (s : RequestState) :
    Prop :=
  match st with
  | .idle => s.ctx = .empty ∧ s.reading = none ∧ s.task = none
  | .appsecRead => ∃ c, s.ctx = .appsec c ∧ c.For req ∧ c.storedResult = .unset ∧
      s.reading = some .appsec ∧ s.task = none
  | .appsecTask => ∃ c body, s.ctx = .appsec c ∧ c.For req ∧ c.storedResult = .unset ∧
      s.reading = none ∧ s.task = some (.appsec c.clientIp c.failureAction c.shmBan body)
  | .appsecLost => ∃ c, s.ctx = .appsec c ∧ c.For req ∧ c.storedResult = .unset ∧
      s.reading = none ∧ s.task = none
  | .appsecOver => ∃ c, s.ctx = .appsec c ∧ c.For req ∧
      (c.storedResult ≠ .unset ∧ c.storedResult ≠ .done) ∧ s.reading = none ∧ s.task = none
  | .captchaRead => ∃ c, s.ctx = .captcha c ∧ c.For req loc ∧ c.storedResult = .unset ∧
      s.reading = some .captcha ∧ s.task = none
  | .captchaTask => ∃ c, s.ctx = .captcha c ∧ c.For req loc ∧ c.storedResult = .unset ∧
      s.reading = none ∧ s.task = some .verifyCaptcha
  | .captchaLost => ∃ c, s.ctx = .captcha c ∧ c.For req loc ∧ c.storedResult = .unset ∧
      s.reading = none ∧ s.task = none
  | .captchaOver => ∃ c, s.ctx = .captcha c ∧ c.For req loc ∧
      (c.storedResult ≠ .unset ∧ c.storedResult ≠ .done) ∧ s.reading = none ∧ s.task = none

variable {req : HttpRequest} {loc : LocConfig} {main : MainConfig} {a : Answers}
  {config : Option AppSecConfig} {s t : RequestState} {st : Progress}
  {out : HandlerResult × RequestState}

namespace RequestState

/-- Only context, body read and task matter. -/
theorem At.of_eq (h : s.At req loc st) (hctx : t.ctx = s.ctx) (hreading : t.reading = s.reading)
    (htask : t.task = s.task) : t.At req loc st := by
  unfold At at h ⊢
  rw [hctx, hreading, htask]
  exact h

theorem At.of_same (h : s.At req loc st) (hsame : SameRequest s t) : t.At req loc st :=
  h.of_eq hsame.ctx hsame.reading hsame.task

/-- Where nothing is outstanding, nothing is read and no task is pending. -/
theorem At.none_of_not_waits (h : s.At req loc st) (hst : ¬ st.Waits) :
    s.reading = none ∧ s.task = none := by
  unfold At at h
  cases st <;> grind [Progress.Waits]

/-- A captcha is under way exactly in the stages of the captcha. -/
theorem At.resumeCaptcha_eq_none_iff (h : s.At req loc st) :
    s.ctx.resumeCaptcha = none ↔ ¬ st.IsCaptcha := by
  unfold At at h
  cases st <;> grind [Progress.IsCaptcha, ModuleCtx.resumeCaptcha]

end RequestState

/-! ### Remediations -/

/-- What a remediation makes of a stage: a captcha that is under way stays as it is, and a new one
reads the body, or was given up before that. -/
def Progress.Remediates (a : Answers) (result : HandlerResult) (st st' : Progress) : Prop :=
  (st' = st ∧ (result = .bodyReadPending → st.IsCaptcha ∧ st ≠ .captchaOver)) ∨
    (st.Free ∧ st' = .captchaRead ∧ result = .bodyReadPending) ∨
      (st.Free ∧ st' = .captchaLost ∧ result ≠ .bodyReadPending ∧ a.captchaRead ≠ .started)

/-- The outcome of a remediation. -/
structure Remediated (req : HttpRequest) (loc : LocConfig) (a : Answers) (st : Progress)
    (out : HandlerResult × RequestState) : Prop where
  done : out.1 = .done → out.2.finalized = true
  stage : ∃ st', out.2.At req loc st' ∧ st.Remediates a out.1 st'

/-- A response leaves the stage as it is. -/
theorem Answered.remediated {n : ℕ} (h : Answered n s out) (hs : s.At req loc st) :
    Remediated req loc a st out :=
  ⟨h.done, st, hs.of_same h.same, .inl ⟨rfl, fun hpending => absurd hpending h.answers⟩⟩

/-- A response of a captcha that was given up. -/
theorem Answered.remediated_lost {n : ℕ} (h : Answered n s out) (hfree : st.Free)
    (hread : a.captchaRead ≠ .started) (hs : s.At req loc .captchaLost) :
    Remediated req loc a st out :=
  ⟨h.done, _, hs.of_same h.same, .inr (.inr ⟨hfree, rfl, h.answers, hread⟩)⟩

/-- What is stored of an outcome is neither a response nor a wait. -/
theorem StoredPhaseResult.getD_decode_ne {stored : StoredPhaseResult} (hunset : stored ≠ .unset)
    (hdone : stored ≠ .done) :
    stored.decode.getD .bodyReadPending ≠ .done ∧
      stored.decode.getD .bodyReadPending ≠ .bodyReadPending := by
  cases stored <;> simp_all [StoredPhaseResult.decode]

/-- The outcome of a captcha that is under way. -/
theorem remediated_of_resume {result : HandlerResult} (hs : s.At req loc st)
    (hresume : s.ctx.resumeCaptcha = some result) : Remediated req loc a st (result, s) := by
  have hcaptcha : st.IsCaptcha := by
    by_contra hnot
    exact absurd (hs.resumeCaptcha_eq_none_iff.mpr hnot) (by simp [hresume])
  obtain ⟨c, hctx, hstored⟩ : ∃ c, s.ctx = .captcha c ∧
      (c.storedResult = .unset ∧ st ≠ .captchaOver ∨
        c.storedResult ≠ .unset ∧ c.storedResult ≠ .done) := by
    unfold RequestState.At at hs
    cases st <;> grind [Progress.IsCaptcha]
  have hresult : result ≠ .done ∧ (result = .bodyReadPending → st ≠ .captchaOver) := by
    rw [hctx, ModuleCtx.resumeCaptcha, Option.some.injEq] at hresume
    rcases hstored with ⟨hunset, hst⟩ | hover
    · rw [hunset] at hresume
      exact ⟨hresume ▸ (by decide), fun _ => hst⟩
    · obtain ⟨hdone, hpending⟩ := StoredPhaseResult.getD_decode_ne hover.1 hover.2
      exact ⟨hresume ▸ hdone, fun heq => absurd (hresume.trans heq) hpending⟩
  exact ⟨fun hdone => absurd hdone hresult.1, st, hs,
    .inl ⟨rfl, fun hpending => ⟨hcaptcha, hresult.2 hpending⟩⟩⟩

variable {clientIp : IpAddr}

theorem handleCaptchaPost_remediated {captchaCfg : CaptchaConfig} (hs : s.At req loc st)
    (hfree : st.Free) (hclient : req.clientIp = some clientIp)
    (hconfig : loc.captchaConfig = some captchaCfg) (hpost : req.method = .post) :
    Remediated req loc a st (handleCaptchaPost req loc a captchaCfg clientIp s) := by
  have hwaits : ¬ st.Waits := by
    cases st <;> grind [Progress.Free, Progress.Waits]
  obtain ⟨hreading, htask⟩ := hs.none_of_not_waits hwaits
  rw [handleCaptchaPost]
  split
  · exact (trySendCaptchaPage_answered s).remediated hs
  · split
    · exact (trySendCaptchaPage_answered s).remediated hs
    · split
      · exact (applyUnenforceableAction_answered loc a s).remediated hs
      · rw [initiateCaptchaRead]
        by_cases halloc : a.captchaAlloc = true
        · rw [if_pos halloc]
          dsimp only
          by_cases hread : a.captchaRead = .started
          · rw [if_pos hread]
            exact ⟨by simp, .captchaRead, ⟨_, rfl, ⟨hclient, hconfig, hpost⟩, rfl, rfl, htask⟩,
              .inr (.inl ⟨hfree, rfl, rfl⟩)⟩
          · rw [if_neg hread]
            exact (applyUnenforceableAction_answered loc a _).remediated_lost hfree hread
              ⟨_, rfl, ⟨hclient, hconfig, hpost⟩, rfl, hreading, htask⟩
        · rw [if_neg halloc]
          exact (applyUnenforceableAction_answered loc a s).remediated hs

/-- The stages in which a decision is remediated: nothing of AppSec is outstanding. -/
def Progress.Settles (st : Progress) : Prop := st.Free ∨ st.IsCaptcha

theorem handleCaptchaDecision_remediated (hs : s.At req loc st) (hst : st.Settles)
    (hclient : req.clientIp = some clientIp) :
    Remediated req loc a st (handleCaptchaDecision req loc a clientIp s) := by
  rw [handleCaptchaDecision]
  rcases hresume : s.ctx.resumeCaptcha with _ | result
  · have hfree : st.Free := hst.resolve_right (hs.resumeCaptcha_eq_none_iff.mp hresume)
    dsimp only
    split
    · rcases hok : (a.send s.sends).ok .finalize with _ | _
      · rw [sendResponse_of_fails hok]
        exact (applyUnenforceableAction_answered loc a _).of_failedSend.remediated hs
      · rw [sendResponse_of_ok hok]
        exact (answered_sent s _).remediated hs
    · rcases hconfig : loc.captchaConfig with _ | captchaCfg
      · exact (applyUnenforceableAction_answered loc a s).remediated hs
      · dsimp only
        split
        · exact (answered_declined s).remediated hs
        · rw [captchaChallenge]
          rcases hmethod : req.method with _ | _ | _ | _
          · exact (challengePage_answered s).remediated hs
          · exact (challengePage_answered s).remediated hs
          · dsimp only
            split
            · exact (applyUnenforceableAction_answered loc a s).remediated hs
            · exact handleCaptchaPost_remediated (hs.of_eq rfl rfl rfl) hfree hclient hconfig
                hmethod
          · exact (challengePage_answered s).remediated hs
  · exact remediated_of_resume hs hresume

theorem applyLookupRemediation_remediated (lookup : LookupResult) (hs : s.At req loc st)
    (hst : st.Settles) (hclient : req.clientIp = some clientIp) :
    Remediated req loc a st (applyLookupRemediation req loc main a clientIp lookup s) := by
  have hmarked : RequestState.At req loc st { s with remediated := true } := hs.of_eq rfl rfl rfl
  unfold applyLookupRemediation
  dsimp only
  split
  · exact (answered_declined _).remediated hmarked
  · split
    · exact (handleBanDecision_answered _).remediated hmarked
    · exact handleCaptchaDecision_remediated hmarked hst hclient
    · rw [handleUnknownDecision]
      split
      · exact (answered_declined _).remediated hmarked
      · exact (handleBanDecision_answered _).remediated hmarked
      · exact handleCaptchaDecision_remediated hmarked hst hclient

/-! ### The inspection -/

/-- The outcome of an inspection: it waits in one of the stages `waiting`, or has decided and
leaves the request in one of the stages `decided`. -/
structure Examined (req : HttpRequest) (loc : LocConfig) (waiting decided : Progress → Prop)
    (out : HandlerResult × RequestState) : Prop where
  done : out.1 = .done → out.2.finalized = true
  stage : ∃ st, out.2.At req loc st ∧ (out.1 = .bodyReadPending → waiting st) ∧
    (out.1 ≠ .bodyReadPending → decided st)

variable {waiting waiting' decided decided' : Progress → Prop}

theorem Examined.mono (h : Examined req loc waiting decided out)
    (hwaiting : ∀ st, waiting st → waiting' st) (hdecided : ∀ st, decided st → decided' st) :
    Examined req loc waiting' decided' out := by
  obtain ⟨st, hst, hwaits, hdecides⟩ := h.stage
  exact ⟨h.done, st, hst, fun hpending => hwaiting st (hwaits hpending),
    fun hne => hdecided st (hdecides hne)⟩

theorem Answered.inspected {n : ℕ} (h : Answered n s out) (hs : s.At req loc st)
    (hdecided : decided st) : Examined req loc waiting decided out :=
  ⟨h.done, st, hs.of_same h.same, fun hpending => absurd hpending h.answers, fun _ => hdecided⟩

namespace AppSec

variable {call : Inspection} {shmBan : Bool} {body : Option (List UInt8)}

/-- The first stages of AppSec. -/
def Starts (st : Progress) : Prop := st = .appsecRead ∨ st = .appsecTask

/-- The stages of AppSec in which it has decided. -/
def Decides (st : Progress) : Prop := st = .appsecLost ∨ st = .appsecOver

theorem Decides.free (h : Decides st) : st.Free := by
  rcases h with rfl | rfl
  · trivial
  · trivial

/-- The context of the inspection is in place, and nothing is outstanding. -/
structure Primed (req : HttpRequest) (call : Inspection) (shmBan : Bool) (s : RequestState) :
    Prop where
  ctx : ∃ c, s.ctx = .appsec c ∧ c.For req ∧ c.storedResult = .unset ∧ c.clientIp = call.ip ∧
    c.failureAction = call.failureAction ∧ c.shmBan = shmBan
  reading : s.reading = none
  task : s.task = none

theorem Primed.at (h : Primed req call shmBan s) : s.At req loc .appsecLost := by
  obtain ⟨c, hctx, hfor, hunset, -⟩ := h.ctx
  exact ⟨c, hctx, hfor, hunset, h.reading, h.task⟩

/-- The exchange is queued, or the decision is stored at once. -/
theorem queueExchange_inspected (h : Primed req call shmBan s) :
    Examined req loc (· = .appsecTask) Decides (queueExchange req loc a call body shmBan s) := by
  obtain ⟨c, hctx, hfor, hunset, hip, haction, hban⟩ := h.ctx
  rw [queueExchange, postTask]
  by_cases hposts : a.posts = true ∧ s.task = none
  · rw [if_pos hposts]
    refine ⟨by simp, .appsecTask, ⟨c, body, hctx, hfor, hunset, h.reading, ?_⟩, fun _ => rfl,
      fun hne => absurd rfl hne⟩
    rw [hip, haction, hban]
  · rw [if_neg hposts]
    have hanswer : Answered 1 s (failClosed req loc a (some call.ip) call.failureAction s) :=
      failClosed_answered (some call.ip) call.failureAction s
    dsimp only
    split
    · next t heq =>
      rw [heq] at hanswer
      exact hanswer.inspected h.at (.inl rfl)
    · next result t hne heq =>
      rw [heq] at hanswer
      have hcall : t.ctx = .appsec c := hanswer.same.ctx.trans hctx
      refine ⟨fun hdone => absurd hdone hne, .appsecOver,
        ⟨{ c with storedResult := .encode result }, ?_, hfor, ?_, ?_, ?_⟩,
        fun hpending => absurd hpending hanswer.answers, fun _ => .inr rfl⟩
      · simp only [hcall, ModuleCtx.storeResult]
      · refine ⟨?_, fun hdone => ?_⟩
        · cases result <;> simp [StoredPhaseResult.encode]
        · cases result <;> simp_all [StoredPhaseResult.encode]
      · exact hanswer.same.reading.trans h.reading
      · exact hanswer.same.task.trans h.task

theorem inspectWithBody_primed (h : Primed req call shmBan s) :
    Examined req loc (· = .appsecTask) Decides
      (inspectWithBody req loc a call body shmBan s) := by
  obtain ⟨c, hctx, -⟩ := h.ctx
  rw [inspectWithBody, hctx]
  exact queueExchange_inspected h

theorem inspectWithBody_idle (h : s.At req loc .idle) (hclient : req.clientIp = some call.ip) :
    Examined req loc (· = .appsecTask) Progress.Free
      (inspectWithBody req loc a call body shmBan s) := by
  rw [inspectWithBody, h.1]
  dsimp only
  split
  · have hprimed : Primed req call shmBan { s with ctx := newContext call shmBan } :=
      ⟨⟨_, rfl, hclient, rfl, rfl, rfl, rfl⟩, h.2.1, h.2.2⟩
    exact (queueExchange_inspected hprimed).mono (fun _ => id) fun _ => Decides.free
  · exact (failClosed_answered (some call.ip) call.failureAction s).inspected h trivial

theorem inspectOrDropUnforwardableBody_primed (h : Primed req call shmBan s) :
    Examined req loc (· = .appsecTask) Decides
      (inspectOrDropUnforwardableBody req loc a call shmBan s) := by
  rw [inspectOrDropUnforwardableBody]
  split
  · exact (failClosed_answered (some call.ip) .deny s).inspected h.at (.inl rfl)
  · exact inspectWithBody_primed h

theorem inspectOrDropUnforwardableBody_idle (h : s.At req loc .idle)
    (hclient : req.clientIp = some call.ip) :
    Examined req loc (· = .appsecTask) Progress.Free
      (inspectOrDropUnforwardableBody req loc a call shmBan s) := by
  rw [inspectOrDropUnforwardableBody]
  split
  · exact (failClosed_answered (some call.ip) .deny s).inspected h trivial
  · exact inspectWithBody_idle h hclient

theorem initiateAppsecBodyRead_idle (h : s.At req loc .idle)
    (hclient : req.clientIp = some call.ip) :
    Examined req loc Starts Progress.Free (initiateAppsecBodyRead req loc a call shmBan s) := by
  have hlost : RequestState.At req loc .appsecLost { s with ctx := newContext call shmBan } :=
    ⟨_, rfl, hclient, rfl, h.2⟩
  rw [initiateAppsecBodyRead]
  split
  · rcases a.appsecRead with _ | _ | _
    · exact ⟨by simp, .appsecRead, ⟨_, rfl, hclient, rfl, rfl, h.2.2⟩, fun _ => .inl rfl,
        fun hne => absurd rfl hne⟩
    · exact (answered_forbidden _).inspected hlost trivial
    · exact (failClosed_answered (some call.ip) call.failureAction _).inspected hlost trivial
  · exact (failClosed_answered (some call.ip) call.failureAction s).inspected h trivial

theorem inspectRequestBody_idle (h : s.At req loc .idle) (hclient : req.clientIp = some call.ip) :
    Examined req loc Starts Progress.Free (inspectRequestBody req loc a call shmBan s) := by
  have htask (st : Progress) (hst : st = .appsecTask) : Starts st := .inr hst
  rw [inspectRequestBody]
  split
  · split
    · exact (inspectWithBody_idle h hclient).mono htask fun _ => id
    · exact (inspectOrDropUnforwardableBody_idle h hclient).mono htask fun _ => id
    · exact (inspectOrDropUnforwardableBody_idle h hclient).mono htask fun _ => id
  · split
    · exact (inspectOrDropUnforwardableBody_idle h hclient).mono htask fun _ => id
    · exact initiateAppsecBodyRead_idle h hclient

/-- An inspection is one of the client. -/
theorem clientIp_of_appsecContext {call : Inspection}
    (h : appsecContext req loc config a s = (.ok call, t)) : req.clientIp = some call.ip := by
  rw [appsecContext] at h
  dsimp only at h
  split at h
  · simp at h
  · split at h
    · simp at h
    · rcases hclient : req.clientIp with _ | ip
      · rw [hclient] at h
        dsimp only at h
        split at h <;> simp at h
      · rw [hclient] at h
        dsimp only at h
        rcases config with _ | config
        · dsimp only at h
          split at h <;> simp at h
        · obtain ⟨hcall, -⟩ := Prod.mk.inj h
          rw [← Except.ok.inj hcall]

/-- The first inspection of a request. -/
theorem inspect_idle (h : s.At req loc .idle) :
    Examined req loc Starts Progress.Free (inspect req loc config a shmBan s) := by
  have hs : RequestState.At req loc .idle { s with inspected := true } := h.of_eq rfl rfl rfl
  have hresume : s.ctx.resumeAppSec = none := by
    rw [h.1]
    rfl
  rw [inspect]
  dsimp only
  rw [hresume]
  rcases appsecContext_answered req loc a config { s with inspected := true } with
    ⟨result, t, heq, hanswer⟩ | ⟨call, heq⟩
  · rw [heq]
    exact (hanswer.inspected hs trivial)
  · have hclient := clientIp_of_appsecContext heq
    rw [heq]
    dsimp only
    split
    · exact inspectRequestBody_idle hs hclient
    · exact (inspectWithBody_idle hs hclient).mono (fun st hst => .inr hst) fun _ => id

variable (a config shmBan) in
/-- A further run of the handler reads what is stored. -/
theorem inspect_resumed (h : s.At req loc st) (hcaptcha : ¬ st.IsCaptcha) (hidle : st ≠ .idle) :
    ∃ result, inspect req loc config a shmBan s = (result, { s with inspected := true }) ∧
      result ≠ .done ∧ (result = .bodyReadPending ↔ st ≠ .appsecOver) := by
  obtain ⟨c, hctx, hstored⟩ : ∃ c, s.ctx = .appsec c ∧
      (c.storedResult = .unset ∧ st ≠ .appsecOver ∨
        (c.storedResult ≠ .unset ∧ c.storedResult ≠ .done) ∧ st = .appsecOver) := by
    unfold RequestState.At at h
    cases st <;> grind [Progress.IsCaptcha]
  have hinspect : inspect req loc config a shmBan s =
      (c.storedResult.decode.getD .bodyReadPending, { s with inspected := true }) := by
    rw [inspect, hctx]
    rfl
  refine ⟨_, hinspect, ?_⟩
  rcases hstored with ⟨hunset, hst⟩ | ⟨hover, hst⟩
  · rw [hunset]
    exact ⟨by decide, iff_of_true rfl hst⟩
  · obtain ⟨hdone, hpending⟩ := StoredPhaseResult.getD_decode_ne hover.1 hover.2
    exact ⟨hdone, iff_of_false hpending (not_not_intro hst)⟩

end AppSec

/-! ### The callbacks -/

/-- The request is answered, or has come to one of these stages. -/
def Reaches (req : HttpRequest) (loc : LocConfig) (stages : Progress → Prop) (s : RequestState) :
    Prop :=
  s.finalized = true ∨ ∃ st, s.At req loc st ∧ stages st

namespace AppSec

variable {shmBan : Bool}

/-- The outcome of an inspection outside the phase is stored. -/
theorem finish_reaches (h : Examined req loc waiting Decides out) :
    Reaches req loc (fun st => waiting st ∨ st = .appsecOver) (finish out.1 out.2) := by
  obtain ⟨result, t⟩ := out
  obtain ⟨st, hst, hwaits, hdecides⟩ := h.stage
  have hstore (hne : result ≠ .bodyReadPending) (hdone : result ≠ .done) :
      RequestState.At req loc .appsecOver { t with ctx := t.ctx.storeResult result } := by
    obtain ⟨c, hctx, hfor, hreading, htask⟩ : ∃ c, t.ctx = .appsec c ∧ c.For req ∧
        t.reading = none ∧ t.task = none := by
      rcases hdecides hne with rfl | rfl
      · obtain ⟨c, hctx, hfor, -, hnone⟩ := hst
        exact ⟨c, hctx, hfor, hnone⟩
      · obtain ⟨c, hctx, hfor, -, hnone⟩ := hst
        exact ⟨c, hctx, hfor, hnone⟩
    refine ⟨{ c with storedResult := .encode result }, ?_, hfor, ?_, hreading, htask⟩
    · simp only [hctx, ModuleCtx.storeResult]
    · refine ⟨?_, fun hencoded => ?_⟩
      · cases result <;> simp [StoredPhaseResult.encode]
      · cases result <;> simp_all [StoredPhaseResult.encode]
  rcases result with _ | _ | _ | _ | _
  · exact .inr ⟨.appsecOver, hstore (by simp) (by simp), .inr rfl⟩
  · exact .inl rfl
  · exact .inr ⟨.appsecOver, hstore (by simp) (by simp), .inr rfl⟩
  · exact .inl (h.done rfl)
  · exact .inr ⟨st, hst, .inl (hwaits rfl)⟩

variable (a config) in
/-- **The end of a body read**: AppSec finds its own context, and nothing is outstanding. -/
theorem appsecBodyHandler_reaches (h : s.At req loc .appsecLost) :
    Reaches req loc (fun st => st = .appsecTask ∨ st = .appsecOver)
      (appsecBodyHandler req loc config a s) := by
  obtain ⟨c, hctx, hfor, hunset, hreading, htask⟩ := id h
  rw [appsecBodyHandler, hctx]
  rcases config with _ | config
  · exact finish_reaches ((failClosed_answered (some c.clientIp) c.failureAction s).inspected h
      (.inl rfl))
  · have hprimed : Primed req ⟨config, c.clientIp, c.failureAction, c.internalChallenge⟩ c.shmBan
        s := ⟨⟨c, hctx, hfor, hunset, rfl, rfl, rfl⟩, hreading, htask⟩
    dsimp only
    split
    · exact finish_reaches (inspectWithBody_primed hprimed)
    · exact finish_reaches (inspectOrDropUnforwardableBody_primed hprimed)
    · exact finish_reaches (inspectOrDropUnforwardableBody_primed hprimed)

variable (a) in
/-- **The end of an exchange**: the completion finds the context of its inspection. -/
theorem complete_reaches {ip : IpAddr} {failureAction : AppSecFailureAction}
    {exchange : AppSecExchange} (h : s.At req loc .appsecLost) :
    Reaches req loc (· = .appsecOver)
      (complete req loc a ip failureAction shmBan exchange s) := by
  obtain ⟨c, hctx, -⟩ := id h
  have hfinish {out : HandlerResult × RequestState}
      (hout : Examined req loc (fun _ => False) Decides out) :
      Reaches req loc (· = .appsecOver) (finish out.1 out.2) :=
    (finish_reaches hout).imp_right fun ⟨st, hst, hover⟩ => ⟨st, hst, hover.resolve_left id⟩
  rw [complete, hctx]
  rcases exchange.response with _ | response
  · exact hfinish ((failClosed_answered (some ip) failureAction s).inspected h (.inl rfl))
  · exact hfinish ((applyAppsecResponse_answered ip response failureAction s).inspected h
      (.inl rfl))

end AppSec

variable (a) in
/-- **The end of the body read** of a form submission. -/
theorem captchaBodyHandler_reaches (h : s.At req loc .captchaLost) :
    Reaches req loc (· = .captchaTask) (captchaBodyHandler loc a s) := by
  obtain ⟨c, hctx, hfor, hunset, hreading, htask⟩ := h
  rw [captchaBodyHandler, hctx]
  dsimp only
  split
  · exact .inl rfl
  · split
    · split
      · exact .inl rfl
      · rw [postTask]
        by_cases hposts : a.posts = true ∧ s.task = none
        · rw [if_pos hposts]
          exact .inr ⟨.captchaTask, ⟨c, hctx, hfor, hunset, hreading, rfl⟩, rfl⟩
        · rw [if_neg hposts]
          exact .inl rfl
    · exact .inl rfl
    · exact .inl rfl

/-- **The provider's answer**: what is stored is that the verification fails open. -/
theorem completeVerification_reaches (result : VerifyResult) (h : s.At req loc .captchaLost) :
    Reaches req loc (· = .captchaOver) (completeVerification loc result s) := by
  obtain ⟨c, hctx, hfor, hunset, hnone⟩ := h
  rw [completeVerification, hctx]
  dsimp only
  split
  · exact .inl rfl
  · split
    · refine .inr ⟨.captchaOver,
        ⟨{ c with storedResult := .declined }, ?_, ⟨hfor.1, hfor.2, hfor.3⟩, by simp, hnone⟩, rfl⟩
      simp only [finishCaptcha, hctx, ModuleCtx.storeResult, StoredPhaseResult.encode]
    · exact .inl rfl

end CrowdSecBouncer
