import CrowdSecBouncer.Http.Remediation

/-!
# Failing closed

With `unenforceable_action block` a client under a ban or a captcha should not get through
even when no response can be sent. What happens then is decided by the last response, the
empty one of `finish_block_ban`: if that fails too, its result is `Forbidden` for the default
ban status 403, but `Error` for every other status, and `Error` means that the request
continues. `staysClosed_iff` says exactly when that happens, in terms of the responses that the
configuration prescribes (`banAttempts`, `captchaAttempts`).
-/

namespace CrowdSecBouncer

/-! ### The prescribed responses -/

/-- The attempts to send a response from number `i` on all fail. -/
def AllFail (a : Answers) (i : ℕ) : List HeaderFailureAction → Prop
  | [] => True
  | headerFailure :: rest => (a.send i).ok headerFailure = false ∧ AllFail a (i + 1) rest

instance decidableAllFail (a : Answers) (i : ℕ) (l : List HeaderFailureAction) :
    Decidable (AllFail a i l) := by
  induction l generalizing i with
  | nil => exact isTrue trivial
  | cons headerFailure rest ih =>
    have := ih (i + 1)
    exact inferInstanceAs (Decidable (_ ∧ _))

/-- The responses tried for a ban, each one when the one before has failed. -/
def banAttempts (req : HttpRequest) (loc : LocConfig) : List HeaderFailureAction :=
  (if loc.banAction = some .redirect ∧ loc.banRedirectUrl.isSome then [.finalize] else []) ++
    (if isStaticAssetRequest req loc then [.finalize]
    else [if loc.banTemplate.isSome then .headOrError else .finalize, .finalize])

/-- The request is a form submission whose body the captcha would read. -/
def SubmitsCaptcha (req : HttpRequest) (loc : LocConfig) : Prop :=
  isStaticAssetRequest req loc = false ∧ loc.captchaConfig.isSome = true ∧
    loc.captchaTemplate.isSome = true ∧ req.method = .post ∧ req.isFormUrlencoded = true ∧
      req.isBodySizeAcceptable = true

instance (req : HttpRequest) (loc : LocConfig) : Decidable (SubmitsCaptcha req loc) :=
  inferInstanceAs (Decidable (_ ∧ _))

/-- The responses tried for a captcha. -/
def captchaAttempts (req : HttpRequest) (loc : LocConfig) : List HeaderFailureAction :=
  if isStaticAssetRequest req loc then [.finalize, .finalize]
  else if loc.captchaConfig.isNone ∨ loc.captchaTemplate.isNone ∨ SubmitsCaptcha req loc then
    [.finalize]
  else [.headOrError, .finalize]

/-! ### Each remediation -/

variable {req : HttpRequest} {loc : LocConfig} {main : MainConfig} {a : Answers}
  {s : RequestState} {clientIp : IpAddr}

theorem finishBlockBan_continues_iff :
    (finishBlockBan loc a s).1.Continues ↔
      loc.banStatusCode ≠ 403 ∧ AllFail a s.sends [.finalize] := by
  rcases hok : (a.send s.sends).ok .finalize with _ | _
  · by_cases hstatus : loc.banStatusCode = 403
    · simp [finishBlockBan, sendResponse, hok, AllFail, HandlerResult.continues_iff,
        banBlockStatus, HTTP_FORBIDDEN, hstatus]
    · simp [finishBlockBan, sendResponse, hok, AllFail, HandlerResult.continues_iff,
        banBlockStatus, HTTP_FORBIDDEN, hstatus]
  · simp [finishBlockBan, sendResponse, hok, AllFail, HandlerResult.continues_iff]

section Block

variable (hblock : loc.unenforceableActionOrDefault = .block)

include hblock

theorem applyUnenforceableAction_continues_iff :
    (applyUnenforceableAction loc a s).1.Continues ↔
      loc.banStatusCode ≠ 403 ∧ AllFail a s.sends [.finalize] := by
  rw [applyUnenforceableAction, hblock]
  exact finishBlockBan_continues_iff

theorem trySendCaptchaPage_continues_iff (htemplate : ¬ loc.captchaTemplate.isNone) :
    (trySendCaptchaPage loc a s).1.Continues ↔
      loc.banStatusCode ≠ 403 ∧ AllFail a s.sends [.headOrError, .finalize] := by
  rw [trySendCaptchaPage]
  rw [if_neg htemplate]
  rcases hok : (a.send s.sends).ok .headOrError with _ | _
  · rw [sendResponse_of_fails hok, AllFail, hok]
    simpa using applyUnenforceableAction_continues_iff hblock
  · simp [sendResponse_of_ok hok, AllFail, hok, HandlerResult.continues_iff]

theorem sendBan_continues_iff :
    (sendBan req loc a s).1.Continues ↔
      loc.banStatusCode ≠ 403 ∧ AllFail a s.sends
        (if isStaticAssetRequest req loc then [.finalize]
        else [if loc.banTemplate.isSome then .headOrError else .finalize, .finalize]) := by
  rw [sendBan]
  split
  · exact finishBlockBan_continues_iff
  · generalize (if loc.banTemplate.isSome then HeaderFailureAction.headOrError else .finalize)
      = headerFailure
    rcases hok : (a.send s.sends).ok headerFailure with _ | _
    · rw [sendResponse_of_fails hok, AllFail, hok]
      simpa using applyUnenforceableAction_continues_iff hblock
    · simp [sendResponse_of_ok hok, AllFail, hok, HandlerResult.continues_iff]

/-- A ban lets the request continue when its status is not 403 and every prescribed response
fails. -/
theorem handleBanDecision_continues_iff :
    (handleBanDecision req loc a s).1.Continues ↔
      loc.banStatusCode ≠ 403 ∧ AllFail a s.sends (banAttempts req loc) := by
  rw [handleBanDecision, tryBanRedirect, banAttempts]
  by_cases hredirect : loc.banAction = some .redirect ∧ loc.banRedirectUrl.isSome
  · rw [if_pos hredirect, if_pos hredirect, List.singleton_append]
    rcases hok : (a.send s.sends).ok .finalize with _ | _
    · rw [sendResponse_of_fails hok, AllFail, hok]
      simpa using sendBan_continues_iff hblock
    · simp [sendResponse_of_ok hok, AllFail, hok, HandlerResult.continues_iff]
  · rw [if_neg hredirect, if_neg hredirect, List.nil_append]
    exact sendBan_continues_iff hblock

theorem handleCaptchaPost_continues_iff {config : CaptchaConfig}
    (htemplate : ¬ loc.captchaTemplate.isNone) :
    (handleCaptchaPost req loc a config clientIp s).1.Continues ↔
      loc.banStatusCode ≠ 403 ∧
        if req.isFormUrlencoded ∧ req.isBodySizeAcceptable then
          AllFail a s.sends [.finalize] ∧ ¬ (a.captchaAlloc ∧ a.captchaRead = .started)
        else AllFail a s.sends [.headOrError, .finalize] := by
  rw [handleCaptchaPost]
  by_cases hform : req.isFormUrlencoded = true
  · by_cases hsize : req.isBodySizeAcceptable = true
    · rw [if_neg (by simp [hform]), if_neg (by simp [hsize]), if_neg htemplate,
        if_pos ⟨hform, hsize⟩]
      rw [initiateCaptchaRead]
      by_cases halloc : a.captchaAlloc = true
      · by_cases hread : a.captchaRead = .started
        · simp [halloc, hread, HandlerResult.continues_iff]
        · rw [if_pos halloc, if_neg hread]
          simpa [hread] using applyUnenforceableAction_continues_iff hblock
      · rw [if_neg halloc]
        simpa [halloc] using applyUnenforceableAction_continues_iff hblock
    · rw [if_neg (by simp [hform]), if_pos (by simpa using hsize), if_neg (by simp [hsize])]
      exact trySendCaptchaPage_continues_iff hblock htemplate
  · rw [if_pos (by simpa using hform), if_neg (by simp [hform])]
    exact trySendCaptchaPage_continues_iff hblock htemplate

omit hblock in
theorem challengePage_fst :
    (challengePage loc a s).1 = (trySendCaptchaPage loc a s).1 := by
  rw [challengePage]
  split
  · next heq => rw [heq]
  · next heq => rw [heq]

theorem captchaChallenge_continues_iff {config : CaptchaConfig}
    (hstatic : isStaticAssetRequest req loc = false) (hconfig : loc.captchaConfig.isSome = true) :
    (captchaChallenge req loc a config clientIp s).1.Continues ↔
      loc.banStatusCode ≠ 403 ∧ AllFail a s.sends (captchaAttempts req loc) ∧
        ¬ (SubmitsCaptcha req loc ∧ a.captchaAlloc ∧ a.captchaRead = .started) := by
  have hsome : loc.captchaConfig ≠ none := Option.isSome_iff_ne_none.mp hconfig
  rcases htemplate : loc.captchaTemplate with _ | template
  · -- without a template every method ends in the action for what cannot be enforced
    have hsubmit : ¬ SubmitsCaptcha req loc := fun h => absurd h.2.2.1 (by simp [htemplate])
    have hattempts : captchaAttempts req loc = [.finalize] := by
      simp [captchaAttempts, hstatic, htemplate]
    have hblocked := applyUnenforceableAction_continues_iff (a := a) (s := s) hblock
    rw [hattempts]
    rw [captchaChallenge]
    rcases req.method with _ | _ | _ | _
    · simpa [hsubmit, challengePage_fst, trySendCaptchaPage, htemplate] using hblocked
    · simpa [hsubmit, challengePage_fst, trySendCaptchaPage, htemplate] using hblocked
    · simpa [hsubmit, htemplate] using hblocked
    · simpa [hsubmit, challengePage_fst, trySendCaptchaPage, htemplate] using hblocked
  · have htemplate' : ¬ loc.captchaTemplate.isNone := by simp [htemplate]
    have hpage (hne : req.method ≠ .post) : (challengePage loc a s).1.Continues ↔
        loc.banStatusCode ≠ 403 ∧ AllFail a s.sends (captchaAttempts req loc) ∧
          ¬ (SubmitsCaptcha req loc ∧ a.captchaAlloc ∧ a.captchaRead = .started) := by
      have hsubmit : ¬ SubmitsCaptcha req loc := fun h => hne h.2.2.2.1
      rw [challengePage_fst, trySendCaptchaPage_continues_iff hblock htemplate']
      simp [hsubmit, captchaAttempts, hstatic, hsome, htemplate]
    rw [captchaChallenge]
    rcases hmethod : req.method with _ | _ | _ | _
    · exact hpage (by simp [hmethod])
    · exact hpage (by simp [hmethod])
    · -- a POST is read as a form, or answered as the other methods are
      have hsubmit : SubmitsCaptcha req loc ↔
          req.isFormUrlencoded = true ∧ req.isBodySizeAcceptable = true := by
        simp [SubmitsCaptcha, hstatic, hconfig, htemplate, hmethod]
      dsimp only
      rw [if_neg htemplate', handleCaptchaPost_continues_iff hblock htemplate']
      by_cases hform : SubmitsCaptcha req loc
      · rw [if_pos (hsubmit.mp hform)]
        simp [captchaAttempts, hstatic, hform, RequestState.recordDropped]
      · rw [if_neg (mt hsubmit.mpr hform)]
        simp [captchaAttempts, hstatic, hform, hsome, htemplate, RequestState.recordDropped]
    · exact hpage (by simp [hmethod])

/-- A captcha without a valid session lets the request continue when a stored outcome says
so, or when the ban status is not 403, every prescribed response fails and no body read
starts. -/
theorem handleCaptchaDecision_continues_iff (hsession : a.sessionValid = false) :
    (handleCaptchaDecision req loc a clientIp s).1.Continues ↔
      match s.ctx.resumeCaptcha with
      | some result => result.Continues
      | none =>
        loc.banStatusCode ≠ 403 ∧ AllFail a s.sends (captchaAttempts req loc) ∧
          ¬ (SubmitsCaptcha req loc ∧ a.captchaAlloc ∧ a.captchaRead = .started) := by
  rw [handleCaptchaDecision]
  rcases hctx : s.ctx.resumeCaptcha with _ | result
  · dsimp only
    by_cases hstatic : isStaticAssetRequest req loc = true
    · -- no page is sent for a static asset
      have hsubmit : ¬ SubmitsCaptcha req loc := fun h =>
        absurd (hstatic.symm.trans h.1) (by simp)
      rw [captchaAttempts]
      rw [if_pos hstatic, if_pos hstatic]
      rcases hok : (a.send s.sends).ok .finalize with _ | _
      · rw [sendResponse_of_fails hok, AllFail, hok]
        simpa [hsubmit] using applyUnenforceableAction_continues_iff hblock
      · simp [sendResponse_of_ok hok, AllFail, hok, HandlerResult.continues_iff]
    · rw [if_neg hstatic]
      rcases hconfig : loc.captchaConfig with _ | config
      · have hsubmit : ¬ SubmitsCaptcha req loc := fun h =>
          absurd h.2.1 (by simp [hconfig])
        have hattempts : captchaAttempts req loc = [.finalize] := by
          simp [captchaAttempts, hstatic, hconfig]
        rw [hattempts]
        simpa [hsubmit] using applyUnenforceableAction_continues_iff hblock
      · simp only [hsession]
        exact captchaChallenge_continues_iff hblock (by simpa using hstatic) (by simp [hconfig])
  · rfl

end Block

/-! ### The policy -/

/-- The request does not continue, unless its client has solved a captcha. -/
def StaysClosed (req : HttpRequest) (loc : LocConfig) (main : MainConfig) (a : Answers)
    (clientIp : IpAddr) (lookup : LookupResult) (s : RequestState) : Prop :=
  (applyLookupRemediation req loc main a clientIp lookup s).1.Continues →
    lookup.decisionType = .captcha ∧ a.sessionValid = true

/-- A stored captcha outcome lets the request continue; or the ban status is not 403 and every
response that the configuration prescribes for the decision fails, and there is no body read
to wait for. -/
def FailsOpen (req : HttpRequest) (loc : LocConfig) (a : Answers) (lookup : LookupResult)
    (s : RequestState) : Prop :=
  if lookup.decisionType = .ban then
    loc.banStatusCode ≠ 403 ∧ AllFail a s.sends (banAttempts req loc)
  else
    a.sessionValid = false ∧
      match s.ctx.resumeCaptcha with
      | some result => result.Continues
      | none =>
        loc.banStatusCode ≠ 403 ∧ AllFail a s.sends (captchaAttempts req loc) ∧
          ¬ (SubmitsCaptcha req loc ∧ a.captchaAlloc ∧ a.captchaRead = .started)

/-- **Failing closed.** Under `unenforceable_action block` a ban or captcha decision fails
closed exactly when `FailsOpen` does not hold. -/
theorem staysClosed_iff {lookup : LookupResult}
    (hblock : loc.unenforceableActionOrDefault = .block) (hfound : lookup.found = true)
    (htype : lookup.decisionType = .ban ∨ lookup.decisionType = .captcha) :
    StaysClosed req loc main a clientIp lookup s ↔ ¬ FailsOpen req loc a lookup s := by
  rw [StaysClosed, FailsOpen, applyLookupRemediation]
  rw [if_neg (by simp [hfound])]
  rcases htype with htype | htype
  · simp only [htype, if_true, reduceCtorEq, false_and, imp_false]
    exact not_congr (handleBanDecision_continues_iff hblock)
  · simp only [htype, reduceCtorEq, if_false, true_and]
    rcases hsession : a.sessionValid with _ | _
    · simp only [reduceCtorEq, imp_false, true_and]
      exact not_congr (handleCaptchaDecision_continues_iff hblock hsession)
    · simp

/-- A location that answers bans with 429 and blocks what it cannot enforce. -/
def tooManyRequestsLoc : LocConfig :=
  { enabled := some true, banStatus := some 429, unenforceableAction := some .block }

/-- The request pool is exhausted: no response can be sent. -/
def exhaustedPool : Answers :=
  { lookup := ⟨true, .ban, .crowdsec, 0⟩
    send := fun _ => ⟨false, false, false, false⟩
    sessionValid := false, appsecAlloc := false, captchaAlloc := false
    appsecRead := .failed, captchaRead := .failed, posts := false, captchaResponse := false }

/-- The policy at a location that answers bans with 429. -/
theorem staysClosed_iff_tooManyRequests :
    StaysClosed plainRequest tooManyRequestsLoc {} exhaustedPool (.v4 #v[192, 0, 2, 1])
        ⟨true, .ban, .crowdsec, 0⟩ (.initial none) ↔
      ¬ FailsOpen plainRequest tooManyRequestsLoc exhaustedPool ⟨true, .ban, .crowdsec, 0⟩
        (.initial none) :=
  staysClosed_iff rfl rfl (.inl rfl)

theorem not_staysClosed :
    ¬ ∀ (req : HttpRequest) (loc : LocConfig) (main : MainConfig) (a : Answers)
      (clientIp : IpAddr) (lookup : LookupResult) (s : RequestState),
      loc.validateEnforcement = .ok () → loc.unenforceableActionOrDefault = .block →
        lookup.found = true → (lookup.decisionType = .ban ∨ lookup.decisionType = .captcha) →
          StaysClosed req loc main a clientIp lookup s := by
  intro h
  have hclosed := h plainRequest tooManyRequestsLoc {} exhaustedPool (.v4 #v[192, 0, 2, 1])
    ⟨true, .ban, .crowdsec, 0⟩ (.initial none) rfl rfl rfl (.inl rfl)
  -- both empty responses fail, and the result is `Error`
  exact absurd (hclosed (by decide +kernel)).1 (by decide)

end CrowdSecBouncer
