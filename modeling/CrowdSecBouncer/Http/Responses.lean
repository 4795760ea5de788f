import CrowdSecBouncer.Http.AppSec

/-!
# What a response changes

A ban, a page or a failing closed ends in attempts to send a response, and nothing else of the
request changes but the drops that are counted (`SameRequest`). `Answered` says this of a
function together with how many drops it counts at most: none where the request is let through.
Each function that only responds has its lemma; what other modules want to know of such a
function follows from it.
-/

namespace CrowdSecBouncer

/-- The drops that are counted for a request, whatever their origin. -/
def RequestState.drops (s : RequestState) : ℕ := s.dropped + s.appsecDropped

theorem RequestState.drops_recordDropped (s : RequestState) :
    s.recordDropped.drops = s.drops + 1 :=
  Nat.add_right_comm _ _ _

theorem RequestState.drops_recordAppsecDropped (s : RequestState) :
    s.recordAppsecDropped.drops = s.drops + 1 :=
  (Nat.add_assoc _ _ _).symm

/-- From `s` to `t` responses are sent and drops counted, and nothing else changes. -/
structure SameRequest (s t : RequestState) : Prop where
  ctx : t.ctx = s.ctx
  body : t.body = s.body
  reading : t.reading = s.reading
  task : t.task = s.task
  processed : t.processed = s.processed
  inspected : t.inspected = s.inspected
  remediated : t.remediated = s.remediated

theorem SameRequest.trans {s t u : RequestState} (h : SameRequest s t) (h' : SameRequest t u) :
    SameRequest s u where
  ctx := h'.ctx.trans h.ctx
  body := h'.body.trans h.body
  reading := h'.reading.trans h.reading
  task := h'.task.trans h.task
  processed := h'.processed.trans h.processed
  inspected := h'.inspected.trans h.inspected
  remediated := h'.remediated.trans h.remediated

/-- The updates that a response makes. -/
theorem sameRequest_update (s : RequestState) (sends : ℕ) (finalized : Bool)
    (dropped appsecDropped : ℕ) :
    SameRequest s { s with sends, finalized, dropped, appsecDropped } :=
  ⟨rfl, rfl, rfl, rfl, rfl, rfl, rfl⟩

/-- A response is sent, or the attempt is given up: at most `n` drops are counted, and none
where the request is let through. -/
structure Answered (n : ℕ) (s : RequestState) (out : HandlerResult × RequestState) : Prop where
  same : SameRequest s out.2
  drops : out.2.drops ≤ s.drops + n
  declined : out.1 = .declined → out.2.drops ≤ s.drops
  done : out.1 = .done → out.2.finalized = true
  answers : out.1 ≠ .bodyReadPending

variable {req : HttpRequest} {loc : LocConfig} {a : Answers} {n : ℕ} {s t : RequestState}
  {out : HandlerResult × RequestState}

theorem Answered.mono (h : Answered 0 s out) : Answered n s out :=
  { h with drops := h.drops.trans (Nat.le_add_right _ n) }

/-- A first attempt has failed. -/
theorem Answered.of_failedSend {sends : ℕ} (h : Answered n { s with sends } out) :
    Answered n s out :=
  { h with same := (sameRequest_update s sends s.finalized s.dropped s.appsecDropped).trans h.same }

/-- A response that was sent. -/
theorem answered_sent (s : RequestState) (sends : ℕ) :
    Answered 0 s (.done, { s with sends, finalized := true }) :=
  ⟨sameRequest_update s _ _ _ _, le_rfl, by simp, fun _ => rfl, by simp⟩

/-- A response that is counted once it was sent. -/
theorem answered_sent_counted (s : RequestState) (sends : ℕ) :
    Answered 1 s (.done, RequestState.recordDropped { s with sends, finalized := true }) :=
  ⟨sameRequest_update s _ _ _ _, (RequestState.drops_recordDropped _).le, by simp, fun _ => rfl,
    by simp⟩

theorem answered_declined (s : RequestState) : Answered 0 s (.declined, s) :=
  ⟨sameRequest_update s _ _ _ _, le_rfl, fun _ => le_rfl, by simp, by simp⟩

theorem answered_forbidden (s : RequestState) : Answered 0 s (.forbidden, s) :=
  ⟨sameRequest_update s _ _ _ _, le_rfl, by simp, by simp, by simp⟩

/-! ### Bans -/

variable (loc a s) in
theorem finishBlockBan_answered : Answered 0 s (finishBlockBan loc a s) := by
  rw [finishBlockBan]
  rcases hok : (a.send s.sends).ok .finalize with _ | _
  · rw [sendResponse_of_fails hok]
    dsimp only
    split
    · exact (answered_forbidden _).of_failedSend
    · exact ⟨sameRequest_update s _ _ _ _, le_rfl, by simp, by simp, by simp⟩
  · rw [sendResponse_of_ok hok]
    exact answered_sent s _

variable (loc a s) in
theorem finishBlockBan_ne_declined : (finishBlockBan loc a s).1 ≠ .declined := by
  rw [finishBlockBan]
  rcases hok : (a.send s.sends).ok .finalize with _ | _
  · rw [sendResponse_of_fails hok]
    dsimp only
    split <;> simp
  · simp [sendResponse_of_ok hok]

variable (loc a s) in
theorem applyUnenforceableAction_answered : Answered 0 s (applyUnenforceableAction loc a s) := by
  rw [applyUnenforceableAction]
  split
  · exact answered_declined s
  · exact finishBlockBan_answered loc a s

/-- A drop is counted before a static asset is answered, which never lets it through, and after
any other response was sent. -/
theorem sendBan_answered (s : RequestState) : Answered 1 s (sendBan req loc a s) := by
  rw [sendBan]
  split
  · have hanswer := finishBlockBan_answered loc a s.recordDropped
    refine ⟨(sameRequest_update s _ _ _ _).trans hanswer.same, ?_, fun hdeclined => ?_,
      hanswer.done, hanswer.answers⟩
    · calc (finishBlockBan loc a s.recordDropped).2.drops
          ≤ s.recordDropped.drops := hanswer.drops
        _ = s.drops + 1 := s.drops_recordDropped
    · exact absurd hdeclined (finishBlockBan_ne_declined loc a _)
  · generalize (if loc.banTemplate.isSome then HeaderFailureAction.headOrError
      else .finalize) = headerFailure
    rcases hok : (a.send s.sends).ok headerFailure with _ | _
    · rw [sendResponse_of_fails hok]
      exact (applyUnenforceableAction_answered loc a _).mono.of_failedSend
    · rw [sendResponse_of_ok hok]
      exact answered_sent_counted s _

theorem handleBanDecision_answered (s : RequestState) :
    Answered 1 s (handleBanDecision req loc a s) := by
  rw [handleBanDecision, tryBanRedirect]
  by_cases hredirect : loc.banAction = some .redirect ∧ loc.banRedirectUrl.isSome
  · rw [if_pos hredirect]
    rcases hok : (a.send s.sends).ok .finalize with _ | _
    · rw [sendResponse_of_fails hok]
      exact (sendBan_answered _).of_failedSend
    · rw [sendResponse_of_ok hok]
      exact answered_sent_counted s _
  · rw [if_neg hredirect]
    exact sendBan_answered s

/-! ### Pages -/

theorem trySendCaptchaPage_answered (s : RequestState) :
    Answered 0 s (trySendCaptchaPage loc a s) := by
  rw [trySendCaptchaPage]
  split
  · exact applyUnenforceableAction_answered loc a s
  · rcases hok : (a.send s.sends).ok .headOrError with _ | _
    · rw [sendResponse_of_fails hok]
      exact (applyUnenforceableAction_answered loc a _).of_failedSend
    · rw [sendResponse_of_ok hok]
      exact answered_sent s _

/-- The page is counted once it was sent. -/
theorem challengePage_answered (s : RequestState) : Answered 1 s (challengePage loc a s) := by
  have hpage : Answered 0 s (trySendCaptchaPage loc a s) := trySendCaptchaPage_answered s
  rw [challengePage]
  split
  · next heq =>
    rw [heq] at hpage
    refine ⟨hpage.same.trans (sameRequest_update _ _ _ _ _), ?_, by simp, fun _ => hpage.done rfl,
      by simp⟩
    rw [RequestState.drops_recordDropped]
    exact Nat.succ_le_succ hpage.drops
  · next heq =>
    rw [heq] at hpage
    exact hpage.mono

/-! ### AppSec -/

namespace AppSec

variable {config : Option AppSecConfig} {shmBan : Bool}

theorem failClosed_answered (ip : Option IpAddr) (action : AppSecFailureAction)
    (s : RequestState) : Answered 1 s (failClosed req loc a ip action s) := by
  unfold failClosed
  split
  · exact (answered_declined s).mono
  · split
    · exact handleBanDecision_answered s
    · exact (answered_forbidden s).mono

variable (req loc config a) in
/-- Without the settings of an inspection there is an answer at once. -/
theorem appsecContext_answered (s : RequestState) :
    (∃ result t, appsecContext req loc config a s = (.error result, t) ∧
        Answered 1 s (result, t)) ∨
      ∃ call, appsecContext req loc config a s = (.ok call, s) := by
  have hforbidden : Answered 1 s (.forbidden, s) := (answered_forbidden s).mono
  have hclosed (ip : Option IpAddr) (action : AppSecFailureAction) :
      Answered 1 s (failClosed req loc a ip action s) := failClosed_answered ip action s
  rw [appsecContext]
  dsimp only
  split
  · refine .inl ⟨_, _, rfl, ?_⟩
    split
    · exact hforbidden
    · exact (answered_declined s).mono
  · split
    · exact .inl ⟨_, _, rfl, hforbidden⟩
    · rcases req.clientIp with _ | ip
      · dsimp only
        split
        · exact .inl ⟨_, _, rfl, hforbidden⟩
        · exact .inl ⟨_, _, rfl, hclosed none _⟩
      · rcases config with _ | config
        · dsimp only
          split
          · exact .inl ⟨_, _, rfl, hforbidden⟩
          · exact .inl ⟨_, _, rfl, hclosed (some ip) _⟩
        · exact .inr ⟨_, rfl⟩

theorem applyAppsecResponse_answered (ip : IpAddr) (response : AppSecResponse)
    (failureAction : AppSecFailureAction) (s : RequestState) :
    Answered 1 s (applyAppsecResponse req loc a ip response failureAction shmBan s) := by
  have hallowed : Answered 1 s (.declined, s) := (answered_declined s).mono
  have hban : Answered 1 s (applyShmOrAppsecBan req loc a s) := by
    rw [applyShmOrAppsecBan, applyAppsecBanPage]
    split
    · exact handleBanDecision_answered s
    · exact handleBanDecision_answered s
  have hdenied (t : RequestState) : Answered 1 t (.forbidden, t.recordAppsecDropped) :=
    ⟨sameRequest_update t _ _ _ _, t.drops_recordAppsecDropped.le, by simp, by simp, by simp⟩
  rw [applyAppsecResponse]
  split
  · exact hallowed
  · split
    · exact failClosed_answered _ _ s
    · split
      · exact handleBanDecision_answered s
      · split
        · exact hallowed
        · split
          · exact hban
          · split
            · exact hban
            · split
              · -- the page of a bot challenge, or a denial when it cannot be sent
                rcases hok : (a.send s.sends).ok .error with _ | _
                · rw [sendResponse_of_fails hok]
                  exact (hdenied _).of_failedSend
                · rw [sendResponse_of_ok hok]
                  exact ⟨sameRequest_update s _ _ _ _,
                    (RequestState.drops_recordAppsecDropped _).le, by simp, fun _ => rfl, by simp⟩
              · exact hdenied s

end AppSec

end CrowdSecBouncer
