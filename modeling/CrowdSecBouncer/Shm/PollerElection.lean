import CrowdSecBouncer.Shm.Poller

/-!
# Poller election

A polling thread becomes the poller by exchanging `0` for its PID, so as long as the claim of
a living poller stays in `poller_pid` nobody else can become one (`ElectionOk`). Two steps
overwrite a claim that was found to be dead some steps earlier: the exchange of a takeover,
which fails unless the PID that was found dead is still recorded, and the plain store of the
reuse branch, which does not look again. If neither ever hits the claim of a living poller,
there is at most one living poller in every state of every run
(`atMostOnePoller_of_safeClear`); the store can hit one, and then there are two
(`not_atMostOnePoller`).
-/

namespace CrowdSecBouncer

variable {n : ℕ}

namespace Zone

/-- The worker runs and obtained `true` from `try_become_poller`. -/
def Polls (s : Zone n) (w : Fin n) : Prop := s.Alive w ∧ (s.workers w).pc = .poller

instance (s : Zone n) (w : Fin n) : Decidable (s.Polls w) := inferInstanceAs (Decidable (_ ∧ _))

/-- No two living workers are the poller. -/
def AtMostOnePoller (s : Zone n) : Prop := ∀ w w', s.Polls w → s.Polls w' → w = w'

instance (s : Zone n) : Decidable s.AtMostOnePoller :=
  inferInstanceAs (Decidable (∀ _, ∀ _, _ → _ → _ = _))

/-- The claim recorded in `poller_pid` is that of a living poller. -/
def ClaimInUse (s : Zone n) : Prop := ∃ w, s.Polls w ∧ (s.workers w).pid = s.pollerPid

instance (s : Zone n) : Decidable s.ClaimInUse := inferInstanceAs (Decidable (∃ _, _))

end Zone

namespace ZoneAction

/-- A step that clears a recorded claim does not clear that of a living poller. -/
def SafeClear (a : ZoneAction n) (s : Zone n) : Prop :=
  match a with
  | .takeover w => (s.workers w).pc = .takeover s.pollerPid → ¬ s.ClaimInUse
  | .reloadStore => s.reload = .store → ¬ s.ClaimInUse
  | _ => True

instance (a : ZoneAction n) (s : Zone n) : Decidable (a.SafeClear s) :=
  match a with
  | .takeover w =>
    inferInstanceAs (Decidable ((s.workers w).pc = .takeover s.pollerPid → ¬ s.ClaimInUse))
  | .reloadStore => inferInstanceAs (Decidable (s.reload = .store → ¬ s.ClaimInUse))
  | .spawn .. | .die _ | .load _ | .checkAlive .. | .resetLock _ | .claim _ | .startRelease _
  | .release _ | .lockRead .. | .lockWrite _ | .unlock .. | .reloadLoad | .reloadCheck _
  | .reloadResetLock => isTrue trivial

/-- A PID is not handed out again while it is recorded in `poller_pid`. -/
def NoPidReuse (a : ZoneAction n) (s : Zone n) : Prop :=
  match a with
  | .spawn _ pid => pid ≠ s.pollerPid
  | _ => True

instance (a : ZoneAction n) (s : Zone n) : Decidable (a.NoPidReuse s) :=
  match a with
  | .spawn _ pid => inferInstanceAs (Decidable (pid ≠ s.pollerPid))
  | .die _ | .load _ | .checkAlive .. | .takeover _ | .resetLock _ | .claim _ | .startRelease _
  | .release _ | .lockRead .. | .lockWrite _ | .unlock .. | .reloadLoad | .reloadCheck _
  | .reloadStore | .reloadResetLock => isTrue trivial

end ZoneAction

/-- The invariant of the election. -/
structure ElectionOk (s : Zone n) : Prop where
  pid_pos : ∀ w, s.Alive w → 0 < (s.workers w).pid
  pid_injective : ∀ w w', s.Alive w → s.Alive w' → (s.workers w).pid = (s.workers w').pid → w = w'
  recorded : ∀ w, s.Polls w → s.pollerPid = (s.workers w).pid

namespace ElectionOk

open Zone ZoneAction

variable {s s' : Zone n} {w : Fin n}

theorem atMostOnePoller (h : ElectionOk s) : s.AtMostOnePoller := by
  intro w w' hw hw'
  exact h.pid_injective w w' hw.1 hw'.1 ((h.recorded w hw).symm.trans (h.recorded w' hw'))

/-- Steps of one worker that start no process and win no election. -/
theorem setWorker (h : ElectionOk s) {r : Worker} (hpid : r.pid = (s.workers w).pid)
    (hlife : r.life = .alive → s.Alive w)
    (hpoller : r.life = .alive → r.pc = .poller → (s.workers w).pc = .poller) :
    ElectionOk (s.setWorker w r) := by
  have hpid' (v : Fin n) : ((s.setWorker w r).workers v).pid = (s.workers v).pid := by
    rcases eq_or_ne v w with rfl | hne
    · simpa [Zone.setWorker] using hpid
    · simp [Zone.setWorker, hne]
  have halive (v : Fin n) (hv : (s.setWorker w r).Alive v) : s.Alive v := by
    rcases eq_or_ne v w with rfl | hne
    · exact hlife (by simpa [Zone.Alive, Zone.setWorker] using hv)
    · simpa [Zone.Alive, Zone.setWorker, hne] using hv
  refine ⟨fun v hv => ?_, fun v v' hv hv' heq => ?_, fun v hv => ?_⟩
  · rw [hpid']
    exact h.pid_pos v (halive v hv)
  · rw [hpid', hpid'] at heq
    exact h.pid_injective v v' (halive v hv) (halive v' hv') heq
  · rw [hpid']
    refine h.recorded v ⟨halive v hv.1, ?_⟩
    rcases eq_or_ne v w with rfl | hne
    · obtain ⟨hv₁, hv₂⟩ := hv
      simp only [Zone.Alive, Zone.setWorker, Function.update_self] at hv₁ hv₂
      exact hpoller hv₁ hv₂
    · simpa [Zone.setWorker, hne] using hv.2

/-- Moving a thread to a place that is not the poller's. -/
theorem setPc (h : ElectionOk s) {pc : PollPc} (hpc : pc ≠ .poller) : ElectionOk (s.setPc w pc) :=
  h.setWorker rfl id fun _ heq => absurd heq hpc

/-- Taking or dropping the lock. -/
theorem setHolds (h : ElectionOk s) {t : WorkerThread} {m : RwLock.Mode} :
    ElectionOk (s.setHolds w t m) :=
  h.setWorker rfl id fun _ => id

/-- Anything may be recorded while nobody is the poller. -/
theorem record (h : ElectionOk s) (hnone : ∀ v, ¬ s.Polls v) (pid : ℕ) :
    ElectionOk { s with pollerPid := pid } :=
  ⟨h.pid_pos, h.pid_injective, fun v hv => absurd hv (hnone v)⟩

/-- The lock word and the reload are outside the election. -/
theorem of_eq (h : ElectionOk s) (hpid : s'.pollerPid = s.pollerPid)
    (hworkers : s'.workers = s.workers) : ElectionOk s' := by
  cases s
  cases s'
  simp only at hpid hworkers
  subst hpid hworkers
  exact ⟨h.pid_pos, h.pid_injective, h.recorded⟩

/-- While the recorded claim is not in use, nobody is the poller. -/
theorem not_polls (h : ElectionOk s) (hfree : ¬ s.ClaimInUse) : ∀ v, ¬ s.Polls v :=
  fun v hv => hfree ⟨v, hv, (h.recorded v hv).symm⟩

/-- A fork under a PID that is not in use. -/
theorem spawn (h : ElectionOk s) {pid : ℕ} {holds : WorkerThread → RwLock.Mode} (hpos : 0 < pid)
    (hfresh : ¬ s.WorkerAlive pid) : ElectionOk (s.setWorker w ⟨.alive, pid, .idle, holds⟩) := by
  have hother {v : Fin n} (hne : v ≠ w) :
      (s.setWorker w ⟨.alive, pid, .idle, holds⟩).workers v = s.workers v := by
    simp [Zone.setWorker, hne]
  have hself : (s.setWorker w ⟨.alive, pid, .idle, holds⟩).workers w =
      ⟨.alive, pid, .idle, holds⟩ := by
    simp [Zone.setWorker]
  refine ⟨fun v hv => ?_, fun v v' hv hv' heq => ?_, fun v hv => ?_⟩
  · rcases eq_or_ne v w with rfl | hne
    · rwa [hself]
    · rw [Zone.Alive, hother hne] at hv
      rw [hother hne]
      exact h.pid_pos v hv
  · rcases eq_or_ne v w with rfl | hne
    · rcases eq_or_ne v' v with rfl | hne'
      · rfl
      · rw [Zone.Alive, hother hne'] at hv'
        rw [hself, hother hne'] at heq
        exact absurd ⟨v', hv', heq.symm⟩ hfresh
    · rw [Zone.Alive, hother hne] at hv
      rcases eq_or_ne v' w with rfl | hne'
      · rw [hself, hother hne] at heq
        exact absurd ⟨v, hv, heq⟩ hfresh
      · rw [Zone.Alive, hother hne'] at hv'
        rw [hother hne, hother hne'] at heq
        exact h.pid_injective v v' hv hv' heq
  · rcases eq_or_ne v w with rfl | hne
    · have hpc := hv.2
      rw [hself] at hpc
      exact absurd hpc (by simp)
    · rw [Zone.Polls, Zone.Alive, hother hne] at hv
      rw [hother hne]
      exact h.recorded v hv

/-- Winning the election: the claim was free, or it was the own one. -/
theorem claim (h : ElectionOk s) (hw : s.Alive w)
    (hfree : s.pollerPid = 0 ∨ s.pollerPid = (s.workers w).pid) :
    ElectionOk { s.setPc w .poller with pollerPid := (s.workers w).pid } := by
  have hother {v : Fin n} (hne : v ≠ w) : (s.setPc w .poller).workers v = s.workers v := by
    simp [Zone.setPc, Zone.setWorker, hne]
  have hpid (v : Fin n) : ((s.setPc w .poller).workers v).pid = (s.workers v).pid := by
    rcases eq_or_ne v w with rfl | hne
    · simp [Zone.setPc, Zone.setWorker]
    · rw [hother hne]
  have halive (v : Fin n) : (s.setPc w .poller).Alive v ↔ s.Alive v := by
    rcases eq_or_ne v w with rfl | hne
    · simp [Zone.Alive, Zone.setPc, Zone.setWorker]
    · rw [Zone.Alive, hother hne, Zone.Alive]
  refine ⟨fun v hv => ?_, fun v v' hv hv' heq => ?_, fun v hv => ?_⟩
  · exact hpid v ▸ h.pid_pos v ((halive v).mp hv)
  · have heq' : (s.workers v).pid = (s.workers v').pid := (hpid v).symm.trans (heq.trans (hpid v'))
    exact h.pid_injective v v' ((halive v).mp hv) ((halive v').mp hv') heq'
  · change (s.workers w).pid = ((s.setPc w .poller).workers v).pid
    rw [hpid]
    rcases eq_or_ne v w with rfl | hne
    · rfl
    · -- another poller would have its PID recorded
      have hv' : s.Polls v := ⟨(halive v).mp hv.1, hother hne ▸ hv.2⟩
      have hrecorded := h.recorded v hv'
      have hpos := h.pid_pos v hv'.1
      rcases hfree with hzero | hown
      · omega
      · exact hown.symm.trans hrecorded

/-- **The step lemma.** -/
theorem step (h : ElectionOk s) {a : ZoneAction n} (hsafe : a.SafeClear s)
    (hstep : a.step s = some s') : ElectionOk s' := by
  cases effect_of_step hstep with
  | spawn hunborn hpos hfresh => exact h.spawn hpos hfresh
  | die hw =>
    exact h.setWorker rfl (fun hlife => absurd hlife (by simp))
      (fun hlife => absurd hlife (by simp))
  | move hw hpc => exact h.setPc hpc
  | takeover hw hpc =>
    -- the exchange succeeds, so the claim it clears was found dead
    have hfree : ¬ s.ClaimInUse := hsafe hpc
    exact (h.record (h.not_polls hfree) 0).setPc (by simp)
  | resetLock hw hpc => exact (h.setPc (by simp)).of_eq rfl rfl
  | claim hw hfree => exact h.claim hw hfree
  | release hw hpc hown =>
    -- the only thread that could poll under the own PID is this one, and it releases
    have hnone (v : Fin n) : ¬ s.Polls v := by
      intro hv
      obtain rfl := h.pid_injective v _ hv.1 hw ((h.recorded v hv).symm.trans hown)
      rw [hv.2] at hpc
      exact absurd hpc (by simp)
    exact (h.record hnone 0).setPc (by simp)
  | lockRead hw hholds hword => exact h.setHolds.of_eq rfl rfl
  | lockWrite hw hpc hholds hword => exact h.setHolds.of_eq rfl rfl
  | unlock hw hholds => exact h.setHolds.of_eq rfl rfl
  | moveReload => exact h.of_eq rfl rfl
  | reloadStore hpc => exact (h.record (h.not_polls (hsafe hpc)) 0).of_eq rfl rfl
  | reloadResetLock hpc => exact h.of_eq rfl rfl

end ElectionOk

open LabelledRun ZoneAction

/-- Before the first fork. -/
theorem electionOk_initial : ElectionOk (Zone.initial n) :=
  ⟨fun _ h => absurd h (by simp [Zone.Alive, Zone.initial]),
    fun _ _ h => absurd h (by simp [Zone.Alive, Zone.initial]),
    fun _ h => absurd h.1 (by simp [Zone.Alive, Zone.initial])⟩

/-- **At most one poller.** In every run in which no takeover and no zone reuse clears the
claim of a living poller, no state has two living pollers. -/
theorem atMostOnePoller_of_safeClear {l : List (ZoneAction n)}
    (hsafe : EveryStep step SafeClear l (Zone.initial n)) :
    EveryState step Zone.AtMostOnePoller l (Zone.initial n) :=
  (everyState_of_step (fun _ _ _ hok h hstep => h.step hok hstep) hsafe electionOk_initial).mono
    fun _ h => h.atMostOnePoller

/-- A poller that dies is taken over, and the new one is released. -/
theorem atMostOnePoller_of_safeClear_takeover :
    EveryState step Zone.AtMostOnePoller
      [.spawn 0 10, .spawn 1 11, .load 0, .checkAlive 0 false, .claim 0, .die 0,
        .load 1, .checkAlive 1 false, .takeover 1, .resetLock 1, .claim 1,
        .startRelease 1, .release 1] (Zone.initial 2) :=
  atMostOnePoller_of_safeClear (by decide +kernel)

/-- A takeover and an election between the check and the store of the reuse branch: the
poller of PID 10 has died, the master finds it dead, worker 1 takes over, and then the
master's store clears the new claim, so that the forked worker 2 is elected too. -/
def lostClaimRun : List (ZoneAction 3) :=
  [.spawn 0 10, .spawn 1 11, .load 0, .checkAlive 0 false, .claim 0, .die 0,
    .reloadLoad, .reloadCheck false,
    .load 1, .checkAlive 1 false, .takeover 1, .resetLock 1, .claim 1,
    .reloadStore, .reloadResetLock,
    .spawn 2 12, .load 2, .checkAlive 2 false, .claim 2]

theorem not_atMostOnePoller :
    ¬ ∀ (n : ℕ) (l : List (ZoneAction n)), EveryStep step NoPidReuse l (Zone.initial n) →
      EveryState step Zone.AtMostOnePoller l (Zone.initial n) := by
  intro h
  have hrun := h 3 lostClaimRun (by decide +kernel)
  revert hrun
  decide +kernel

end CrowdSecBouncer
