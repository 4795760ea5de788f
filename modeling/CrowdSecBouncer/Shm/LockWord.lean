import CrowdSecBouncer.Shm.Poller

/-!
# The lock word

Unlocking does not know who unlocks, so the lock word is only right as long as nobody
overwrites it behind the holders' back. Two steps do overwrite it, to drop the write lock of
a poller that was killed inside it: the reset after a takeover and the reset in the reuse
branch. When every process that died held no lock, such a reset is right exactly when no
living process holds the lock at that moment, and the word is right in every state of a run
exactly when every reset of the run is (`lockWordOk_iff_safeReset`). Neither reset looks at
the holders, and a lookup that is under way when a dead poller is replaced leaves the word at
`-1` with nobody left to unlock it (`not_lockWordOk`).
-/

namespace CrowdSecBouncer

open RwLock

variable {n : ℕ}

namespace Zone

/-- What the threads of the living workers hold. -/
def modes (s : Zone n) (x : Fin n × WorkerThread) : Mode :=
  if (s.workers x.1).life = .alive then (s.workers x.1).holds x.2 else .free

/-- No living process holds the lock. -/
def LockFree (s : Zone n) : Prop := ∀ x, s.modes x = .free

instance (s : Zone n) : Decidable s.LockFree := inferInstanceAs (Decidable (∀ _, _ = _))

/-- The lock word tells the truth: it counts the living readers, or it is `-1` and one living
writer is the only holder; so it is `0` when no living process holds the lock. -/
def LockWordOk (s : Zone n) : Prop := Exact s.lock s.modes ∧ (s.LockFree → s.lock = 0)

instance (s : Zone n) : Decidable s.LockWordOk :=
  inferInstanceAs (Decidable (((_ = _ ∧ ∀ _, _) ∨ (_ = _ ∧ ∃ _, _ = _ ∧ ∀ _, _ → _ = _)) ∧
    (_ → _ = _)))

theorem lockWordOk_iff {s : Zone n} : s.LockWordOk ↔ Exact s.lock s.modes :=
  ⟨And.left, fun h => ⟨h, h.eq_zero⟩⟩

variable {s : Zone n} {w : Fin n}

@[simp] theorem modes_setPc (pc : PollPc) : (s.setPc w pc).modes = s.modes := by
  funext x
  rcases eq_or_ne x.1 w with heq | hne
  · simp [modes, setPc, setWorker, heq]
  · simp [modes, setPc, setWorker, hne]

theorem modes_setHolds (hw : s.Alive w) (t : WorkerThread) (m : Mode) :
    (s.setHolds w t m).modes = Function.update s.modes (w, t) m := by
  funext ⟨v, t'⟩
  rcases eq_or_ne v w with rfl | hne
  · have hlife : (s.workers v).life = .alive := hw
    rcases eq_or_ne t' t with rfl | hne'
    · simp [modes, setHolds, setWorker, hlife]
    · simp [modes, setHolds, setWorker, hlife, hne']
  · rw [Function.update_of_ne (by simp [hne])]
    simp [modes, setHolds, setWorker, hne]

/-- Starting or ending a worker that holds nothing changes nobody's hold. -/
theorem modes_setWorker_of_free {r : Worker} (hr : ∀ t, r.holds t = .free)
    (hw : ∀ t, s.modes (w, t) = .free) : (s.setWorker w r).modes = s.modes := by
  funext ⟨v, t⟩
  rcases eq_or_ne v w with rfl | hne
  · rw [hw]
    rw [modes]
    split
    · simpa [setWorker] using hr t
    · rfl
  · simp [modes, setWorker, hne]

end Zone

namespace ZoneAction

/-- A process that dies holds no lock. -/
def DiesLockFree (a : ZoneAction n) (s : Zone n) : Prop :=
  match a with
  | .die w => ∀ t, (s.workers w).holds t = .free
  | _ => True

instance (a : ZoneAction n) (s : Zone n) : Decidable (a.DiesLockFree s) :=
  match a with
  | .die w => inferInstanceAs (Decidable (∀ t, (s.workers w).holds t = .free))
  | .spawn .. | .load _ | .checkAlive .. | .takeover _ | .resetLock _ | .claim _
  | .startRelease _ | .release _ | .lockRead .. | .lockWrite _ | .unlock .. | .reloadLoad
  | .reloadCheck _ | .reloadStore | .reloadResetLock => isTrue trivial

/-- A step that resets the lock word finds no living process holding the lock. -/
def SafeReset (a : ZoneAction n) (s : Zone n) : Prop :=
  match a with
  | .resetLock w => s.Alive w ∧ (s.workers w).pc = .resetLock → s.LockFree
  | .reloadResetLock => s.reload = .resetLock → s.LockFree
  | _ => True

instance (a : ZoneAction n) (s : Zone n) : Decidable (a.SafeReset s) :=
  match a with
  | .resetLock w =>
    inferInstanceAs (Decidable (s.Alive w ∧ (s.workers w).pc = .resetLock → s.LockFree))
  | .reloadResetLock => inferInstanceAs (Decidable (s.reload = .resetLock → s.LockFree))
  | .spawn .. | .die _ | .load _ | .checkAlive .. | .takeover _ | .claim _ | .startRelease _
  | .release _ | .lockRead .. | .lockWrite _ | .unlock .. | .reloadLoad | .reloadCheck _
  | .reloadStore => isTrue trivial

/-- **The step lemma.** -/
theorem exact_step {a : ZoneAction n} {s s' : Zone n} (hdies : a.DiesLockFree s)
    (hsafe : a.SafeReset s) (h : Exact s.lock s.modes) (hstep : a.step s = some s') :
    Exact s'.lock s'.modes := by
  cases effect_of_step hstep with
  | @spawn w pid hunborn hpos hfresh =>
    have hfree (t : WorkerThread) : s.modes (w, t) = .free :=
      if_neg (by rw [hunborn]; decide)
    rw [Zone.modes_setWorker_of_free (fun _ => rfl) hfree]
    exact h
  | @die w hw =>
    have hfree (t : WorkerThread) : s.modes (w, t) = .free := (if_pos hw).trans (hdies t)
    have hmodes : (s.setWorker w { s.workers w with life := .dead }).modes = s.modes :=
      Zone.modes_setWorker_of_free hdies hfree
    rw [hmodes]
    exact h
  | @move _ w pc hw hpc => rwa [Zone.modes_setPc]
  | takeover hw hpc => exact Zone.modes_setPc (s := s) .resetLock ▸ h
  | resetLock hw hpc =>
    -- nobody holds the lock, so the word that is overwritten was zero already
    exact exact_zero_iff.mpr fun x =>
      (congrFun (Zone.modes_setPc .claim) x).trans (hsafe ⟨hw, hpc⟩ x)
  | claim hw hfree => exact Zone.modes_setPc (s := s) .poller ▸ h
  | release hw hpc hown => exact Zone.modes_setPc (s := s) .idle ▸ h
  | @lockRead w t hw hholds hword =>
    exact Zone.modes_setHolds hw t .read ▸ h.lockRead ((if_pos hw).trans hholds) hword
  | lockWrite hw hpc hholds hword =>
    exact Zone.modes_setHolds hw .polling .write ▸ h.lockWrite hword
  | @unlock w t hw hholds =>
    have hmode : s.modes (w, t) ≠ .free := fun hfree => hholds ((if_pos hw).symm.trans hfree)
    exact Zone.modes_setHolds hw t .free ▸ h.unlock hmode
  | moveReload => exact h
  | reloadStore hpc => exact h
  | reloadResetLock hpc => exact exact_zero_iff.mpr (hsafe hpc)

/-- A reset that leaves the word right was made while nobody held the lock. -/
theorem safeReset_of_exact {a : ZoneAction n} {s : Zone n}
    (h : ∀ s', a.step s = some s' → Exact s'.lock s'.modes) : a.SafeReset s := by
  cases a with
  | resetLock w =>
    intro hpc x
    have hexact := exact_zero_iff.mp (h _ (if_pos hpc)) x
    rwa [← Zone.modes_setPc (s := s) (w := w) .claim]
  | reloadResetLock =>
    intro hpc x
    exact exact_zero_iff.mp (h _ (if_pos hpc)) x
  | _ => trivial

end ZoneAction

open LabelledRun ZoneAction

theorem exact_initial : Exact (Zone.initial n).lock (Zone.initial n).modes :=
  exact_zero_iff.mpr fun _ => ite_self _

/-- **The lock word.** In a run in which every process that died held no lock, the word is
right in every state exactly when every reset of the word was made while no living process
held the lock. -/
theorem lockWordOk_iff_safeReset {l : List (ZoneAction n)}
    (hdies : EveryStep step DiesLockFree l (Zone.initial n)) :
    EveryState step Zone.LockWordOk l (Zone.initial n) ↔
      EveryStep step SafeReset l (Zone.initial n) := by
  constructor
  · intro h
    refine everyStep_of_everyState (fun a s _ hnext => ?_) h
    exact safeReset_of_exact fun s' hs' => Zone.lockWordOk_iff.mp (hnext s' hs')
  · intro hsafe
    refine (everyState_of_step (fun a s s' hok h hstep => ?_) (hdies.and hsafe)
      exact_initial).mono fun s h => Zone.lockWordOk_iff.mpr h
    exact exact_step hok.1 hok.2 h hstep

/-- A reload after the poller was killed outside the lock, while nobody looks anything up. -/
theorem lockWordOk_iff_safeReset_quietReload :
    EveryState step Zone.LockWordOk
        [.spawn 0 10, .load 0, .checkAlive 0 false, .claim 0, .lockWrite 0, .unlock 0 .polling,
          .die 0, .reloadLoad, .reloadCheck false, .reloadStore, .reloadResetLock]
        (Zone.initial 1) ↔
      EveryStep step SafeReset
        [.spawn 0 10, .load 0, .checkAlive 0 false, .claim 0, .lockWrite 0, .unlock 0 .polling,
          .die 0, .reloadLoad, .reloadCheck false, .reloadStore, .reloadResetLock]
        (Zone.initial 1) :=
  lockWordOk_iff_safeReset (by decide +kernel)

/-- The poller of PID 10 dies outside the lock; worker 1 takes over and resets the word while
its own main thread is inside a lookup. The lookup's unlock leaves `-1`. -/
def resetUnderReaderRun : List (ZoneAction 2) :=
  [.spawn 0 10, .spawn 1 11, .load 0, .checkAlive 0 false, .claim 0, .die 0,
    .lockRead 1 .main, .load 1, .checkAlive 1 false, .takeover 1, .resetLock 1, .claim 1,
    .unlock 1 .main]

theorem not_lockWordOk :
    ¬ ∀ (n : ℕ) (l : List (ZoneAction n)), EveryStep step DiesLockFree l (Zone.initial n) →
      EveryState step Zone.LockWordOk l (Zone.initial n) := by
  intro h
  have hrun := h 2 resetUnderReaderRun (by decide +kernel)
  revert hrun
  decide +kernel

example : (exec step resetUnderReaderRun (Zone.initial 2)).map
    (fun s => (s.lock, decide s.LockFree)) = some (-1, true) := by decide +kernel

end CrowdSecBouncer
