import CrowdSecBouncer.Foundations.LabelledRun
import CrowdSecBouncer.Foundations.RwLock
import Mathlib.Data.Fintype.Prod

/-!
# The zone header under concurrency: lock word and poller election

The two words of the zone header that several processes touch at once are the lock word and
`poller_pid`. This is the labelled transition system of everything that touches them: the
polling threads in `try_become_poller` and `release_poller`, threads that read under the
lock (lookups and counting scans), the poller's own writes, workers that start and die, and
a reload that runs the reuse branch of `decisions_shm_zone_init`. One label is one atomic
step, so the interleavings of the program are the runs of the system.

A worker is a process with two threads: its main thread serves requests, its polling thread
runs the election and, once elected, writes. Any number of workers is allowed; a label that
is not enabled in a state leads nowhere.
-/

namespace CrowdSecBouncer

/-- A worker process that has not been forked yet, runs, or is gone. -/
inductive Life
  | unborn
  | alive
  | dead
  deriving DecidableEq, Repr

/-- Where a polling thread stands in the election. -/
inductive PollPc
  /-- Outside `try_become_poller` and `release_poller`, not the poller. -/
  | idle
  /-- `poller_pid` was loaded. -/
  | loaded (current : ℕ)
  /-- The loaded PID is dead: about to exchange it for `0`. -/
  | takeover (current : ℕ)
  /-- The dead claim was cleared: about to reset the lock word. -/
  | resetLock
  /-- About to exchange `0` for the own PID. -/
  | claim
  /-- `try_become_poller` returned `true`. -/
  | poller
  /-- In `release_poller`, before its exchange. -/
  | releasing
  deriving DecidableEq, Repr

/-- Where the reloading master process stands in the reuse branch. -/
inductive ReloadPc
  | idle
  /-- `poller_pid` was loaded. -/
  | loaded (pid : ℕ)
  /-- The claim is free or dead: about to store `0`. -/
  | store
  /-- About to reset the lock word. -/
  | resetLock
  deriving DecidableEq, Repr

/-- The two threads of a worker that take the lock. -/
inductive WorkerThread
  | main
  | polling
  deriving DecidableEq, Repr

instance : Fintype WorkerThread where
  elems := {.main, .polling}
  complete t := by cases t <;> decide

/-- A worker process. -/
structure Worker where
  life : Life
  pid : ℕ
  pc : PollPc
  holds : WorkerThread → RwLock.Mode

/-- The shared words and everybody's position. -/
structure Zone (n : ℕ) where
  lock : ℤ
  pollerPid : ℕ
  workers : Fin n → Worker
  reload : ReloadPc

namespace Zone

variable {n : ℕ}

/-- A zone just initialised, before the first worker is forked. -/
def initial (n : ℕ) : Zone n :=
  { lock := 0, pollerPid := 0, reload := .idle
    workers := fun _ => ⟨.unborn, 0, .idle, fun _ => .free⟩ }

/-- A worker runs. -/
def Alive (s : Zone n) (w : Fin n) : Prop := (s.workers w).life = .alive

instance (s : Zone n) (w : Fin n) : Decidable (s.Alive w) :=
  inferInstanceAs (Decidable (_ = _))

/-- Some worker runs under this PID. -/
def WorkerAlive (s : Zone n) (pid : ℕ) : Prop := ∃ w, s.Alive w ∧ (s.workers w).pid = pid

instance (s : Zone n) (pid : ℕ) : Decidable (s.WorkerAlive pid) :=
  inferInstanceAs (Decidable (∃ _, _))

/-- `process_alive`: `other` tells whether a process that is no worker has the PID. -/
def processAlive (s : Zone n) (pid : ℕ) (other : Bool) : Bool :=
  decide (0 < pid) && (decide (s.WorkerAlive pid) || other)

def setWorker (s : Zone n) (w : Fin n) (r : Worker) : Zone n :=
  { s with workers := Function.update s.workers w r }

def setPc (s : Zone n) (w : Fin n) (pc : PollPc) : Zone n :=
  s.setWorker w { s.workers w with pc }

def setHolds (s : Zone n) (w : Fin n) (t : WorkerThread) (m : RwLock.Mode) : Zone n :=
  s.setWorker w { s.workers w with holds := Function.update (s.workers w).holds t m }

end Zone

/-- The atomic steps. -/
inductive ZoneAction (n : ℕ)
  /-- The master forks a worker. -/
  | spawn (w : Fin n) (pid : ℕ)
  /-- A worker is gone, for whatever reason. -/
  | die (w : Fin n)
  /-- `poller_atomic.load` in `try_become_poller`. -/
  | load (w : Fin n)
  /-- `current != 0 && current != my_pid && !process_alive(current)`. -/
  | checkAlive (w : Fin n) (other : Bool)
  /-- `compare_exchange(current, 0)`. -/
  | takeover (w : Fin n)
  /-- `(*shm_data).lock = 0` after a takeover. -/
  | resetLock (w : Fin n)
  /-- `compare_exchange(0, my_pid)` and the result of `try_become_poller`. -/
  | claim (w : Fin n)
  /-- Entering `release_poller`. -/
  | startRelease (w : Fin n)
  /-- `compare_exchange(my_pid, 0)` in `release_poller`. -/
  | release (w : Fin n)
  /-- `ngx_rwlock_rlock` lets a reader in. -/
  | lockRead (w : Fin n) (t : WorkerThread)
  /-- `ngx_rwlock_wlock` lets the poller in. -/
  | lockWrite (w : Fin n)
  /-- `ngx_rwlock_unlock`. -/
  | unlock (w : Fin n) (t : WorkerThread)
  /-- `poller_atomic.load` in the reuse branch. -/
  | reloadLoad
  /-- `pid == 0 || !process_alive(pid)`. -/
  | reloadCheck (other : Bool)
  /-- `poller_atomic.store(0)` in the reuse branch. -/
  | reloadStore
  /-- `(*shm_data).lock = 0` in the reuse branch. -/
  | reloadResetLock
  deriving DecidableEq, Repr

namespace ZoneAction

variable {n : ℕ}

/-- One atomic step; `none` when it is not enabled. -/
def step (a : ZoneAction n) (s : Zone n) : Option (Zone n) :=
  match a with
  | .spawn w pid =>
    -- the kernel hands out no PID that is in use
    if (s.workers w).life = .unborn ∧ 0 < pid ∧ ¬ s.WorkerAlive pid then
      some (s.setWorker w ⟨.alive, pid, .idle, fun _ => .free⟩)
    else none
  | .die w =>
    if s.Alive w then some (s.setWorker w { s.workers w with life := .dead }) else none
  | .load w =>
    if s.Alive w ∧ (s.workers w).pc = .idle then some (s.setPc w (.loaded s.pollerPid)) else none
  | .checkAlive w other =>
    match (s.workers w).pc with
    | .loaded current =>
      if s.Alive w then
        if current ≠ 0 ∧ current ≠ (s.workers w).pid ∧ s.processAlive current other = false then
          some (s.setPc w (.takeover current))
        else some (s.setPc w .claim)
      else none
    | _ => none
  | .takeover w =>
    match (s.workers w).pc with
    | .takeover current =>
      if s.Alive w then
        if s.pollerPid = current then some { s.setPc w .resetLock with pollerPid := 0 }
        else some (s.setPc w .claim)
      else none
    | _ => none
  | .resetLock w =>
    if s.Alive w ∧ (s.workers w).pc = .resetLock then some { s.setPc w .claim with lock := 0 }
    else none
  | .claim w =>
    if s.Alive w ∧ (s.workers w).pc = .claim then
      if s.pollerPid = 0 then some { s.setPc w .poller with pollerPid := (s.workers w).pid }
      else if s.pollerPid = (s.workers w).pid then some (s.setPc w .poller)
      else some (s.setPc w .idle)
    else none
  | .startRelease w =>
    -- the polling thread has been joined, so it holds no lock
    if s.Alive w ∧ ((s.workers w).pc = .idle ∨ (s.workers w).pc = .poller) ∧
        (s.workers w).holds .polling = .free then
      some (s.setPc w .releasing)
    else none
  | .release w =>
    if s.Alive w ∧ (s.workers w).pc = .releasing then
      if s.pollerPid = (s.workers w).pid then some { s.setPc w .idle with pollerPid := 0 }
      else some (s.setPc w .idle)
    else none
  | .lockRead w t =>
    if s.Alive w ∧ (s.workers w).holds t = .free ∧ s.lock ≠ -1 then
      some { s.setHolds w t .read with lock := s.lock + 1 }
    else none
  | .lockWrite w =>
    if s.Alive w ∧ (s.workers w).pc = .poller ∧ (s.workers w).holds .polling = .free ∧
        s.lock = 0 then
      some { s.setHolds w .polling .write with lock := -1 }
    else none
  | .unlock w t =>
    if s.Alive w ∧ (s.workers w).holds t ≠ .free then
      some { s.setHolds w t .free with lock := RwLock.unlock s.lock }
    else none
  | .reloadLoad =>
    if s.reload = .idle then some { s with reload := .loaded s.pollerPid } else none
  | .reloadCheck other =>
    match s.reload with
    | .loaded pid =>
      if pid = 0 ∨ s.processAlive pid other = false then some { s with reload := .store }
      else some { s with reload := .idle }
    | _ => none
  | .reloadStore =>
    if s.reload = .store then some { s with pollerPid := 0, reload := .resetLock } else none
  | .reloadResetLock =>
    if s.reload = .resetLock then some { s with lock := 0, reload := .idle } else none

/-- What a step does to the zone, with the guards of the steps that write a shared word. The
steps that move one thread and write nothing are `move`. -/
inductive Effect (s : Zone n) : ZoneAction n → Zone n → Prop
  | spawn {w : Fin n} {pid : ℕ} (hunborn : (s.workers w).life = .unborn) (hpos : 0 < pid)
      (hfresh : ¬ s.WorkerAlive pid) :
      Effect s (.spawn w pid) (s.setWorker w ⟨.alive, pid, .idle, fun _ => .free⟩)
  | die {w : Fin n} (hw : s.Alive w) :
      Effect s (.die w) (s.setWorker w { s.workers w with life := .dead })
  | move {a : ZoneAction n} {w : Fin n} {pc : PollPc} (hw : s.Alive w) (hpc : pc ≠ .poller) :
      Effect s a (s.setPc w pc)
  | takeover {w : Fin n} (hw : s.Alive w) (hpc : (s.workers w).pc = .takeover s.pollerPid) :
      Effect s (.takeover w) { s.setPc w .resetLock with pollerPid := 0 }
  | resetLock {w : Fin n} (hw : s.Alive w) (hpc : (s.workers w).pc = .resetLock) :
      Effect s (.resetLock w) { s.setPc w .claim with lock := 0 }
  | claim {w : Fin n} (hw : s.Alive w)
      (hfree : s.pollerPid = 0 ∨ s.pollerPid = (s.workers w).pid) :
      Effect s (.claim w) { s.setPc w .poller with pollerPid := (s.workers w).pid }
  | release {w : Fin n} (hw : s.Alive w) (hpc : (s.workers w).pc = .releasing)
      (hown : s.pollerPid = (s.workers w).pid) :
      Effect s (.release w) { s.setPc w .idle with pollerPid := 0 }
  | lockRead {w : Fin n} {t : WorkerThread} (hw : s.Alive w)
      (hholds : (s.workers w).holds t = .free) (hword : s.lock ≠ -1) :
      Effect s (.lockRead w t) { s.setHolds w t .read with lock := s.lock + 1 }
  | lockWrite {w : Fin n} (hw : s.Alive w) (hpc : (s.workers w).pc = .poller)
      (hholds : (s.workers w).holds .polling = .free) (hword : s.lock = 0) :
      Effect s (.lockWrite w) { s.setHolds w .polling .write with lock := -1 }
  | unlock {w : Fin n} {t : WorkerThread} (hw : s.Alive w)
      (hholds : (s.workers w).holds t ≠ .free) :
      Effect s (.unlock w t) { s.setHolds w t .free with lock := RwLock.unlock s.lock }
  | moveReload {a : ZoneAction n} {pc : ReloadPc} : Effect s a { s with reload := pc }
  | reloadStore (hpc : s.reload = .store) :
      Effect s .reloadStore { s with pollerPid := 0, reload := .resetLock }
  | reloadResetLock (hpc : s.reload = .resetLock) :
      Effect s .reloadResetLock { s with lock := 0, reload := .idle }

variable {s s' : Zone n} {a : ZoneAction n}

/-- **What a step can do.** -/
theorem effect_of_step (hstep : a.step s = some s') : a.Effect s s' := by
  cases a with
  | spawn w pid =>
    simp only [step, Option.ite_none_right_eq_some, Option.some.injEq] at hstep
    obtain ⟨⟨hunborn, hpos, hfresh⟩, rfl⟩ := hstep
    exact .spawn hunborn hpos hfresh
  | die w =>
    simp only [step, Option.ite_none_right_eq_some, Option.some.injEq] at hstep
    obtain ⟨hw, rfl⟩ := hstep
    exact .die hw
  | load w =>
    simp only [step, Option.ite_none_right_eq_some, Option.some.injEq] at hstep
    obtain ⟨⟨hw, -⟩, rfl⟩ := hstep
    exact .move hw (by simp)
  | checkAlive w other =>
    simp only [step] at hstep
    split at hstep
    · simp only [Option.ite_none_right_eq_some] at hstep
      obtain ⟨hw, hstep⟩ := hstep
      split at hstep
      · obtain rfl := Option.some_injective _ hstep
        exact .move hw (by simp)
      · obtain rfl := Option.some_injective _ hstep
        exact .move hw (by simp)
    · exact absurd hstep (by simp)
  | takeover w =>
    simp only [step] at hstep
    split at hstep
    · next hpc =>
      simp only [Option.ite_none_right_eq_some] at hstep
      obtain ⟨hw, hstep⟩ := hstep
      split at hstep
      · next hrecorded =>
        obtain rfl := Option.some_injective _ hstep
        exact .takeover hw (by rw [hpc, hrecorded])
      · obtain rfl := Option.some_injective _ hstep
        exact .move hw (by simp)
    · exact absurd hstep (by simp)
  | resetLock w =>
    simp only [step, Option.ite_none_right_eq_some, Option.some.injEq] at hstep
    obtain ⟨⟨hw, hpc⟩, rfl⟩ := hstep
    exact .resetLock hw hpc
  | claim w =>
    simp only [step, Option.ite_none_right_eq_some] at hstep
    obtain ⟨⟨hw, -⟩, hstep⟩ := hstep
    split at hstep
    · next hzero =>
      obtain rfl := Option.some_injective _ hstep
      exact .claim hw (.inl hzero)
    · split at hstep
      · next hown =>
        -- the exchange failed, but the claim that is recorded is the own one
        have hsame : { s.setPc w .poller with pollerPid := (s.workers w).pid } =
            s.setPc w .poller := by rw [← hown]; rfl
        obtain rfl := Option.some_injective _ hstep
        exact hsame ▸ .claim hw (.inr hown)
      · obtain rfl := Option.some_injective _ hstep
        exact .move hw (by simp)
  | startRelease w =>
    simp only [step, Option.ite_none_right_eq_some, Option.some.injEq] at hstep
    obtain ⟨⟨hw, -⟩, rfl⟩ := hstep
    exact .move hw (by simp)
  | release w =>
    simp only [step, Option.ite_none_right_eq_some] at hstep
    obtain ⟨⟨hw, hpc⟩, hstep⟩ := hstep
    split at hstep
    · next hown =>
      obtain rfl := Option.some_injective _ hstep
      exact .release hw hpc hown
    · obtain rfl := Option.some_injective _ hstep
      exact .move hw (by simp)
  | lockRead w t =>
    simp only [step, Option.ite_none_right_eq_some, Option.some.injEq] at hstep
    obtain ⟨⟨hw, hholds, hword⟩, rfl⟩ := hstep
    exact .lockRead hw hholds hword
  | lockWrite w =>
    simp only [step, Option.ite_none_right_eq_some, Option.some.injEq] at hstep
    obtain ⟨⟨hw, hpc, hholds, hword⟩, rfl⟩ := hstep
    exact .lockWrite hw hpc hholds hword
  | unlock w t =>
    simp only [step, Option.ite_none_right_eq_some, Option.some.injEq] at hstep
    obtain ⟨⟨hw, hholds⟩, rfl⟩ := hstep
    exact .unlock hw hholds
  | reloadLoad =>
    simp only [step, Option.ite_none_right_eq_some, Option.some.injEq] at hstep
    obtain ⟨-, rfl⟩ := hstep
    exact .moveReload
  | reloadCheck other =>
    simp only [step] at hstep
    split at hstep
    · split at hstep
      · obtain rfl := Option.some_injective _ hstep
        exact .moveReload
      · obtain rfl := Option.some_injective _ hstep
        exact .moveReload
    · exact absurd hstep (by simp)
  | reloadStore =>
    simp only [step, Option.ite_none_right_eq_some, Option.some.injEq] at hstep
    obtain ⟨hpc, rfl⟩ := hstep
    exact .reloadStore hpc
  | reloadResetLock =>
    simp only [step, Option.ite_none_right_eq_some, Option.some.injEq] at hstep
    obtain ⟨hpc, rfl⟩ := hstep
    exact .reloadResetLock hpc

end ZoneAction

end CrowdSecBouncer
