import CrowdSecBouncer.Foundations.Holds
import CrowdSecBouncer.Foundations.LabelledRun
import Mathlib.Data.BitVec

/-!
# The thread pool bridge

Blocking calls run on nginx's thread pool. While a task is outstanding, its request is marked
with `aio`, its main request is kept alive by a count, and a timer keeps the worker from
exiting. `post` sets all of this up before it hands the task to the pool, and takes it back when
the queue is full; `done` takes it back before it completes the request, and does not complete a
request that is done or whose connection has failed.

Tasks are numbered in the order in which they were accepted. The calls of completion closures are
recorded, so that a run shows how often each of them was called and with what (`Accounted`).
What a completion closure or a write handler does is not part of the bridge; the tasks that they
post are the next events of the run.
-/

namespace CrowdSecBouncer

open Holds

/-- The pool, the memory and the queue, as a call of `post` finds them. -/
structure PostEnv where
  poolReady : Bool
  allocated : Bool
  queued : Bool
  deriving DecidableEq, Repr

/-- A task of a request; `work` and `complete` tell whether the closures are still there. -/
structure Task (R T : Type*) where
  id : ℕ
  work : Bool
  result : Option (Except Unit T)
  complete : Bool
  request : R

/-- A call of a completion closure. -/
structure Completion (R T : Type*) where
  id : ℕ
  request : R
  result : Except Unit T

/-- The requests and tasks of a worker. The field `blocked` of a request has eight bits; the
timers are those that the tasks keep armed. -/
structure Bridge (R T : Type*) where
  aio : R → Bool
  blocked : R → BitVec 8
  tasks : List (Task R T)
  keep : ℕ → Bool
  accepted : ℕ
  completions : List (Completion R T)

variable {R T : Type*} [DecidableEq R]

/-- The closure is taken out and called; a panic is caught. A task without it would panic too. -/
def Task.run (task : Task R T) (outcome : Option T) : Task R T :=
  { task with work := false
              result := some (if task.work then outcome.elim (.error ()) .ok else .error ()) }

/-- The call of its completion closure; a task without a result has failed. -/
def Task.completion (task : Task R T) : Completion R T :=
  ⟨task.id, task.request, task.result.getD (.error ())⟩

namespace Bridge

def setAio (s : Bridge R T) (r : R) (aio : Bool) : Bridge R T :=
  { s with aio := Function.update s.aio r aio }

def setBlocked (s : Bridge R T) (r : R) (blocked : BitVec 8) : Bridge R T :=
  { s with blocked := Function.update s.blocked r blocked }

def setTimer (s : Bridge R T) (t : ℕ) (armed : Bool) : Bridge R T :=
  { s with keep := Function.update s.keep t armed }

variable (main : R → R)

/-- Hand work to the pool; `main` gives the main request of each request. -/
def post (env : PostEnv) (r : R) (s : Bridge R T) : Except Unit Unit × Bridge R T :=
  if !env.poolReady || s.aio r then (.error (), s)
  else if !env.allocated then (.error (), s)
  else
    let data : Task R T :=
      { id := s.accepted, work := true, result := none, complete := true, request := r }
    let s := s.setTimer data.id true
    let s := s.setBlocked (main r) (s.blocked (main r) + 1)
    let s := s.setAio r true
    if !env.queued then
      let s := if s.keep data.id then s.setTimer data.id false else s
      let s := s.setBlocked (main r) (s.blocked (main r) - 1)
      (.error (), s.setAio r false)
    else (.ok (), { s with tasks := data :: s.tasks, accepted := s.accepted + 1 })

/-- The timer has fired, and is armed again. -/
def keepAlive (t : ℕ) (s : Bridge R T) : Bridge R T := (s.setTimer t false).setTimer t true

/-- A thread of the pool runs a task; its work returns a value, or panics. -/
def run (t : ℕ) (outcome : Option T) (s : Bridge R T) : Bridge R T :=
  { s with tasks := s.tasks.map fun task => if task.id = t then task.run outcome else task }

/-- The pool reports a task as done. -/
def done (task : Task R T) (requestDone connectionError : Bool) (s : Bridge R T) : Bridge R T :=
  let s := { s with tasks := s.tasks.eraseP fun task' => task'.id = task.id }
  let s := if s.keep task.id then s.setTimer task.id false else s
  let r := task.request
  let s := s.setBlocked (main r) (s.blocked (main r) - 1)
  let s := s.setAio r false
  let skipComplete := requestDone || connectionError
  if skipComplete then s
  else if task.complete then { s with completions := s.completions ++ [task.completion] }
  else s

/-- What can happen. `done` finds the flags of the request and its connection as they are then. -/
inductive Event (R T : Type*)
  | post (env : PostEnv) (r : R)
  | keepAlive (t : ℕ)
  | run (t : ℕ) (outcome : Option T)
  | done (t : ℕ) (requestDone connectionError : Bool)

/-- The pool runs a task before it reports it as done, and each only once; nothing here depends
on that, as long as it only deals with outstanding tasks. -/
def step : Event R T → Bridge R T → Option (Bridge R T)
  | .post env r, s => some (s.post main env r).2
  | .keepAlive t, s => if s.keep t then some (s.keepAlive t) else none
  | .run t outcome, s =>
    if s.tasks.any fun task => task.id = t then some (s.run t outcome) else none
  | .done t requestDone connectionError, s =>
    (s.tasks.find? fun task => task.id = t).map fun task =>
      s.done main task requestDone connectionError

/-- The tasks that a main request waits for. -/
def outstanding (s : Bridge R T) (m : R) : ℕ := held (fun task => main task.request) s.tasks m

/-- Nothing has been posted yet; the counts may be anything. -/
structure Idle (s : Bridge R T) : Prop where
  aio : ∀ r, s.aio r = false
  tasks : s.tasks = []
  keep : ∀ t, s.keep t = false
  completions : s.completions = []

/-- What the bridge keeps up: the counts, the flags and the timers are those of the outstanding
tasks, and a task is outstanding, completed or neither, but not two of these. -/
structure Bookkeeping (s₀ s : Bridge R T) : Prop where
  blocked : Balanced s₀.blocked s.blocked (fun task => main task.request) s.tasks
  aio : Exclusive s.aio Task.request s.tasks
  keep : ∀ t, s.keep t = true → ∃ task ∈ s.tasks, task.id = t
  complete : ∀ task ∈ s.tasks, task.complete = true
  nodup : (s.tasks.map Task.id ++ s.completions.map Completion.id).Nodup
  lt : ∀ t ∈ s.tasks.map Task.id ++ s.completions.map Completion.id, t < s.accepted

variable {main} {s s₀ s' : Bridge R T} {task : Task R T} {t : ℕ} {r : R} {env : PostEnv}

/-! ### One event -/

/-- The bridge after a task has been accepted. -/
def afterPost (main : R → R) (s : Bridge R T) (r : R) : Bridge R T where
  aio := Function.update s.aio r true
  blocked := Function.update s.blocked (main r) (s.blocked (main r) + 1)
  tasks := ⟨s.accepted, true, none, true, r⟩ :: s.tasks
  keep := Function.update s.keep s.accepted true
  accepted := s.accepted + 1
  completions := s.completions

/-- **`post`** refuses and changes nothing, or it accepts. -/
theorem post_cases (env : PostEnv) (r : R) (hfresh : s.keep s.accepted = false) :
    s.post main env r = (.error (), s) ∨
      s.aio r = false ∧ s.post main env r = (.ok (), s.afterPost main r) := by
  rw [post]
  split
  · exact .inl rfl
  · next hfree =>
    obtain ⟨-, haio⟩ : env.poolReady = true ∧ s.aio r = false := by simpa using hfree
    split
    · exact .inl rfl
    · dsimp only
      split
      · refine .inl (congrArg (Prod.mk _) ?_)
        have hkeep : Function.update (Function.update s.keep s.accepted true) s.accepted false =
            s.keep := by
          rw [Function.update_idem, ← hfresh, Function.update_eq_self]
        have haio' : Function.update (Function.update s.aio r true) r false = s.aio := by
          rw [Function.update_idem, ← haio, Function.update_eq_self]
        have hblocked := update_add_sub s.blocked (main r)
        simp only [setTimer, setBlocked, setAio, Function.update_self, if_true] at hblocked ⊢
        rw [hkeep, haio', hblocked]
      · exact .inr ⟨haio, rfl⟩

/-- The bridge after a task has been reported as done. -/
theorem done_eq (hcomplete : task.complete = true) (requestDone connectionError : Bool) :
    s.done main task requestDone connectionError =
      { aio := Function.update s.aio task.request false
        blocked := Function.update s.blocked (main task.request)
          (s.blocked (main task.request) - 1)
        tasks := s.tasks.eraseP fun task' => task'.id = task.id
        keep := Function.update s.keep task.id false
        accepted := s.accepted
        completions :=
          if requestDone || connectionError then s.completions
          else s.completions ++ [task.completion] } := by
  have hkeep : (if s.keep task.id then Function.update s.keep task.id false else s.keep) =
      Function.update s.keep task.id false := by
    split
    · rfl
    · next hoff =>
      rw [Bool.not_eq_true] at hoff
      rw [← hoff, Function.update_eq_self]
  rw [done, ← hkeep, hcomplete]
  cases s.keep task.id <;> cases requestDone <;> cases connectionError <;> rfl

omit [DecidableEq R] in
/-- An outstanding task, among the others. -/
theorem exists_split (hfind : s.tasks.find? (fun task => task.id = t) = some task) :
    task.id = t ∧ ∃ before after, s.tasks = before ++ task :: after ∧
      s.tasks.eraseP (fun task' => task'.id = task.id) = before ++ after := by
  obtain ⟨hid, before, after, htasks, hbefore⟩ := List.find?_eq_some_iff_append.mp hfind
  have hid' : task.id = t := of_decide_eq_true hid
  refine ⟨hid', before, after, htasks, ?_⟩
  rw [htasks, List.eraseP_append_right _ (by simpa [hid'] using hbefore),
    List.eraseP_cons_of_pos (by simp)]

omit [DecidableEq R] in
@[simp] theorem id_run (task : Task R T) (outcome : Option T) : (task.run outcome).id = task.id :=
  rfl

omit [DecidableEq R] in
/-- Running a task changes no list that is read off the other fields. -/
theorem map_tasks_run {α : Type*} {f : Task R T → α} (t : ℕ) (outcome : Option T)
    (hf : ∀ task, f (task.run outcome) = f task) :
    (s.run t outcome).tasks.map f = s.tasks.map f := by
  rw [run, List.map_map]
  refine List.map_congr_left fun task _ => ?_
  rw [Function.comp_apply, apply_ite f, hf, ite_self]

namespace Bookkeeping

theorem refl (hidle : s.Idle) : Bookkeeping main s s where
  blocked := hidle.tasks ▸ balanced_nil
  aio := hidle.tasks ▸ exclusive_nil hidle.aio
  keep := by
    intro t ht
    rw [hidle.keep t] at ht
    exact absurd ht Bool.false_ne_true
  complete := by simp [hidle.tasks]
  nodup := by simp [hidle.tasks, hidle.completions]
  lt := by simp [hidle.tasks, hidle.completions]

variable (h : Bookkeeping main s₀ s)

include h

/-- The number of a new task is not in use. -/
theorem keep_accepted : s.keep s.accepted = false := by
  by_contra hset
  obtain ⟨task, hmem, hid⟩ := h.keep _ (by simpa using hset)
  exact (h.lt _ (List.mem_append_left _ (List.mem_map_of_mem hmem))).ne hid

theorem afterPost (haio : s.aio r = false) : Bookkeeping main s₀ (s.afterPost main r) where
  blocked := h.blocked.acquire ⟨s.accepted, true, none, true, r⟩
  aio := h.aio.acquire ⟨s.accepted, true, none, true, r⟩ haio
  keep := by
    intro t ht
    by_cases hnew : t = s.accepted
    · exact ⟨_, List.mem_cons_self, hnew.symm⟩
    · have hold : s.keep t = true := (Function.update_of_ne hnew ..).symm.trans ht
      obtain ⟨task, hmem, hid⟩ := h.keep t hold
      exact ⟨task, List.mem_cons_of_mem _ hmem, hid⟩
  complete := List.forall_mem_cons.mpr ⟨rfl, h.complete⟩
  nodup := List.nodup_cons.mpr ⟨fun hmem => (h.lt _ hmem).ne rfl, h.nodup⟩
  lt := List.forall_mem_cons.mpr
    ⟨Nat.lt_succ_self _, fun t ht => (h.lt t ht).trans (Nat.lt_succ_self _)⟩

theorem run (t : ℕ) (outcome : Option T) : Bookkeeping main s₀ (s.run t outcome) where
  blocked := h.blocked.of_map_eq (map_tasks_run t outcome fun _ => rfl)
  aio := h.aio.of_map_eq (map_tasks_run t outcome fun _ => rfl)
  keep := by
    intro t' ht'
    obtain ⟨task, hmem, hid⟩ := h.keep t' ht'
    have hmap : t' ∈ (s.run t outcome).tasks.map Task.id := by
      rw [map_tasks_run t outcome fun _ => rfl]
      exact hid ▸ List.mem_map_of_mem hmem
    exact List.mem_map.mp hmap
  complete := by
    intro task htask
    have hmap : task.complete ∈ (s.run t outcome).tasks.map Task.complete :=
      List.mem_map_of_mem htask
    rw [map_tasks_run t outcome fun _ => rfl] at hmap
    obtain ⟨task', hmem, heq⟩ := List.mem_map.mp hmap
    exact heq ▸ h.complete task' hmem
  nodup := by
    rw [map_tasks_run t outcome fun _ => rfl]
    exact h.nodup
  lt := by
    rw [map_tasks_run t outcome fun _ => rfl]
    exact h.lt

theorem done (hfind : s.tasks.find? (fun task => task.id = t) = some task)
    (requestDone connectionError : Bool) :
    Bookkeeping main s₀ (s.done main task requestDone connectionError) := by
  obtain ⟨-, before, after, htasks, herase⟩ := exists_split hfind
  have hperm : s.tasks.Perm (task :: (before ++ after)) := htasks ▸ List.perm_middle
  -- the numbers before, and those that are left of them
  have hids : (s.tasks.map Task.id ++ s.completions.map Completion.id).Perm
      (task.id :: ((before ++ after).map Task.id ++ s.completions.map Completion.id)) :=
    (hperm.map Task.id).append_right _
  have hids' : ((before ++ after).map Task.id ++
      (s.completions ++ [task.completion]).map Completion.id).Perm
      (s.tasks.map Task.id ++ s.completions.map Completion.id) := by
    have hmap : (s.completions ++ [task.completion]).map Completion.id =
        s.completions.map Completion.id ++ [task.id] := List.map_append
    rw [hmap, ← List.append_assoc]
    exact (List.perm_append_singleton ..).trans hids.symm
  have hblocked := h.blocked
  have haio := h.aio
  rw [htasks] at hblocked haio
  rw [done_eq (h.complete task (hperm.mem_iff.mpr List.mem_cons_self)), herase]
  refine ⟨hblocked.release, haio.release, fun t' ht' => ?_, fun task' hmem => ?_, ?_, ?_⟩
  · dsimp only at ht'
    by_cases heq : t' = task.id
    · subst heq
      rw [Function.update_self] at ht'
      exact absurd ht' Bool.false_ne_true
    · rw [Function.update_of_ne heq] at ht'
      obtain ⟨task', hmem, rfl⟩ := h.keep t' ht'
      rcases List.mem_cons.mp (hperm.mem_iff.mp hmem) with rfl | hleft
      · exact absurd rfl heq
      · exact ⟨task', hleft, rfl⟩
  · exact h.complete task' (hperm.mem_iff.mpr (List.mem_cons_of_mem _ hmem))
  · split
    · exact (List.nodup_cons.mp (hids.nodup_iff.mp h.nodup)).2
    · exact hids'.nodup_iff.mpr h.nodup
  · intro t' ht'
    refine h.lt t' ?_
    split at ht'
    · exact hids.mem_iff.mpr (List.mem_cons_of_mem _ ht')
    · exact hids'.mem_iff.mp ht'

/-- **The step lemma.** -/
theorem step {event : Event R T} (hstep : Bridge.step main event s = some s') :
    Bookkeeping main s₀ s' := by
  cases event with
  | post env r =>
    obtain rfl := Option.some_injective _ hstep
    rcases post_cases env r h.keep_accepted with heq | ⟨haio, heq⟩
    · rw [heq]
      exact h
    · rw [heq]
      exact h.afterPost haio
  | keepAlive t =>
    obtain ⟨hset, heq⟩ := Option.ite_none_right_eq_some.mp hstep
    have hsame : s.keepAlive t = s := by
      rw [keepAlive, setTimer, setTimer, Function.update_idem, ← hset, Function.update_eq_self]
    rwa [← Option.some_injective _ heq, hsame]
  | run t outcome =>
    obtain ⟨-, heq⟩ := Option.ite_none_right_eq_some.mp hstep
    exact Option.some_injective _ heq ▸ h.run t outcome
  | done t requestDone connectionError =>
    obtain ⟨task, hfind, rfl⟩ := Option.map_eq_some_iff.mp hstep
    exact h.done hfind requestDone connectionError

omit h in
/-- **The run lemma.** -/
theorem exec {events : List (Event R T)} (hidle : s₀.Idle)
    (hexec : LabelledRun.exec (Bridge.step main) events s₀ = some s) : Bookkeeping main s₀ s :=
  LabelledRun.exec_of_step (fun _ _ _ h hstep => h.step hstep) (refl hidle) hexec

/-- An outstanding task has not been completed. -/
theorem ne_of_mem (hmem : task ∈ s.tasks) : ∀ c ∈ s.completions, c.id ≠ task.id := by
  intro c hc heq
  exact List.disjoint_of_nodup_append h.nodup (List.mem_map_of_mem hmem)
    (heq ▸ List.mem_map_of_mem hc)

end Bookkeeping

/-! ### What becomes of one task -/

/-- A task that has been reported as done, with the number of calls of its completion closure. -/
structure Reported (t n : ℕ) (s : Bridge R T) : Prop where
  lt : t < s.accepted
  gone : ∀ task ∈ s.tasks, task.id ≠ t
  count : s.completions.countP (fun c => c.id = t) = n

/-- A task whose work has panicked: what is or was passed on is an error. -/
structure Panicked (t : ℕ) (s : Bridge R T) : Prop where
  lt : t < s.accepted
  task : ∀ task ∈ s.tasks, task.id = t → task.work = false ∧ task.result = some (.error ())
  completion : ∀ c ∈ s.completions, c.id = t → c.result = .error ()

namespace Bookkeeping

variable (h : Bookkeeping main s₀ s)

include h

/-- Nothing happens to a task after that. -/
theorem reported_step {n : ℕ} (hr : Reported t n s) {event : Event R T}
    (hstep : Bridge.step main event s = some s') : Reported t n s' := by
  cases event with
  | post env r =>
    obtain rfl := Option.some_injective _ hstep
    rcases post_cases env r h.keep_accepted with heq | ⟨haio, heq⟩
    · rw [heq]
      exact hr
    · rw [heq]
      exact ⟨hr.lt.trans (Nat.lt_succ_self _), List.forall_mem_cons.mpr ⟨hr.lt.ne', hr.gone⟩,
        hr.count⟩
  | keepAlive t' =>
    obtain ⟨-, heq⟩ := Option.ite_none_right_eq_some.mp hstep
    exact Option.some_injective _ heq ▸ ⟨hr.lt, hr.gone, hr.count⟩
  | run t' outcome =>
    obtain ⟨-, heq⟩ := Option.ite_none_right_eq_some.mp hstep
    obtain rfl := Option.some_injective _ heq
    -- a run keeps the ids of the tasks
    refine ⟨hr.lt, fun task hmem heq => ?_, hr.count⟩
    have hid : t ∈ (s.run t' outcome).tasks.map Task.id := heq ▸ List.mem_map_of_mem hmem
    rw [map_tasks_run t' outcome fun _ => rfl] at hid
    obtain ⟨task', hmem', heq'⟩ := List.mem_map.mp hid
    exact hr.gone task' hmem' heq'
  | done t' requestDone connectionError =>
    obtain ⟨task, hfind, rfl⟩ := Option.map_eq_some_iff.mp hstep
    have hmem : task ∈ s.tasks := List.mem_of_find?_eq_some hfind
    rw [done_eq (h.complete task hmem)]
    refine ⟨hr.lt, fun task' hmem' => hr.gone task' (List.mem_of_mem_eraseP hmem'), ?_⟩
    dsimp only
    split
    · exact hr.count
    · have hne : ¬ decide (task.completion.id = t) = true := by
        rw [decide_eq_true_eq]
        exact hr.gone task hmem
      rw [List.countP_append, hr.count, List.countP_singleton, if_neg hne, add_zero]

/-- Reporting a task calls its closure unless the request is done or its connection failed. -/
theorem reported_done (hfind : s.tasks.find? (fun task => task.id = t) = some task)
    (requestDone connectionError : Bool) :
    Reported t (if requestDone || connectionError then 0 else 1)
      (s.done main task requestDone connectionError) := by
  obtain ⟨rfl, before, after, htasks, herase⟩ := exists_split hfind
  have hmem : task ∈ s.tasks := List.mem_of_find?_eq_some hfind
  have hnone : s.completions.countP (fun c => c.id = task.id) = 0 :=
    List.countP_eq_zero.mpr fun c hc => by simpa using h.ne_of_mem hmem c hc
  have hnodup : (task.id :: (before ++ after).map Task.id).Nodup := by
    have hperm : (s.tasks.map Task.id).Perm (task.id :: (before ++ after).map Task.id) := by
      rw [htasks]
      exact List.perm_middle.map Task.id
    exact hperm.nodup_iff.mp h.nodup.of_append_left
  rw [done_eq (h.complete task hmem), herase]
  refine ⟨h.lt _ (List.mem_append_left _ (List.mem_map_of_mem hmem)), fun task' hmem' heq => ?_, ?_⟩
  · exact (List.nodup_cons.mp hnodup).1 (heq ▸ List.mem_map_of_mem hmem')
  · dsimp only
    split
    · exact hnone
    · rw [List.countP_append, hnone, List.countP_singleton, if_pos (by simp [Task.completion])]

theorem panicked_step (hp : Panicked t s) {event : Event R T}
    (hstep : Bridge.step main event s = some s') : Panicked t s' := by
  cases event with
  | post env r =>
    obtain rfl := Option.some_injective _ hstep
    rcases post_cases env r h.keep_accepted with heq | ⟨haio, heq⟩
    · rw [heq]
      exact hp
    · rw [heq]
      exact ⟨hp.lt.trans (Nat.lt_succ_self _),
        List.forall_mem_cons.mpr ⟨fun heq => absurd heq hp.lt.ne', hp.task⟩, hp.completion⟩
  | keepAlive t' =>
    obtain ⟨-, heq⟩ := Option.ite_none_right_eq_some.mp hstep
    exact Option.some_injective _ heq ▸ ⟨hp.lt, hp.task, hp.completion⟩
  | run t' outcome =>
    obtain ⟨-, heq⟩ := Option.ite_none_right_eq_some.mp hstep
    obtain rfl := Option.some_injective _ heq
    refine ⟨hp.lt, fun task hmem hid => ?_, hp.completion⟩
    obtain ⟨task', hmem', rfl⟩ := List.mem_map.mp hmem
    split at hid
    · next hsame =>
      obtain ⟨hwork, -⟩ := hp.task task' hmem' hid
      rw [if_pos hsame, Task.run, hwork]
      exact ⟨rfl, rfl⟩
    · next hother =>
      rw [if_neg hother]
      exact hp.task task' hmem' hid
  | done t' requestDone connectionError =>
    obtain ⟨task, hfind, rfl⟩ := Option.map_eq_some_iff.mp hstep
    have hmem : task ∈ s.tasks := List.mem_of_find?_eq_some hfind
    rw [done_eq (h.complete task hmem)]
    refine ⟨hp.lt, fun task' hmem' => hp.task task' (List.mem_of_mem_eraseP hmem'), ?_⟩
    intro c hc hid
    dsimp only at hc
    split at hc
    · exact hp.completion c hc hid
    · rcases List.mem_append.mp hc with hc | hc
      · exact hp.completion c hc hid
      · obtain rfl := List.mem_singleton.mp hc
        rw [Task.completion, (hp.task task hmem hid).2, Option.getD_some]

theorem panicked_run (hlive : s.tasks.any (fun task => task.id = t) = true) :
    Panicked t (s.run t none) := by
  obtain ⟨task, hmem, hid⟩ := List.any_eq_true.mp hlive
  obtain rfl : task.id = t := of_decide_eq_true hid
  refine ⟨h.lt _ (List.mem_append_left _ (List.mem_map_of_mem hmem)), fun task' hmem' hid' => ?_,
    fun c hc heq => absurd heq (h.ne_of_mem hmem c hc)⟩
  obtain ⟨task₀, -, rfl⟩ := List.mem_map.mp hmem'
  split at hid'
  · next hsame =>
    rw [if_pos hsame, Task.run]
    exact ⟨rfl, by cases task₀.work <;> rfl⟩
  · next hother => exact absurd hid' hother

end Bookkeeping

/-! ### Runs -/

/-- What a run from an idle bridge keeps up. -/
structure Accounted (main : R → R) (s₀ s : Bridge R T) (events : List (Event R T)) : Prop where
  /-- The counter of a main request has moved by its outstanding tasks. -/
  blocked_eq : ∀ m, s.blocked m = s₀.blocked m + BitVec.ofNat 8 (s.outstanding main m)
  /-- With fewer than 256 of them it tells how many they are. -/
  blocked_sub : ∀ m, s.outstanding main m < 256 →
    (s.blocked m - s₀.blocked m).toNat = s.outstanding main m
  /-- As long as the counter does not wrap, that is the sum. -/
  blocked_toNat : ∀ m, (s₀.blocked m).toNat + s.outstanding main m < 256 →
    (s.blocked m).toNat = (s₀.blocked m).toNat + s.outstanding main m
  /-- A request is marked when it has an outstanding task. -/
  aio_iff : ∀ r, s.aio r = true ↔ ∃ task ∈ s.tasks, task.request = r
  /-- A refused post changes nothing. -/
  refused : ∀ env r, (s.post main env r).1 = .error () → (s.post main env r).2 = s
  /-- No timer is left armed for a task that is gone. -/
  keep : ∀ t, s.keep t = true → ∃ task ∈ s.tasks, task.id = t
  /-- A completion closure is called at most once, -/
  once : ∀ t, s.completions.countP (fun c => c.id = t) ≤ 1
  /-- and exactly once when the task is reported for a request that goes on. -/
  reported : ∀ before after t requestDone connectionError,
    events = before ++ .done t requestDone connectionError :: after →
      s.completions.countP (fun c => c.id = t) = if requestDone || connectionError then 0 else 1
  /-- It is passed an error if the work panicked. -/
  panicked : ∀ t, .run t none ∈ events → ∀ c ∈ s.completions, c.id = t → c.result = .error ()

/-- A task that was reported during a run. -/
theorem reported_of_exec {before after : List (Event R T)} {requestDone connectionError : Bool}
    (hidle : s₀.Idle) (hexec : LabelledRun.exec (step main)
      (before ++ .done t requestDone connectionError :: after) s₀ = some s) :
    Reported t (if requestDone || connectionError then 0 else 1) s := by
  obtain ⟨s₁, hbefore, hrest⟩ := LabelledRun.exec_append.mp hexec
  obtain ⟨s₂, hdone, hafter⟩ := LabelledRun.exec_cons.mp hrest
  have h₁ : Bookkeeping main s₀ s₁ := .exec hidle hbefore
  obtain ⟨task, hfind, rfl⟩ := Option.map_eq_some_iff.mp hdone
  have hr := h₁.reported_done hfind requestDone connectionError
  have hlast := LabelledRun.exec_of_step (P := fun s => Bookkeeping main s₀ s ∧ Reported t _ s)
    (fun _ _ _ h hstep => ⟨h.1.step hstep, h.1.reported_step h.2 hstep⟩)
    ⟨h₁.step hdone, hr⟩ hafter
  exact hlast.2

/-- A task whose work panicked during a run. -/
theorem panicked_of_exec {before after : List (Event R T)} (hidle : s₀.Idle)
    (hexec : LabelledRun.exec (step main) (before ++ .run t none :: after) s₀ = some s) :
    Panicked t s := by
  obtain ⟨s₁, hbefore, hrest⟩ := LabelledRun.exec_append.mp hexec
  obtain ⟨s₂, hran, hafter⟩ := LabelledRun.exec_cons.mp hrest
  have h₁ : Bookkeeping main s₀ s₁ := .exec hidle hbefore
  obtain ⟨hlive, heq⟩ := Option.ite_none_right_eq_some.mp hran
  have hp : Panicked t s₂ := Option.some_injective _ heq ▸ h₁.panicked_run hlive
  have hlast := LabelledRun.exec_of_step (P := fun s => Bookkeeping main s₀ s ∧ Panicked t s)
    (fun _ _ _ h hstep => ⟨h.1.step hstep, h.1.panicked_step h.2 hstep⟩)
    ⟨h₁.step hran, hp⟩ hafter
  exact hlast.2

/-- **The bookkeeping of the thread pool bridge**, in every run over any requests. -/
theorem accounted_of_exec {events : List (Event R T)} (hidle : s₀.Idle)
    (hexec : LabelledRun.exec (step main) events s₀ = some s) : Accounted main s₀ s events := by
  have h : Bookkeeping main s₀ s := .exec hidle hexec
  have hblocked (m : R) : s.blocked m = s₀.blocked m + BitVec.ofNat 8 (s.outstanding main m) :=
    h.blocked m
  refine ⟨hblocked, fun m hm => ?_, fun m hm => ?_, h.aio.flag_iff, fun env r hrefused => ?_,
    h.keep, fun t => ?_, ?_, fun t hrun => ?_⟩
  · rw [hblocked, add_sub_cancel_left, BitVec.toNat_ofNat, Nat.mod_eq_of_lt hm]
  · rw [hblocked, BitVec.toNat_add, BitVec.toNat_ofNat, Nat.add_mod_mod, Nat.mod_eq_of_lt hm]
  · rcases post_cases env r h.keep_accepted with heq | ⟨-, heq⟩
    · rw [heq]
    · rw [heq] at hrefused
      exact absurd hrefused (by simp)
  · have hcount : s.completions.countP (fun c => c.id = t) =
        (s.completions.map Completion.id).count t := by
      rw [List.count, List.countP_map]
      rfl
    rw [hcount]
    exact List.nodup_iff_count_le_one.mp h.nodup.of_append_right t
  · rintro before after t requestDone connectionError rfl
    exact (reported_of_exec hidle hexec).count
  · obtain ⟨before, after, rfl⟩ := List.append_of_mem hrun
    exact (panicked_of_exec hidle hexec).completion

/-- A request and a subrequest of it: a post is refused while the first task is outstanding, one
work panics, and the subrequest is done when its task is reported. -/
theorem accounted_of_exec_subrequest :
    ∃ s : Bridge Bool ℕ, Accounted (fun _ => true)
      ⟨fun _ => false, fun _ => 3, [], fun _ => false, 0, []⟩ s
      [.post ⟨true, true, true⟩ true, .post ⟨true, true, true⟩ true,
        .post ⟨true, true, false⟩ false, .post ⟨true, true, true⟩ false, .run 0 none,
        .keepAlive 1, .run 1 (some 7), .done 0 false false, .done 1 true false] :=
  ⟨_, accounted_of_exec ⟨fun _ => rfl, rfl, fun _ => rfl, rfl⟩ rfl⟩

end Bridge

end CrowdSecBouncer
