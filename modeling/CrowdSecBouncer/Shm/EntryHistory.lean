import CrowdSecBouncer.Shm.Eviction

/-!
# The history of one entry

Whatever its probing, a call does one of a few things to the entry of a key: it adds a
decision, it removes a type, it drops the entry (by clearing the table or by evicting the
slot), or it leaves it alone. Adding and removing first prune what has expired; the source's
pruning routine is an event of its own here. What the table has under a key after a run that
does not drop it is the outcome of its history (`TableOk.find_run`).

A history of such events has a meaning without deadlines that are cleared, pruned or stale: a
type is active when it was added, after its last removal, without a limit or with one that is
still ahead (`activeMask_history`). So pruning cannot be observed, the two types do not meet,
and additions that follow one another may be reordered.
-/

namespace CrowdSecBouncer

open DeadlineMap LabelledRun

/-- What happens to one entry, with the clock reading of the call. -/
inductive EntryEvent
  | add (dt : DecisionType) (origin : Origin) (scenarioId : UInt16) (expires now : ℤ)
  | remove (dt : DecisionType) (now : ℤ)
  | prune (now : ℤ)
  deriving DecidableEq, Repr

namespace EntryEvent

/-- The entry of the key `k` after an event: an addition or a removal prunes first, and an entry
without decisions is replaced or given up. -/
def apply (k : Key) (e : Option ShmHashEntry) : EntryEvent → Option ShmHashEntry
  | add dt origin scenarioId expires now =>
    some (upserted e dt origin scenarioId expires (k.newEntry dt origin scenarioId expires) now)
  | remove dt now => remaining e dt now
  | prune now => e.map fun e => e.pruneExpired now

/-- The entry after a history that starts without one. -/
def run (k : Key) (events : List EntryEvent) : Option ShmHashEntry :=
  events.foldl (apply k) none

def time : EntryEvent → ℤ
  | add _ _ _ _ now => now
  | remove _ now => now
  | prune now => now

def isAdd : EntryEvent → Bool
  | add .. => true
  | _ => false

def isPrune : EntryEvent → Bool
  | prune _ => true
  | _ => false

/-- The event is about the type, or about no type in particular. -/
def concerns (dt : DecisionType) : EntryEvent → Bool
  | add dt' _ _ _ _ => dt' = dt
  | remove dt' _ => dt' = dt
  | prune _ => true

/-- What an event means for the deadlines of the types; pruning means nothing. -/
def update? : EntryEvent → Option (Update DecisionType ℤ)
  | add dt _ _ expires _ => some (.join dt (DecisionExpiry.requested dt expires))
  | remove dt _ => some (.erase dt)
  | prune _ => none

end EntryEvent

/-- The active mask of what was found under a key. -/
def activeMaskOf (e : Option ShmHashEntry) (now : ℤ) : UInt8 :=
  match e with
  | some e => e.expires.activeMask e.decisionTypes now
  | none => 0

variable {k : Key} {e : Option ShmHashEntry} {dt : DecisionType} {now t : ℤ}

theorem activeMaskOf_and_toBit_ne_zero :
    activeMaskOf e now &&& dt.toBit ≠ 0 ↔ Deadline.Active now (viewOf e dt) := by
  cases e with
  | none => exact iff_of_false (by simp [activeMaskOf]) Deadline.not_active_bot
  | some e => exact DecisionExpiry.activeMask_and_toBit_ne_zero

/-! ### Masks and events -/

theorem decisionTypes_newEntry_lt (k : Key) (dt : DecisionType) (o : Origin) (sid : UInt16)
    (x : ℤ) : (k.newEntry dt o sid x).decisionTypes < 4 := by
  cases k with
  | ip addr => exact toBit_lt dt
  | cidr family prefixLen network => exact toBit_lt dt

namespace EntryEvent

/-- An event leaves a mask of known bits. -/
theorem mask_lt_apply (ev : EntryEvent) (h : ∀ x, e = some x → x.decisionTypes < 4)
    {y : ShmHashEntry} (hy : ev.apply k e = some y) : y.decisionTypes < 4 := by
  have hprune {x : ShmHashEntry} (hx : e = some x) (now : ℤ) :
      (x.pruneExpired now).decisionTypes < 4 :=
    DecisionExpiry.activeMask_lt (h x hx)
  cases ev with
  | add dt o sid x now =>
    rw [apply, Option.some.injEq] at hy
    subst hy
    cases e with
    | none => exact decisionTypes_newEntry_lt k dt o sid x
    | some z =>
      rw [upserted]
      split
      · exact mask_or_toBit_lt (hprune rfl now) dt
      · exact decisionTypes_newEntry_lt k dt o sid x
  | remove dt now =>
    obtain ⟨z, hz, hrest⟩ := Option.bind_eq_some_iff.mp hy
    obtain ⟨-, hrest⟩ := Option.ite_none_right_eq_some.mp hrest
    obtain rfl := Option.some_injective _ hrest
    exact mask_and_not_toBit_lt (hprune hz now) dt
  | prune now =>
    obtain ⟨z, hz, rfl⟩ := Option.map_eq_some_iff.mp hy
    exact hprune hz now

/-- **One event.** From its time on the deadlines are those that its update leaves. -/
theorem eqFrom_apply (ev : EntryEvent) (hev : ev.time ≤ t) :
    Deadline.EqFrom t (viewOf (ev.apply k e) dt) (runAt dt (viewOf e dt) ev.update?.toList) := by
  cases ev with
  | add dt' o sid x now =>
    have hadd : Deadline.EqFrom now (viewOf ((add dt' o sid x now).apply k e) dt)
        (if dt = dt' then viewOf e dt' ⊔ DecisionExpiry.requested dt' x else viewOf e dt) :=
      Agrees.eqFrom_upserted e (fun dt₀ => viewOf_newEntry k dt' dt₀ o sid x) dt
    refine (hadd.mono hev).trans ?_
    by_cases hdt : dt = dt'
    · subst hdt
      simp [update?, Update.effectAt, Deadline.EqFrom.refl]
    · simp [update?, Update.effectAt, hdt, Deadline.EqFrom.refl]
  | remove dt' now =>
    refine Deadline.EqFrom.mono ?_ hev
    exact Agrees.eqFrom_remaining e dt' dt
  | prune now =>
    refine Deadline.EqFrom.mono ?_ hev
    cases e with
    | none => exact .refl now _
    | some x => exact Agrees.eqFrom_pruneExpired x now dt

/-! ### Histories -/

/-- The updates of a history. -/
def updates (events : List EntryEvent) : List (Update DecisionType ℤ) := events.filterMap update?

variable {events events' : List EntryEvent}

theorem updates_append : updates (events ++ events') = updates events ++ updates events' :=
  List.filterMap_append

/-- **A history** leaves the deadlines that its updates leave, from its last time on. -/
theorem eqFrom_run (ht : ∀ ev ∈ events, ev.time ≤ t) :
    Deadline.EqFrom t (viewOf (run k events) dt) (runAt dt ⊥ (updates events)) := by
  suffices hfold : ∀ e, Deadline.EqFrom t (viewOf (events.foldl (apply k) e) dt)
      (runAt dt (viewOf e dt) (updates events)) from hfold none
  induction events with
  | nil => exact fun e => .refl t _
  | cons ev events ih =>
    intro e
    have hupdates : updates (ev :: events) = ev.update?.toList ++ updates events := by
      rw [updates, List.filterMap_cons]
      cases ev.update? <;> rfl
    have hstep : Deadline.EqFrom t (viewOf (ev.apply k e) dt)
        (runAt dt (viewOf e dt) ev.update?.toList) :=
      eqFrom_apply ev (ht ev List.mem_cons_self)
    rw [hupdates, runAt_append]
    exact (ih (fun ev' hev' => ht ev' (List.mem_cons_of_mem _ hev')) (ev.apply k e)).trans
      (eqFrom_runAt _ hstep)

theorem mask_lt_run (k : Key) (events : List EntryEvent) {y : ShmHashEntry}
    (hy : run k events = some y) : y.decisionTypes < 4 := by
  suffices hfold : ∀ e : Option ShmHashEntry, (∀ x, e = some x → x.decisionTypes < 4) →
      ∀ x, events.foldl (apply k) e = some x → x.decisionTypes < 4 from
    hfold none (fun x hx => absurd hx (by simp)) y hy
  clear hy
  induction events with
  | nil => exact fun e he => he
  | cons ev events ih => exact fun e he => ih (ev.apply k e) fun x hx => ev.mask_lt_apply he hx

theorem activeMaskOf_run_lt (k : Key) (events : List EntryEvent) (t : ℤ) :
    activeMaskOf (run k events) t < 4 := by
  cases hrun : run k events with
  | none => exact (by decide : (0 : UInt8) < 4)
  | some y => exact DecisionExpiry.activeMask_lt (mask_lt_run k events hrun)

/-- A type is active after a history when it is after the updates. -/
theorem activeMaskOf_run_and_toBit_ne_zero (ht : ∀ ev ∈ events, ev.time ≤ t) :
    activeMaskOf (run k events) t &&& dt.toBit ≠ 0 ↔
      Deadline.Active t (runAt dt ⊥ (updates events)) :=
  activeMaskOf_and_toBit_ne_zero.trans (eqFrom_run ht t le_rfl)

/-- Histories whose updates leave the same deadlines have the same active mask. -/
theorem activeMaskOf_run_congr (ht : ∀ ev ∈ events, ev.time ≤ t)
    (ht' : ∀ ev ∈ events', ev.time ≤ t)
    (hsame : ∀ dt, runAt dt ⊥ (updates events) = runAt dt ⊥ (updates events')) :
    activeMaskOf (run k events) t = activeMaskOf (run k events') t := by
  refine mask_ext (activeMaskOf_run_lt ..) (activeMaskOf_run_lt ..) fun dt => ?_
  rw [activeMaskOf_run_and_toBit_ne_zero ht, activeMaskOf_run_and_toBit_ne_zero ht', hsame]

/-- An addition of the type, after the last removal of it, has no limit or one still ahead. -/
def Granted (events : List EntryEvent) (t : ℤ) (dt : DecisionType) : Prop :=
  ∃ before after origin scenarioId expires now,
    events = before ++ .add dt origin scenarioId expires now :: after ∧
      (∀ now', .remove dt now' ∉ after) ∧ (expires = 0 ∨ t < expires)

/-- The updates of a history keep a deadline in force when the history grants it. -/
theorem active_runAt_updates_iff (hdt : dt ≠ .unknown) :
    Deadline.Active t (runAt dt ⊥ (updates events)) ↔ Granted events t dt := by
  have herase (after : List EntryEvent) :
      .erase dt ∉ updates after ↔ ∀ now, .remove dt now ∉ after := by
    rw [updates, List.mem_filterMap, not_exists]
    constructor
    · exact fun hnone now hmem => hnone (.remove dt now) ⟨hmem, rfl⟩
    · rintro hnone (_ | ⟨dt', now⟩ | _) ⟨hmem, hev⟩
      · exact absurd hev (by simp [update?])
      · obtain rfl : dt' = dt := by simpa [update?] using hev
        exact hnone now hmem
      · exact absurd hev (by simp [update?])
  have hclear (after : List EntryEvent) : .clear ∉ updates after := by
    rw [updates, List.mem_filterMap, not_exists]
    rintro (_ | _ | _) ⟨-, hev⟩ <;> exact absurd hev (by simp [update?])
  have hrequested (x : ℤ) : Deadline.Active t (DecisionExpiry.requested dt x) ↔
      x = 0 ∨ t < x := by
    rw [DecisionExpiry.requested, if_neg hdt, DecisionExpiry.active_ofStored]
  rw [active_runAt_iff, or_iff_right fun h => Deadline.not_active_bot h.1]
  constructor
  · -- the update that grants the deadline comes from an addition of the history
    rintro ⟨_, d, _, heq, hactive, hlast, -⟩
    obtain ⟨before, rest, rfl, -, hrest⟩ := List.filterMap_eq_append_iff.mp heq
    obtain ⟨gap, ev, after, rfl, -, hev, rfl⟩ := List.filterMap_eq_cons_iff.mp hrest
    cases ev with
    | add dt' o sid x now =>
      obtain ⟨rfl, rfl⟩ : dt' = dt ∧ DecisionExpiry.requested dt' x = d := by
        simpa [update?] using hev
      exact ⟨before ++ gap, after, o, sid, x, now, by simp, (herase after).mp hlast,
        (hrequested x).mp hactive⟩
    | remove dt' now => exact absurd hev (by simp [update?])
    | prune now => exact absurd hev (by simp [update?])
  · rintro ⟨before, after, o, sid, x, now, rfl, hlast, hx⟩
    exact ⟨updates before, _, updates after, by rw [updates_append]; rfl, (hrequested x).mpr hx,
      (herase after).mpr hlast, hclear after⟩

end EntryEvent

/-! ### The entries of the table -/

/-- What a call does to the entry of the key `k`, if the table keeps it. -/
def TableOp.event? (s : ShmData) (k : Key) (op : TableOp) : Option EntryEvent :=
  match op.addition? with
  | some a =>
    if k = a.key then some (.add a.decisionType a.origin (a.scenarioId s) a.expires a.clock.now)
    else none
  | none =>
    match op with
    | removeDecisionType ip dt now => if k = .ip ip then some (.remove dt now) else none
    | removeCidrDecisionType family prefixLen network dt now =>
      if k = .ofCidr family prefixLen network then some (.remove dt now) else none
    | addDecision .. | addCidrDecision .. | clearAll => none

/-- The history of a key in a run. -/
def TableOp.events (k : Key) : List TableOp → ShmData → List EntryEvent
  | [], _ => []
  | op :: ops, s => (op.event? s k).toList ++ events k ops (op.apply s)

/-- The call does not drop the entry of the key. -/
def TableOp.Keeps (k : Key) (op : TableOp) (s : ShmData) : Prop :=
  op ≠ .clearAll ∧ op.evictedKey? s ≠ some k

variable {s : ShmData} {op : TableOp} {ops : List TableOp}

/-- **One call** makes of an entry what its event makes of it. -/
theorem TableOk.find_apply (h : TableOk s) (hkeeps : op.Keeps k s) (hk : k.Normal) :
    (op.apply s).find k = (op.event? s k).toList.foldl (EntryEvent.apply k) (s.find k) := by
  rw [TableOp.event?.eq_def]
  cases hadd : op.addition? with
  | some a =>
    dsimp only
    cases hevict : op.reachesEvictClock s with
    | false =>
      rw [h.find_addition hadd hevict hk]
      by_cases hka : k = a.key
      · rw [if_pos hka, if_pos hka, hka]
        rfl
      · rw [if_neg hka, if_neg hka]
        rfl
    | true =>
      obtain ⟨i, hlt, hi, -⟩ := h.slots_addition_evicting hadd hevict
      rw [h.find_addition_evicting hadd hevict hi hk]
      by_cases hka : k = a.key
      · have habsent := ((h.reachesEvictClock_iff hadd).mp hevict).1
        rw [if_pos hka, if_pos hka, hka, habsent]
        rfl
      · -- the entry that is evicted is another one, since the call keeps this one
        have hki : k ≠ (s.entries i).key := by
          rintro rfl
          exact hkeeps.2 (TableOp.evictedKey?_of_addition hadd hevict hi)
        rw [if_neg hka, if_neg hka, if_neg hki]
        rfl
  | none =>
    cases op with
    | addDecision info clock => exact absurd hadd (by simp [TableOp.addition?])
    | addCidrDecision info clock =>
      rw [TableOp.apply, addCidrDecision_of_addition?_eq_none hadd]
      rfl
    | removeDecisionType ip dt now =>
      refine (h.find_removeDecisionType ip dt now hk).trans ?_
      dsimp only
      by_cases hka : k = .ip ip
      · rw [if_pos hka, if_pos hka, hka]
        rfl
      · rw [if_neg hka, if_neg hka]
        rfl
    | removeCidrDecisionType family prefixLen network dt now =>
      refine (h.find_removeCidrDecisionType family prefixLen network dt now hk).trans ?_
      dsimp only
      by_cases hka : k = .ofCidr family prefixLen network
      · rw [if_pos hka, if_pos hka, hka]
        rfl
      · rw [if_neg hka, if_neg hka]
        rfl
    | clearAll => exact absurd rfl hkeeps.1

/-- A call that drops an entry leaves none. -/
theorem TableOk.find_apply_of_not_keeps (h : TableOk s) (hdrops : ¬ op.Keeps k s) (hk : k.Normal) :
    (op.apply s).find k = none := by
  rw [TableOp.Keeps, not_and_or, not_not, not_not] at hdrops
  rcases hdrops with rfl | hevicted
  · exact find_clearAll h.capacity_pos hk
  · obtain ⟨hevict, -⟩ := Option.ite_none_right_eq_some.mp hevicted
    obtain ⟨a, ha⟩ := TableOp.exists_addition_of_reachesEvictClock hevict
    obtain ⟨i, hlt, hi, -⟩ := h.slots_addition_evicting ha hevict
    obtain ⟨-, hne, -⟩ := h.key_ne_of_reachesEvictClock ha hevict hlt
    rw [TableOp.evictedKey?_of_addition ha hevict hi, Option.some.injEq] at hevicted
    rw [h.find_addition_evicting ha hevict hi hk, if_neg (hevicted ▸ hne), if_pos hevicted.symm]

/-- The event of a call that adds nothing under the key is a removal. -/
theorem TableOp.exists_of_event? {ev : EntryEvent} (hother : ∀ a, op.addition? = some a → k ≠ a.key)
    (hev : op.event? s k = some ev) : ∃ dt now, ev = .remove dt now := by
  rw [TableOp.event?.eq_def] at hev
  cases hadd : op.addition? with
  | some a =>
    rw [hadd] at hev
    exact absurd hev (by simp [hother a hadd])
  | none =>
    rw [hadd] at hev
    cases op with
    | addDecision info clock => exact absurd hev (by simp)
    | addCidrDecision info clock => exact absurd hev (by simp)
    | removeDecisionType ip dt now =>
      obtain ⟨-, hev⟩ := Option.ite_none_right_eq_some.mp hev
      exact ⟨dt, now, (Option.some_injective _ hev).symm⟩
    | removeCidrDecisionType family prefixLen network dt now =>
      obtain ⟨-, hev⟩ := Option.ite_none_right_eq_some.mp hev
      exact ⟨dt, now, (Option.some_injective _ hev).symm⟩
    | clearAll => exact absurd hev (by simp)

/-- **A run** that keeps the entry of a key has its history under it. -/
theorem TableOk.find_run (h : TableOk s) (hkeeps : EveryStep TableOp.step (TableOp.Keeps k) ops s)
    (hk : k.Normal) :
    (TableOp.run s ops).find k =
      (TableOp.events k ops s).foldl (EntryEvent.apply k) (s.find k) := by
  induction ops generalizing s with
  | nil => rfl
  | cons op ops ih =>
    obtain ⟨hfirst, hrest⟩ := hkeeps
    rw [TableOp.events, List.foldl_append, ← h.find_apply hfirst hk]
    exact ih (h.apply op) (hrest _ rfl)

/-- **The decisions of a key** in a run from a cleared table that keeps its entry: a type is active
exactly when the history of the key grants it. -/
theorem activeMaskOf_find_run {s₀ : ShmData} (hC : 1 ≤ s₀.capacity) (hk : k.Normal)
    (hkeeps : EveryStep TableOp.step (TableOp.Keeps k) ops (clearAll s₀))
    (ht : ∀ ev ∈ TableOp.events k ops (clearAll s₀), ev.time ≤ t) (hdt : dt ≠ .unknown) :
    activeMaskOf ((TableOp.run (clearAll s₀) ops).find k) t &&& dt.toBit ≠ 0 ↔
      EntryEvent.Granted (TableOp.events k ops (clearAll s₀)) t dt := by
  have hempty : (clearAll s₀).find k = none := TableOk.find_clearAll hC hk
  rw [(tableOk_clearAll hC).find_run hkeeps hk, hempty]
  exact (EntryEvent.activeMaskOf_run_and_toBit_ne_zero ht).trans
    (EntryEvent.active_runAt_updates_iff hdt)

namespace EntryEvent

/-- **The history semantics of an entry.** At every time from its last event on, a type is in the
active mask exactly when the history grants it. So prunes are invisible, the events of the other
type do not matter, and additions that follow one another may be reordered. -/
theorem activeMask_history (k : Key) (events : List EntryEvent) (t : ℤ)
    (ht : ∀ ev ∈ events, ev.time ≤ t) :
    (∀ dt, dt ≠ .unknown →
      (activeMaskOf (run k events) t &&& dt.toBit ≠ 0 ↔ Granted events t dt)) ∧
    activeMaskOf (run k (events.filter fun ev => !ev.isPrune)) t =
      activeMaskOf (run k events) t ∧
    (∀ dt : DecisionType, activeMaskOf (run k (events.filter (concerns dt))) t &&& dt.toBit =
      activeMaskOf (run k events) t &&& dt.toBit) ∧
    ∀ before adds adds' after, events = before ++ adds ++ after →
      (∀ ev ∈ adds, ev.isAdd = true) → adds.Perm adds' →
      activeMaskOf (run k (before ++ adds' ++ after)) t = activeMaskOf (run k events) t := by
  have hfilter (p : EntryEvent → Bool) : ∀ ev ∈ events.filter p, ev.time ≤ t :=
    fun ev hev => ht ev (List.mem_of_mem_filter hev)
  refine ⟨fun dt hdt => ?_, ?_, fun dt => ?_, ?_⟩
  · rw [activeMaskOf_run_and_toBit_ne_zero ht, active_runAt_updates_iff hdt]
  · -- a prune is no update
    refine activeMaskOf_run_congr (hfilter _) ht fun dt => congrArg (runAt dt ⊥) ?_
    rw [updates, List.filterMap_filter, updates]
    refine List.filterMap_congr fun ev _ => ?_
    cases ev <;> rfl
  · have hconcerns : (updates events).filter (Update.concerns dt) =
        updates (events.filter (concerns dt)) := by
      rw [updates, updates, List.filterMap_filter, List.filter_filterMap]
      refine List.filterMap_congr fun ev _ => ?_
      cases ev <;> simp [concerns, update?, Option.filter, Update.concerns]
    refine and_toBit_ext ?_
    rw [activeMaskOf_run_and_toBit_ne_zero (hfilter _), activeMaskOf_run_and_toBit_ne_zero ht,
      ← hconcerns, runAt_filter_concerns]
  · rintro before adds adds' after rfl hadds hperm
    have ht' : ∀ ev ∈ before ++ adds' ++ after, ev.time ≤ t := by
      intro ev hev
      refine ht ev ?_
      simpa [hperm.mem_iff] using hev
    refine activeMaskOf_run_congr ht' ht fun dt => ?_
    simp only [updates_append, runAt_append]
    -- joins commute
    refine congrArg (fun d => runAt dt d (updates after)) (runAt_perm ?_ ?_).symm
    · exact hperm.filterMap update?
    · intro u hu
      obtain ⟨ev, hev, hu⟩ := List.mem_filterMap.mp hu
      cases ev with
      | add dt' o sid x now => exact ⟨_, _, (Option.some_injective _ hu).symm⟩
      | remove dt' now => exact absurd (hadds _ hev) (by simp [isAdd])
      | prune now => exact absurd (hadds _ hev) (by simp [isAdd])

/-- A ban expires and is listed again after a removal of the other type: at `70` it is in force,
and so is the history without its prune. -/
theorem activeMask_history_listed_again :
    (activeMaskOf (run (.ip (.v4 #v[10, 0, 0, 1]))
        [.add .ban .capi 0 60 10, .add .captcha .cscli 0 0 20, .prune 61, .remove .captcha 62,
          .add .ban .capi 0 90 63]) 70 &&& DecisionType.ban.toBit ≠ 0 ↔
      Granted [.add .ban .capi 0 60 10, .add .captcha .cscli 0 0 20, .prune 61,
        .remove .captcha 62, .add .ban .capi 0 90 63] 70 .ban) ∧
    activeMaskOf (run (.ip (.v4 #v[10, 0, 0, 1]))
        ([.add .ban .capi 0 60 10, .add .captcha .cscli 0 0 20, .prune 61, .remove .captcha 62,
          .add .ban .capi 0 90 63].filter fun ev => !ev.isPrune)) 70 =
      activeMaskOf (run (.ip (.v4 #v[10, 0, 0, 1]))
        [.add .ban .capi 0 60 10, .add .captcha .cscli 0 0 20, .prune 61, .remove .captcha 62,
          .add .ban .capi 0 90 63]) 70 :=
  have h := activeMask_history (.ip (.v4 #v[10, 0, 0, 1]))
    [.add .ban .capi 0 60 10, .add .captcha .cscli 0 0 20, .prune 61, .remove .captcha 62,
      .add .ban .capi 0 90 63] 70 (by decide)
  ⟨h.1 .ban (by decide), h.2.1⟩

end EntryEvent

end CrowdSecBouncer
