import CrowdSecBouncer.Foundations.DeadlineMap
import CrowdSecBouncer.Shm.Lookup

/-!
# The deadlines of the table

The table files a deadline under each pair of a key and a decision type
(`ShmData.deadlineAt`). Each call updates one of them (`TableOp.update`): the step lemma
`TableOk.eqFrom_apply` holds at every state, whatever the clock readings are, as long as
nothing is evicted, and a call leaves the entries of all other keys alone
(`TableOk.find_apply_of_ne`). A run is then a fold over the updates of its calls
(`TableOk.eqFrom_run`).
-/

namespace CrowdSecBouncer

open DeadlineMap

/-- The deadline of a decision type of a key. -/
def ShmData.deadlineAt (s : ShmData) (p : Key × DecisionType) : Deadline ℤ :=
  viewOf (s.find p.1) p.2

namespace TableOp

/-- The key whose entry a call may change; clearing has none. -/
def key? : TableOp → Option Key
  | addDecision info _ => some (.ip info.ip)
  | addCidrDecision info _ => some (.ofCidr info.family info.prefixLen info.network)
  | removeDecisionType ip _ _ => some (.ip ip)
  | removeCidrDecisionType family prefixLen network _ _ =>
    some (.ofCidr family prefixLen network)
  | clearAll => none

/-- What a call means for the deadlines; a network that is not well formed is not added. -/
def update? : TableOp → Option (Update (Key × DecisionType) ℤ)
  | addDecision info clock =>
    some (.join (.ip info.ip, info.decisionType)
      (DecisionExpiry.requested info.decisionType (expiresOf info.durationSecs clock)))
  | addCidrDecision info clock =>
    if cidrParamsValid info.family info.prefixLen info.network then
      some (.join (.ofCidr info.family info.prefixLen info.network, info.decisionType)
        (DecisionExpiry.requested info.decisionType (expiresOf info.durationSecs clock)))
    else none
  | removeDecisionType ip dt _ => some (.erase (.ip ip, dt))
  | removeCidrDecisionType family prefixLen network dt _ =>
    some (.erase (.ofCidr family prefixLen network, dt))
  | clearAll => some .clear

/-- The updates of a run. -/
def updates (ops : List TableOp) : List (Update (Key × DecisionType) ℤ) := ops.filterMap update?

end TableOp

variable {s s' : ShmData} {k k' : Key} {p : Key × DecisionType} {now : ℤ} {op : TableOp}
  {a : Addition}

/-! ### One call -/

/-- An operation that upserts at one key joins one deadline. -/
theorem eqFrom_deadlineAt_upserted {dt : DecisionType} {o : Origin} {sid : UInt16} {x : ℤ}
    {newEntry : ShmHashEntry} (hview : ∀ dt', viewOf (some newEntry) dt' =
      if dt' = dt then DecisionExpiry.requested dt x else ⊥)
    (hfind : s'.find p.1 =
      if p.1 = k then some (upserted (s.find k) dt o sid x newEntry now) else s.find p.1) :
    Deadline.EqFrom now (s'.deadlineAt p) (Update.effectAt p (s.deadlineAt p)
      (.join (k, dt) (DecisionExpiry.requested dt x))) := by
  obtain ⟨k', dt'⟩ := p
  rw [ShmData.deadlineAt, hfind, Update.effectAt]
  by_cases hk : k' = k
  · subst hk
    rw [if_pos rfl]
    refine (Agrees.eqFrom_upserted (s.find k') hview dt').trans ?_
    by_cases hdt : dt' = dt
    · subst hdt
      rw [if_pos rfl, if_pos rfl]
      rfl
    · rw [if_neg hdt, if_neg fun heq => hdt (Prod.mk.inj heq).2]
      rfl
  · rw [if_neg hk, if_neg fun heq => hk (Prod.mk.inj heq).1]
    rfl

/-- An operation that removes at one key erases one deadline. -/
theorem eqFrom_deadlineAt_remaining {dt : DecisionType}
    (hfind : s'.find p.1 = if p.1 = k then remaining (s.find k) dt now else s.find p.1) :
    Deadline.EqFrom now (s'.deadlineAt p)
      (Update.effectAt p (s.deadlineAt p) (.erase (k, dt))) := by
  obtain ⟨k', dt'⟩ := p
  rw [ShmData.deadlineAt, hfind, Update.effectAt]
  by_cases hk : k' = k
  · subst hk
    rw [if_pos rfl]
    refine (Agrees.eqFrom_remaining (s.find k') dt dt').trans ?_
    by_cases hdt : dt' = dt
    · subst hdt
      rw [if_pos rfl, if_pos rfl]
    · rw [if_neg hdt, if_neg fun heq => hdt (Prod.mk.inj heq).2]
      rfl
  · rw [if_neg hk, if_neg fun heq => hk (Prod.mk.inj heq).1]
    rfl

theorem TableOp.key?_of_addition (ha : op.addition? = some a) : op.key? = some a.key := by
  rcases TableOp.cases_of_addition ha with ⟨info, clock, rfl, rfl⟩ | ⟨info, clock, rfl, -, rfl⟩
  · rfl
  · rfl

/-- An addition joins one deadline. -/
theorem TableOp.update?_of_addition (ha : op.addition? = some a) :
    op.update? = some (.join (a.key, a.decisionType)
      (DecisionExpiry.requested a.decisionType a.expires)) := by
  rcases TableOp.cases_of_addition ha with
    ⟨info, clock, rfl, rfl⟩ | ⟨info, clock, rfl, hparams, rfl⟩
  · rfl
  · exact if_pos hparams

theorem TableOp.update?_of_not_added {info : CidrDecisionInfo} {clock : CallClock}
    (ha : (TableOp.addCidrDecision info clock).addition? = none) :
    (TableOp.addCidrDecision info clock).update? = none :=
  if_neg fun hparams => absurd (ha.symm.trans (if_pos hparams)) (by simp)

namespace TableOk

variable (h : TableOk s)

include h

/-- **An addition that does not evict**, on the table as a map. -/
theorem find_addition (ha : op.addition? = some a) (hevict : op.reachesEvictClock s = false)
    (hk : k.Normal) : (op.apply s).find k =
      if k = a.key then
        some (upserted (s.find a.key) a.decisionType a.origin (a.scenarioId s) a.expires
          (a.entry s) a.clock.now)
      else s.find k := by
  obtain ⟨s₁, hprep, happly, hreaches⟩ := h.exists_prepared ha
  rw [happly, Addition.upsert, ← hprep.find_eq, ← hprep.find_eq]
  exact hprep.ok.find_upsertEntry hprep.normal hprep.wellKeyed hprep.key_eq hprep.marked _ _ _ _ _
    (hreaches ▸ hevict) hk

/-- Removing from an address, on the table as a map. -/
theorem find_removeDecisionType (ip : IpAddr) (dt : DecisionType) (now : ℤ) (hk : k.Normal) :
    (removeDecisionType s ip dt now).find k =
      if k = .ip ip then remaining (s.find (.ip ip)) dt now else s.find k :=
  h.find_removeFromSlot (k := .ip ip) trivial dt now hk

/-- Removing from a network, on the table as a map. -/
theorem find_removeCidrDecisionType (family prefixLen : UInt8) (network : List UInt8)
    (dt : DecisionType) (now : ℤ) (hk : k.Normal) :
    (removeCidrDecisionType s family prefixLen network dt now).find k =
      if k = .ofCidr family prefixLen network then
        remaining (s.find (.ofCidr family prefixLen network)) dt now
      else s.find k := by
  rw [removeCidrDecisionType, findSlotCidr_eq_findKey]
  exact h.find_removeFromSlot (Key.normal_ofCidr _ _ _) dt now hk

/-- **A call leaves the other keys alone.** -/
theorem find_apply_of_ne (op : TableOp) (hevict : op.reachesEvictClock s = false)
    (hclear : op ≠ .clearAll) (hne : op.key? ≠ some k) (hk : k.Normal) :
    (op.apply s).find k = s.find k := by
  cases hadd : op.addition? with
  | some a =>
    rw [TableOp.key?_of_addition hadd] at hne
    exact (h.find_addition hadd hevict hk).trans (if_neg fun heq => hne (congrArg some heq.symm))
  | none =>
    cases op with
    | addDecision info clock => exact absurd hadd (by simp [TableOp.addition?])
    | addCidrDecision info clock =>
      rw [TableOp.apply, addCidrDecision_of_addition?_eq_none hadd]
    | removeDecisionType ip dt now =>
      exact (h.find_removeDecisionType ip dt now hk).trans
        (if_neg fun heq => hne (congrArg some heq.symm))
    | removeCidrDecisionType family prefixLen network dt now =>
      exact (h.find_removeCidrDecisionType family prefixLen network dt now hk).trans
        (if_neg fun heq => hne (congrArg some heq.symm))
    | clearAll => exact absurd rfl hclear

/-- **The step lemma.** From the time of the call on, the deadlines are those that its update
leaves. -/
theorem eqFrom_apply (op : TableOp) (hevict : op.reachesEvictClock s = false)
    (htime : ∀ t ∈ op.time?, t ≤ now) (hp : p.1.Normal) :
    Deadline.EqFrom now ((op.apply s).deadlineAt p)
      (runAt p (s.deadlineAt p) op.update?.toList) := by
  cases hadd : op.addition? with
  | some a =>
    rw [TableOp.update?_of_addition hadd]
    refine Deadline.EqFrom.mono ?_ (htime _ (TableOp.time?_of_addition hadd))
    exact eqFrom_deadlineAt_upserted (fun dt' => viewOf_newEntry ..)
      (h.find_addition hadd hevict hp)
  | none =>
    cases op with
    | addDecision info clock => exact absurd hadd (by simp [TableOp.addition?])
    | addCidrDecision info clock =>
      rw [TableOp.apply, addCidrDecision_of_addition?_eq_none hadd,
        TableOp.update?_of_not_added hadd]
      exact .refl now _
    | removeDecisionType ip dt now =>
      refine Deadline.EqFrom.mono ?_ (htime _ rfl)
      exact eqFrom_deadlineAt_remaining (h.find_removeDecisionType ip dt now hp)
    | removeCidrDecisionType family prefixLen network dt now =>
      refine Deadline.EqFrom.mono ?_ (htime _ rfl)
      exact eqFrom_deadlineAt_remaining
        (h.find_removeCidrDecisionType family prefixLen network dt now hp)
    | clearAll =>
      rw [TableOp.apply, ShmData.deadlineAt, find_clearAll h.capacity_pos hp]
      exact .refl now ⊥

end TableOk

/-! ### Runs -/

/-- **The run lemma.** After a run without eviction the deadlines are those that its updates
leave, from its last clock reading on. -/
theorem TableOk.eqFrom_run (h : TableOk s) (ops : List TableOp) (hevict : NeverEvicts ops s)
    (htimes : ∀ t ∈ TableOp.times ops, t ≤ now) (hp : p.1.Normal) :
    Deadline.EqFrom now ((TableOp.run s ops).deadlineAt p)
      (runAt p (s.deadlineAt p) (TableOp.updates ops)) := by
  induction ops generalizing s with
  | nil => exact .refl now _
  | cons op ops ih =>
    obtain ⟨hfirst, hrest⟩ := neverEvicts_cons.mp hevict
    have hupdates : TableOp.updates (op :: ops) = op.update?.toList ++ TableOp.updates ops := by
      rw [TableOp.updates, List.filterMap_cons]
      cases op.update? <;> rfl
    have hhead : ∀ t ∈ op.time?, t ≤ now := by
      intro t ht
      refine htimes t ?_
      rw [TableOp.times, List.filterMap_cons_some ht]
      exact List.mem_cons_self
    have htail : ∀ t ∈ TableOp.times ops, t ≤ now := by
      intro t ht
      refine htimes t ?_
      obtain ⟨op', hmem, hop'⟩ := List.mem_filterMap.mp ht
      exact List.mem_filterMap.mpr ⟨op', List.mem_cons_of_mem _ hmem, hop'⟩
    have hstep := h.eqFrom_apply op hfirst hhead hp
    have hrun := ih (h.apply op) hrest htail
    rw [hupdates, runAt_append]
    exact hrun.trans (eqFrom_runAt _ hstep)

/-- **A run leaves the keys alone** that none of its calls is about. -/
theorem TableOk.find_run_of_ne (h : TableOk s) (ops : List TableOp) (hevict : NeverEvicts ops s)
    (hkeys : ∀ op ∈ ops, op ≠ .clearAll ∧ op.key? ≠ some k) (hk : k.Normal) :
    (TableOp.run s ops).find k = s.find k := by
  induction ops generalizing s with
  | nil => rfl
  | cons op ops ih =>
    obtain ⟨hfirst, hrest⟩ := neverEvicts_cons.mp hevict
    obtain ⟨hclear, hne⟩ := hkeys op List.mem_cons_self
    have hstep := h.find_apply_of_ne op hfirst hclear hne hk
    have hrun := ih (h.apply op) hrest fun op' hop' => hkeys op' (List.mem_cons_of_mem _ hop')
    exact hrun.trans hstep

end CrowdSecBouncer
