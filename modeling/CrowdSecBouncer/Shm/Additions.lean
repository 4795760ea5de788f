import CrowdSecBouncer.Shm.EntryHistory

/-!
# Additions to the table

A decision that is not in force is stored with exactly the deadline that its call computed, one
that is in force with the later of the two (`TableOk.stored_addition`,
`TableOk.stored_addition_inForce`).

An addition that finds neither its key nor a vacant slot takes one other key away. Which key goes
is the clock hand's choice: an entry whose decisions have all expired, if there is one, and at any
rate no key but the one in the slot that the new entry takes over (`addition_frame`).
-/

namespace CrowdSecBouncer

open CircularProbe

variable {s : ShmData} {a : Addition} {op : TableOp} {k : Key} {now : ℤ}

/-! ### The deadline that an addition stores -/

/-- A new entry has the deadline it was built with. -/
theorem stored_newEntry (k : Key) {dt : DecisionType} (hdt : dt ≠ .unknown) (o : Origin)
    (sid : UInt16) (x : ℤ) : (k.newEntry dt o sid x).expires.stored dt = x := by
  have hmerge : (DecisionExpiry.empty.merge 0 dt.toBit x).stored dt = x := by
    rw [DecisionExpiry.stored_merge hdt, if_pos rfl, DecisionExpiry.mergeDeadline, UInt8.zero_and,
      if_pos rfl]
  cases k with
  | ip addr => exact hmerge
  | cidr family prefixLen network => exact hmerge

theorem decisionTypes_newEntry (k : Key) (dt : DecisionType) (o : Origin) (sid : UInt16) (x : ℤ) :
    (k.newEntry dt o sid x).decisionTypes = dt.toBit := by
  cases k <;> rfl

/-- A type that is not in force is stored with the deadline of its addition. -/
theorem stored_upserted {old : Option ShmHashEntry} {dt : DecisionType} (hdt : dt ≠ .unknown)
    (hnew : ¬ Deadline.Active now (viewOf old dt)) (o : Origin) (sid : UInt16) (x : ℤ) :
    (upserted old dt o sid x (k.newEntry dt o sid x) now).expires.stored dt = x ∧
      (upserted old dt o sid x (k.newEntry dt o sid x) now).decisionTypes &&& dt.toBit ≠ 0 := by
  have hentry : (k.newEntry dt o sid x).expires.stored dt = x ∧
      (k.newEntry dt o sid x).decisionTypes &&& dt.toBit ≠ 0 := by
    refine ⟨stored_newEntry k hdt o sid x, ?_⟩
    have hbit := @mask_set_self 0 dt hdt
    rw [UInt8.zero_or] at hbit
    rwa [decisionTypes_newEntry]
  cases old with
  | none => exact hentry
  | some z =>
    rw [upserted]
    split
    · refine ⟨?_, mask_set_self hdt⟩
      have hgone : (z.pruneExpired now).decisionTypes &&& dt.toBit = 0 := by
        by_contra hbit
        exact hnew (DecisionExpiry.activeMask_and_toBit_ne_zero.mp hbit)
      change ((z.pruneExpired now).expires.merge (z.pruneExpired now).decisionTypes dt.toBit
        x).stored dt = x
      rw [DecisionExpiry.stored_merge hdt, if_pos rfl, DecisionExpiry.mergeDeadline, if_pos hgone]
    · exact hentry

/-- **The stored deadline.** A decision that is not in force is stored with exactly the deadline
that its call computed. -/
theorem TableOk.stored_addition (h : TableOk s) (ha : op.addition? = some a)
    (hdt : a.decisionType ≠ .unknown) (hnew : ¬ s.InForce a.clock.now a.key a.decisionType) :
    ∃ e, (op.apply s).find a.key = some e ∧ e.expires.stored a.decisionType = a.expires ∧
      e.decisionTypes &&& a.decisionType.toBit ≠ 0 := by
  obtain ⟨s₁, hprep, -⟩ := h.exists_prepared ha
  cases hevict : op.reachesEvictClock s with
  | false =>
    refine ⟨_, (h.find_addition ha hevict hprep.normal).trans (if_pos rfl), ?_⟩
    exact stored_upserted hdt hnew ..
  | true =>
    obtain ⟨i, -, hi, -⟩ := h.slots_addition_evicting ha hevict
    refine ⟨_, (h.find_addition_evicting ha hevict hi hprep.normal).trans (if_pos rfl), ?_⟩
    exact @stored_upserted a.key a.clock.now none _ hdt Deadline.not_active_bot ..

/-- The entry that an addition leaves has the join of the deadlines. -/
theorem Addition.eqFrom_upserted (a : Addition) (s : ShmData) (hdt : a.decisionType ≠ .unknown)
    (old : Option ShmHashEntry) :
    Deadline.EqFrom now
      (viewOf (some (upserted old a.decisionType a.origin (a.scenarioId s) a.expires (a.entry s)
        now)) a.decisionType)
      (viewOf old a.decisionType ⊔ DecisionExpiry.ofStored a.expires) := by
  have hadd : Deadline.EqFrom now
      (viewOf (some (upserted old a.decisionType a.origin (a.scenarioId s) a.expires (a.entry s)
        now)) a.decisionType)
      (if a.decisionType = a.decisionType then
        viewOf old a.decisionType ⊔ DecisionExpiry.requested a.decisionType a.expires
      else viewOf old a.decisionType) :=
    Agrees.eqFrom_upserted old (fun dt' => viewOf_newEntry a.key a.decisionType dt' ..) _
  rwa [if_pos rfl, DecisionExpiry.requested, if_neg hdt] at hadd

/-- A decision that is in force is stored with the join of its deadline and the one that the call
computed. -/
theorem TableOk.stored_addition_inForce (h : TableOk s) (ha : op.addition? = some a)
    (hdt : a.decisionType ≠ .unknown) (hin : s.InForce a.clock.now a.key a.decisionType) :
    ∃ e, (op.apply s).find a.key = some e ∧ DecisionExpiry.ofStored (e.expires.stored
        a.decisionType) = s.deadlineAt (a.key, a.decisionType) ⊔ DecisionExpiry.ofStored a.expires ∧
      e.decisionTypes &&& a.decisionType.toBit ≠ 0 := by
  obtain ⟨s₁, hprep, -⟩ := h.exists_prepared ha
  have hevict : op.reachesEvictClock s = false := by
    rw [← Bool.not_eq_true, h.reachesEvictClock_iff ha]
    rintro ⟨habsent, -⟩
    rw [ShmData.InForce, ShmData.deadlineAt, habsent] at hin
    exact Deadline.not_active_bot hin
  have hactive : Deadline.Active a.clock.now (s.deadlineAt (a.key, a.decisionType) ⊔
      DecisionExpiry.ofStored a.expires) := Deadline.active_sup.mpr (.inl hin)
  have hview := (a.eqFrom_upserted s hdt (s.find a.key)).symm.eq_of_active hactive
  refine ⟨_, (h.find_addition ha hevict hprep.normal).trans (if_pos rfl), ?_⟩
  change _ = DecisionExpiry.view _ _ _ at hview
  rw [DecisionExpiry.view] at hview
  split at hview
  · exact absurd (hview ▸ hactive) Deadline.not_active_bot
  · next hbit => exact ⟨hview.symm, hbit⟩

/-- A deadline that is ahead leaves the decision active, and stored without a limit only where one
without a limit was in force. -/
theorem TableOk.addition_ahead (h : TableOk s) (ha : op.addition? = some a)
    (hdt : a.decisionType ≠ .unknown) (hnow : 0 ≤ now) (hahead : now < a.expires) :
    ∃ e, (op.apply s).find a.key = some e ∧
      e.expires.activeMask e.decisionTypes now &&& a.decisionType.toBit ≠ 0 ∧
      (e.expires.stored a.decisionType = 0 → s.deadlineAt (a.key, a.decisionType) = ⊤) := by
  by_cases hin : s.InForce a.clock.now a.key a.decisionType
  · obtain ⟨e, hfind, hjoin, hbit⟩ := h.stored_addition_inForce ha hdt hin
    have hactive : Deadline.Active now (DecisionExpiry.ofStored
        (e.expires.stored a.decisionType)) := by
      rw [hjoin, Deadline.active_sup, DecisionExpiry.active_ofStored (x := a.expires)]
      exact .inr (.inr hahead)
    refine ⟨e, hfind, ?_, fun hzero => ?_⟩
    · rw [DecisionExpiry.active_ofStored] at hactive
      rw [DecisionExpiry.activeMask_and_toBit, if_neg (by omega)]
      exact hbit
    · -- the join is unlimited, so one of the two was
      have hfinite : DecisionExpiry.ofStored a.expires ≠ ⊤ := by
        rw [DecisionExpiry.ofStored, if_neg (by omega)]
        exact fun htop => WithTop.coe_ne_top (WithBot.coe_injective htop)
      rw [hzero, DecisionExpiry.ofStored, if_pos rfl] at hjoin
      rcases le_sup_iff.mp hjoin.le with htop | htop
      · exact top_le_iff.mp htop
      · exact absurd (top_le_iff.mp htop) hfinite
  · obtain ⟨e, hfind, hstored, hbit⟩ := h.stored_addition ha hdt hin
    refine ⟨e, hfind, ?_, fun hzero => absurd hzero (by omega)⟩
    rw [DecisionExpiry.activeMask_and_toBit, hstored, if_neg (by omega)]
    exact hbit

/-! ### The frame of an addition -/

/-- The first round of the clock hand takes an expired entry whenever there is one. -/
theorem isExpiredAt_of_evictClock (hhand : s.clockHand < s.capacity) {i : ℕ}
    (hi : (evictClock s now).map Prod.fst = some i) {j : ℕ} (hj : j < s.capacity)
    (hocc : (s.entries j).isVacant = false) (hexpired : (s.entries j).isExpiredAt now = true) :
    (s.entries i).isExpiredAt now = true := by
  obtain ⟨r, hevict, rfl⟩ := Option.map_eq_some_iff.mp hi
  cases hround : evictClockMatching s now true with
  | none =>
    have hnone := (circularScan_eq_none_iff hhand).mp (Option.map_eq_none_iff.mp hround) j hj
    rw [hocc, hexpired] at hnone
    exact absurd hnone (by simp)
  | some r' =>
    rw [evictClock, hround, Option.some_or, Option.some.injEq] at hevict
    subst hevict
    obtain ⟨hand, hscan, rfl⟩ := Option.map_eq_some_iff.mp hround
    obtain ⟨m, -, htest, -⟩ := (circularScan_eq_some_iff hhand).mp hscan
    obtain ⟨hcond, heq⟩ := Option.ite_none_right_eq_some.mp htest
    obtain rfl := Option.some_injective _ heq
    simpa using (Bool.and_eq_true_iff.mp hcond).2

/-- What an addition at `now` does to the table, and that it does no more. -/
structure AdditionFrame (s s' : ShmData) (a : Addition) (now : ℤ) : Prop where
  /-- The added key is found with its bit active. -/
  active : ∃ e, s'.find a.key = some e ∧
    e.expires.activeMask e.decisionTypes now &&& a.decisionType.toBit ≠ 0
  /-- Scenario ids keep their meaning. -/
  scenarios : s.scenarios <+: s'.scenarios
  /-- With the key present or a slot vacant, every other key keeps its entry. -/
  kept : s.find a.key ≠ none ∨ (∃ i < s.capacity, (s.entries i).isVacant = true) →
    ∀ k : Key, k.Normal → k ≠ a.key → s'.find k = s.find k
  /-- Otherwise exactly one other key is removed, with an expired entry if there is one. -/
  removed : s.find a.key = none → (∀ i < s.capacity, (s.entries i).isVacant = false) →
    ∃ k₀ e₀, k₀.Normal ∧ k₀ ≠ a.key ∧ s.find k₀ = some e₀ ∧ s'.find k₀ = none ∧
      (∀ k : Key, k.Normal → k ≠ a.key → k ≠ k₀ → s'.find k = s.find k) ∧
      ((∃ i < s.capacity, (s.entries i).isExpiredAt now = true) → e₀.isExpiredAt now = true)

theorem scenarios_prefix_scenarioIdOf (scenarios : List (List UInt8))
    (scenario : Option (List UInt8)) : scenarios <+: (scenarioIdOf scenarios scenario).2 := by
  cases scenario with
  | none => exact List.prefix_rfl
  | some name =>
    rw [scenarioIdOf, getOrCreateScenarioId]
    split
    · exact List.prefix_rfl
    · split
      · exact List.prefix_append ..
      · exact List.prefix_rfl

/-- A decision that an addition files with a deadline ahead is active in its entry. -/
theorem Addition.active_upserted (a : Addition) (hdt : a.decisionType ≠ .unknown)
    (hx : a.expires = 0 ∨ now < a.expires) (old : Option ShmHashEntry) :
    (upserted old a.decisionType a.origin (a.scenarioId s) a.expires (a.entry s)
        now).expires.activeMask
      (upserted old a.decisionType a.origin (a.scenarioId s) a.expires (a.entry s)
        now).decisionTypes now &&& a.decisionType.toBit ≠ 0 := by
  refine DecisionExpiry.activeMask_and_toBit_ne_zero.mpr
    ((a.eqFrom_upserted s hdt old now le_rfl).mpr ?_)
  rw [Deadline.active_sup, DecisionExpiry.active_ofStored]
  exact .inr hx

/-- **Eviction touches only what it must.** In every reachable table an addition of a ban or a
captcha without a limit or with one ahead, all at one clock reading, files its decision and
leaves every other key alone, but for the one it has to evict. -/
theorem addition_frame {s₀ : ShmData} (hC : 1 ≤ s₀.capacity) (ops : List TableOp)
    (op : TableOp) (a : Addition) (ha : op.addition? = some a) (hdt : a.decisionType ≠ .unknown)
    (hnow : a.clock.now = now) (hevict : a.clock.evict = now)
    (hx : a.expires = 0 ∨ now < a.expires) :
    AdditionFrame (TableOp.run (clearAll s₀) ops) (op.apply (TableOp.run (clearAll s₀) ops)) a
      now := by
  have h : TableOk (TableOp.run (clearAll s₀) ops) := (tableOk_clearAll hC).run ops
  generalize TableOp.run (clearAll s₀) ops = s at h ⊢
  have hreaches := h.reachesEvictClock_iff ha
  obtain ⟨s₁, hprep, happly, -⟩ := h.exists_prepared ha
  refine ⟨?_, ?_, fun hroom k hk hne => ?_, fun habsent hfull => ?_⟩
  · cases hcase : op.reachesEvictClock s with
    | false =>
      refine ⟨_, (h.find_addition ha hcase hprep.normal).trans (if_pos rfl), ?_⟩
      rw [hnow]
      exact a.active_upserted hdt hx _
    | true =>
      obtain ⟨i, -, hi, -⟩ := h.slots_addition_evicting ha hcase
      refine ⟨_, (h.find_addition_evicting ha hcase hi hprep.normal).trans (if_pos rfl), ?_⟩
      exact a.active_upserted hdt hx none
  · rw [happly, Addition.upsert, upsertEntry_scenarios hprep.ok.hand_lt, hprep.scenarios]
    exact scenarios_prefix_scenarioIdOf ..
  · have hcase : op.reachesEvictClock s = false := by
      rw [← Bool.not_eq_true, hreaches]
      rintro ⟨habsent, hfull⟩
      rcases hroom with hfound | ⟨i, hi, hvacant⟩
      · exact hfound habsent
      · rw [hfull i hi] at hvacant
        exact absurd hvacant (by simp)
    exact (h.find_addition ha hcase hk).trans (if_neg hne)
  · have hcase := hreaches.mpr ⟨habsent, hfull⟩
    obtain ⟨i, hlt, hi, -⟩ := h.slots_addition_evicting ha hcase
    obtain ⟨hnormal, hne, hfind⟩ := h.key_ne_of_reachesEvictClock ha hcase hlt
    refine ⟨_, _, hnormal, hne, hfind, ?_, fun k hk hka hki => ?_, ?_⟩
    · rw [h.find_addition_evicting ha hcase hi hnormal, if_neg hne, if_pos rfl]
    · rw [h.find_addition_evicting ha hcase hi hk, if_neg hka, if_neg hki]
    · -- the first turn of the hand takes an expired entry if there is one
      rintro ⟨j, hj, hexpired⟩
      exact isExpiredAt_of_evictClock h.hand_lt (hevict ▸ hi) hj (hfull j hj) hexpired

/-- A full table of two bans, one of which has expired: the third address takes its slot. -/
theorem addition_frame_expired :
    AdditionFrame
      (TableOp.run (clearAll (ShmData.fresh 2))
        [.addDecision ⟨.v4 #v[10, 0, 0, 1], .ban, .capi, none, none⟩ ⟨some 5, 5, 5⟩,
          .addDecision ⟨.v4 #v[10, 0, 0, 2], .ban, .capi, none, some 60⟩ ⟨some 6, 6, 6⟩])
      ((TableOp.addDecision ⟨.v4 #v[10, 0, 0, 3], .captcha, .cscli, none, some 60⟩
          ⟨some 70, 70, 70⟩).apply
        (TableOp.run (clearAll (ShmData.fresh 2))
          [.addDecision ⟨.v4 #v[10, 0, 0, 1], .ban, .capi, none, none⟩ ⟨some 5, 5, 5⟩,
            .addDecision ⟨.v4 #v[10, 0, 0, 2], .ban, .capi, none, some 60⟩ ⟨some 6, 6, 6⟩]))
      ⟨.ip (.v4 #v[10, 0, 0, 3]), .captcha, .cscli, none, 130, ⟨some 70, 70, 70⟩⟩ 70 :=
  addition_frame (by decide) _ _ _ rfl (by decide) rfl rfl (by decide)

end CrowdSecBouncer
