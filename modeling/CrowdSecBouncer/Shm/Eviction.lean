import CrowdSecBouncer.Shm.Covering

/-!
# What one call changes

An addition to a full table evicts the entry under the clock hand. With that the effect of a
call on the decisions in force is complete: a decision is in force after the call when it was
and the call does not end it, or when the call starts it (`TableOk.inForce_apply_iff`). The
lookups of an address keep reporting a ban through a call exactly when a ban is left standing
(`TableOk.reportsBan_apply_iff`).
-/

namespace CrowdSecBouncer

open DeadlineMap CircularProbe

variable {s s₁ : ShmData} {k : Key} {e : ShmHashEntry} {now : ℤ} {dt : DecisionType}
  {op : TableOp} {a : Addition}

/-! ### Insertions that evict -/

namespace TableOk

variable (h : TableOk s)

include h

/-- In a table without vacant slots there is an entry to evict. -/
theorem evictClock_eq_some (hfull : ∀ i < s.capacity, (s.entries i).isVacant = false) (t : ℤ) :
    ∃ i < s.capacity, evictClock s t = some (i, evictAt s i) := by
  cases hevict : evictClock s t with
  | some r =>
    obtain ⟨i, s'⟩ := r
    obtain ⟨hi, -, rfl⟩ := evictClock_spec h.hand_lt hevict
    exact ⟨i, hi, rfl⟩
  | none =>
    rw [evictClock, Option.or_eq_none_iff] at hevict
    have hscan := (circularScan_eq_none_iff h.hand_lt).mp (Option.map_eq_none_iff.mp hevict.2)
    have hslot := hscan s.clockHand h.hand_lt
    rw [hfull _ h.hand_lt] at hslot
    exact absurd hslot (by simp)

/-- **Inserting with an eviction**: no slot is vacant, and the new entry takes over the slot that
the clock hand gives up. -/
theorem insertEntry_evicting (clock : CallClock)
    (hevict : insertReachesEvictClock s e.hash = true) :
    (∀ j < s.capacity, (s.entries j).isVacant = false) ∧
      ∃ i < s.capacity, evictClock s clock.evict = some (i, evictAt s i) ∧
        CrowdSecBouncer.insertEntry s e clock = placeEntry (evictAt s i) i e := by
  have hvac : findVacantSlot s.entries s.capacity e.hash = none := by
    rwa [insertReachesEvictClock, Option.isNone_iff_eq_none] at hevict
  have hfull (j : ℕ) (hj : j < s.capacity) : (s.entries j).isVacant = false :=
    findVacantSlot_eq_none h.capacity_pos hvac hj
  obtain ⟨i, hi, hclock⟩ := h.evictClock_eq_some hfull clock.evict
  exact ⟨hfull, i, hi, hclock, by rw [CrowdSecBouncer.insertEntry, hvac, hclock]⟩

/-- An entry that is found leaves a vacant slot when it is buried, so nothing is evicted. -/
theorem findKey_eq_false_of_reachesEvictClock (hk : k.Normal) {hash : UInt32} {t : ℤ}
    (hevict : upsertReachesEvictClock s (findKey s.entries s.capacity k) hash t = true) :
    (findKey s.entries s.capacity k).2 = false ∧ insertReachesEvictClock s hash = true := by
  rw [upsertReachesEvictClock] at hevict
  cases hfound : (findKey s.entries s.capacity k).2 with
  | false =>
    rw [hfound] at hevict
    exact ⟨rfl, hevict⟩
  | true =>
    obtain ⟨hi, -, -⟩ := h.slots.of_findKey h.capacity_pos hk hfound
    rw [hfound, if_pos rfl] at hevict
    dsimp only at hevict
    split at hevict
    · exact absurd hevict (by simp)
    · rw [insertReachesEvictClock, Option.isNone_iff_eq_none] at hevict
      have hocc := findVacantSlot_eq_none (i := (findKey s.entries s.capacity k).1) h.capacity_pos
        hevict hi
      simp at hocc

end TableOk

/-! ### Additions that evict -/

/-- What is evicted depends on the slots and the hand only. -/
theorem evictClock_congr {s s' : ShmData} (hentries : s'.entries = s.entries)
    (hcapacity : s'.capacity = s.capacity) (hhand : s'.clockHand = s.clockHand) (t : ℤ) :
    (evictClock s' t).map Prod.fst = (evictClock s t).map Prod.fst := by
  have hround (expiredOnly : Bool) :
      (evictClockMatching s' t expiredOnly).map Prod.fst =
        (evictClockMatching s t expiredOnly).map Prod.fst := by
    rw [evictClockMatching, evictClockMatching, Option.map_map, Option.map_map, hentries, hcapacity,
      hhand]
    rfl
  rw [evictClock, evictClock, Option.map_or, Option.map_or, hround, hround]

theorem Prepared.evictClock_fst (hprep : Prepared a s s₁) (t : ℤ) :
    (evictClock s₁ t).map Prod.fst = (evictClock s t).map Prod.fst :=
  evictClock_congr hprep.entries hprep.capacity hprep.hand t

namespace TableOk

variable (h : TableOk s)

include h

/-- An addition evicts exactly when it finds neither its key nor a vacant slot. -/
theorem reachesEvictClock_iff (ha : op.addition? = some a) :
    op.reachesEvictClock s = true ↔
      s.find a.key = none ∧ ∀ i < s.capacity, (s.entries i).isVacant = false := by
  obtain ⟨s₁, hprep, -, hreaches⟩ := h.exists_prepared ha
  rw [hreaches, ← hprep.find_eq, ← hprep.entries, ← hprep.capacity]
  constructor
  · intro hevict
    obtain ⟨hfound, hinsert⟩ := hprep.ok.findKey_eq_false_of_reachesEvictClock hprep.normal hevict
    exact ⟨ShmData.find_of_findKey_eq_false hfound,
      (hprep.ok.insertEntry_evicting a.clock hinsert).1⟩
  · rintro ⟨habsent, hfull⟩
    have hfound : (findKey s₁.entries s₁.capacity a.key).2 = false := by
      cases hfound : (findKey s₁.entries s₁.capacity a.key).2 with
      | false => rfl
      | true =>
        rw [ShmData.find_of_findKey hfound] at habsent
        exact absurd habsent (by simp)
    rw [upsertReachesEvictClock, hfound, if_neg Bool.false_ne_true, insertReachesEvictClock,
      Option.isNone_iff_eq_none, findVacantSlot,
      circularScan_eq_none_iff (Nat.mod_lt _ hprep.ok.capacity_pos)]
    intro i hi
    rw [hfull i hi, if_neg Bool.false_ne_true]

/-- **An addition that evicts**, on the slots: the new entry takes over the slot that the clock
hand gives up, and the hand moves past it. -/
theorem slots_addition_evicting (ha : op.addition? = some a)
    (hevict : op.reachesEvictClock s = true) :
    ∃ i < s.capacity, (evictClock s a.clock.evict).map Prod.fst = some i ∧
      (op.apply s).entries = Function.update s.entries i (a.entry s) ∧
      (op.apply s).clockHand = (i + 1) % s.capacity ∧ (op.apply s).capacity = s.capacity := by
  obtain ⟨s₁, hprep, happly, hreaches⟩ := h.exists_prepared ha
  obtain ⟨hfound, hinsert⟩ :=
    hprep.ok.findKey_eq_false_of_reachesEvictClock hprep.normal (hreaches ▸ hevict)
  obtain ⟨-, i, hi, hclock, hplace⟩ := hprep.ok.insertEntry_evicting a.clock hinsert
  have hupsert : op.apply s = placeEntry (evictAt s₁ i) i (a.entry s) := by
    rw [happly, Addition.upsert, CrowdSecBouncer.upsertEntry, hfound, if_neg Bool.false_ne_true,
      hplace]
  refine ⟨i, hprep.capacity ▸ hi, ?_, ?_, ?_, ?_⟩
  · rw [← hprep.evictClock_fst, hclock, Option.map_some]
  · rw [hupsert, placeEntry_entries, evictAt_entries, Function.update_idem, hprep.entries]
  · rw [hupsert, ← hprep.capacity]
    rfl
  · rw [hupsert, ← hprep.capacity]
    rfl

/-- An addition that evicts, on the table as a map: the new key is there and the evicted one is
gone. -/
theorem find_addition_evicting (ha : op.addition? = some a)
    (hevict : op.reachesEvictClock s = true) {i : ℕ}
    (hi : (evictClock s a.clock.evict).map Prod.fst = some i) (hk : k.Normal) :
    (op.apply s).find k =
      if k = a.key then some (a.entry s)
      else if k = (s.entries i).key then none else s.find k := by
  obtain ⟨j, hlt, hj, hentries, -, hcapacity⟩ := h.slots_addition_evicting ha hevict
  obtain rfl : j = i := Option.some_injective _ (hj.symm.trans hi)
  obtain ⟨-, hfull⟩ := (h.reachesEvictClock_iff ha).mp hevict
  obtain ⟨s₁, hprep, -⟩ := h.exists_prepared ha
  have h' : TableOk (op.apply s) := h.apply op
  split
  · next heq =>
    subst heq
    refine (h'.find_eq_some_iff hprep.normal).mpr ⟨j, hcapacity ▸ hlt, ?_, ?_, hprep.key_eq⟩
    · rw [hentries, Function.update_self]
      exact hprep.wellKeyed.occupied
    · rw [hentries, Function.update_self]
  · next hne =>
    split
    · next heq =>
      subst heq
      -- the evicted key was in that slot only
      refine Option.eq_none_iff_forall_ne_some.mpr fun x hx => ?_
      obtain ⟨m, hm, hocc, rfl, hmkey⟩ := (h'.find_eq_some_iff hk).mp hx
      rw [hentries] at hocc hmkey
      rcases eq_or_ne m j with rfl | hmj
      · rw [Function.update_self] at hmkey
        exact hne (hmkey.symm.trans hprep.key_eq)
      · rw [Function.update_of_ne hmj] at hocc hmkey
        exact hmj (h.slots.unique m (hcapacity ▸ hm) j hlt hocc (hfull j hlt) hmkey)
    · next hne' =>
      exact h.find_update_of_ne h' hcapacity hentries hk (fun _ heq => hne' heq.symm)
        (fun _ heq => hne (heq.symm.trans hprep.key_eq))

/-- The key that goes is another one. -/
theorem key_ne_of_reachesEvictClock (ha : op.addition? = some a)
    (hevict : op.reachesEvictClock s = true) {i : ℕ} (hlt : i < s.capacity) :
    (s.entries i).key.Normal ∧ (s.entries i).key ≠ a.key ∧
      s.find (s.entries i).key = some (s.entries i) := by
  obtain ⟨habsent, hfull⟩ := (h.reachesEvictClock_iff ha).mp hevict
  have hnormal : (s.entries i).key.Normal :=
    (h.slots.wellKeyed i hlt (hfull i hlt)).valid.normal
  have hfind := h.find_eq_of_slot hnormal hlt (hfull i hlt) rfl
  refine ⟨hnormal, fun heq => ?_, hfind⟩
  rw [heq, habsent] at hfind
  exact absurd hfind (by simp)

end TableOk

/-! ### Calls that evict -/

/-- The key that a call evicts. -/
def TableOp.evictedKey? (s : ShmData) (op : TableOp) : Option Key :=
  if op.reachesEvictClock s then
    match op with
    | addDecision _ clock | addCidrDecision _ clock =>
      (evictClock s clock.evict).map fun r => (s.entries r.1).key
    | removeDecisionType .. | removeCidrDecisionType .. | clearAll => none
  else none

theorem TableOp.exists_addition_of_reachesEvictClock (hevict : op.reachesEvictClock s = true) :
    ∃ a, op.addition? = some a := by
  cases op with
  | addDecision info clock => exact ⟨_, rfl⟩
  | addCidrDecision info clock => exact ⟨_, if_pos (Bool.and_eq_true_iff.mp hevict).1⟩
  | removeDecisionType ip dt now => exact absurd hevict (by simp [TableOp.reachesEvictClock])
  | removeCidrDecisionType family prefixLen network dt now =>
    exact absurd hevict (by simp [TableOp.reachesEvictClock])
  | clearAll => exact absurd hevict (by simp [TableOp.reachesEvictClock])

/-- The key that an addition evicts is that of the slot it takes over. -/
theorem TableOp.evictedKey?_of_addition (ha : op.addition? = some a)
    (hevict : op.reachesEvictClock s = true) {i : ℕ}
    (hi : (evictClock s a.clock.evict).map Prod.fst = some i) :
    op.evictedKey? s = some (s.entries i).key := by
  obtain ⟨r, hr, rfl⟩ := Option.map_eq_some_iff.mp hi
  rcases TableOp.cases_of_addition ha with ⟨info, clock, rfl, rfl⟩ | ⟨info, clock, rfl, -, rfl⟩
  · rw [TableOp.evictedKey?.eq_def, if_pos hevict]
    dsimp only at hr ⊢
    rw [hr, Option.map_some]
  · rw [TableOp.evictedKey?.eq_def, if_pos hevict]
    dsimp only at hr ⊢
    rw [hr, Option.map_some]

/-- The deadlines after an addition that evicts. -/
private theorem deadlineAt_of_evicting {s s' : ShmData} {k₀ : Key} {newEntry : ShmHashEntry}
    {x : ℤ} {p : Key × DecisionType} (habsent : s.find k = none) (hne : k₀ ≠ k)
    (hview : ∀ dt', viewOf (some newEntry) dt' =
      if dt' = dt then DecisionExpiry.requested dt x else ⊥)
    (hfind : s'.find p.1 =
      if p.1 = k then some newEntry else if p.1 = k₀ then none else s.find p.1) :
    s'.deadlineAt p = if k₀ = p.1 then ⊥
      else Update.effectAt p (s.deadlineAt p)
        (.join (k, dt) (DecisionExpiry.requested dt x)) := by
  obtain ⟨k', dt'⟩ := p
  rw [ShmData.deadlineAt, hfind, Update.effectAt]
  dsimp only
  by_cases hk : k' = k
  · subst hk
    rw [if_pos rfl, if_neg hne, hview, ShmData.deadlineAt, habsent]
    change _ = if _ then ⊥ ⊔ _ else ⊥
    by_cases hdt : dt' = dt
    · rw [if_pos hdt, if_pos (by rw [hdt]), bot_sup_eq]
    · rw [if_neg hdt, if_neg fun heq => hdt (Prod.mk.inj heq).2]
  · rw [if_neg hk, if_neg (c := (k', dt') = (k, dt)) fun heq => hk (Prod.mk.inj heq).1]
    by_cases hk₀ : k' = k₀
    · rw [if_pos hk₀, if_pos hk₀.symm]
      rfl
    · rw [if_neg hk₀, if_neg (Ne.symm hk₀)]
      rfl

/-- **One call, evicting or not.** -/
theorem TableOk.eqFrom_apply_evicting (h : TableOk s) (op : TableOp)
    (htime : ∀ t ∈ op.time?, t ≤ now) {p : Key × DecisionType} (hp : p.1.Normal) :
    Deadline.EqFrom now ((op.apply s).deadlineAt p)
      (if op.evictedKey? s = some p.1 then ⊥
        else runAt p (s.deadlineAt p) op.update?.toList) := by
  cases hevict : op.reachesEvictClock s with
  | false =>
    have hnone : op.evictedKey? s = none := if_neg (by simp [hevict])
    rw [hnone, if_neg (by simp)]
    exact h.eqFrom_apply op hevict htime hp
  | true =>
    obtain ⟨a, ha⟩ := TableOp.exists_addition_of_reachesEvictClock hevict
    obtain ⟨i, hlt, hi, -⟩ := h.slots_addition_evicting ha hevict
    obtain ⟨-, hne, -⟩ := h.key_ne_of_reachesEvictClock ha hevict hlt
    have habsent := ((h.reachesEvictClock_iff ha).mp hevict).1
    have hadd := deadlineAt_of_evicting habsent hne (fun dt' => viewOf_newEntry ..)
      (h.find_addition_evicting ha hevict hi hp)
    rw [hadd, TableOp.evictedKey?_of_addition ha hevict hi, TableOp.update?_of_addition ha]
    simp only [Option.some.injEq]
    exact .refl now _

/-! ### The decisions in force after a call -/

/-- The call ends the decision: it removes it, clears the table or evicts its entry. -/
def TableOp.Ends (s : ShmData) (op : TableOp) (k : Key) (dt : DecisionType) : Prop :=
  op.evictedKey? s = some k ∨ op.update? = some (.erase (k, dt)) ∨ op.update? = some .clear

/-- The call adds the decision, with a deadline ahead of `now`. -/
def TableOp.Starts (op : TableOp) (now : ℤ) (k : Key) (dt : DecisionType) : Prop :=
  ∃ x, op.update? = some (.join (k, dt) x) ∧ Deadline.Active now x

/-- After the call the decision is in force. -/
def TableOp.Leaves (s : ShmData) (op : TableOp) (now : ℤ) (k : Key) (dt : DecisionType) : Prop :=
  s.InForce now k dt ∧ ¬ op.Ends s k dt ∨ op.Starts now k dt

/-- The call leaves a ban standing for the address: a covering key keeps or gets a ban, and no
key before it keeps or gets a captcha. -/
def TableOp.LeavesBan (s : ShmData) (op : TableOp) (ip : IpAddr) (now : ℤ) : Prop :=
  ∃ before k after, ip.coveringKeys = before ++ k :: after ∧ op.Leaves s now k .ban ∧
    ∀ k' ∈ before, ¬ op.Leaves s now k' .captcha

variable {ip : IpAddr}

/-- A key that is evicted is not one that is added. -/
theorem TableOk.not_starts_of_evicted (h : TableOk s)
    (hevicted : op.evictedKey? s = some k) : ¬ op.Starts now k dt := by
  rintro ⟨x, hjoin, -⟩
  obtain ⟨hevict, -⟩ := Option.ite_none_right_eq_some.mp hevicted
  obtain ⟨a, ha⟩ := TableOp.exists_addition_of_reachesEvictClock hevict
  obtain ⟨i, hlt, hi, -⟩ := h.slots_addition_evicting ha hevict
  obtain ⟨-, hne, -⟩ := h.key_ne_of_reachesEvictClock ha hevict hlt
  rw [TableOp.evictedKey?_of_addition ha hevict hi, Option.some.injEq] at hevicted
  rw [TableOp.update?_of_addition ha, Option.some.injEq, Update.join.injEq, Prod.mk.injEq] at hjoin
  exact hne (hevicted.trans hjoin.1.1.symm)

/-- What an update makes of a decision that is not evicted. -/
private theorem active_runAt_update_iff {u : Option (Update (Key × DecisionType) ℤ)}
    {p : Key × DecisionType} {x : Deadline ℤ} :
    Deadline.Active now (runAt p x u.toList) ↔
      Deadline.Active now x ∧ ¬ (u = some (.erase p) ∨ u = some .clear) ∨
        ∃ y, u = some (.join p y) ∧ Deadline.Active now y := by
  rcases u with - | ⟨p', y⟩ | p' | -
  · simp
  · rw [Option.toList_some, runAt_cons, runAt_nil, Update.effectAt]
    by_cases hp : p = p'
    · subst hp
      simp [Deadline.active_sup]
    · simp [hp, Ne.symm hp]
  · rw [Option.toList_some, runAt_cons, runAt_nil, Update.effectAt]
    by_cases hp : p = p'
    · simp [hp]
    · simp [hp, Ne.symm hp]
  · simp [Update.effectAt]

/-- **In force after a call** is what was in force and is not ended, and what is started. -/
theorem TableOk.inForce_apply_iff (h : TableOk s) (htime : ∀ t ∈ op.time?, t ≤ now)
    (hk : k.Normal) : (op.apply s).InForce now k dt ↔ op.Leaves s now k dt := by
  refine (h.eqFrom_apply_evicting (p := (k, dt)) op htime hk now le_rfl).trans ?_
  rw [TableOp.Leaves, TableOp.Ends]
  split
  · next hevicted =>
    refine iff_of_false Deadline.not_active_bot ?_
    rintro (⟨-, hends⟩ | hstarts)
    · exact hends (.inl hevicted)
    · exact h.not_starts_of_evicted hevicted hstarts
  · next hevicted =>
    rw [or_iff_right hevicted]
    exact active_runAt_update_iff

/-- **A ban is reported after a call** exactly when the call leaves one standing. -/
theorem TableOk.reportsBan_apply_iff (h : TableOk s) (htime : ∀ t ∈ op.time?, t ≤ now) :
    (op.apply s).ReportsBan ip now ↔ op.LeavesBan s ip now := by
  rw [(h.apply op).reportsBan_iff, TableOp.LeavesBan]
  refine exists_congr fun before => exists_congr fun k => exists_congr fun after =>
    and_congr_right fun hkeys => ?_
  have hmem {k' : Key} (hk' : k' ∈ before ++ k :: after) : k'.Normal :=
    IpAddr.normal_of_mem_coveringKeys (hkeys ▸ hk')
  refine and_congr (h.inForce_apply_iff htime (hmem (by simp))) (forall₂_congr fun k' hk' => ?_)
  exact not_congr (h.inForce_apply_iff htime (hmem (List.mem_append_left _ hk')))

end CrowdSecBouncer
