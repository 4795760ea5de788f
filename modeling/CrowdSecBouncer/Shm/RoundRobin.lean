import CrowdSecBouncer.Shm.Additions

/-!
# Round-robin eviction

While nothing in a full table has expired, the first round of the clock hand finds nothing and
the second one stops where it starts: an addition of a fresh key takes the slot under the hand
and moves the hand to the next slot (`FreshAddition.step`). The hashes of the keys play no part
in that. So a run of such additions takes the slots one after the other in circular order
(`evictedSlots_eq`), and an entry is safe for a whole turn of the hand (`roundRobin`).
-/

namespace CrowdSecBouncer

open CircularProbe

/-- A call that adds a ban or a captcha under a key that is not in the table, at a time when no
entry has expired. -/
def FreshAddition (s : ShmData) (op : TableOp) : Prop :=
  ∃ a, op.addition? = some a ∧ a.decisionType ≠ .unknown ∧ s.find a.key = none ∧
    ∀ i < s.capacity, (s.entries i).isExpiredAt a.clock.evict = false

/-- A run of such calls. -/
def FreshAdditions (ops : List TableOp) (s : ShmData) : Prop :=
  LabelledRun.EveryStep TableOp.step (fun op s => FreshAddition s op) ops s

/-- The slot whose entry a call evicts. -/
def TableOp.evictedSlot? (s : ShmData) (op : TableOp) : Option ℕ :=
  if op.reachesEvictClock s then
    op.addition?.bind fun a => (evictClock s a.clock.evict).map Prod.fst
  else none

/-- The slots whose entries a run evicts, in the order of the evictions. -/
def evictedSlots : List TableOp → ShmData → List ℕ
  | [], _ => []
  | op :: ops, s => (op.evictedSlot? s).toList ++ evictedSlots ops (op.apply s)

/-- No slot is vacant. -/
def ShmData.Full (s : ShmData) : Prop := ∀ i < s.capacity, (s.entries i).isVacant = false

variable {s : ShmData} {op : TableOp} {ops : List TableOp} {a : Addition} {i : ℕ}

theorem freshAdditions_cons :
    FreshAdditions (op :: ops) s ↔ FreshAddition s op ∧ FreshAdditions ops (op.apply s) :=
  and_congr_right fun _ => ⟨fun h => h _ rfl, by rintro h _ ⟨⟩; exact h⟩

theorem freshAdditions_append {ops' : List TableOp} :
    FreshAdditions (ops ++ ops') s ↔
      FreshAdditions ops s ∧ FreshAdditions ops' (TableOp.run s ops) := by
  induction ops generalizing s with
  | nil => exact (and_iff_right trivial).symm
  | cons op ops ih =>
    rw [List.cons_append, freshAdditions_cons, freshAdditions_cons, ih, and_assoc]
    rfl

/-! ### One addition -/

/-- With every slot occupied and nothing expired, the clock hand evicts where it stands. -/
theorem evictClock_of_not_expired (hhand : s.clockHand < s.capacity) (hfull : s.Full) {t : ℤ}
    (halive : ∀ i < s.capacity, (s.entries i).isExpiredAt t = false) :
    (evictClock s t).map Prod.fst = some s.clockHand := by
  have hfirst : evictClockMatching s t true = none := by
    rw [evictClockMatching, Option.map_eq_none_iff, circularScan_eq_none_iff hhand]
    intro i hi
    simp [halive i hi]
  have hscan : circularScan s.capacity s.clockHand (fun hand =>
      if !(s.entries hand).isVacant && (!false || (s.entries hand).isExpiredAt t)
      then some hand else none) = some s.clockHand := by
    refine (circularScan_eq_some_iff hhand).mpr ⟨0, Nat.zero_lt_of_lt hhand, ?_, ?_⟩
    · rw [Nat.add_zero, Nat.mod_eq_of_lt hhand, hfull _ hhand]
      rfl
    · exact fun j hj => absurd hj (Nat.not_lt_zero j)
  rw [evictClock, hfirst, Option.none_or, evictClockMatching, hscan]
  rfl

/-- What a fresh addition does to a full table: it evicts the slot under the hand, puts its entry
there and moves the hand by one. -/
structure FreshStep (s s' : ShmData) (a : Addition) : Prop where
  entries : s'.entries = Function.update s.entries s.clockHand (a.entry s)
  clockHand : s'.clockHand = (s.clockHand + 1) % s.capacity
  capacity : s'.capacity = s.capacity
  occupied : (a.entry s).isVacant = false
  key_eq : (a.entry s).key = a.key
  normal : a.key.Normal

/-- **The step lemma.** -/
theorem FreshAddition.step (h : TableOk s) (hfull : s.Full) (hfresh : FreshAddition s op) :
    ∃ a, op.addition? = some a ∧ op.evictedSlot? s = some s.clockHand ∧
      FreshStep s (op.apply s) a := by
  obtain ⟨a, ha, -, habsent, halive⟩ := hfresh
  have hreaches := (h.reachesEvictClock_iff ha).mpr ⟨habsent, hfull⟩
  have hclock := evictClock_of_not_expired h.hand_lt hfull halive
  obtain ⟨i, -, hi, hentries, hhand, hcapacity⟩ := h.slots_addition_evicting ha hreaches
  obtain rfl : s.clockHand = i := Option.some_injective _ (hclock.symm.trans hi)
  obtain ⟨s₁, hprep, -⟩ := h.exists_prepared ha
  refine ⟨a, ha, ?_, hentries, hhand, hcapacity, hprep.wellKeyed.occupied, hprep.key_eq,
    hprep.normal⟩
  rw [TableOp.evictedSlot?, if_pos hreaches, ha, Option.bind_some, hclock]

/-- The table stays full. -/
theorem FreshStep.full {s' : ShmData} (hstep : FreshStep s s' a) (hfull : s.Full) : s'.Full := by
  intro i hi
  rw [hstep.capacity] at hi
  rw [hstep.entries]
  rcases eq_or_ne i s.clockHand with rfl | hne
  · rw [Function.update_self]
    exact hstep.occupied
  · rw [Function.update_of_ne hne]
    exact hfull i hi

/-! ### Runs of additions -/

/-- What a run of fresh additions keeps. -/
theorem full_run (h : TableOk s) (hfull : s.Full) (hfresh : FreshAdditions ops s) :
    (TableOp.run s ops).Full ∧ (TableOp.run s ops).capacity = s.capacity := by
  induction ops generalizing s with
  | nil => exact ⟨hfull, rfl⟩
  | cons op ops ih =>
    obtain ⟨hfirst, hrest⟩ := freshAdditions_cons.mp hfresh
    obtain ⟨a, -, -, hstep⟩ := hfirst.step h hfull
    obtain ⟨hfull', hcapacity⟩ := ih (h.apply op) (hstep.full hfull) hrest
    exact ⟨hfull', hcapacity.trans hstep.capacity⟩

/-- **The run lemma.** A run of fresh additions evicts the slots in circular order, from the one
under the hand on. -/
theorem evictedSlots_eq (h : TableOk s) (hfull : s.Full) (hfresh : FreshAdditions ops s) :
    evictedSlots ops s =
      (List.range ops.length).map fun j => (s.clockHand + j) % s.capacity := by
  induction ops generalizing s with
  | nil => rfl
  | cons op ops ih =>
    obtain ⟨hfirst, hrest⟩ := freshAdditions_cons.mp hfresh
    obtain ⟨a, -, hslot, hstep⟩ := hfirst.step h hfull
    rw [evictedSlots, hslot, ih (h.apply op) (hstep.full hfull) hrest, List.length_cons,
      List.range_succ_eq_map, List.map_cons, List.map_map, Nat.add_zero,
      Nat.mod_eq_of_lt h.hand_lt]
    refine congrArg (s.clockHand :: ·) (List.map_congr_left fun j _ => ?_)
    rw [hstep.clockHand, hstep.capacity, Nat.mod_add_mod, Nat.add_assoc, Nat.add_comm 1 j]
    rfl

/-- Slots that a run does not evict keep their entries. -/
theorem entries_run_of_notMem (h : TableOk s) (hfull : s.Full) (hfresh : FreshAdditions ops s)
    (hi : i ∉ evictedSlots ops s) : (TableOp.run s ops).entries i = s.entries i := by
  induction ops generalizing s with
  | nil => rfl
  | cons op ops ih =>
    obtain ⟨hfirst, hrest⟩ := freshAdditions_cons.mp hfresh
    obtain ⟨a, -, hslot, hstep⟩ := hfirst.step h hfull
    rw [evictedSlots, hslot, List.mem_append, not_or] at hi
    obtain ⟨hne, hi⟩ := hi
    have hrun : (TableOp.run (op.apply s) ops).entries i = (op.apply s).entries i :=
      ih (h.apply op) (hstep.full hfull) hrest hi
    refine hrun.trans ?_
    rw [hstep.entries, Function.update_of_ne]
    rintro rfl
    exact hne (by simp)

/-- As many fresh additions as there are slots evict no slot twice. -/
theorem nodup_evictedSlots (h : TableOk s) (hfull : s.Full) (hfresh : FreshAdditions ops s)
    (hlength : ops.length ≤ s.capacity) : (evictedSlots ops s).Nodup := by
  rw [evictedSlots_eq h hfull hfresh]
  refine List.Nodup.map_on (fun j hj k hk heq => ?_) List.nodup_range
  have hj' : j < s.capacity := (List.mem_range.mp hj).trans_le hlength
  have hk' : k < s.capacity := (List.mem_range.mp hk).trans_le hlength
  exact offset_injective hj' hk' heq

/-- The hand does not come back to a new entry before it has passed every other slot. -/
theorem find_run_cons (h : TableOk s) (hfull : s.Full) (hfresh : FreshAdditions (op :: ops) s)
    (ha : op.addition? = some a) (hlength : ops.length ≤ s.capacity - 1) :
    (TableOp.run s (op :: ops)).find a.key = some (a.entry s) := by
  obtain ⟨hop, hrest⟩ := freshAdditions_cons.mp hfresh
  obtain ⟨a', ha', -, hstep⟩ := hop.step h hfull
  obtain rfl : a' = a := Option.some_injective _ (ha'.symm.trans ha)
  have hfull' := hstep.full hfull
  have hsafe : s.clockHand ∉ evictedSlots ops (op.apply s) := by
    rw [evictedSlots_eq (h.apply op) hfull' hrest, List.mem_map, not_exists]
    rintro j ⟨hj, heq⟩
    rw [List.mem_range] at hj
    rw [hstep.clockHand, hstep.capacity, Nat.mod_add_mod, Nat.add_assoc,
      add_mod_eq_self_iff h.hand_lt (by omega) (by omega)] at heq
    omega
  have hentry : (TableOp.run s (op :: ops)).entries s.clockHand = a'.entry s := by
    change (TableOp.run (op.apply s) ops).entries s.clockHand = a'.entry s
    rw [entries_run_of_notMem (h.apply op) hfull' hrest hsafe, hstep.entries, Function.update_self]
  have hcapacity : (TableOp.run s (op :: ops)).capacity = s.capacity :=
    (full_run h hfull hfresh).2
  rw [(h.run (op :: ops)).find_eq_of_slot hstep.normal (i := s.clockHand) ?_ ?_ ?_, hentry]
  · rw [hcapacity]
    exact h.hand_lt
  · rw [hentry]
    exact hstep.occupied
  · rw [hentry]
    exact hstep.key_eq

/-- **Round-robin fairness.** In a full table of any capacity, during a run of additions of fresh
keys in which nothing is expired or removed, as many consecutive additions as there are slots
evict each slot once; and a new entry is still found after any number of further additions below
that. -/
theorem roundRobin {s₀ : ShmData} (hC : 1 ≤ s₀.capacity) (ops₀ ops : List TableOp)
    (hfull : (TableOp.run (clearAll s₀) ops₀).Full)
    (hfresh : FreshAdditions ops (TableOp.run (clearAll s₀) ops₀)) :
    (∀ before window after, ops = before ++ window ++ after →
      window.length = (TableOp.run (clearAll s₀) ops₀).capacity →
      (evictedSlots window (TableOp.run (clearAll s₀) (ops₀ ++ before))).length =
          (TableOp.run (clearAll s₀) ops₀).capacity ∧
        (evictedSlots window (TableOp.run (clearAll s₀) (ops₀ ++ before))).Nodup) ∧
    ∀ before op a window after, ops = before ++ op :: window ++ after → op.addition? = some a →
      window.length ≤ (TableOp.run (clearAll s₀) ops₀).capacity - 1 →
      (TableOp.run (clearAll s₀) (ops₀ ++ before ++ op :: window)).find a.key =
        some (a.entry (TableOp.run (clearAll s₀) (ops₀ ++ before))) := by
  have hrun (s : ShmData) (l l' : List TableOp) :
      TableOp.run s (l ++ l') = TableOp.run (TableOp.run s l) l' :=
    List.foldl_append
  have h : TableOk (TableOp.run (clearAll s₀) ops₀) := (tableOk_clearAll hC).run ops₀
  simp only [hrun]
  generalize TableOp.run (clearAll s₀) ops₀ = s at h hfull hfresh ⊢
  constructor
  · rintro before window after rfl hlength
    obtain ⟨hbefore, hwindow⟩ := freshAdditions_append.mp (freshAdditions_append.mp hfresh).1
    obtain ⟨hfull', hcapacity⟩ := full_run h hfull hbefore
    have h' := h.run before
    refine ⟨?_, nodup_evictedSlots h' hfull' hwindow (hlength.trans hcapacity.symm).le⟩
    rw [evictedSlots_eq h' hfull' hwindow, List.length_map, List.length_range, hlength]
  · rintro before op a window after rfl ha hlength
    obtain ⟨hbefore, hrest⟩ := freshAdditions_append.mp (freshAdditions_append.mp hfresh).1
    obtain ⟨hfull', hcapacity⟩ := full_run h hfull hbefore
    rw [← hcapacity] at hlength
    exact find_run_cons (h.run before) hfull' hrest ha hlength

/-- An unlimited ban of an address, added at `t`. -/
def unlimitedBan (lastOctet : UInt8) (t : ℤ) : TableOp :=
  .addDecision ⟨.v4 #v[10, 0, 0, lastOctet], .ban, .capi, none, none⟩ ⟨some t, t, t⟩

/-- Four bans in a table of two slots: the last two evict the first two, one after the other. -/
theorem roundRobin_two_slots :
    (evictedSlots [unlimitedBan 3 7, unlimitedBan 4 8]
        (TableOp.run (clearAll (ShmData.fresh 2))
          ([unlimitedBan 1 5, unlimitedBan 2 6] ++ []))).Nodup ∧
      (TableOp.run (clearAll (ShmData.fresh 2)) ([unlimitedBan 1 5, unlimitedBan 2 6] ++ [] ++
        unlimitedBan 3 7 :: [unlimitedBan 4 8])).find (.ip (.v4 #v[10, 0, 0, 3])) ≠ none := by
  have h := @roundRobin (ShmData.fresh 2) (by decide) [unlimitedBan 1 5, unlimitedBan 2 6]
    [unlimitedBan 3 7, unlimitedBan 4 8] (by unfold ShmData.Full; decide +kernel)
    (freshAdditions_cons.mpr ⟨⟨_, rfl, by decide, by decide +kernel, by decide +kernel⟩,
      freshAdditions_cons.mpr ⟨⟨_, rfl, by decide, by decide +kernel, by decide +kernel⟩, trivial⟩⟩)
  refine ⟨(h.1 [] _ [] rfl rfl).2, ?_⟩
  rw [h.2 [] (unlimitedBan 3 7) _ [unlimitedBan 4 8] [] rfl rfl (by decide)]
  simp

end CrowdSecBouncer
