import CrowdSecBouncer.Stream.Decisions

/-!
# One poll is the set update LAPI described

For each pair of a key and a type, a poll leaves the latest of the deadlines that its new list
names and of the deadline that was there, unless the deleted list names the pair
(`eqFrom_applyToShm`). So the order of the two lists does not matter, as long as all deadlines
are computed at one instant, and keys that no list names keep their entries as they are.
-/

namespace CrowdSecBouncer

open DeadlineMap

/-- The tables that calls make of a new zone. -/
def ShmData.Reachable (s : ShmData) : Prop :=
  ∃ capacity ops, 0 < capacity ∧ s = TableOp.run (.fresh capacity) ops

theorem tableOk_fresh {capacity : ℕ} (h : 0 < capacity) : TableOk (.fresh capacity) :=
  (tableOk_clearAll (s := .fresh capacity) h).of_eq rfl rfl rfl rfl rfl

theorem ShmData.Reachable.tableOk {s : ShmData} (h : s.Reachable) : TableOk s := by
  obtain ⟨capacity, ops, hpos, rfl⟩ := h
  exact (tableOk_fresh hpos).run ops

theorem ShmData.Reachable.run {s : ShmData} (h : s.Reachable) (ops : List TableOp) :
    (TableOp.run s ops).Reachable := by
  obtain ⟨capacity, ops', hpos, rfl⟩ := h
  exact ⟨capacity, ops' ++ ops, hpos, List.foldl_append.symm⟩

namespace StreamResponse

variable (fallback : FallbackRemediation) (r : StreamResponse)

/-- The calls of a poll read clocks at `now` or before. -/
def ReadBy (r : StreamResponse) (now : ℤ) : Prop :=
  (∀ dc ∈ r.new, dc.2.now ≤ now) ∧ ∀ dn ∈ r.deleted, dn.2 ≤ now

/-- Every deadline of the new list is a 64-bit integer. -/
def Fits (r : StreamResponse) : Prop := ∀ dc ∈ r.new, dc.1.Fits dc.2

/-- All deadlines of the new list are computed at one instant. -/
def OneInstant (r : StreamResponse) (reading : Option ℤ) : Prop :=
  ∀ dc ∈ r.new, dc.2.deadline = reading

/-- The new list names the pair. -/
def ListsNew (p : Key × DecisionType) : Prop := ∃ dc ∈ r.new, dc.1.pair? fallback = some p

/-- The deleted list names the pair. -/
def ListsDeleted (p : Key × DecisionType) : Prop :=
  ∃ dn ∈ r.deleted, dn.1.pair? fallback = some p

/-- Some list names the key. -/
def Names (k : Key) : Prop := ∃ dt, r.ListsNew fallback (k, dt) ∨ r.ListsDeleted fallback (k, dt)

open Classical in
/-- The deadline of a pair that the poll asks for, after the deadline `prior`. -/
noncomputable def requestedDeadline (p : Key × DecisionType) (prior : Deadline ℤ) : Deadline ℤ :=
  (if r.ListsDeleted fallback p then ⊥ else prior) ⊔ latest p (r.joined fallback)

end StreamResponse

variable {fallback : FallbackRemediation} {s : ShmData} {r r' : StreamResponse} {k : Key}
  {p : Key × DecisionType} {now : ℤ} {reading : Option ℤ}

theorem mem_erased_iff : p ∈ r.erased fallback ↔ r.ListsDeleted fallback p :=
  List.mem_filterMap

theorem mem_joined_iff {x : Deadline ℤ} : (p, x) ∈ r.joined fallback ↔
    ∃ dc ∈ r.new, dc.1.pair? fallback = some p ∧ dc.1.listedDeadline dc.2 = x := by
  simp only [StreamResponse.joined, List.mem_filterMap, Option.map_eq_some_iff, Prod.mk.injEq]
  constructor
  · rintro ⟨dc, hdc, _, hp, rfl, rfl⟩
    exact ⟨dc, hdc, hp, rfl⟩
  · rintro ⟨dc, hdc, hp, rfl⟩
    exact ⟨dc, hdc, p, hp, rfl, rfl⟩

/-- The clock readings of the calls are those of the lists. -/
theorem times_applyCalls_le (h : r.ReadBy now) :
    ∀ t ∈ TableOp.times (r.applyCalls fallback), t ≤ now := by
  intro t ht
  obtain ⟨op, hop, htime⟩ := List.mem_filterMap.mp ht
  rcases List.mem_append.mp hop with hop | hop
  · obtain ⟨⟨d, t'⟩, hmem, hcall⟩ := List.mem_filterMap.mp hop
    obtain ⟨-, -, -, -, -, hop'⟩ := removalCall_spec hcall
    rw [← Option.some_injective _ (hop'.symm.trans htime)]
    exact h.2 _ hmem
  · obtain ⟨⟨d, clock⟩, hmem, hcall⟩ := List.mem_filterMap.mp hop
    obtain ⟨-, -, -, -, -, hop'⟩ := additionCall_spec hcall
    rw [← Option.some_injective _ (hop'.symm.trans htime)]
    exact h.1 _ hmem

/-- **The deadlines after a poll.** -/
theorem eqFrom_applyToShm (h : TableOk s) (hevict : NeverEvicts (r.applyCalls fallback) s)
    (hfits : r.Fits) (hread : r.ReadBy now) (hp : p.1.Normal) :
    Deadline.EqFrom now ((applyToShm fallback s r).deadlineAt p)
      (r.requestedDeadline fallback p (s.deadlineAt p)) := by
  have hrun := h.eqFrom_run (r.applyCalls fallback) hevict (times_applyCalls_le hread) hp
  rw [updates_applyCalls hfits, runAt_batch] at hrun
  rw [StreamResponse.requestedDeadline]
  by_cases hdeleted : p ∈ r.erased fallback
  · rw [if_pos hdeleted] at hrun
    rw [if_pos (mem_erased_iff.mp hdeleted)]
    exact hrun
  · rw [if_neg hdeleted] at hrun
    rw [if_neg (mt mem_erased_iff.mpr hdeleted)]
    exact hrun

/-- A poll leaves the entries of the keys alone that it does not name. -/
theorem find_applyToShm_of_not_names (h : TableOk s)
    (hevict : NeverEvicts (r.applyCalls fallback) s) (hnames : ¬ r.Names fallback k)
    (hk : k.Normal) : (applyToShm fallback s r).find k = s.find k := by
  refine h.find_run_of_ne (r.applyCalls fallback) hevict (fun op hop => ?_) hk
  rcases List.mem_append.mp hop with hop | hop
  · obtain ⟨⟨d, t⟩, hmem, hcall⟩ := List.mem_filterMap.mp hop
    obtain ⟨k', dt, hpair, hclear, hkey, -⟩ := removalCall_spec hcall
    refine ⟨hclear, fun heq => hnames ⟨dt, .inr ⟨_, hmem, ?_⟩⟩⟩
    rw [hkey] at heq
    rw [← Option.some_injective _ heq]
    exact hpair
  · obtain ⟨⟨d, clock⟩, hmem, hcall⟩ := List.mem_filterMap.mp hop
    obtain ⟨k', dt, hpair, hclear, hkey, -⟩ := additionCall_spec hcall
    refine ⟨hclear, fun heq => hnames ⟨dt, .inl ⟨_, hmem, ?_⟩⟩⟩
    rw [hkey] at heq
    rw [← Option.some_injective _ heq]
    exact hpair

/-! ### Orders of the lists -/

/-- The poll `r'` has the lists of `r`, in another order; the new list is reordered only when
its deadlines are computed at one instant. -/
structure StreamResponse.Reorders (r r' : StreamResponse) : Prop where
  deleted : (r'.deleted.map Prod.fst).Perm (r.deleted.map Prod.fst)
  new : r'.new = r.new ∨ (r'.new.map Prod.fst).Perm (r.new.map Prod.fst) ∧
    ∃ reading, r.OneInstant reading ∧ r'.OneInstant reading

theorem listsDeleted_of_perm (h : (r'.deleted.map Prod.fst).Perm (r.deleted.map Prod.fst)) :
    r'.ListsDeleted fallback p ↔ r.ListsDeleted fallback p := by
  have hmap (q : StreamResponse) : q.ListsDeleted fallback p ↔
      ∃ d ∈ q.deleted.map Prod.fst, d.pair? fallback = some p := by
    constructor
    · rintro ⟨dn, hdn, hp⟩
      exact ⟨dn.1, List.mem_map_of_mem hdn, hp⟩
    · rintro ⟨d, hd, hp⟩
      obtain ⟨dn, hdn, rfl⟩ := List.mem_map.mp hd
      exact ⟨dn, hdn, hp⟩
  rw [hmap, hmap]
  exact exists_congr fun d => and_congr_left fun _ => h.mem_iff

/-- The new list at one instant, without the readings. -/
private theorem joined_of_oneInstant (h : r.OneInstant reading) :
    r.joined fallback = (r.new.map Prod.fst).filterMap fun d =>
      (d.pair? fallback).map fun p => (p, d.listedDeadline ⟨reading, 0, 0⟩) := by
  rw [StreamResponse.joined, List.filterMap_map]
  refine List.filterMap_congr fun dc hdc => ?_
  have hdeadline : dc.1.listedDeadline dc.2 = dc.1.listedDeadline ⟨reading, 0, 0⟩ := by
    rw [Decision.listedDeadline, Decision.listedDeadline, h dc hdc]
  rw [hdeadline]
  rfl

theorem StreamResponse.Reorders.joined_perm (h : r.Reorders r') :
    (r'.joined fallback).Perm (r.joined fallback) := by
  rcases h.new with heq | ⟨hperm, reading, hr, hr'⟩
  · rw [StreamResponse.joined, StreamResponse.joined, heq]
  · rw [joined_of_oneInstant hr, joined_of_oneInstant hr']
    exact hperm.filterMap _

/-- **What is asked for does not depend on the order.** -/
theorem StreamResponse.Reorders.requestedDeadline (h : r.Reorders r') (p : Key × DecisionType)
    (prior : Deadline ℤ) :
    r'.requestedDeadline fallback p prior = r.requestedDeadline fallback p prior := by
  rw [StreamResponse.requestedDeadline, StreamResponse.requestedDeadline,
    latest_perm h.joined_perm]
  have hdeleted : r'.ListsDeleted fallback p ↔ r.ListsDeleted fallback p :=
    listsDeleted_of_perm h.deleted
  by_cases hlists : r.ListsDeleted fallback p
  · rw [if_pos hlists, if_pos (hdeleted.mpr hlists)]
  · rw [if_neg hlists, if_neg (mt hdeleted.mp hlists)]

theorem StreamResponse.Reorders.names_iff (h : r.Reorders r') :
    r'.Names fallback k ↔ r.Names fallback k := by
  have hnew (p : Key × DecisionType) : r'.ListsNew fallback p ↔ r.ListsNew fallback p := by
    have hjoined (q : StreamResponse) :
        q.ListsNew fallback p ↔ ∃ x, (p, x) ∈ q.joined fallback := by
      simp only [mem_joined_iff]
      constructor
      · rintro ⟨dc, hdc, hp⟩
        exact ⟨_, dc, hdc, hp, rfl⟩
      · rintro ⟨-, dc, hdc, hp, -⟩
        exact ⟨dc, hdc, hp⟩
    rw [hjoined, hjoined]
    exact exists_congr fun x => h.joined_perm.mem_iff
  exact exists_congr fun dt => or_congr (hnew _) (listsDeleted_of_perm h.deleted)

/-- The durations fit in one order when they fit in the other. -/
theorem StreamResponse.Reorders.fits (h : r.Reorders r') (hfits : r.Fits) : r'.Fits := by
  rcases h.new with heq | ⟨hperm, reading, hr, hr'⟩
  · intro dc hdc
    exact hfits dc (heq ▸ hdc)
  · intro dc hdc secs t hsecs hclock
    obtain ⟨dc', hdc', hsame⟩ := List.mem_map.mp (hperm.mem_iff.mp (List.mem_map_of_mem hdc))
    rw [← hsame] at hsecs
    rw [hr' dc hdc, ← hr dc' hdc'] at hclock
    exact hfits dc' hdc' secs t hsecs hclock

/-! ### The set update -/

/-- The table `s'` is what the lists of the poll make of `s`, as seen at `now`. -/
structure IsSetUpdate (fallback : FallbackRemediation) (r : StreamResponse) (now : ℤ)
    (s s' : ShmData) : Prop where
  /-- In force is what is listed as new with a deadline ahead, and what was in force and is not
  listed as deleted. -/
  inForce_iff : ∀ k dt, k.Normal → (s'.InForce now k dt ↔
    (∃ dc ∈ r.new, dc.1.pair? fallback = some (k, dt) ∧
      Deadline.Active now (dc.1.listedDeadline dc.2)) ∨
    s.InForce now k dt ∧ ¬ r.ListsDeleted fallback (k, dt))
  /-- A decision that is listed at `now` has its deadline ahead. -/
  listed_inForce : (∀ dc ∈ r.new, dc.2.deadline = none ∨ dc.2.deadline = some now) →
    ∀ k dt, k.Normal → (s'.InForce now k dt ↔
      r.ListsNew fallback (k, dt) ∨ s.InForce now k dt ∧ ¬ r.ListsDeleted fallback (k, dt))
  /-- The deadline is the latest one of those listed as new and of the one that survived. -/
  deadline_eq : ∀ k dt, k.Normal → s'.InForce now k dt →
    s'.deadlineAt (k, dt) = r.requestedDeadline fallback (k, dt) (s.deadlineAt (k, dt))
  /-- The other keys keep their entries. -/
  untouched : ∀ k, k.Normal → ¬ r.Names fallback k → s'.find k = s.find k

theorem active_requestedDeadline {prior : Deadline ℤ} :
    Deadline.Active now (r.requestedDeadline fallback p prior) ↔
      (∃ dc ∈ r.new, dc.1.pair? fallback = some p ∧
        Deadline.Active now (dc.1.listedDeadline dc.2)) ∨
      Deadline.Active now prior ∧ ¬ r.ListsDeleted fallback p := by
  rw [StreamResponse.requestedDeadline, Deadline.active_sup, or_comm, active_latest]
  refine or_congr ?_ ?_
  · simp only [mem_joined_iff]
    constructor
    · rintro ⟨_, ⟨dc, hdc, hp, rfl⟩, hactive⟩
      exact ⟨dc, hdc, hp, hactive⟩
    · rintro ⟨dc, hdc, hp, hactive⟩
      exact ⟨_, ⟨dc, hdc, hp, rfl⟩, hactive⟩
  · split
    · next hdeleted => exact iff_of_false Deadline.not_active_bot fun h => h.2 hdeleted
    · next hdeleted => exact ⟨fun h => ⟨h, hdeleted⟩, fun h => h.1⟩

/-- A deadline listed at `now` is ahead. -/
theorem active_listedDeadline {d : Decision} {clock : CallClock}
    (h : clock.deadline = none ∨ clock.deadline = some now) :
    Deadline.Active now (d.listedDeadline clock) := by
  rw [Decision.listedDeadline]
  split
  · next secs t hsecs hclock =>
    obtain ⟨text, -, htext⟩ := Option.bind_eq_some_iff.mp hsecs
    have hpos := parseDuration_pos htext
    rcases h with h | h
    · exact absurd (hclock.symm.trans h) (by simp)
    · obtain rfl := Option.some_injective _ (hclock.symm.trans h)
      rw [Deadline.active_at']
      omega
  · exact Deadline.active_top

/-- What a poll asks for is a set update. -/
theorem isSetUpdate_of_eqFrom {s' : ShmData}
    (heq : ∀ k dt, k.Normal → Deadline.EqFrom now (s'.deadlineAt (k, dt))
      (r.requestedDeadline fallback (k, dt) (s.deadlineAt (k, dt))))
    (huntouched : ∀ k, k.Normal → ¬ r.Names fallback k → s'.find k = s.find k) :
    IsSetUpdate fallback r now s s' := by
  have hinForce (k : Key) (dt : DecisionType) (hk : k.Normal) :=
    (heq k dt hk now le_rfl).trans active_requestedDeadline
  refine ⟨hinForce, fun hinstant k dt hk => ?_, fun k dt hk hact => ?_, huntouched⟩
  · refine (hinForce k dt hk).trans (or_congr ?_ Iff.rfl)
    constructor
    · rintro ⟨dc, hdc, hp, -⟩
      exact ⟨dc, hdc, hp⟩
    · rintro ⟨dc, hdc, hp⟩
      exact ⟨dc, hdc, hp, active_listedDeadline (hinstant dc hdc)⟩
  · exact (heq k dt hk).eq_of_active hact

/-- **One poll applies exactly the set update that LAPI described**, to every table that the
calls can reach, and so does a poll with the same lists in another order. -/
theorem isSetUpdate_applyToShm (h : s.Reachable)
    (hevict : NeverEvicts (r.applyCalls fallback) s) (hfits : r.Fits) (hread : r.ReadBy now) :
    IsSetUpdate fallback r now s (applyToShm fallback s r) ∧
      ∀ r', r.Reorders r' → NeverEvicts (r'.applyCalls fallback) s → r'.ReadBy now →
        IsSetUpdate fallback r now s (applyToShm fallback s r') := by
  constructor
  · refine isSetUpdate_of_eqFrom (fun k dt hk => ?_) fun k hk hnames => ?_
    · exact eqFrom_applyToShm (p := (k, dt)) h.tableOk hevict hfits hread hk
    · exact find_applyToShm_of_not_names h.tableOk hevict hnames hk
  · intro r' hreorder hevict' hread'
    have hfits' := hreorder.fits hfits
    refine isSetUpdate_of_eqFrom (fun k dt hk => ?_) fun k hk hnames => ?_
    · rw [← hreorder.requestedDeadline]
      exact eqFrom_applyToShm (p := (k, dt)) h.tableOk hevict' hfits' hread' hk
    · exact find_applyToShm_of_not_names h.tableOk hevict' (mt hreorder.names_iff.mp hnames) hk

/-- An address with a ban. -/
def exampleTable : ShmData :=
  TableOp.run (.fresh 8)
    [.addDecision ⟨.v4 (u32ToBeBytes 0xC0000201), .ban, .crowdsec, none, some 600⟩ ⟨some 5, 5, 5⟩]

/-- A poll that deletes the ban of an address and lists an unknown type for it under another
spelling, a captcha, and a ban of a network that is not masked. -/
def exampleResponse : StreamResponse where
  new :=
    [(⟨some "lists".toList, "mfa".toList, some "::ffff:192.0.2.1".toList, some "4h".toList, none,
        none⟩, ⟨some 50, 50, 50⟩),
      (⟨none, "Captcha".toList, some "192.0.2.1".toList, some "1h".toList, none, some false⟩,
        ⟨some 51, 51, 51⟩),
      (⟨none, "ban".toList, some "198.51.100.77/24".toList, none, none, none⟩,
        ⟨some 52, 52, 52⟩)]
  deleted :=
    [(⟨none, "BAN".toList, some "192.0.2.1".toList, some "10m".toList, none, none⟩, 50)]

theorem isSetUpdate_applyToShm_exampleResponse :
    IsSetUpdate .captcha exampleResponse 52 exampleTable
      (applyToShm .captcha exampleTable exampleResponse) := by
  refine (isSetUpdate_applyToShm ⟨8, _, by decide, rfl⟩ (by decide +kernel) ?_ ?_).1
  · have hall : ∀ dc ∈ exampleResponse.new, ∃ t, dc.2.deadline = some t ∧ 0 ≤ t ∧
        ∀ secs ∈ dc.1.duration.bind parseDuration, t + secs < 2 ^ 63 := by
      decide +kernel
    intro dc hdc secs t hsecs hclock
    obtain ⟨t', ht', hpos, hlt⟩ := hall dc hdc
    obtain rfl := Option.some_injective _ (ht'.symm.trans hclock)
    exact ⟨hpos, hlt secs hsecs⟩
  · exact ⟨by decide, by decide⟩

end CrowdSecBouncer
