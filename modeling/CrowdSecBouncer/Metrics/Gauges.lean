import CrowdSecBouncer.Metrics.UsageMetrics
import CrowdSecBouncer.Shm.Census
import CrowdSecBouncer.Shm.Provenance
import CrowdSecBouncer.Stream.Batch

/-!
# What the metrics say about the table

Before each upload the usage metrics add a gauge for every label under which decisions are in
force; the metrics page shows their number. In every reachable table these numbers are what they
are called: each key with a decision in force is counted once, under the label it is filed with
(`activeCount_census`, `activeGauges_census`).
-/

namespace CrowdSecBouncer

open Text

variable {s : ShmData} {now : ℤ} {k : Key} {e : ShmHashEntry}

/-! ### The active count -/

/-- **The active count.** In every reachable table it is the number of keys that have a decision
in force, each counted once; it is at most the number of slots in use, which the capacity
bounds. And it is the sum over the groups by origin, scenario and family, of which each has as
many as there are keys filed in it. -/
theorem activeCount_census (h : s.Reachable) (now : ℤ) :
    getActiveCount s now = (s.activeKeys now).ncard ∧
      getActiveCount s now ≤ getCount s ∧ getCount s ≤ s.capacity ∧
      ((countActiveDecisionsByOrigin s now).map Prod.snd).sum = getActiveCount s now ∧
      ∀ g n, (g, n) ∈ countActiveDecisionsByOrigin s now ↔
        0 < n ∧ (s.activeKeysWith now fun e => e.group = g).ncard = n := by
  refine ⟨h.tableOk.ncard_activeKeys.symm, h.tableOk.activeCount_le_count,
    h.tableOk.count_le_capacity, ?_, fun g n => h.tableOk.mem_countActiveDecisionsByOrigin_iff⟩
  rw [← Tally.weight_true, h.tableOk.weight_countActiveDecisionsByOrigin,
    ← h.tableOk.ncard_activeKeys, s.activeKeysWith_true]

/-- A captcha for a network is in force, and the ban of an address is lifted. -/
theorem activeCount_census_exampleOps :
    let s := TableOp.run (.fresh 8) exampleOps
    getActiveCount s 130 = (s.activeKeys 130).ncard ∧
      getActiveCount s 130 ≤ getCount s ∧ getCount s ≤ s.capacity ∧
      ((countActiveDecisionsByOrigin s 130).map Prod.snd).sum = getActiveCount s 130 ∧
      ∀ g n, (g, n) ∈ countActiveDecisionsByOrigin s 130 ↔
        0 < n ∧ (s.activeKeysWith 130 fun e => e.group = g).ncard = n :=
  activeCount_census ⟨8, exampleOps, by decide, rfl⟩ 130

example : countActiveDecisionsByOrigin (TableOp.run (.fresh 8) exampleOps) 130 =
    [((.capi, 0, 4), 1)] := by decide +kernel

/-! ### Labels -/

/-- Scenario ids do not dangle: an entry names a row, or none. -/
theorem ShmData.Reachable.scenarioId_le (h : s.Reachable) (hk : k.Normal)
    (he : s.find k = some e) : e.scenarioId.toNat ≤ s.scenarios.length := by
  obtain ⟨capacity, ops, hpos, rfl⟩ := h
  induction ops using List.reverseRecOn generalizing e with
  | nil =>
    obtain ⟨i, -, hocc, -⟩ := ((tableOk_fresh hpos).find_eq_some_iff hk).mp he
    exact absurd hocc (by simp [ShmData.fresh, ShmHashEntry.isVacant, ShmHashEntry.isEmpty,
      ShmHashEntry.empty, HASH_EMPTY])
  | append_singleton ops op ih =>
    have hok : TableOk (TableOp.run (.fresh capacity) ops) := (tableOk_fresh hpos).run ops
    have hrows := (hok.scenarios_isPrefix_apply op).length_le
    rw [run_concat] at he ⊢
    by_cases hadds : ∃ a, op.addition? = some a ∧ a.key = k
    · obtain ⟨a, ha, rfl⟩ := hadds
      obtain ⟨e', he', -, hid⟩ := hok.find_addition_self ha
      obtain rfl := Option.some_injective _ (he.symm.trans he')
      rcases hid with hid | ⟨-, -, e₀, he₀, hid⟩
      · rw [hid, hok.scenarios_addition ha]
        exact toNat_scenarioIdOf_le ..
      · rw [hid]
        exact (ih he₀).trans hrows
    · obtain ⟨e₀, he₀, -, hid⟩ := hok.exists_of_find_apply hk
        (fun a ha hkey => hadds ⟨a, ha, hkey.symm⟩) he
      rw [hid]
      exact (ih he₀).trans hrows

/-- The rows of a table are the first rows of every later one. -/
theorem TableOk.scenarios_isPrefix_run (h : TableOk s) (ops : List TableOp) :
    s.scenarios <+: (TableOp.run s ops).scenarios := by
  induction ops using List.reverseRecOn with
  | nil => exact List.prefix_rfl
  | append_singleton ops op ih =>
    rw [run_concat]
    exact ih.trans ((h.run ops).scenarios_isPrefix_apply op)

/-! ### The gauges -/

/-- The gauge that a group of decisions is added to. -/
def gaugeKey (scenarios : List (List UInt8)) (g : Origin × UInt16 × UInt8) : BucketKey :=
  .fromLabels KIND_ACTIVE g.2.2 (utf8Bytes (originLabel scenarios g.1 g.2.1))

/-- `active` in `collect_items`; `read g` are the scenarios at the time when the label of the
group `g` is read. Several groups may share a label. -/
def activeGauges (read : Origin × UInt16 × UInt8 → List (List UInt8))
    (groups : List ((Origin × UInt16 × UInt8) × ℕ)) : List (BucketKey × ℕ) :=
  groups.foldl (fun active c => Tally.add (gaugeKey (read c.1) c.1) c.2 active) []

/-- A label that is read later is the same. -/
theorem ShmData.Reachable.gaugeKey_run (h : s.Reachable) (hk : k.Normal)
    (he : s.find k = some e) (ops : List TableOp) :
    gaugeKey (TableOp.run s ops).scenarios e.group = gaugeKey s.scenarios e.group := by
  have hread : getScenario (TableOp.run s ops).scenarios e.scenarioId =
      getScenario s.scenarios e.scenarioId :=
    getScenario_of_isPrefix (h.tableOk.scenarios_isPrefix_run ops) (h.scenarioId_le hk he)
  rw [gaugeKey, gaugeKey, ShmHashEntry.group, originLabel, originLabel, hread]

/-- **The gauges.** The decisions of a reachable table are counted, and then the labels of the
groups are read, each after some further calls. There is one gauge for each label under which a
key with a decision in force was filed, and it shows the number of these keys; together the
gauges count each such key once. -/
theorem activeGauges_census {read : Origin × UInt16 × UInt8 → List (List UInt8)}
    (h : s.Reachable) (hread : ∀ g, ∃ ops, read g = (TableOp.run s ops).scenarios) (now : ℤ) :
    let gauges := activeGauges read (countActiveDecisionsByOrigin s now)
    (gauges.map Prod.fst).Nodup ∧
      (∀ key n, (key, n) ∈ gauges ↔
        0 < n ∧ (s.activeKeysWith now fun e => gaugeKey s.scenarios e.group = key).ncard = n) ∧
      (gauges.map Prod.snd).sum = (s.activeKeys now).ncard := by
  intro gauges
  have hlabel : ∀ c ∈ countActiveDecisionsByOrigin s now,
      gaugeKey (read c.1) c.1 = gaugeKey s.scenarios c.1 := by
    rintro ⟨g, n⟩ hmem
    obtain ⟨hpos, hcard⟩ := h.tableOk.mem_countActiveDecisionsByOrigin_iff.mp hmem
    obtain ⟨k, ⟨hk, -⟩, e, he, rfl⟩ := Set.nonempty_of_ncard_ne_zero (hcard ▸ hpos.ne')
    obtain ⟨ops, hops⟩ := hread e.group
    rw [hops]
    exact h.gaugeKey_run hk he ops
  have hgauges : gauges = Tally.of ((countActiveDecisionsByOrigin s now).map
      (Prod.map (gaugeKey s.scenarios) id)) := by
    rw [Tally.of, List.foldl_map]
    exact List.foldl_ext _ _ _ fun active c hc => by rw [hlabel c hc]; rfl
  have hweight (p : BucketKey → Prop) [DecidablePred p] : Tally.weight p gauges =
      (s.activeKeysWith now fun e => p (gaugeKey s.scenarios e.group)).ncard := by
    rw [hgauges, Tally.weight_of, Tally.weight_map, h.tableOk.weight_countActiveDecisionsByOrigin]
  refine ⟨hgauges ▸ Tally.nodup_of _, fun key n => ?_, ?_⟩
  · have hpos : ∀ c ∈ (countActiveDecisionsByOrigin s now).map
        (Prod.map (gaugeKey s.scenarios) id), 0 < c.2 := by
      intro c hc
      obtain ⟨⟨g, m⟩, hmem, rfl⟩ := List.mem_map.mp hc
      exact (h.tableOk.mem_countActiveDecisionsByOrigin_iff.mp hmem).1
    rw [hgauges, Tally.mem_of_iff _ hpos, ← Tally.weight_of, ← hgauges, hweight]
  · rw [← Tally.weight_true, hweight, s.activeKeysWith_true]

/-- The labels are read after the table has been cleared and a list decision has come in. -/
theorem activeGauges_census_exampleOps :
    let s := TableOp.run (.fresh 8) exampleOps
    let gauges := activeGauges (fun _ => (TableOp.run s (.clearAll :: listAfterLocal)).scenarios)
      (countActiveDecisionsByOrigin s 130)
    (gauges.map Prod.fst).Nodup ∧
      (∀ key n, (key, n) ∈ gauges ↔
        0 < n ∧ (s.activeKeysWith 130 fun e => gaugeKey s.scenarios e.group = key).ncard = n) ∧
      (gauges.map Prod.snd).sum = (s.activeKeys 130).ncard :=
  activeGauges_census ⟨8, exampleOps, by decide, rfl⟩ (fun _ => ⟨_, rfl⟩) 130

end CrowdSecBouncer
