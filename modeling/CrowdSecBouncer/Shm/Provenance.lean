import CrowdSecBouncer.Shm.Additions
import CrowdSecBouncer.Shm.Scenarios

/-!
# Where the answer of a lookup comes from

The answer of a lookup carries the origin and the scenario id of one entry. An addition that
merges into an entry always overwrites its origin, but its scenario id only when it has one to
offer. So the origin is that of the last addition for the key, and the scenario id is that of the
last addition for the key that had one, as long as all later ones were merged (`ComesFrom`).

The two can be different additions: a list decision without a scenario that is merged into the
entry of a local decision is answered with the scenario of the latter.
-/

namespace CrowdSecBouncer

/-! ### Labels -/

def Origin.asStr : Origin → List Char
  | .crowdsec => "crowdsec".toList
  | .cscli => "cscli".toList
  | .capi => "capi".toList
  | .console => "console".toList
  | .lists => "lists".toList
  | .appsec => "appsec".toList
  | .unknown => "unknown".toList

/-- Label for usage metrics, in the casing of LAPI. -/
def Origin.metricsLabel : Origin → List Char
  | .capi => "CAPI".toList
  | other => other.asStr

/-- Origin label for usage metrics; lists use `lists:<scenario>`. -/
def originLabel (scenarios : List (List UInt8)) (origin : Origin) (scenarioId : UInt16) :
    List Char :=
  if origin = .lists then
    match getScenario scenarios scenarioId with
    | some scenario => "lists:".toList ++ scenario
    | none => "lists".toList
  else origin.metricsLabel

/-! ### Additions of a run -/

/-- Call `n` of the run is this addition for the key. -/
def FiledAt (ops : List TableOp) (k : Key) (n : ℕ) (a : Addition) : Prop :=
  ops[n]?.bind TableOp.addition? = some a ∧ a.key = k

/-- The table finds an entry for the addition that is still alive. -/
def Addition.Merges (a : Addition) (s : ShmData) : Prop :=
  ∃ e, s.find a.key = some e ∧ (e.pruneExpired a.clock.now).hasDecisions = true

/-- An origin and a scenario id that are filed under a key come from these two calls of the run
of `ops` from `s`. -/
structure ComesFrom (s : ShmData) (ops : List TableOp) (k : Key) (origin : Origin)
    (scenarioId : UInt16) (i j : ℕ) (latest named : Addition) : Prop where
  filed_latest : FiledAt ops k i latest
  filed_named : FiledAt ops k j named
  origin_eq : latest.origin = origin
  scenarioId_eq : named.scenarioId (TableOp.run s (ops.take j)) = scenarioId
  /-- No later addition is about the key. -/
  last : ∀ n a, FiledAt ops k n a → n ≤ i
  /-- One call gave both, or an earlier one gave an id. -/
  single : j = i ∨ scenarioId ≠ 0
  /-- Additions since then had no id and were merged. -/
  since : ∀ n a, FiledAt ops k n a → j < n →
    a.scenarioId (TableOp.run s (ops.take n)) = 0 ∧ a.Merges (TableOp.run s (ops.take n))
  /-- The id has a row. -/
  row : scenarioId.toNat ≤ (TableOp.run s ops).scenarios.length
  /-- The id reads as it did after the call that gave it. -/
  reads : getScenario (TableOp.run s ops).scenarios scenarioId =
    getScenario (TableOp.run s (ops.take (j + 1))).scenarios scenarioId

variable {s : ShmData} {ops : List TableOp} {op : TableOp} {k : Key} {n : ℕ} {a : Addition}
  {e : ShmHashEntry}

theorem FiledAt.lt (h : FiledAt ops k n a) : n < ops.length := by
  obtain ⟨op, hop, -⟩ := Option.bind_eq_some_iff.mp h.1
  exact (List.getElem?_eq_some_iff.mp hop).1

/-- The additions of a longer run. -/
theorem filedAt_concat : FiledAt (ops ++ [op]) k n a ↔
    FiledAt ops k n a ∨ n = ops.length ∧ op.addition? = some a ∧ a.key = k := by
  rw [FiledAt, FiledAt]
  rcases lt_trichotomy n ops.length with hlt | rfl | hgt
  · rw [List.getElem?_append_left hlt]
    exact (or_iff_left fun h => hlt.ne h.1).symm
  · rw [List.getElem?_append_right le_rfl, Nat.sub_self, List.getElem?_cons_zero,
      List.getElem?_eq_none le_rfl]
    simp
  · rw [List.getElem?_eq_none (by simp; omega), List.getElem?_eq_none hgt.le]
    simp [hgt.ne']

theorem take_concat_of_le (h : n ≤ ops.length) : (ops ++ [op]).take n = ops.take n :=
  List.take_append_of_le_length h

theorem run_concat (s : ShmData) (ops : List TableOp) (op : TableOp) :
    TableOp.run s (ops ++ [op]) = op.apply (TableOp.run s ops) :=
  List.foldl_append

/-! ### Scenario ids keep their meaning -/

theorem TableOk.scenarios_addition (h : TableOk s) (ha : op.addition? = some a) :
    (op.apply s).scenarios = (scenarioIdOf s.scenarios a.scenario).2 := by
  obtain ⟨s₁, hprep, happly, -⟩ := h.exists_prepared ha
  rw [happly, Addition.upsert, upsertEntry_scenarios hprep.ok.hand_lt, hprep.scenarios]

/-- Rows are only added. -/
theorem TableOk.scenarios_isPrefix_apply (h : TableOk s) (op : TableOp) :
    s.scenarios <+: (op.apply s).scenarios := by
  cases hop : op.addition? with
  | some a =>
    rw [h.scenarios_addition hop]
    exact scenarios_prefix_scenarioIdOf ..
  | none =>
    cases op with
    | addDecision info clock => exact absurd hop (by simp [TableOp.addition?])
    | addCidrDecision info clock =>
      rw [TableOp.apply, addCidrDecision_of_addition?_eq_none hop]
    | removeDecisionType ip dt now =>
      rw [TableOp.apply, CrowdSecBouncer.removeDecisionType, removeFromSlot_scenarios]
    | removeCidrDecisionType family prefixLen network dt now =>
      rw [TableOp.apply, CrowdSecBouncer.removeCidrDecisionType, removeFromSlot_scenarios]
    | clearAll => exact List.prefix_rfl

/-- An id that has a row reads the same in a longer table. -/
theorem getScenario_of_isPrefix {rows rows' : List (List UInt8)} {scenarioId : UInt16}
    (hrows : rows <+: rows') (hid : scenarioId.toNat ≤ rows.length) :
    getScenario rows' scenarioId = getScenario rows scenarioId := by
  obtain ⟨more, rfl⟩ := hrows
  rw [getScenario, getScenario]
  split
  · rfl
  · next hne =>
    have hpos : 0 < scenarioId.toNat := by
      rw [Nat.pos_iff_ne_zero]
      exact fun hzero => hne (UInt16.toNat_inj.mp hzero)
    have hlen : scenarioId.toNat ≤ (rows ++ more).length := by
      rw [List.length_append]
      omega
    rw [if_pos hlen, List.getD_eq_getElem?_getD, List.getElem?_append_left (by omega),
      List.getD_eq_getElem?_getD]

/-- The id of a call has a row after it. -/
theorem toNat_scenarioIdOf_le (rows : List (List UInt8)) (scenario : Option (List UInt8)) :
    (scenarioIdOf rows scenario).1.toNat ≤ (scenarioIdOf rows scenario).2.length := by
  cases scenario with
  | none => exact Nat.zero_le _
  | some name =>
    rw [scenarioIdOf, getOrCreateScenarioId]
    split
    · next n hfind =>
      obtain ⟨hn, -⟩ := List.findIdx?_eq_some_iff_getElem.mp hfind
      exact (Nat.mod_le _ _).trans hn
    · split
      · rw [List.length_append]
        exact Nat.mod_le _ _
      · exact Nat.zero_le _

/-! ### One call -/

/-- An addition, on the origin and the scenario id of its key. -/
theorem TableOk.find_addition_self (h : TableOk s) (ha : op.addition? = some a) :
    ∃ e, (op.apply s).find a.key = some e ∧ e.originOf = a.origin ∧
      (e.scenarioId = a.scenarioId s ∨ a.scenarioId s = 0 ∧ a.Merges s ∧
        ∃ e₀, s.find a.key = some e₀ ∧ e.scenarioId = e₀.scenarioId) := by
  obtain ⟨s₁, hprep, -⟩ := h.exists_prepared ha
  have hnew : (a.entry s).originOf = a.origin ∧ (a.entry s).scenarioId = a.scenarioId s :=
    ⟨originOf_newEntry .., scenarioId_newEntry ..⟩
  cases hevict : op.reachesEvictClock s with
  | true =>
    obtain ⟨i, -, hi, -⟩ := h.slots_addition_evicting ha hevict
    exact ⟨_, (h.find_addition_evicting ha hevict hi hprep.normal).trans (if_pos rfl), hnew.1,
      .inl hnew.2⟩
  | false =>
    refine ⟨_, (h.find_addition ha hevict hprep.normal).trans (if_pos rfl), ?_⟩
    cases hold : s.find a.key with
    | none => exact ⟨hnew.1, .inl hnew.2⟩
    | some e₀ =>
      rw [upserted]
      split
      · next hlive =>
        refine ⟨Origin.fromU8_toU8 _, ?_⟩
        rw [ShmHashEntry.mergeDecision]
        dsimp only
        split
        · next hzero => exact .inr ⟨hzero, ⟨e₀, hold, hlive⟩, e₀, rfl, rfl⟩
        · exact .inl rfl
      · exact ⟨hnew.1, .inl hnew.2⟩

/-- What is left after a removal has the origin and the scenario id that it had. -/
theorem exists_of_remaining {old : Option ShmHashEntry} {dt : DecisionType} {now : ℤ}
    (he : remaining old dt now = some e) :
    ∃ e₀, old = some e₀ ∧ e.originOf = e₀.originOf ∧ e.scenarioId = e₀.scenarioId := by
  obtain ⟨e₀, hold, he⟩ := Option.bind_eq_some_iff.mp he
  obtain ⟨-, heq⟩ := Option.ite_none_right_eq_some.mp he
  obtain rfl := Option.some_injective _ heq
  exact ⟨e₀, hold, rfl, rfl⟩

/-- A call that does not add under a key leaves the origin and the scenario id that are filed
under it as they were. -/
theorem TableOk.exists_of_find_apply (h : TableOk s) (hk : k.Normal)
    (hother : ∀ a, op.addition? = some a → k ≠ a.key) (he : (op.apply s).find k = some e) :
    ∃ e₀, s.find k = some e₀ ∧ e.originOf = e₀.originOf ∧ e.scenarioId = e₀.scenarioId := by
  by_cases hkeeps : op.Keeps k s
  · rw [h.find_apply hkeeps hk] at he
    cases hev : op.event? s k with
    | none =>
      rw [hev] at he
      exact ⟨e, he, rfl, rfl⟩
    | some ev =>
      obtain ⟨dt, now, rfl⟩ := TableOp.exists_of_event? hother hev
      rw [hev] at he
      exact exists_of_remaining he
  · rw [h.find_apply_of_not_keeps hkeeps hk] at he
    exact absurd he (by simp)

/-! ### Runs -/

namespace ComesFrom

variable {o : Origin} {sid : UInt16} {i j : ℕ} {latest named : Addition}

/-- An addition that fills in both. -/
theorem self (h : TableOk (TableOp.run s ops)) (ha : op.addition? = some a) :
    ComesFrom s (ops ++ [op]) a.key a.origin (a.scenarioId (TableOp.run s ops)) ops.length
      ops.length a a where
  filed_latest := filedAt_concat.mpr (.inr ⟨rfl, ha, rfl⟩)
  filed_named := filedAt_concat.mpr (.inr ⟨rfl, ha, rfl⟩)
  origin_eq := rfl
  scenarioId_eq := by rw [take_concat_of_le le_rfl, List.take_length]
  last := by
    intro n a' hn
    have hlt := hn.lt
    rw [List.length_append, List.length_singleton] at hlt
    omega
  single := .inl rfl
  since := by
    intro n a' hn hlater
    have hlt := hn.lt
    rw [List.length_append, List.length_singleton] at hlt
    omega
  row := by
    rw [run_concat, h.scenarios_addition ha]
    exact toNat_scenarioIdOf_le ..
  reads := by rw [List.take_of_length_le (by simp)]

variable (hc : ComesFrom s ops k o sid i j latest named)

include hc

/-- A longer run reads the id as before. -/
theorem reads_concat (h : TableOk (TableOp.run s ops)) (op : TableOp) :
    sid.toNat ≤ (TableOp.run s (ops ++ [op])).scenarios.length ∧
      getScenario (TableOp.run s (ops ++ [op])).scenarios sid =
        getScenario (TableOp.run s ((ops ++ [op]).take (j + 1))).scenarios sid := by
  have hrows := h.scenarios_isPrefix_apply op
  rw [run_concat, take_concat_of_le hc.filed_named.lt]
  exact ⟨hc.row.trans hrows.length_le,
    (getScenario_of_isPrefix hrows hc.row).trans hc.reads⟩

/-- A call that does not add under the key changes nothing. -/
theorem concat (h : TableOk (TableOp.run s ops))
    (hother : ∀ a, op.addition? = some a → k ≠ a.key) :
    ComesFrom s (ops ++ [op]) k o sid i j latest named := by
  have hfiled {n : ℕ} {a : Addition} (hn : FiledAt (ops ++ [op]) k n a) : FiledAt ops k n a :=
    (filedAt_concat.mp hn).resolve_right fun hnew => hother a hnew.2.1 hnew.2.2.symm
  have hreads := hc.reads_concat h op
  refine ⟨filedAt_concat.mpr (.inl hc.filed_latest), filedAt_concat.mpr (.inl hc.filed_named),
    hc.origin_eq, ?_, fun n a hn => hc.last n a (hfiled hn), hc.single, ?_, hreads.1, hreads.2⟩
  · rw [take_concat_of_le hc.filed_named.lt.le]
    exact hc.scenarioId_eq
  · intro n a hn hlater
    rw [take_concat_of_le (hfiled hn).lt.le]
    exact hc.since n a (hfiled hn) hlater

/-- A merged addition without an id leaves the id to an earlier one. -/
theorem merge (h : TableOk (TableOp.run s ops)) (hsid : sid ≠ 0) (ha : op.addition? = some a)
    (hkey : k = a.key) (hzero : a.scenarioId (TableOp.run s ops) = 0)
    (hmerges : a.Merges (TableOp.run s ops)) :
    ComesFrom s (ops ++ [op]) k a.origin sid ops.length j a named := by
  have hreads := hc.reads_concat h op
  refine ⟨filedAt_concat.mpr (.inr ⟨rfl, ha, hkey.symm⟩),
    filedAt_concat.mpr (.inl hc.filed_named), rfl, ?_, ?_, .inr hsid, ?_, hreads.1, hreads.2⟩
  · rw [take_concat_of_le hc.filed_named.lt.le]
    exact hc.scenarioId_eq
  · intro n a' hn
    have hlt := hn.lt
    rw [List.length_append, List.length_singleton] at hlt
    omega
  · intro n a' hn hlater
    rcases filedAt_concat.mp hn with hold | ⟨rfl, ha', -⟩
    · rw [take_concat_of_le hold.lt.le]
      exact hc.since n a' hold hlater
    · obtain rfl : a = a' := Option.some_injective _ (ha.symm.trans ha')
      rw [take_concat_of_le le_rfl, List.take_length]
      exact ⟨hzero, hmerges⟩

end ComesFrom

/-- **The provenance of an entry**, in every reachable table. -/
theorem exists_comesFrom {s₀ : ShmData} (hC : 1 ≤ s₀.capacity) (ops : List TableOp)
    (hk : k.Normal) (he : (TableOp.run (clearAll s₀) ops).find k = some e) :
    ∃ i j latest named,
      ComesFrom (clearAll s₀) ops k e.originOf e.scenarioId i j latest named := by
  induction ops using List.reverseRecOn generalizing e with
  | nil => exact absurd ((TableOk.find_clearAll hC hk).symm.trans he) (by simp)
  | append_singleton ops op ih =>
    have h : TableOk (TableOp.run (clearAll s₀) ops) := (tableOk_clearAll hC).run ops
    rw [run_concat] at he
    by_cases hadds : ∃ a, op.addition? = some a ∧ k = a.key
    · obtain ⟨a, ha, rfl⟩ := hadds
      obtain ⟨e', he', horigin, hsid⟩ := h.find_addition_self ha
      obtain rfl : e = e' := Option.some_injective _ (he.symm.trans he')
      have hself := ComesFrom.self h ha
      rw [horigin]
      rcases hsid with hsid | ⟨hzero, hmerges, e₀, he₀, hsid⟩
      · exact ⟨_, _, a, a, hsid ▸ hself⟩
      · by_cases hnone : e₀.scenarioId = 0
        · exact ⟨_, _, a, a, (hsid.trans (hnone.trans hzero.symm)) ▸ hself⟩
        · obtain ⟨i, j, latest, named, hc⟩ := ih he₀
          exact ⟨_, j, a, named, hsid ▸ hc.merge h hnone ha rfl hzero hmerges⟩
    · have hother : ∀ a, op.addition? = some a → k ≠ a.key := fun a ha heq => hadds ⟨a, ha, heq⟩
      obtain ⟨e₀, he₀, horigin, hsid⟩ := h.exists_of_find_apply hk hother he
      obtain ⟨i, j, latest, named, hc⟩ := ih he₀
      rw [horigin, hsid]
      exact ⟨i, j, latest, named, hc.concat h hother⟩

/-- **The provenance of an answer.** A lookup that finds something answers with the origin of the
last addition for a covering key, and with the scenario id of that addition or, when it was merged
without one, of the last one before it that had one. -/
theorem lookup_comesFrom {s₀ : ShmData} (hC : 1 ≤ s₀.capacity) (ops : List TableOp) (ip : IpAddr)
    (now : ℤ) (hfound : (lookupIp (TableOp.run (clearAll s₀) ops) ip now).found = true) :
    ∃ k ∈ ip.coveringKeys, ∃ i j latest named,
      ((TableOp.run (clearAll s₀) ops).find k).bind (entryAnswer now) =
        some (lookupIp (TableOp.run (clearAll s₀) ops) ip now) ∧
      ComesFrom (clearAll s₀) ops k (lookupIp (TableOp.run (clearAll s₀) ops) ip now).origin
        (lookupIp (TableOp.run (clearAll s₀) ops) ip now).scenarioId i j latest named := by
  have h : TableOk (TableOp.run (clearAll s₀) ops) := (tableOk_clearAll hC).run ops
  have hlookup := h.lookupIp_eq_findSome ip now
  cases hfirst : ip.coveringKeys.findSome? fun k =>
      ((TableOp.run (clearAll s₀) ops).find k).bind (entryAnswer now) with
  | none =>
    rw [hlookup, hfirst] at hfound
    exact absurd hfound (by simp [LookupResult.notFound])
  | some r =>
    obtain ⟨k, hmem, hr⟩ := List.exists_of_findSome?_eq_some hfirst
    rw [hlookup, hfirst, Option.getD_some]
    obtain ⟨e, he, hanswer⟩ := Option.bind_eq_some_iff.mp hr
    obtain ⟨-, heq⟩ := Option.ite_none_left_eq_some.mp hanswer
    obtain rfl := Option.some_injective _ heq
    obtain ⟨i, j, latest, named, hc⟩ :=
      exists_comesFrom hC ops (IpAddr.normal_of_mem_coveringKeys hmem) he
    exact ⟨k, hmem, i, j, latest, named, hr, hc⟩

/-- A local decision with a scenario, and then a list decision without one. -/
def listAfterLocal : List TableOp :=
  [.addDecision ⟨.v4 #v[10, 0, 0, 1], .ban, .crowdsec, some (Text.utf8Bytes "ssh-bf".toList), none⟩
      ⟨some 5, 5, 5⟩,
    .addDecision ⟨.v4 #v[10, 0, 0, 1], .ban, .lists, none, none⟩ ⟨some 6, 6, 6⟩]

theorem lookup_comesFrom_merged :
    ∃ k ∈ (IpAddr.v4 #v[10, 0, 0, 1]).coveringKeys, ∃ i j latest named,
      ((TableOp.run (clearAll (ShmData.fresh 1)) listAfterLocal).find k).bind (entryAnswer 7) =
        some (lookupIp (TableOp.run (clearAll (ShmData.fresh 1)) listAfterLocal)
          (.v4 #v[10, 0, 0, 1]) 7) ∧
      ComesFrom (clearAll (ShmData.fresh 1)) listAfterLocal k
        (lookupIp (TableOp.run (clearAll (ShmData.fresh 1)) listAfterLocal)
          (.v4 #v[10, 0, 0, 1]) 7).origin
        (lookupIp (TableOp.run (clearAll (ShmData.fresh 1)) listAfterLocal)
          (.v4 #v[10, 0, 0, 1]) 7).scenarioId i j latest named :=
  lookup_comesFrom (by decide) listAfterLocal (.v4 #v[10, 0, 0, 1]) 7 (by decide +kernel)

/-- The answer then has the label `lists:ssh-bf`, but no list decision had that scenario. -/
theorem not_singleDecision :
    lookupIp (TableOp.run (clearAll (ShmData.fresh 1)) listAfterLocal) (.v4 #v[10, 0, 0, 1]) 7 =
        ⟨true, .ban, .lists, 1⟩ ∧
      originLabel (TableOp.run (clearAll (ShmData.fresh 1)) listAfterLocal).scenarios .lists 1 =
        "lists:ssh-bf".toList ∧
      ∀ k n a, FiledAt listAfterLocal k n a →
        ¬ (a.origin = .lists ∧ a.scenarioId
          (TableOp.run (clearAll (ShmData.fresh 1)) (listAfterLocal.take n)) = 1) := by
  refine ⟨by decide +kernel, by decide +kernel, ?_⟩
  rintro k n a hfiled ⟨horigin, hid⟩
  have hlt : n < 2 := hfiled.lt
  obtain ⟨haddition, -⟩ := hfiled
  interval_cases n
  · obtain rfl := Option.some_injective _ haddition
    exact absurd horigin (by decide)
  · obtain rfl := Option.some_injective _ haddition
    exact absurd hid (by decide +kernel)

end CrowdSecBouncer
