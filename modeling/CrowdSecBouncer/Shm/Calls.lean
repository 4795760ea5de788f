import CrowdSecBouncer.Shm.Invariant

/-!
# The calls keep the invariant

The two adding functions differ in the key they file a decision under and in the entry they
build for it. `Addition` is what the two have in common, and `TableOk.exists_prepared` reduces a
call to the common body on a table whose scenarios and prefix marks are up to date. What is
proved of that body is thereby proved of both functions.

Every call keeps `TableOk`, from any state and at any clock readings, so it holds after every
run; `RepresentationInvariant` says the same in the words of the searches
(`representationInvariant_run`).
-/

namespace CrowdSecBouncer

open CircularProbe

/-! ### The two adding functions -/

/-- The entry that the adding functions build for a key. -/
def Key.newEntry (k : Key) (dt : DecisionType) (origin : Origin) (scenarioId : UInt16)
    (expires : ℤ) : ShmHashEntry :=
  match k with
  | .ip addr => newIpEntry addr dt origin scenarioId expires
  | .cidr family prefixLen network =>
    newCidrEntry family prefixLen network dt origin scenarioId expires

/-- A network given as a slice has the entry of its key. -/
theorem newEntry_ofCidr (family prefixLen : UInt8) (network : List UInt8) (dt : DecisionType)
    (o : Origin) (sid : UInt16) (x : ℤ) :
    (Key.ofCidr family prefixLen network).newEntry dt o sid x =
      newCidrEntry family prefixLen network dt o sid x := by
  have hhash : hashCidr family prefixLen (network.take (networkLen family)) =
      hashCidr family prefixLen network := Key.hash_ofCidr ..
  simp only [Key.ofCidr, Key.newEntry, newCidrEntry, hhash, List.take_take, min_self]

/-- What an adding call files, with its clock readings. -/
structure Addition where
  key : Key
  decisionType : DecisionType
  origin : Origin
  scenario : Option (List UInt8)
  expires : ℤ
  clock : CallClock
  deriving DecidableEq, Repr

/-- The addition of a call; a network whose parameters fail the check is not added. -/
def TableOp.addition? : TableOp → Option Addition
  | addDecision info clock =>
    some ⟨.ip info.ip, info.decisionType, info.origin, info.scenario,
      expiresOf info.durationSecs clock, clock⟩
  | addCidrDecision info clock =>
    if cidrParamsValid info.family info.prefixLen info.network then
      some ⟨.ofCidr info.family info.prefixLen info.network, info.decisionType, info.origin,
        info.scenario, expiresOf info.durationSecs clock, clock⟩
    else none
  | _ => none

namespace Addition

/-- The scenario id that an addition is filed with. -/
def scenarioId (a : Addition) (s : ShmData) : UInt16 := (scenarioIdOf s.scenarios a.scenario).1

/-- The entry that an addition builds. -/
def entry (a : Addition) (s : ShmData) : ShmHashEntry :=
  a.key.newEntry a.decisionType a.origin (a.scenarioId s) a.expires

/-- The table after the common body of the adding functions. -/
def upsert (a : Addition) (s s₁ : ShmData) : ShmData :=
  upsertEntry s₁ (findKey s₁.entries s₁.capacity a.key) a.decisionType a.origin (a.scenarioId s)
    a.expires (a.entry s) a.clock

end Addition

/-- The table that the common body of the adding functions starts from: scenarios and prefix
marks are up to date, the slots are as before, and the new entry fits the key. -/
structure Prepared (a : Addition) (s s₁ : ShmData) : Prop where
  ok : TableOk s₁
  entries : s₁.entries = s.entries
  capacity : s₁.capacity = s.capacity
  hand : s₁.clockHand = s.clockHand
  scenarios : s₁.scenarios = (scenarioIdOf s.scenarios a.scenario).2
  normal : a.key.Normal
  wellKeyed : (a.entry s).WellKeyed
  key_eq : (a.entry s).key = a.key
  marked : (a.entry s).isCidr = true → prefixIsPresent s₁ (a.entry s).prefixLen = true

variable {s s₁ : ShmData} {a : Addition} {op : TableOp}

/-- The calls that add. -/
theorem TableOp.cases_of_addition (ha : op.addition? = some a) :
    (∃ info clock, op = .addDecision info clock ∧
        a = ⟨.ip info.ip, info.decisionType, info.origin, info.scenario,
          expiresOf info.durationSecs clock, clock⟩) ∨
      ∃ info clock, op = .addCidrDecision info clock ∧
        cidrParamsValid info.family info.prefixLen info.network = true ∧
        a = ⟨.ofCidr info.family info.prefixLen info.network, info.decisionType, info.origin,
          info.scenario, expiresOf info.durationSecs clock, clock⟩ := by
  cases op with
  | addDecision info clock => exact .inl ⟨info, clock, rfl, (Option.some_injective _ ha).symm⟩
  | addCidrDecision info clock =>
    obtain ⟨hparams, ha⟩ := Option.ite_none_right_eq_some.mp ha
    exact .inr ⟨info, clock, rfl, hparams, (Option.some_injective _ ha).symm⟩
  | removeDecisionType ip dt now => exact absurd ha (by simp [TableOp.addition?])
  | removeCidrDecisionType family prefixLen network dt now =>
    exact absurd ha (by simp [TableOp.addition?])
  | clearAll => exact absurd ha (by simp [TableOp.addition?])

theorem TableOp.time?_of_addition (ha : op.addition? = some a) :
    op.time? = some a.clock.now := by
  rcases TableOp.cases_of_addition ha with ⟨info, clock, rfl, rfl⟩ | ⟨info, clock, rfl, -, rfl⟩
  · rfl
  · rfl

/-- Reaching the eviction depends on the slots only. -/
theorem upsertReachesEvictClock_congr {s' : ShmData} (hentries : s'.entries = s.entries)
    (hcapacity : s'.capacity = s.capacity) (k : Key) (hash : UInt32) (now : ℤ) :
    upsertReachesEvictClock s' (findKey s'.entries s'.capacity k) hash now =
      upsertReachesEvictClock s (findKey s.entries s.capacity k) hash now := by
  simp [upsertReachesEvictClock, insertReachesEvictClock, writeEntry, buryEntry, hentries,
    hcapacity]

/-- **The two adding functions** run the common body on a prepared table. -/
theorem TableOk.exists_prepared (h : TableOk s) (ha : op.addition? = some a) :
    ∃ s₁, Prepared a s s₁ ∧ op.apply s = a.upsert s s₁ ∧
      op.reachesEvictClock s =
        upsertReachesEvictClock s₁ (findKey s₁.entries s₁.capacity a.key) (a.entry s).hash
          a.clock.now := by
  rcases TableOp.cases_of_addition ha with
    ⟨info, clock, rfl, rfl⟩ | ⟨info, clock, rfl, hparams, rfl⟩
  · obtain ⟨hnew, hkey⟩ := wellKeyed_newIpEntry info.ip info.decisionType info.origin
      (scenarioIdOf s.scenarios info.scenario).1 (expiresOf info.durationSecs clock)
    refine ⟨{ s with scenarios := (scenarioIdOf s.scenarios info.scenario).2 }, ?_, rfl, rfl⟩
    exact ⟨h.of_eq rfl rfl rfl rfl rfl, rfl, rfl, rfl, rfl, trivial, hnew, hkey,
      fun hcidr => absurd (hcidr.symm.trans (isCidr_newIpEntry ..)) (by simp)⟩
  · -- a network marks its prefix length before it looks for its slot
    obtain ⟨hvalid, hle⟩ := valid_of_cidrParamsValid hparams
    obtain ⟨hnew, hkey⟩ := wellKeyed_newCidrEntry hvalid info.decisionType info.origin
      (scenarioIdOf s.scenarios info.scenario).1 (expiresOf info.durationSecs clock)
    have hentry : Addition.entry
        ⟨.ofCidr info.family info.prefixLen info.network, info.decisionType, info.origin,
          info.scenario, expiresOf info.durationSecs clock, clock⟩ s =
        newCidrEntry info.family info.prefixLen info.network info.decisionType info.origin
          (scenarioIdOf s.scenarios info.scenario).1 (expiresOf info.durationSecs clock) :=
      newEntry_ofCidr ..
    have hok : TableOk { CrowdSecBouncer.markPrefixPresent s info.prefixLen with
        scenarios := (scenarioIdOf s.scenarios info.scenario).2 } :=
      (h.markPrefixPresent info.prefixLen).of_eq rfl rfl rfl rfl rfl
    refine ⟨_, ⟨hok, markPrefixPresent_entries s _, markPrefixPresent_capacity s _,
      markPrefixPresent_clockHand s _, rfl, Key.normal_ofCidr _ _ _, ?_, ?_, ?_⟩, ?_, ?_⟩
    · rw [hentry]
      exact hnew
    · rw [hentry]
      exact hkey
    · rw [hentry]
      exact fun _ => prefixIsPresent_markPrefixPresent_self hle
    · rw [TableOp.apply, CrowdSecBouncer.addCidrDecision, if_pos hparams, Addition.upsert, hentry]
      simp only [findSlotCidr_eq_findKey, markPrefixPresent_scenarios]
      rfl
    · rw [TableOp.reachesEvictClock, hparams, Bool.true_and, hentry]
      simp only [findSlotCidr_eq_findKey]
      exact (upsertReachesEvictClock_congr (markPrefixPresent_entries s _)
        (markPrefixPresent_capacity s _) ..).symm

/-- A network that is not added changes nothing. -/
theorem addCidrDecision_of_addition?_eq_none {info : CidrDecisionInfo} {clock : CallClock}
    (h : (TableOp.addCidrDecision info clock).addition? = none) :
    addCidrDecision s info clock = s := by
  rw [TableOp.addition?, ite_eq_right_iff] at h
  rw [addCidrDecision, if_neg fun hparams => absurd (h hparams) (by simp)]

/-! ### One call and a run of calls -/

namespace TableOk

variable (h : TableOk s)

include h

/-- **One call** keeps the invariant, whatever its arguments and clock readings. -/
theorem apply (op : TableOp) : TableOk (op.apply s) := by
  cases hadd : op.addition? with
  | some a =>
    obtain ⟨s₁, hprep, happly, -⟩ := h.exists_prepared hadd
    rw [happly]
    exact hprep.ok.upsertEntry hprep.normal hprep.wellKeyed hprep.key_eq hprep.marked ..
  | none =>
    cases op with
    | addDecision info clock => exact absurd hadd (by simp [TableOp.addition?])
    | addCidrDecision info clock =>
      rw [TableOp.apply, addCidrDecision_of_addition?_eq_none hadd]
      exact h
    | removeDecisionType ip dt now => exact h.removeFromSlot (k := .ip ip) trivial dt now
    | removeCidrDecisionType family prefixLen network dt now =>
      rw [TableOp.apply, CrowdSecBouncer.removeCidrDecisionType, findSlotCidr_eq_findKey]
      exact h.removeFromSlot (Key.normal_ofCidr _ _ _) dt now
    | clearAll => exact tableOk_clearAll h.capacity_pos

/-- The counter stays within the capacity, so it never leaves its 32 bits. -/
theorem count_le_capacity : s.count ≤ s.capacity :=
  h.count_eq ▸ occupiedCount_le

/-- **A run** keeps the invariant. -/
theorem run (ops : List TableOp) : TableOk (TableOp.run s ops) := by
  rw [TableOp.run]
  induction ops generalizing s with
  | nil => exact h
  | cons op ops ih => exact ih (h.apply op)

end TableOk

/-! ### The invariant in the words of the searches -/

/-- What the searches, the counters and the bitmap may rely on. -/
structure RepresentationInvariant (s : ShmData) : Prop where
  /-- No exact address occupies two slots. -/
  unique_ip : ∀ ip, ∀ i < s.capacity, ∀ j < s.capacity,
    (s.entries i).matchesIp ip = true → (s.entries j).matchesIp ip = true → i = j
  /-- No network occupies two slots. -/
  unique_cidr : ∀ family prefixLen network, ∀ i < s.capacity, ∀ j < s.capacity,
    (s.entries i).matchesCidr family prefixLen network = true →
    (s.entries j).matchesCidr family prefixLen network = true → i = j
  /-- Occupied slots carry a valid hash, and no slot on the way to them is empty. -/
  path : ∀ i < s.capacity, (s.entries i).isVacant = false →
    2 ≤ (s.entries i).hash ∧
      PathClear s.capacity ShmHashEntry.isEmpty s.entries
        ((s.entries i).hash.toNat % s.capacity) i
  /-- Every slot holding an address is found by `find_slot_ip`. -/
  found_ip : ∀ ip, ∀ i < s.capacity, (s.entries i).matchesIp ip = true →
    findSlotIp s.entries s.capacity (hashIp ip) ip = (i, true)
  /-- Every slot holding a network is found by `find_slot_cidr`. -/
  found_cidr : ∀ family prefixLen network, ∀ i < s.capacity,
    (s.entries i).matchesCidr family prefixLen network = true →
    findSlotCidr s.entries s.capacity (hashCidr family prefixLen network) family prefixLen
      network = (i, true)
  /-- Every occupied slot holds an address or a network. -/
  keyed : ∀ i < s.capacity, (s.entries i).isVacant = false →
    (∃ ip, (s.entries i).matchesIp ip = true) ∨
      ∃ family prefixLen network, (s.entries i).matchesCidr family prefixLen network = true
  count_eq : s.count = occupiedCount s.capacity s.entries
  hand_lt : s.clockHand < s.capacity
  prefix_marked : ∀ i < s.capacity, (s.entries i).isVacant = false →
    (s.entries i).isCidr = true → prefixIsPresent s (s.entries i).prefixLen = true

variable {C : ℕ} {entries : ℕ → ShmHashEntry} {k : Key} {i : ℕ} {e : ShmHashEntry}

private theorem occupied_of_matchesEntry (h : k.matchesEntry e = true) : e.isVacant = false := by
  cases hvacant : e.isVacant with
  | false => rfl
  | true =>
    rw [Key.matchesEntry_of_vacant hvacant] at h
    exact absurd h (by simp)

/-- The slots that match a key are those occupied by it. -/
theorem SlotsOk.key_of_matchesEntry (h : SlotsOk C entries) (hk : k.Normal) (hi : i < C)
    (hmatch : k.matchesEntry (entries i) = true) :
    (entries i).isVacant = false ∧ (entries i).key = k := by
  have hocc := occupied_of_matchesEntry hmatch
  exact ⟨hocc, ((Key.matchesEntry_iff hk (h.wellKeyed i hi hocc)).mp hmatch).symm⟩

theorem TableOk.representationInvariant {s : ShmData} (h : TableOk s) :
    RepresentationInvariant s where
  unique_ip ip i hi j hj hmi hmj := by
    obtain ⟨hocc, hkey⟩ := h.slots.key_of_matchesEntry (k := .ip ip) trivial hi hmi
    obtain ⟨hocc', hkey'⟩ := h.slots.key_of_matchesEntry (k := .ip ip) trivial hj hmj
    exact h.slots.unique i hi j hj hocc hocc' (hkey.trans hkey'.symm)
  unique_cidr family prefixLen network i hi j hj hmi hmj := by
    have hk := Key.normal_ofCidr family prefixLen network
    rw [← Key.matchesEntry_ofCidr] at hmi hmj
    obtain ⟨hocc, hkey⟩ := h.slots.key_of_matchesEntry hk hi hmi
    obtain ⟨hocc', hkey'⟩ := h.slots.key_of_matchesEntry hk hj hmj
    exact h.slots.unique i hi j hj hocc hocc' (hkey.trans hkey'.symm)
  path i hi hocc := by
    refine ⟨?_, h.slots.path i hi hocc⟩
    rw [(h.slots.wellKeyed i hi hocc).hash_eq]
    exact Key.two_le_hash _
  found_ip ip i hi hmatch := by
    obtain ⟨hocc, hkey⟩ := h.slots.key_of_matchesEntry (k := .ip ip) trivial hi hmatch
    exact h.slots.findKey_eq (k := .ip ip) trivial hi hocc hkey
  found_cidr family prefixLen network i hi hmatch := by
    have hk := Key.normal_ofCidr family prefixLen network
    rw [← Key.matchesEntry_ofCidr] at hmatch
    obtain ⟨hocc, hkey⟩ := h.slots.key_of_matchesEntry hk hi hmatch
    rw [findSlotCidr_eq_findKey]
    exact h.slots.findKey_eq hk hi hocc hkey
  keyed i hi hocc := by
    have hwell := h.slots.wellKeyed i hi hocc
    have hmatch := (Key.matchesEntry_iff hwell.valid.normal hwell).mpr rfl
    cases hkey : (s.entries i).key with
    | ip addr =>
      rw [hkey] at hmatch
      exact .inl ⟨addr, hmatch⟩
    | cidr family prefixLen network =>
      rw [hkey] at hmatch
      exact .inr ⟨family, prefixLen, network, hmatch⟩
  count_eq := h.count_eq
  hand_lt := h.hand_lt
  prefix_marked := h.prefix_marked

/-- **The representation invariant.** It holds in every state that a run of calls, with any
arguments and any clock readings, reaches from a cleared table. -/
theorem representationInvariant_run {s : ShmData} (hC : 1 ≤ s.capacity) (ops : List TableOp) :
    RepresentationInvariant (TableOp.run (clearAll s) ops) :=
  ((tableOk_clearAll hC).run ops).representationInvariant

/-- Three addresses in a table of two slots: the third one evicts. -/
theorem representationInvariant_run_evicting :
    RepresentationInvariant (TableOp.run (clearAll (ShmData.fresh 2))
      [.addDecision ⟨.v4 #v[10, 0, 0, 1], .ban, .crowdsec, none, none⟩ ⟨some 5, 5, 5⟩,
        .addDecision ⟨.v4 #v[10, 0, 0, 2], .ban, .crowdsec, none, some 60⟩ ⟨some 6, 6, 6⟩,
        .addDecision ⟨.v4 #v[10, 0, 0, 3], .captcha, .cscli, none, some 60⟩ ⟨some 7, 7, 7⟩]) :=
  representationInvariant_run (by decide) _

end CrowdSecBouncer
