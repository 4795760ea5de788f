import CrowdSecBouncer.Shm.Deadlines

/-!
# What a lookup reads

A lookup of an address visits the keys that cover it, the address itself and then its networks
from the longest to the shortest, and answers from the first one with a decision in force
(`TableOk.lookupIp_eq_findSome`). Which decisions are in force is all that counts: the lookup
finds something when a covering key has a decision in force (`TableOk.found_lookupIp_iff`), and
it reports a ban when a covering key has one and no captcha on a key before it gets in the way
(`TableOk.reportsBan_iff`).
-/

namespace CrowdSecBouncer

open PrefixMatch

/-- The network of the address with the prefix length `p`, as a key. -/
def IpAddr.networkKey (ip : IpAddr) (p : ℕ) : Key :=
  .cidr ip.family (UInt8.ofNat p) (ip.networkOf (UInt8.ofNat p))

/-- The keys that cover an address, the most specific one first. -/
def IpAddr.coveringKeys (ip : IpAddr) : List Key :=
  .ip ip :: (List.range (familyWidth ip.family + 1)).reverse.map ip.networkKey

/-- The decision of this type is in force for the key. -/
def ShmData.InForce (s : ShmData) (now : ℤ) (k : Key) (dt : DecisionType) : Prop :=
  Deadline.Active now (s.deadlineAt (k, dt))

/-- The lookup finds a ban. -/
def ShmData.ReportsBan (s : ShmData) (ip : IpAddr) (now : ℤ) : Prop :=
  (lookupIp s ip now).found = true ∧ (lookupIp s ip now).decisionType = .ban

instance (s : ShmData) (ip : IpAddr) (now : ℤ) : Decidable (s.ReportsBan ip now) :=
  inferInstanceAs (Decidable (_ ∧ _))

variable {s : ShmData} {ip : IpAddr} {k : Key} {now : ℤ} {dt : DecisionType}

theorem IpAddr.normal_of_mem_coveringKeys (h : k ∈ ip.coveringKeys) : k.Normal := by
  rcases List.mem_cons.mp h with rfl | hmem
  · trivial
  · obtain ⟨p, -, rfl⟩ := List.mem_map.mp hmem
    exact (ip.length_networkOf _).le

/-- The networks that cover an address are its own. -/
theorem IpAddr.cidr_mem_coveringKeys {family prefixLen : UInt8} {network : List UInt8} :
    Key.cidr family prefixLen network ∈ ip.coveringKeys ↔
      family = ip.family ∧ prefixLen.toNat ≤ familyWidth family ∧
        network = ip.networkOf prefixLen := by
  have hwidth : familyWidth ip.family < 256 := by
    rw [familyWidth]
    split <;> omega
  simp only [coveringKeys, List.mem_cons, reduceCtorEq, false_or, List.mem_map, List.mem_reverse,
    List.mem_range, networkKey, Key.cidr.injEq]
  constructor
  · rintro ⟨p, hp, rfl, rfl, rfl⟩
    refine ⟨rfl, ?_, rfl⟩
    rw [UInt8.toNat_ofNat_of_lt' (by change p < 256; omega)]
    omega
  · rintro ⟨rfl, hle, rfl⟩
    exact ⟨prefixLen.toNat, by omega, rfl, UInt8.ofNat_toNat, by rw [UInt8.ofNat_toNat]⟩

theorem not_inForce_unknown : ¬ s.InForce now k .unknown := by
  rw [ShmData.InForce, ShmData.deadlineAt, viewOf.eq_def]
  split
  · rw [DecisionExpiry.view_unknown]
    exact Deadline.not_active_bot
  · exact Deadline.not_active_bot

/-- The answer of a key is a ban when its ban is in force. -/
theorem decisionType_of_entryAnswer {r : LookupResult}
    (hr : (s.find k).bind (entryAnswer now) = some r) :
    r.found = true ∧ (r.decisionType = .ban ↔ s.InForce now k .ban) := by
  obtain ⟨e, hfind, hanswer⟩ := Option.bind_eq_some_iff.mp hr
  rw [entryAnswer, Option.ite_none_left_eq_some] at hanswer
  obtain ⟨hexpired, heq⟩ := hanswer
  obtain rfl := Option.some_injective _ heq
  refine ⟨rfl, ?_⟩
  rw [ShmData.InForce, ShmData.deadlineAt, hfind]
  change DecisionType.fromBitmask (e.expires.activeMask e.decisionTypes now) = .ban ↔
    Deadline.Active now (e.expires.view e.decisionTypes .ban)
  rw [← DecisionExpiry.activeMask_and_toBit_ne_zero, DecisionType.fromBitmask]
  change (if _ &&& DecisionType.ban.toBit ≠ 0 then _ else _) = _ ↔ _
  split
  · next hbit => exact iff_of_true rfl hbit
  · next hbit =>
    refine iff_of_false ?_ hbit
    split <;> simp

namespace TableOk

variable (h : TableOk s)

include h

/-- **A lookup** answers from the first covering key that has an answer. -/
theorem lookupIp_eq_findSome (ip : IpAddr) (now : ℤ) :
    lookupIp s ip now =
      (ip.coveringKeys.findSome? fun k => (s.find k).bind (entryAnswer now)).getD .notFound := by
  rw [h.lookupIp_eq, IpAddr.coveringKeys, List.findSome?_cons, longestFirst]
  simp only [answerFromSlot_findKey]
  cases (s.find (.ip ip)).bind (entryAnswer now) with
  | some r => rfl
  | none =>
    rw [Option.getD_none, List.findSome?_map]
    rfl

/-- A key has an answer when it has a decision in force. -/
theorem entryAnswer_eq_none_iff (hk : k.Normal) :
    (s.find k).bind (entryAnswer now) = none ↔ ∀ dt, ¬ s.InForce now k dt := by
  simp only [ShmData.InForce, ShmData.deadlineAt]
  cases hfind : s.find k with
  | none => exact iff_of_true rfl fun dt => Deadline.not_active_bot
  | some e =>
    have hmask := h.mask_lt_of_find hk hfind
    have hexpired : e.isExpiredAt now = true ↔
        ∀ dt, ¬ Deadline.Active now (viewOf (some e) dt) := by
      rw [ShmHashEntry.isExpiredAt, beq_iff_eq, DecisionExpiry.activeMask_eq_zero_iff hmask]
      rfl
    rw [Option.bind_some, entryAnswer, ← hexpired]
    split
    · next hyes => exact iff_of_true rfl hyes
    · next hno => exact iff_of_false (by simp) hno

/-- What is found is a ban or a captcha. -/
theorem decisionType_ne_unknown (hfound : (lookupIp s ip now).found = true) :
    (lookupIp s ip now).decisionType ≠ .unknown := by
  rw [h.lookupIp_eq_findSome] at hfound ⊢
  cases hfirst : ip.coveringKeys.findSome? fun k => (s.find k).bind (entryAnswer now) with
  | none =>
    rw [hfirst] at hfound
    exact absurd hfound (by simp [LookupResult.notFound])
  | some r =>
    obtain ⟨k, hmem, hk⟩ := List.exists_of_findSome?_eq_some hfirst
    obtain ⟨e, hfind, hanswer⟩ := Option.bind_eq_some_iff.mp hk
    rw [entryAnswer, Option.ite_none_left_eq_some] at hanswer
    obtain ⟨hlive, heq⟩ := hanswer
    obtain rfl := Option.some_injective _ heq
    change DecisionType.fromBitmask (e.expires.activeMask e.decisionTypes now) ≠ .unknown
    have hnormal := IpAddr.normal_of_mem_coveringKeys hmem
    have hlt : e.expires.activeMask e.decisionTypes now < 4 :=
      DecisionExpiry.activeMask_lt (h.mask_lt_of_find hnormal hfind)
    have hne : e.expires.activeMask e.decisionTypes now ≠ 0 := by
      simpa [ShmHashEntry.isExpiredAt] using hlive
    rcases mask_cases hlt with hmask | hmask | hmask | hmask
    · exact absurd hmask hne
    · rw [hmask]
      decide
    · rw [hmask]
      decide
    · rw [hmask]
      decide

/-- **Found**: some covering key has a decision in force. -/
theorem found_lookupIp_iff :
    (lookupIp s ip now).found = true ↔ ∃ k ∈ ip.coveringKeys, ∃ dt, s.InForce now k dt := by
  rw [h.lookupIp_eq_findSome]
  cases hfirst : ip.coveringKeys.findSome? fun k => (s.find k).bind (entryAnswer now) with
  | none =>
    refine iff_of_false (by simp [LookupResult.notFound]) ?_
    rintro ⟨k, hmem, dt, hdt⟩
    have hnone := List.findSome?_eq_none_iff.mp hfirst k hmem
    exact (h.entryAnswer_eq_none_iff (IpAddr.normal_of_mem_coveringKeys hmem)).mp hnone dt hdt
  | some r =>
    obtain ⟨k, hmem, hk⟩ := List.exists_of_findSome?_eq_some hfirst
    have hnormal := IpAddr.normal_of_mem_coveringKeys hmem
    refine iff_of_true (decisionType_of_entryAnswer hk).1 ⟨k, hmem, ?_⟩
    by_contra hnone
    rw [(h.entryAnswer_eq_none_iff hnormal).mpr (not_exists.mp hnone)] at hk
    exact absurd hk (by simp)

/-- **A ban is reported** when a covering key has one in force and no captcha is in force on a
key before it. -/
theorem reportsBan_iff :
    s.ReportsBan ip now ↔ ∃ before k after, ip.coveringKeys = before ++ k :: after ∧
      s.InForce now k .ban ∧ ∀ k' ∈ before, ¬ s.InForce now k' .captcha := by
  rw [ShmData.ReportsBan, h.lookupIp_eq_findSome]
  constructor
  · rintro ⟨hfound, hban⟩
    cases hfirst : ip.coveringKeys.findSome? fun k => (s.find k).bind (entryAnswer now) with
    | none =>
      rw [hfirst] at hfound
      exact absurd hfound (by simp [LookupResult.notFound])
    | some r =>
      rw [hfirst] at hban
      obtain ⟨before, k, after, hkeys, hk, hbefore⟩ := List.findSome?_eq_some_iff.mp hfirst
      have hmem : k ∈ ip.coveringKeys := hkeys ▸ List.mem_append_right _ List.mem_cons_self
      have hanswer := decisionType_of_entryAnswer hk
      refine ⟨before, k, after, hkeys, hanswer.2.mp hban, fun k' hk' => ?_⟩
      have hmem' : k' ∈ ip.coveringKeys := hkeys ▸ List.mem_append_left _ hk'
      exact (h.entryAnswer_eq_none_iff (IpAddr.normal_of_mem_coveringKeys hmem')).mp
        (hbefore k' hk') .captcha
  · rintro ⟨before, k, after, hkeys, hban, hbefore⟩
    rw [hkeys, List.findSome?_append]
    have hmem : k ∈ ip.coveringKeys := hkeys ▸ List.mem_append_right _ List.mem_cons_self
    cases hfirst : before.findSome? fun k => (s.find k).bind (entryAnswer now) with
    | some r =>
      -- an answer that comes before is a ban too
      obtain ⟨k', hk', hanswer⟩ := List.exists_of_findSome?_eq_some hfirst
      have hmem' : k' ∈ ip.coveringKeys := hkeys ▸ List.mem_append_left _ hk'
      have hnormal := IpAddr.normal_of_mem_coveringKeys hmem'
      have htype := decisionType_of_entryAnswer hanswer
      refine ⟨htype.1, htype.2.mpr ?_⟩
      by_contra hnone
      have hdead : ∀ dt, ¬ s.InForce now k' dt := by
        intro dt
        cases dt with
        | ban => exact hnone
        | captcha => exact hbefore k' hk'
        | unknown => exact not_inForce_unknown
      rw [(h.entryAnswer_eq_none_iff hnormal).mpr hdead] at hanswer
      exact absurd hanswer (by simp)
    | none =>
      rw [Option.none_or, List.findSome?_cons]
      have hnormal := IpAddr.normal_of_mem_coveringKeys hmem
      cases hk : (s.find k).bind (entryAnswer now) with
      | none => exact absurd hban ((h.entryAnswer_eq_none_iff hnormal).mp hk .ban)
      | some r =>
        have htype := decisionType_of_entryAnswer hk
        exact ⟨htype.1, htype.2.mpr hban⟩

end TableOk

end CrowdSecBouncer
