import CrowdSecBouncer.Shm.Refinement

/-!
# Lookups answer like the plain map

A probe of the table answers for one key (`Refines.answer_iff`), the search over prefix
lengths answers for the longest living prefix (`Refines.lookupCidr_iff`), and together
`lookup_ip` gives the one answer the plain map has for an address
(`Refines.lookupIp_eq_iff`). With the step lemma of the refinement this holds after every
run of calls without eviction (`lookupIp_run_eq_iff`).
-/

namespace CrowdSecBouncer

open DecisionMap PrefixMatch

variable {s : ShmData} {m : MapState} {t now : ℤ} {k : Key} {ip : IpAddr} {a : LookupResult}

/-! ### One key -/

/-- The answer of an entry, nothing when it has expired. -/
def entryAnswer (now : ℤ) (e : ShmHashEntry) : Option LookupResult :=
  if e.isExpiredAt now then none
  else some ⟨true, e.decisionTypeAt now, e.originOf, e.scenarioId⟩

theorem answerFromSlot_findKey :
    answerFromSlot s (findKey s.entries s.capacity k) now = (s.find k).bind (entryAnswer now) := by
  rw [answerFromSlot, ShmData.find]
  split <;> rfl

/-- An entry is expired when the record it agrees with is not alive. -/
private theorem isExpiredAt_iff {x : ShmHashEntry} {y : DecisionRecord ℤ}
    (hmask : x.decisionTypes < 4)
    (h : Agrees now (some x) (some y)) : x.isExpiredAt now = true ↔ ¬ y.Alive now := by
  rw [ShmHashEntry.isExpiredAt, beq_iff_eq, DecisionExpiry.activeMask_eq_zero_iff hmask,
    DecisionRecord.Alive, not_exists]
  exact forall_congr' fun dt => not_congr (h.deadlines dt now le_rfl)

/-- The decision type of a living record. -/
private theorem decisionTypeAt_eq {x : ShmHashEntry} {y : DecisionRecord ℤ}
    (h : Agrees now (some x) (some y)) (halive : y.Alive now) :
    x.decisionTypeAt now = (y.answer now).decisionType := by
  have hactive (dt : DecisionType) :
      x.expires.activeMask x.decisionTypes now &&& dt.toBit ≠ 0 ↔
        (y.deadline dt).Active now := by
    rw [DecisionExpiry.activeMask_and_toBit_ne_zero]
    exact h.deadlines dt now le_rfl
  have hbits : x.decisionTypeAt now =
      if x.expires.activeMask x.decisionTypes now &&& DecisionType.ban.toBit ≠ 0 then .ban
      else if x.expires.activeMask x.decisionTypes now &&& DecisionType.captcha.toBit ≠ 0
      then .captcha else .unknown := rfl
  rw [hbits]
  by_cases hban : (y.deadline .ban).Active now
  · rw [if_pos ((hactive .ban).mpr hban), DecisionRecord.answer_of_ban hban]
  · rw [if_neg fun hbit => hban ((hactive .ban).mp hbit), DecisionRecord.answer_of_not_ban hban,
      if_pos]
    obtain ⟨dt, hdt⟩ := halive
    cases dt with
    | ban => exact absurd hdt hban
    | captcha => exact (hactive .captcha).mpr hdt
    | unknown => exact absurd ((hactive .unknown).mpr hdt) (by simp [DecisionType.toBit])

/-! ### All prefixes of an address -/

namespace TableOk

variable (h : TableOk s)

include h

/-- Skipping the prefixes that are not marked loses nothing. -/
theorem unmarked_eq_none {family prefixLen : UInt8} {network : List UInt8}
    (hmark : prefixIsPresent s prefixLen = false) :
    answerFromSlot s (findKey s.entries s.capacity (.ofCidr family prefixLen network)) now =
      none := by
  rw [answerFromSlot_findKey]
  cases hfind : s.find (.ofCidr family prefixLen network) with
  | none => rfl
  | some x =>
    obtain ⟨i, hi, hocc, rfl, hkey⟩ :=
      (h.find_eq_some_iff (Key.normal_ofCidr _ _ _)).mp hfind
    unfold ShmHashEntry.key at hkey
    split at hkey
    · next hcidr =>
      obtain ⟨-, rfl, -⟩ : _ = family ∧ _ = prefixLen ∧ _ := by simpa [Key.ofCidr] using hkey
      rw [h.prefix_marked i hi hocc hcidr] at hmark
      exact absurd hmark (by simp)
    · split at hkey <;> exact absurd hkey (by simp [Key.ofCidr])

/-- The probe for the network of an address with the prefix length `p`. -/
theorem probePrefix_eq {p : ℕ} :
    (if prefixIsPresent s (UInt8.ofNat p) then
      answerFromSlot s
        (findSlotCidr s.entries s.capacity
          (hashCidr ip.family (UInt8.ofNat p) (ip.networkOf (UInt8.ofNat p))) ip.family
          (UInt8.ofNat p) (ip.networkOf (UInt8.ofNat p))) now
      else none) =
      answerFromSlot s (findKey s.entries s.capacity
        (.cidr ip.family (UInt8.ofNat p) (ip.networkOf (UInt8.ofNat p)))) now := by
  have hkey : Key.ofCidr ip.family (UInt8.ofNat p) (ip.networkOf (UInt8.ofNat p)) =
      .cidr ip.family (UInt8.ofNat p) (ip.networkOf (UInt8.ofNat p)) := by
    rw [Key.ofCidr, List.take_of_length_le (ip.length_networkOf _).le]
  rw [findSlotCidr_eq_findKey]
  split
  · rw [hkey]
  · next hmark =>
    rw [← hkey, h.unmarked_eq_none (by simpa using hmark)]

/-- The search over the prefixes, without the bitmap. -/
theorem lookupIp_eq (ip : IpAddr) : lookupIp s ip now =
    (answerFromSlot s (findKey s.entries s.capacity (.ip ip)) now).getD
      ((longestFirst (familyWidth ip.family) fun p =>
        answerFromSlot s (findKey s.entries s.capacity
          (.cidr ip.family (UInt8.ofNat p) (ip.networkOf (UInt8.ofNat p)))) now).getD
        .notFound) := by
  have hmarked : lookupIp s ip now =
      (answerFromSlot s (findKey s.entries s.capacity (.ip ip)) now).getD
        (lookupCidr s ip.family (familyWidth ip.family) ip.networkOf now) := by
    unfold lookupIp
    rw [findSlotIp_eq_findKey]
    cases answerFromSlot s (findKey s.entries s.capacity (.ip ip)) now with
    | some r => rfl
    | none => cases ip <;> rfl
  rw [hmarked, lookupCidr]
  simp only [h.probePrefix_eq]

end TableOk

namespace Refines

variable (h : Refines t s m)

include h

/-- **One key.** A probe answers for the living record of the key. -/
theorem answer_iff (ht : t ≤ now) (hk : k.Normal) :
    answerFromSlot s (findKey s.entries s.capacity k) now = some a ↔
      ∃ y, m.map k = some y ∧ y.Alive now ∧ a = y.answer now := by
  have hagree := (h.agrees k hk).mono ht
  rw [answerFromSlot_findKey]
  cases hfind : s.find k with
  | none =>
    rw [hfind] at hagree
    refine iff_of_false (by simp) ?_
    rintro ⟨y, hy, halive, -⟩
    obtain ⟨x, hx⟩ := hagree.exists_entry le_rfl hy halive
    exact absurd hx (by simp)
  | some x =>
    rw [hfind] at hagree
    have hmask := h.ok.mask_lt_of_find hk hfind
    rw [Option.bind_some, entryAnswer]
    cases hmap : m.map k with
    | none =>
      rw [hmap] at hagree
      -- an entry without a record is one whose decisions have all expired
      have hexpired : x.isExpiredAt now = true := by
        rw [ShmHashEntry.isExpiredAt, beq_iff_eq, DecisionExpiry.activeMask_eq_zero_iff hmask]
        intro dt hdt
        exact Deadline.not_active_bot ((hagree.deadlines dt now le_rfl).mp hdt)
      rw [if_pos hexpired]
      exact iff_of_false (by simp) (by rintro ⟨y, hy, -⟩; exact absurd hy (by simp))
    | some y =>
      rw [hmap] at hagree
      have hexpired := isExpiredAt_iff hmask hagree
      by_cases halive : y.Alive now
      · rw [if_neg (by rw [hexpired, not_not]; exact halive)]
        obtain ⟨horigin, hsid⟩ := hagree.labels x y rfl rfl halive
        have hanswer : (⟨true, x.decisionTypeAt now, x.originOf, x.scenarioId⟩ : LookupResult) =
            y.answer now := by
          rw [decisionTypeAt_eq hagree halive, horigin, hsid]
          rfl
        rw [hanswer, Option.some.injEq]
        constructor
        · rintro rfl
          exact ⟨y, rfl, halive, rfl⟩
        · rintro ⟨y', hy', -, rfl⟩
          rw [Option.some_injective _ hy']
      · rw [if_pos (hexpired.mpr halive)]
        refine iff_of_false (by simp) ?_
        rintro ⟨y', hy', halive', -⟩
        exact halive (Option.some_injective _ hy' ▸ halive')

theorem answer_eq_none_iff (ht : t ≤ now) (hk : k.Normal) :
    answerFromSlot s (findKey s.entries s.capacity k) now = none ↔ ¬ m.map.AliveAt k now := by
  rw [Option.eq_none_iff_forall_ne_some]
  constructor
  · rintro hnone ⟨y, hy, halive⟩
    exact hnone _ ((h.answer_iff ht hk).mpr ⟨y, hy, halive, rfl⟩)
  · intro hdead a ha
    obtain ⟨y, hy, halive, -⟩ := (h.answer_iff ht hk).mp ha
    exact hdead ⟨y, hy, halive⟩

/-- A living network that contains the address is the network of the address, of a length
that the search tries. -/
theorem alive_network {prefixLen : UInt8} {network : List UInt8}
    (hcontains : Contains prefixLen network ip)
    (halive : m.map.AliveAt (.cidr ip.family prefixLen network) now) :
    network = ip.networkOf prefixLen ∧ prefixLen.toNat ≤ familyWidth ip.family := by
  obtain ⟨y, hy, -⟩ := halive
  obtain ⟨⟨hfamily, hlen⟩, hmasked⟩ := h.networks _ _ _ (by rw [hy]; simp)
  refine ⟨eq_networkOf_of_contains hlen hmasked hcontains, ?_⟩
  rcases hfamily with ⟨hfam, hle⟩ | ⟨hfam, hle⟩
  · rw [hfam]
    exact UInt8.le_iff_toNat_le.mp hle
  · rw [hfam]
    exact UInt8.le_iff_toNat_le.mp hle

/-- **A lookup gives an answer of the plain map.** -/
theorem isAnswer_lookupIp (ht : t ≤ now) (ip : IpAddr) :
    IsAnswer m.map ip now (lookupIp s ip now) := by
  have hnormal (p : UInt8) : (Key.cidr ip.family p (ip.networkOf p)).Normal :=
    (ip.length_networkOf p).le
  rw [h.ok.lookupIp_eq]
  cases hexact : answerFromSlot s (findKey s.entries s.capacity (.ip ip)) now with
  | some r =>
    obtain ⟨y, hy, halive, rfl⟩ := (h.answer_iff ht (k := .ip ip) trivial).mp hexact
    exact .exact hy halive
  | none =>
    have hdead := (h.answer_eq_none_iff ht (k := .ip ip) trivial).mp hexact
    rw [Option.getD_none]
    cases hsearch : longestFirst (familyWidth ip.family) fun p =>
        answerFromSlot s (findKey s.entries s.capacity
          (.cidr ip.family (UInt8.ofNat p) (ip.networkOf (UInt8.ofNat p)))) now with
    | some r =>
      -- a longer network that is alive would have answered first
      obtain ⟨p, hp, hanswer, hlonger⟩ := longestFirst_eq_some_iff.mp hsearch
      obtain ⟨y, hy, halive, rfl⟩ := (h.answer_iff ht (hnormal _)).mp hanswer
      refine .network hdead ⟨contains_networkOf ip _, ⟨y, hy, halive⟩, ?_⟩ hy
      intro p' network' hlt hcontains halive'
      obtain ⟨rfl, hle⟩ := h.alive_network hcontains halive'
      have hnone := hlonger p'.toNat ?_ hle
      · rw [UInt8.ofNat_toNat, h.answer_eq_none_iff ht (hnormal _)] at hnone
        exact hnone halive'
      · have hwidth : familyWidth ip.family < 256 := by
          rw [familyWidth]
          split <;> omega
        have hlt' := UInt8.lt_iff_toNat_lt.mp hlt
        rwa [UInt8.toNat_ofNat_of_lt' (by change p < 256; omega)] at hlt'
    | none =>
      refine .notFound hdead fun p network hcontains halive => ?_
      obtain ⟨rfl, hle⟩ := h.alive_network hcontains halive
      have hnone := longestFirst_eq_none_iff.mp hsearch p.toNat hle
      rw [UInt8.ofNat_toNat, h.answer_eq_none_iff ht (hnormal _)] at hnone
      exact hnone halive

/-- The plain map has one answer for an address. -/
theorem isAnswer_unique {b : LookupResult} (ha : IsAnswer m.map ip now a)
    (hb : IsAnswer m.map ip now b) : a = b := by
  cases ha with
  | exact hrec halive =>
    cases hb with
    | exact hrec' _ => rw [Option.some_injective _ (hrec.symm.trans hrec')]
    | network hexact _ _ => exact absurd ⟨_, hrec, halive⟩ hexact
    | notFound hexact _ => exact absurd ⟨_, hrec, halive⟩ hexact
  | network hexact hlongest hrec =>
    rename_i p network y
    cases hb with
    | exact hrec' halive' => exact absurd ⟨_, hrec', halive'⟩ hexact
    | notFound _ hnone => exact absurd hlongest.alive (hnone _ _ hlongest.contains)
    | network hexact' hlongest' hrec' =>
      rename_i p' network' y'
      -- each of the two is the longest
      have heq : p = p' := by
        by_contra hne
        rcases UInt8.lt_or_lt_of_ne hne with hlt | hlt
        · exact hlongest.longest _ _ hlt hlongest'.contains hlongest'.alive
        · exact hlongest'.longest _ _ hlt hlongest.contains hlongest.alive
      subst heq
      obtain ⟨rfl, -⟩ := h.alive_network hlongest.contains hlongest.alive
      obtain ⟨rfl, -⟩ := h.alive_network hlongest'.contains hlongest'.alive
      rw [Option.some_injective _ (hrec.symm.trans hrec')]
  | notFound hexact hnone =>
    cases hb with
    | exact hrec' halive' => exact absurd ⟨_, hrec', halive'⟩ hexact
    | network _ hlongest' _ => exact absurd hlongest'.alive (hnone _ _ hlongest'.contains)
    | notFound _ _ => rfl

/-- **A lookup answers exactly like the plain map.** -/
theorem lookupIp_eq_iff (ht : t ≤ now) (ip : IpAddr) :
    lookupIp s ip now = a ↔ IsAnswer m.map ip now a := by
  have hsound := h.isAnswer_lookupIp ht ip
  constructor
  · rintro rfl
    exact hsound
  · exact fun ha => h.isAnswer_unique hsound ha

end Refines

/-! ### Runs -/

/-- A call as a step that is always enabled. -/
def TableOp.step (op : TableOp) (s : ShmData) : Option ShmData := some (op.apply s)

/-- No call of the run reaches `evict_clock`. -/
def NeverEvicts (ops : List TableOp) (s : ShmData) : Prop :=
  LabelledRun.EveryStep TableOp.step (fun op s => op.reachesEvictClock s = false) ops s

theorem neverEvicts_cons {op : TableOp} {ops : List TableOp} {s : ShmData} :
    NeverEvicts (op :: ops) s ↔
      op.reachesEvictClock s = false ∧ NeverEvicts ops (op.apply s) :=
  and_congr_right fun _ => ⟨fun h => h _ rfl, by rintro h _ ⟨⟩; exact h⟩

instance decidableNeverEvicts : ∀ (ops : List TableOp) (s : ShmData), Decidable (NeverEvicts ops s)
  | [], _ => .isTrue trivial
  | op :: ops, s =>
    have := decidableNeverEvicts ops (op.apply s)
    decidable_of_iff' _ neverEvicts_cons

/-- The clock readings of a run that count as the times of its calls. -/
def TableOp.times (ops : List TableOp) : List ℤ := ops.filterMap TableOp.time?

/-- **The run lemma.** A run without eviction refines the plain map at every time from its
last reading on. -/
theorem Refines.run (h : Refines t s m) (ops : List TableOp) (hmasked : ∀ op ∈ ops, op.Masked)
    (hevict : NeverEvicts ops s) (hstart : ∀ t' ∈ TableOp.times ops ++ [now], t ≤ t')
    (htimes : (TableOp.times ops ++ [now]).Pairwise (· ≤ ·)) :
    Refines now (TableOp.run s ops) (m.run ops) := by
  induction ops generalizing s m t with
  | nil =>
    have ht : t ≤ now := hstart now (by simp)
    exact ⟨h.ok, h.scenarios, fun k hk => (h.agrees k hk).mono ht, h.networks⟩
  | cons op ops ih =>
    have hrest := hevict.2 _ rfl
    have htime : ∀ t' ∈ op.time?, t ≤ t' := by
      intro t' ht'
      refine hstart t' ?_
      rw [TableOp.times, List.filterMap_cons_some ht']
      simp
    have hstep := h.apply op (hmasked op (by simp)) hevict.1 htime
    refine ih hstep (fun op' hop' => hmasked op' (by simp [hop'])) hrest ?_ ?_
    · intro t' ht'
      cases hop : op.time? with
      | none =>
        rw [TableOp.times, List.filterMap_cons_none hop] at hstart
        exact hstart t' ht'
      | some t₁ =>
        rw [TableOp.times, List.filterMap_cons_some hop, List.cons_append,
          List.pairwise_cons] at htimes
        exact htimes.1 t' ht'
    · cases hop : op.time? with
      | none => rwa [TableOp.times, List.filterMap_cons_none hop] at htimes
      | some t₁ =>
        rw [TableOp.times, List.filterMap_cons_some hop, List.cons_append,
          List.pairwise_cons] at htimes
        exact htimes.2

/-- **The table refines the plain map.** After a run of calls from a cleared table, with the
clock never running backwards, all added networks masked and nothing evicted, a lookup at a
later time gives exactly the answer of the plain map after the same calls. -/
theorem lookupIp_run_eq_iff {s : ShmData} (hC : 1 ≤ s.capacity) {ops : List TableOp}
    (hmasked : ∀ op ∈ ops, op.Masked) (hevict : NeverEvicts ops (clearAll s)) {now : ℤ}
    (htimes : (TableOp.times ops ++ [now]).Pairwise (· ≤ ·)) (ip : IpAddr) (a : LookupResult) :
    lookupIp (TableOp.run (clearAll s) ops) ip now = a ↔
      IsAnswer ((MapState.cleared s.scenarios).run ops).map ip now a := by
  obtain ⟨t, l, hl⟩ : ∃ t l, TableOp.times ops ++ [now] = t :: l := by
    cases TableOp.times ops with
    | nil => exact ⟨now, [], rfl⟩
    | cons t l => exact ⟨t, l ++ [now], rfl⟩
  refine Refines.lookupIp_eq_iff
    ((refines_clearAll t hC).run ops hmasked hevict ?_ htimes) le_rfl ip
  rw [hl, List.pairwise_cons] at htimes
  rw [hl]
  rintro t' (_ | ⟨_, ht'⟩)
  · exact le_rfl
  · exact htimes.1 t' ht'

/-- A short run: a captcha for `10.0.0.0/8`, then a ban for one of its addresses that is
removed again. -/
def exampleOps : List TableOp :=
  [.addCidrDecision
      { network := (addrBytes [10, 0, 0, 0]).toList, family := 4, prefixLen := 8,
        decisionType := .captcha, origin := .capi, scenario := none, durationSecs := some 60 }
      ⟨some 100, 100, 100⟩,
    .addDecision
      { ip := .v4 #v[10, 1, 2, 3], decisionType := .ban, origin := .crowdsec,
        scenario := some [0x73, 0x73, 0x68], durationSecs := none }
      ⟨some 110, 110, 110⟩,
    .removeDecisionType (.v4 #v[10, 1, 2, 3]) .ban 120]

theorem lookupIp_run_eq_iff_exampleOps :
    lookupIp (TableOp.run (clearAll (ShmData.fresh 4)) exampleOps) (.v4 #v[10, 1, 2, 3]) 130 =
        ⟨true, .captcha, .capi, 0⟩ ↔
      IsAnswer ((MapState.cleared (ShmData.fresh 4).scenarios).run exampleOps).map
        (.v4 #v[10, 1, 2, 3]) 130 ⟨true, .captcha, .capi, 0⟩ := by
  refine lookupIp_run_eq_iff (by decide) ?_ ?_ (by decide) _ _
  · rintro op (_ | ⟨_, _ | ⟨_, _ | ⟨_, h⟩⟩⟩)
    · exact maskedNetwork_of_parseCidr (p := 8)
        (show parseCidr (.v4 #v[10, 1, 2, 3]) 8 = some (addrBytes [10, 0, 0, 0], 4, 8) by decide)
    · trivial
    · trivial
    · exact absurd h List.not_mem_nil
  · decide +kernel

example : lookupIp (TableOp.run (clearAll (ShmData.fresh 4)) exampleOps) (.v4 #v[10, 1, 2, 3])
    130 = ⟨true, .captcha, .capi, 0⟩ := by decide +kernel

end CrowdSecBouncer
