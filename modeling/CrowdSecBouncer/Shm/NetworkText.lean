import CrowdSecBouncer.Net.TrustedCidr
import CrowdSecBouncer.Shm.Eviction

/-!
# Networks as texts

Two parsers read networks: `parse_cidr` for the decision cache, which masks octets and files
the result under a key, and `TrustedCidr::parse` for the configuration, which keeps integers.
What the first one accepts the second one accepts (`TrustedCidr.parse_of_parseCidrText`), and
membership is the same on both sides: agreement on the first bits with an address of the same
family (`contains_iff_found_lookupIp`).
-/

namespace CrowdSecBouncer

open PrefixMatch Text DeadlineMap

/-- Parse a CIDR string like "192.168.1.0/24" or "2001:db8::/32"; IPv4 is tried first. -/
def parseCidrText (cidr : List Char) : Option (Vector UInt8 16 × UInt8 × UInt8) := do
  let (addrS, prefixS) ← splitOnce '/' cidr
  let prefixLen ← parseUnsigned 255 prefixS
  match parseIpv4Addr addrS with
  | some v4 => parseCidr (.v4 v4) (UInt8.ofNat prefixLen)
  | none =>
    match parseIpv6Addr addrS with
    | some v6 => parseCidr (.v6 v6) (UInt8.ofNat prefixLen)
    | none => none

/-- The text is an address and a prefix length of one byte, with a slash between them. -/
structure IsNetworkText (cidr : List Char) (addr : IpAddr) (prefixLen : UInt8) : Prop where
  exists_parts : ∃ addrS prefixS, splitOnce '/' cidr = some (addrS, prefixS) ∧
    parseIpAddr addrS = some addr ∧ parseUnsigned 255 prefixS = some prefixLen.toNat

variable {cidr : List Char} {network : Vector UInt8 16} {family prefixLen : UInt8}
  {addr ip : IpAddr}

/-- What `parse_cidr` has read. -/
theorem isNetworkText_of_parseCidrText
    (h : parseCidrText cidr = some (network, family, prefixLen)) :
    ∃ addr, IsNetworkText cidr addr prefixLen ∧
      parseCidr addr prefixLen = some (network, family, prefixLen) := by
  obtain ⟨⟨addrS, prefixS⟩, hsplit, h⟩ := Option.bind_eq_some_iff.mp h
  obtain ⟨p, hp, h⟩ := Option.bind_eq_some_iff.mp h
  have htoNat : (UInt8.ofNat p).toNat = p :=
    UInt8.toNat_ofNat_of_lt' (Nat.lt_succ_of_le (parseUnsigned_le hp))
  split at h
  · next v4 hv4 =>
    obtain ⟨rfl, -⟩ := parseCidr_spec h
    exact ⟨.v4 v4, ⟨addrS, prefixS, hsplit, parseIpAddr_of_v4 hv4, htoNat.symm ▸ hp⟩, h⟩
  · split at h
    · next v6 hv6 =>
      obtain ⟨rfl, -⟩ := parseCidr_spec h
      exact ⟨.v6 v6, ⟨addrS, prefixS, hsplit, parseIpAddr_of_v6 hv6, htoNat.symm ▸ hp⟩, h⟩
    · exact absurd h (by simp)

/-- Such a text is read as it stands by the parser of the configuration. -/
theorem IsNetworkText.trustedCidr_parse (h : IsNetworkText cidr addr prefixLen) :
    TrustedCidr.parse cidr = TrustedCidr.ofAddr addr prefixLen.toNat := by
  obtain ⟨addrS, prefixS, hsplit, haddr, hp⟩ := h.exists_parts
  obtain ⟨rfl, -⟩ := splitOnce_eq_some_iff.mp hsplit
  have haddrS := isGraphic_of_parseIpAddr haddr
  have hprefixS := isGraphic_of_parseUnsigned hp
  have htrim : trim (addrS ++ '/' :: prefixS) = addrS ++ '/' :: prefixS := by
    refine trim_eq_self fun c hc => ?_
    rcases List.mem_append.mp hc with hc | hc
    · exact haddrS c hc
    · rcases List.mem_cons.mp hc with rfl | hc
      · exact ⟨by decide, by decide⟩
      · exact hprefixS c hc
  have hp' : parseUnsigned 4294967295 prefixS = some prefixLen.toNat :=
    parseUnsigned_mono (by norm_num) hp
  rw [TrustedCidr.parse, htrim]
  simp [hsplit, trim_eq_self haddrS, trim_eq_self hprefixS, haddr, hp']

/-- A prefix length that fits is accepted. -/
theorem TrustedCidr.exists_ofAddr {p : ℕ} (hp : p ≤ familyWidth addr.family) :
    ∃ c, ofAddr addr p = some c := by
  cases addr with
  | v4 o => exact ⟨_, if_neg (Nat.not_lt.mpr hp)⟩
  | v6 o => exact ⟨_, if_neg (Nat.not_lt.mpr hp)⟩

/-- **The configuration accepts what the cache accepts.** -/
theorem TrustedCidr.parse_of_parseCidrText
    (h : parseCidrText cidr = some (network, family, prefixLen)) :
    ∃ addr c, IsNetworkText cidr addr prefixLen ∧
      parseCidr addr prefixLen = some (network, family, prefixLen) ∧
      TrustedCidr.parse cidr = some c ∧ ofAddr addr prefixLen.toNat = some c := by
  obtain ⟨addr, htext, hparse⟩ := isNetworkText_of_parseCidrText h
  obtain ⟨-, -, hle, -⟩ := parseCidr_spec hparse
  obtain ⟨c, hc⟩ := exists_ofAddr hle
  exact ⟨addr, c, htext, hparse, htext.trustedCidr_parse.trans hc, hc⟩

/-! ### A cache with one network -/

variable {s : ShmData} {now : ℤ}

/-- No slot of the table is occupied. -/
def ShmData.Vacant (s : ShmData) : Prop := ∀ i < s.capacity, (s.entries i).isVacant = true

namespace TableOk

variable (h : TableOk s) (hvacant : s.Vacant)

include h hvacant

theorem find_of_vacant {k : Key} (hk : k.Normal) : s.find k = none := by
  refine Option.eq_none_iff_forall_ne_some.mpr fun e he => ?_
  obtain ⟨i, hi, hocc, -⟩ := (h.find_eq_some_iff hk).mp he
  rw [hvacant i hi] at hocc
  exact absurd hocc (by simp)

/-- In a table without entries nothing has to be evicted. -/
theorem not_reachesEvictClock_of_vacant (op : TableOp) : op.reachesEvictClock s = false := by
  refine Bool.eq_false_iff.mpr fun hevict => ?_
  obtain ⟨a, ha⟩ := TableOp.exists_addition_of_reachesEvictClock hevict
  have hfull := ((h.reachesEvictClock_iff ha).mp hevict).2 0 h.capacity_pos
  rw [hvacant 0 h.capacity_pos] at hfull
  exact absurd hfull (by simp)

/-- A network added to a table without entries is found for the addresses it covers. -/
theorem found_lookupIp_addCidrDecision (info : CidrDecisionInfo) (clock : CallClock)
    (hparams : cidrParamsValid info.family info.prefixLen info.network = true)
    (hclock : clock.now ≤ now)
    (hactive : Deadline.Active now
      (DecisionExpiry.requested info.decisionType (expiresOf info.durationSecs clock))) :
    (lookupIp (CrowdSecBouncer.addCidrDecision s info clock) ip now).found = true ↔
      Key.ofCidr info.family info.prefixLen info.network ∈ ip.coveringKeys := by
  have hupdate : (TableOp.addCidrDecision info clock).update? =
      some (.join (.ofCidr info.family info.prefixLen info.network, info.decisionType)
        (DecisionExpiry.requested info.decisionType (expiresOf info.durationSecs clock))) :=
    if_pos hparams
  -- in a table without entries only the new decision is in force
  have hforce {k : Key} (hk : k.Normal) (dt : DecisionType) :
      (CrowdSecBouncer.addCidrDecision s info clock).InForce now k dt ↔
        k = .ofCidr info.family info.prefixLen info.network ∧ dt = info.decisionType := by
    have hstep := h.eqFrom_apply (p := (k, dt)) (.addCidrDecision info clock)
      (h.not_reachesEvictClock_of_vacant hvacant _)
      (by rintro _ ⟨⟩; exact hclock) hk now le_rfl
    have hbot : s.deadlineAt (k, dt) = ⊥ := by
      rw [ShmData.deadlineAt, h.find_of_vacant hvacant hk]
      rfl
    rw [hupdate, hbot] at hstep
    refine hstep.trans ?_
    change Deadline.Active now (if _ then _ else _) ↔ _
    split
    · next heq =>
      rw [bot_sup_eq]
      exact iff_of_true hactive (Prod.mk.inj heq)
    · next hne => exact iff_of_false Deadline.not_active_bot fun heq => hne (Prod.ext heq.1 heq.2)
  have hok : TableOk (CrowdSecBouncer.addCidrDecision s info clock) :=
    h.apply (.addCidrDecision info clock)
  rw [hok.found_lookupIp_iff]
  constructor
  · rintro ⟨k, hmem, dt, hdt⟩
    obtain ⟨rfl, -⟩ := (hforce (IpAddr.normal_of_mem_coveringKeys hmem) dt).mp hdt
    exact hmem
  · intro hmem
    exact ⟨_, hmem, _, (hforce (IpAddr.normal_of_mem_coveringKeys hmem) _).mpr ⟨rfl, rfl⟩⟩

end TableOk

/-- The network that `parse_cidr` returns covers the addresses that agree with it. -/
theorem ofCidr_mem_coveringKeys_iff
    (h : parseCidr addr prefixLen = some (network, family, prefixLen)) :
    Key.ofCidr family prefixLen network.toList ∈ ip.coveringKeys ↔
      ip.family = addr.family ∧
        AgreeUpTo prefixLen.toNat (octetBits addr.octets) (octetBits ip.octets) := by
  obtain ⟨-, rfl, hle, hnetwork⟩ := parseCidr_spec h
  rw [Key.ofCidr, IpAddr.cidr_mem_coveringKeys, hnetwork]
  constructor
  · rintro ⟨hfamily, -, heq⟩
    exact ⟨hfamily.symm, (IpAddr.networkOf_eq_iff hfamily).mp heq⟩
  · rintro ⟨hfamily, hagree⟩
    exact ⟨hfamily.symm, hle, (IpAddr.networkOf_eq_iff hfamily.symm).mpr hagree⟩

/-- What `parse_cidr` returns passes the check of the parameters. -/
theorem cidrParamsValid_of_parseCidr
    (h : parseCidr addr prefixLen = some (network, family, prefixLen)) :
    cidrParamsValid family prefixLen network.toList = true := by
  obtain ⟨-, rfl, hle, -⟩ := parseCidr_spec h
  have hle' : prefixLen ≤ UInt8.ofNat (familyWidth addr.family) := by
    rw [UInt8.le_iff_toNat_le]
    cases addr <;> exact hle
  cases addr with
  | v4 o => simpa [cidrParamsValid, IpAddr.family, familyWidth] using hle'
  | v6 o => simpa [cidrParamsValid, IpAddr.family, familyWidth] using hle'

/-- **One membership.** A text that the cache accepts is accepted by the configuration, and for
a client address that is no IPv4-mapped one the three tests agree: the trusted network contains
it, a lookup finds a decision for the text where that is all the cache holds, and the address
agrees with that of the text on the first bits. -/
theorem contains_iff_found_lookupIp
    (h : parseCidrText cidr = some (network, family, prefixLen)) :
    ∃ addr c, IsNetworkText cidr addr prefixLen ∧ TrustedCidr.parse cidr = some c ∧
      ∀ ip, canonicalizeIp ip = ip →
        (c.contains ip = true ↔ ip.family = addr.family ∧
          AgreeUpTo prefixLen.toNat (octetBits addr.octets) (octetBits ip.octets)) ∧
        ∀ (s : ShmData) (info : CidrDecisionInfo) (clock : CallClock) (now : ℤ),
          TableOk s → s.Vacant →
          info.network = network.toList → info.family = family → info.prefixLen = prefixLen →
          clock.now ≤ now →
          Deadline.Active now
            (DecisionExpiry.requested info.decisionType (expiresOf info.durationSecs clock)) →
          (c.contains ip = true ↔
            (lookupIp (addCidrDecision s info clock) ip now).found = true) := by
  obtain ⟨addr, c, htext, hparse, hc, hof⟩ := TrustedCidr.parse_of_parseCidrText h
  refine ⟨addr, c, htext, hc, fun ip hcanonical => ?_⟩
  have hcontains : c.contains ip = true ↔ _ := TrustedCidr.contains_ofAddr_iff hof
  rw [hcanonical] at hcontains
  refine ⟨hcontains, ?_⟩
  rintro s info clock now hok hvacant hnetwork rfl rfl hclock hactive
  have hparams := cidrParamsValid_of_parseCidr hparse
  rw [← hnetwork] at hparams
  rw [hok.found_lookupIp_addCidrDecision hvacant info clock hparams hclock hactive, hnetwork,
    ofCidr_mem_coveringKeys_iff hparse]
  exact hcontains

/-- The network of the text `10.0.0.0/9`, as the cache keeps it. -/
def exampleNetwork : CidrDecisionInfo :=
  { network := (addrBytes [10, 0, 0, 0]).toList, family := 4, prefixLen := 9,
    decisionType := .captcha, origin := .capi, scenario := none, durationSecs := none }

/-- The address `10.127.0.1` is in the network, on both sides. -/
theorem contains_iff_found_lookupIp_exampleNetwork :
    ∃ c, TrustedCidr.parse "10.0.0.0/9".toList = some c ∧
      (c.contains (.v4 (u32ToBeBytes 0x0A7F0001)) = true ↔
        (lookupIp (addCidrDecision (clearAll (ShmData.fresh 4)) exampleNetwork ⟨some 5, 5, 5⟩)
          (.v4 (u32ToBeBytes 0x0A7F0001)) 9).found = true) := by
  have hparse : parseCidrText "10.0.0.0/9".toList = some (addrBytes [10, 0, 0, 0], 4, 9) := by
    decide +kernel
  obtain ⟨addr, c, -, hc, hagree⟩ := contains_iff_found_lookupIp hparse
  refine ⟨c, hc, (hagree (.v4 (u32ToBeBytes 0x0A7F0001)) rfl).2 _ exampleNetwork ⟨some 5, 5, 5⟩ 9
    (tableOk_clearAll (by decide)) (fun i _ => isVacant_clearAll _ i) rfl rfl rfl (by decide) ?_⟩
  exact Deadline.active_top

end CrowdSecBouncer
