import CrowdSecBouncer.Stream.Decisions

/-!
# IPv4-mapped networks

A single address is canonicalized wherever it enters: as the value of a decision, as a client,
in the membership test. A network is not: both parsers keep `::ffff:a.b.c.d/p` as an IPv6
network, and a canonical client address is never in it (`not_agreeUpTo_mappedIp`). So such a
network matches no client at all, and it is treated as the IPv4 network it stands for only in
the eyes of the clients outside of that network (`treatedAsIpv4_iff`).
-/

namespace CrowdSecBouncer

open PrefixMatch Text DeadlineMap

/-- The IPv4-mapped address `::ffff:a.b.c.d`. -/
def mappedIp (o : Vector UInt8 4) : IpAddr :=
  .v6 ⟨⟨List.replicate 10 0 ++ [0xff, 0xff] ++ o.toList⟩, by simp⟩

/-- The address lies in the IPv4 network `a.b.c.d/q`. -/
def InIpv4Network (o : Vector UInt8 4) (q : ℕ) (ip : IpAddr) : Prop :=
  ∃ o', ip = .v4 o' ∧ AgreeUpTo q (octetBits o.toList) (octetBits o'.toList)

variable {o : Vector UInt8 4} {q : ℕ} {ip : IpAddr} {cidr bare : List Char}

/-- **No canonical address agrees with a mapped one** on the first 96 bits. -/
theorem not_agreeUpTo_mappedIp (hcanonical : canonicalizeIp ip = ip)
    (hfamily : ip.family = (mappedIp o).family) {p : ℕ} (hp : 96 ≤ p) :
    ¬ AgreeUpTo p (octetBits (mappedIp o).octets) (octetBits ip.octets) := by
  intro hagree
  cases ip with
  | v4 o' => exact absurd hfamily (by simp [mappedIp, IpAddr.family])
  | v6 o' =>
    have htake {l : List UInt8} {i : ℕ} (hi : i < 96) :
        octetBits (l.take 12) i = octetBits l i := by
      rw [octetBits, octetBits, List.getD_eq_getElem?_getD, List.getD_eq_getElem?_getD,
        List.getElem?_take_of_lt (by omega)]
    -- the bytes that it shares are those by which a mapped address is known
    have hsame : o'.toList.take 12 = List.replicate 10 0 ++ [0xff, 0xff] := by
      have hmapped : (mappedIp o).octets.take 12 = List.replicate 10 0 ++ [0xff, 0xff] := by
        simp [mappedIp, IpAddr.octets]
      rw [← hmapped]
      refine octetBits_injective (by simp [mappedIp, IpAddr.octets]) (funext fun i => ?_)
      rcases Nat.lt_or_ge i 96 with hi | hi
      · rw [htake hi, htake hi]
        exact (hagree i (by omega)).symm
      · rw [octetBits_of_le, octetBits_of_le]
        · simp [mappedIp, IpAddr.octets]
          omega
        · simp
          omega
    rw [canonicalizeIp, if_pos hsame] at hcanonical
    exact absurd hcanonical (by simp)

/-! ### The two parsers -/

/-- The text of a network is not the text of an address. -/
theorem IsNetworkText.parseIpAddr_eq_none {addr : IpAddr} {prefixLen : UInt8}
    (h : IsNetworkText cidr addr prefixLen) : parseIpAddr cidr = none := by
  obtain ⟨addrS, prefixS, hsplit, -, -⟩ := h.exists_parts
  obtain ⟨rfl, -⟩ := splitOnce_eq_some_iff.mp hsplit
  refine Option.eq_none_iff_forall_ne_some.mpr fun a ha => ?_
  have hslash := isAddrChar_of_parseIpAddr ha '/' (by simp)
  rcases hslash with hdigit | hcolon | hdot
  · exact absurd hdigit (by decide)
  · exact absurd hcolon (by decide)
  · exact absurd hdot (by decide)

/-- An IPv6 network is kept as one by the cache. -/
theorem IsNetworkText.parseValue_v6 {v6 : Vector UInt8 16} {prefixLen : UInt8}
    (h : IsNetworkText cidr (.v6 v6) prefixLen) (hp : prefixLen ≤ 128) :
    parseValue cidr = some (.cidr (applyIpv6Mask v6 prefixLen) 6 prefixLen) ∧
      parseCidr (.v6 v6) prefixLen = some (applyIpv6Mask v6 prefixLen, 6, prefixLen) := by
  have hparse : parseCidr (.v6 v6) prefixLen = some (applyIpv6Mask v6 prefixLen, 6, prefixLen) :=
    if_neg (UInt8.not_lt.mpr hp)
  obtain ⟨addrS, prefixS, hsplit, haddr, hlength⟩ := h.exists_parts
  obtain ⟨hnone, hv6⟩ := parseIpAddr_eq_v6 haddr
  have htext : parseCidrText cidr = some (applyIpv6Mask v6 prefixLen, 6, prefixLen) := by
    rw [parseCidrText, hsplit]
    simp only [bind, Option.bind_some, hlength, hnone, hv6, UInt8.ofNat_toNat]
    exact hparse
  rw [parseValue, h.parseIpAddr_eq_none, htext]
  exact ⟨rfl, hparse⟩

/-- A single address in the configuration. -/
theorem trustedCidr_parse_of_parseIpAddr {addr : IpAddr} (h : parseIpAddr bare = some addr) :
    TrustedCidr.parse bare = some (.ofHost addr) := by
  have htrim := trim_eq_self (isGraphic_of_parseIpAddr h)
  have hne : bare ≠ [] := by
    rintro rfl
    have hempty : parseIpAddr [] = none := by decide +kernel
    exact absurd (hempty.symm.trans h) (by simp)
  have hsplit : splitOnce '/' bare = none := by
    refine Option.eq_none_iff_forall_ne_some.mpr fun ⟨before, rest⟩ hsplit => ?_
    obtain ⟨rfl, -⟩ := splitOnce_eq_some_iff.mp hsplit
    rcases isAddrChar_of_parseIpAddr h '/' (by simp) with hdigit | hcolon | hdot
    · exact absurd hdigit (by decide)
    · exact absurd hcolon (by decide)
    · exact absurd hdot (by decide)
  rw [TrustedCidr.parse, htrim, if_neg hne, hsplit]
  simp [h]

/-! ### What the network matches -/

/-- The network of the text is treated as the IPv4 network: a lookup finds the decision `d` for
it in a cache that holds nothing else, and the configuration's network contains the address,
exactly when the address lies in the IPv4 network; so does the bare address when the network is
a single address. -/
structure TreatedAsIpv4 (fallback : FallbackRemediation) (s : ShmData) (d : Decision)
    (clock : CallClock) (cidr : List Char) (o : Vector UInt8 4) (q : ℕ) (ip : IpAddr) (now : ℤ) :
    Prop where
  decision : (lookupIp (applyToShm fallback s ⟨[(d, clock)], []⟩) ip now).found = true ↔
    InIpv4Network o q ip
  trusted : ∀ c, TrustedCidr.parse cidr = some c → (c.contains ip = true ↔ InIpv4Network o q ip)
  bare : q = 32 → ∀ bare c, parseIpAddr bare = some (mappedIp o) →
    TrustedCidr.parse bare = some c → (c.contains ip = true ↔ InIpv4Network o q ip)

variable {fallback : FallbackRemediation} {s : ShmData} {d : Decision} {clock : CallClock}
  {now : ℤ} {dt : DecisionType}

/-- A mapped network contains no canonical address. -/
theorem contains_ofAddr_mappedIp {c : TrustedCidr} {p : ℕ} (hp : 96 ≤ p)
    (hc : TrustedCidr.ofAddr (mappedIp o) p = some c) (hcanonical : canonicalizeIp ip = ip) :
    c.contains ip = false := by
  rw [← Bool.not_eq_true, TrustedCidr.contains_ofAddr_iff hc, hcanonical]
  rintro ⟨hfamily, hagree⟩
  exact not_agreeUpTo_mappedIp hcanonical hfamily hp hagree

/-- A decision for a mapped network is found for no canonical address. -/
theorem found_lookupIp_mappedIp (h : TableOk s) (hvacant : s.Vacant) {prefixLen : UInt8}
    (htext : IsNetworkText cidr (mappedIp o) prefixLen) (hlow : 96 ≤ prefixLen.toNat)
    (hp : prefixLen ≤ 128) (hvalue : d.value = some cidr) (hcanonical : canonicalizeIp ip = ip)
    (hsimulated : d.simulated ≠ some true)
    (htype : fallback.resolveUnknownType d.decisionType = some dt) (hclock : clock.now ≤ now)
    (hactive : Deadline.Active now
      (DecisionExpiry.requested dt (expiresOf (d.duration.bind parseDuration) clock))) :
    (lookupIp (applyToShm fallback s ⟨[(d, clock)], []⟩) ip now).found = false := by
  obtain ⟨v6, hv6⟩ : ∃ v6, mappedIp o = .v6 v6 := ⟨_, rfl⟩
  obtain ⟨hparse, hcidr⟩ := (hv6 ▸ htext).parseValue_v6 hp
  obtain ⟨info, hcall, hnetwork, hfamily, hlen, htype', hduration⟩ :
      ∃ info, additionCall fallback d clock = some (.addCidrDecision info clock) ∧
        info.network = (applyIpv6Mask v6 prefixLen).toList ∧ info.family = 6 ∧
        info.prefixLen = prefixLen ∧ info.decisionType = dt ∧
        info.durationSecs = d.duration.bind parseDuration := by
    refine ⟨⟨(applyIpv6Mask v6 prefixLen).toList, 6, prefixLen, dt,
      (d.origin.map Origin.fromStr).getD .unknown, d.scenario, d.duration.bind parseDuration⟩, ?_,
      rfl, rfl, rfl, rfl, rfl⟩
    rw [additionCall, if_neg hsimulated]
    simp only [bind, hvalue, Option.bind_some, htype, hparse]
  have happly : applyToShm fallback s ⟨[(d, clock)], []⟩ = addCidrDecision s info clock := by
    simp [applyToShm, StreamResponse.applyCalls, hcall, TableOp.run, TableOp.apply]
  have hparams := cidrParamsValid_of_parseCidr hcidr
  rw [← hnetwork, ← hfamily, ← hlen] at hparams
  rw [← htype', ← hduration] at hactive
  rw [happly, ← Bool.not_eq_true,
    h.found_lookupIp_addCidrDecision hvacant info clock hparams hclock hactive, hnetwork, hfamily,
    hlen, ofCidr_mem_coveringKeys_iff hcidr]
  rw [← hv6]
  rintro ⟨hsame, hagree⟩
  exact not_agreeUpTo_mappedIp hcanonical hsame hlow hagree

/-- **Mapped networks are treated as IPv4 networks exactly for the addresses outside.** -/
theorem treatedAsIpv4_iff (h : TableOk s) (hvacant : s.Vacant) (hq : q ≤ 32)
    {prefixLen : UInt8} (hlength : prefixLen.toNat = 96 + q)
    (htext : IsNetworkText cidr (mappedIp o) prefixLen) (hvalue : d.value = some cidr)
    (hcanonical : canonicalizeIp ip = ip) (hsimulated : d.simulated ≠ some true)
    (htype : fallback.resolveUnknownType d.decisionType = some dt) (hclock : clock.now ≤ now)
    (hactive : Deadline.Active now
      (DecisionExpiry.requested dt (expiresOf (d.duration.bind parseDuration) clock))) :
    TreatedAsIpv4 fallback s d clock cidr o q ip now ↔ ¬ InIpv4Network o q ip := by
  have hp : prefixLen ≤ 128 := by
    rw [UInt8.le_iff_toNat_le, hlength]
    change _ ≤ 128
    omega
  have hfound := found_lookupIp_mappedIp h hvacant htext (by omega) hp hvalue hcanonical
    hsimulated htype hclock hactive
  constructor
  · intro htreated hin
    have hyes := htreated.decision.mpr hin
    rw [hfound] at hyes
    exact absurd hyes (by simp)
  · intro hout
    -- outside the network neither reading covers the address
    refine ⟨?_, fun c hc => ?_, fun _ bare c hbare hc => ?_⟩
    · rw [hfound]
      exact iff_of_false (by simp) hout
    · rw [htext.trustedCidr_parse, hlength] at hc
      rw [contains_ofAddr_mappedIp (by omega) hc hcanonical]
      exact iff_of_false (by simp) hout
    · rw [trustedCidr_parse_of_parseIpAddr hbare] at hc
      have hof := (TrustedCidr.ofAddr_familyWidth (mappedIp o)).trans hc
      rw [contains_ofAddr_mappedIp (by simp [mappedIp, IpAddr.family, familyWidth]) hof hcanonical]
      exact iff_of_false (by simp) hout

/-- A ban for `10.0.0.0/8`, written as a mapped network. -/
def exampleMappedBan : Decision :=
  ⟨none, "ban".toList, some "::ffff:10.0.0.0/104".toList, none, none, none⟩

private theorem isNetworkText_exampleMappedBan :
    IsNetworkText "::ffff:10.0.0.0/104".toList (mappedIp (u32ToBeBytes 0x0A000000)) 104 :=
  ⟨"::ffff:10.0.0.0".toList, "104".toList, by decide +kernel, by decide +kernel, by decide +kernel⟩

/-- The address `10.1.2.3` lies in `10.0.0.0/8` and is not matched. -/
theorem mapped_network_not_matched :
    InIpv4Network (u32ToBeBytes 0x0A000000) 8 (.v4 (u32ToBeBytes 0x0A010203)) ∧
      (lookupIp (applyToShm .allow (.fresh 8) ⟨[(exampleMappedBan, ⟨some 5, 5, 5⟩)], []⟩)
        (.v4 (u32ToBeBytes 0x0A010203)) 9).found = false ∧
      (TrustedCidr.parse "::ffff:10.0.0.0/104".toList).map
        (·.contains (.v4 (u32ToBeBytes 0x0A010203))) = some false :=
  ⟨⟨_, rfl, by decide +kernel⟩, by decide +kernel, by decide +kernel⟩

theorem treatedAsIpv4_iff_exampleMappedBan :
    TreatedAsIpv4 .allow (clearAll (.fresh 8)) exampleMappedBan ⟨some 5, 5, 5⟩
        "::ffff:10.0.0.0/104".toList (u32ToBeBytes 0x0A000000) 8
        (.v4 (u32ToBeBytes 0x0A010203)) 9 ↔
      ¬ InIpv4Network (u32ToBeBytes 0x0A000000) 8 (.v4 (u32ToBeBytes 0x0A010203)) := by
  have htype : FallbackRemediation.allow.resolveUnknownType exampleMappedBan.decisionType =
      some .ban := by decide
  exact treatedAsIpv4_iff (tableOk_clearAll (by decide)) (fun i _ => isVacant_clearAll _ i)
    (by decide) (by decide) isNetworkText_exampleMappedBan rfl rfl (by decide) htype
    (by decide) Deadline.active_top

end CrowdSecBouncer
