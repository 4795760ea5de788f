import CrowdSecBouncer.Net.AddrText

/-!
# Trusted networks

The networks of the configuration (trusted proxies, bypass list) are kept as integers with a
mask, unlike the networks of the decision cache. An address is canonicalized before it is
compared, so that an IPv4-mapped IPv6 client is looked for among the IPv4 networks. What a
network contains is agreement with its address on the first bits (`contains_ofAddr_iff`).
-/

namespace CrowdSecBouncer

open Text PrefixMatch

/-- The address as a 128-bit integer (`u128::from_be_bytes`). -/
def u128FromBeBytes (b : Vector UInt8 16) : BitVec 128 :=
  b.toList.foldl (fun x byte => x <<< 8 ||| byte.toBitVec.setWidth 128) 0

/-- Map IPv4-mapped IPv6 (`::ffff:a.b.c.d`) to IPv4 so dual-stack sockets match LAPI IPv4
decisions. -/
def canonicalizeIp : IpAddr → IpAddr
  | .v4 o => .v4 o
  | .v6 o =>
    if o.toList.take 12 = List.replicate 10 0 ++ [0xff, 0xff] then
      .v4 (o.drop 12)
    else .v6 o

/-- One trusted CIDR or host prefix parsed at config time. -/
inductive TrustedCidr
  | v4 (network mask : BitVec 32)
  | v6 (network mask : BitVec 128)
  deriving DecidableEq, Repr

def TrustedCidr.contains (c : TrustedCidr) (ip : IpAddr) : Bool :=
  match c, canonicalizeIp ip with
  | .v4 network mask, .v4 o => u32FromBeBytes o &&& mask == network &&& mask
  | .v6 network mask, .v6 o => u128FromBeBytes o &&& mask == network &&& mask
  | .v4 .., .v6 _ | .v6 .., .v4 _ => false

def ipv4Mask (prefixLen : ℕ) : BitVec 32 :=
  if prefixLen = 0 then 0 else BitVec.allOnes 32 <<< (32 - prefixLen)

def ipv6Mask (prefixLen : ℕ) : BitVec 128 :=
  if prefixLen = 0 then 0 else BitVec.allOnes 128 <<< (128 - prefixLen)

/-- The network of an address and a prefix length that is not too long. -/
def TrustedCidr.ofAddr : IpAddr → ℕ → Option TrustedCidr
  | .v4 o, prefixLen =>
    if 32 < prefixLen then none
    else some (.v4 (u32FromBeBytes o &&& ipv4Mask prefixLen) (ipv4Mask prefixLen))
  | .v6 o, prefixLen =>
    if 128 < prefixLen then none
    else some (.v6 (u128FromBeBytes o &&& ipv6Mask prefixLen) (ipv6Mask prefixLen))

/-- A single address. -/
def TrustedCidr.ofHost : IpAddr → TrustedCidr
  | .v4 o => .v4 (u32FromBeBytes o) (BitVec.allOnes 32)
  | .v6 o => .v6 (u128FromBeBytes o) (BitVec.allOnes 128)

def TrustedCidr.parse (s : List Char) : Option TrustedCidr :=
  let s := trim s
  if s = [] then none
  else
    match splitOnce '/' s with
    | some (ipS, plenS) => do
      let ip ← parseIpAddr (trim ipS)
      let plen ← parseUnsigned (2 ^ 32 - 1) (trim plenS)
      TrustedCidr.ofAddr ip plen
    | none => (parseIpAddr s).map TrustedCidr.ofHost

/-- True if `ip` matches any entry in `cidrs` (empty list never matches). -/
def ipInCidrList (ip : IpAddr) (cidrs : List TrustedCidr) : Bool := cidrs.any (·.contains ip)

/-! ### Masks as bits -/

/-- The mask of a prefix length has that many leading ones. -/
private theorem getMsbD_prefixMask {w p i : ℕ} (hp : p ≤ w) :
    (if p = 0 then 0 else BitVec.allOnes w <<< (w - p)).getMsbD i = decide (i < p) := by
  split
  · next hzero => simp [hzero]
  · rw [BitVec.getMsbD_shiftLeft, BitVec.getMsbD_allOnes, decide_eq_decide]
    omega

/-- Two words agree under the mask of a prefix length when their leading bits do. -/
private theorem and_prefixMask_eq_iff {w p : ℕ} (hp : p ≤ w) {x y : BitVec w} :
    x &&& (if p = 0 then 0 else BitVec.allOnes w <<< (w - p)) =
        y &&& (if p = 0 then 0 else BitVec.allOnes w <<< (w - p)) ↔
      AgreeUpTo p x.getMsbD y.getMsbD := by
  constructor
  · intro h i hi
    have hbit := congrArg (·.getMsbD i) h
    simp only [BitVec.getMsbD_and, getMsbD_prefixMask hp, hi, decide_true, Bool.and_true] at hbit
    exact hbit
  · intro h
    refine BitVec.eq_of_getMsbD_eq fun i _ => ?_
    rw [BitVec.getMsbD_and, BitVec.getMsbD_and, getMsbD_prefixMask hp]
    by_cases hi : i < p
    · rw [h i hi]
    · simp [hi]

/-- The bytes of a big-endian number, from its low end. -/
private theorem getLsbD_foldl_bytes (l : List UInt8) (j : ℕ) :
    (l.foldl (fun (x : BitVec 128) (byte : UInt8) => x <<< 8 ||| byte.toBitVec.setWidth 128)
      0).getLsbD j =
      (decide (j < 128) && (l.reverse.getD (j / 8) 0).toBitVec.getLsbD (j % 8)) := by
  induction l using List.reverseRecOn generalizing j with
  | nil => simp
  | append_singleton l byte ih =>
    rw [List.foldl_concat, BitVec.getLsbD_or, BitVec.getLsbD_shiftLeft, BitVec.getLsbD_setWidth,
      ih, List.reverse_concat]
    rcases Nat.lt_or_ge j 8 with hj | hj
    · have hzero : j / 8 = 0 := by omega
      have hmod : j % 8 = j := by omega
      simp [hj, hzero, hmod, show j < 128 by omega]
    · obtain ⟨k, rfl⟩ := Nat.exists_eq_add_of_le' hj
      have hdiv : (k + 8) / 8 = k / 8 + 1 := by omega
      have hmod : (k + 8) % 8 = k % 8 := by omega
      by_cases hk : k + 8 < 128
      · simp [hk, hdiv, hmod, show k < 128 by omega]
      · simp [hk]

/-- A 128-bit address has the bits of its octets. -/
theorem getMsbD_u128FromBeBytes (b : Vector UInt8 16) {i : ℕ} (hi : i < 128) :
    (u128FromBeBytes b).getMsbD i = octetBits b.toList i := by
  have hrev : b.toList.reverse.getD ((127 - i) / 8) 0 = b.toList.getD (i / 8) 0 := by
    have hdiv : (127 - i) / 8 = 15 - i / 8 := by omega
    rw [List.getD_eq_getElem?_getD, List.getD_eq_getElem?_getD,
      List.getElem?_reverse (by simp; omega), hdiv]
    congr 2
    simp
    omega
  rw [BitVec.getMsbD_eq_getLsbD, u128FromBeBytes, getLsbD_foldl_bytes, octetBits,
    BitVec.getMsbD_eq_getLsbD, show 128 - 1 - i = 127 - i by omega, hrev,
    show (127 - i) % 8 = 8 - 1 - i % 8 by omega]
  simp [hi, show 127 - i < 128 by omega, show i % 8 < 8 by omega]

/-! ### What a network contains -/

variable {addr ip : IpAddr} {p : ℕ} {c : TrustedCidr}

/-- A single address is the network of its full length. -/
theorem TrustedCidr.ofAddr_familyWidth (addr : IpAddr) :
    ofAddr addr (familyWidth addr.family) = some (ofHost addr) := by
  cases addr with
  | v4 o =>
    change some (v4 (u32FromBeBytes o &&& BitVec.allOnes 32) (BitVec.allOnes 32)) = _
    rw [BitVec.and_allOnes]
    rfl
  | v6 o =>
    change some (v6 (u128FromBeBytes o &&& BitVec.allOnes 128) (BitVec.allOnes 128)) = _
    rw [BitVec.and_allOnes]
    rfl

/-- **Membership** is agreement on the first bits with an address of the same family. -/
theorem TrustedCidr.contains_ofAddr_iff (h : ofAddr addr p = some c) :
    c.contains ip = true ↔ (canonicalizeIp ip).family = addr.family ∧
      AgreeUpTo p (octetBits addr.octets) (octetBits (canonicalizeIp ip).octets) := by
  rw [contains.eq_def]
  generalize canonicalizeIp ip = client
  cases addr with
  | v4 o =>
    obtain ⟨hp, heq⟩ := Option.ite_none_left_eq_some.mp h
    obtain rfl := Option.some_injective _ heq
    cases client with
    | v6 o' => simp [IpAddr.family]
    | v4 o' =>
      -- the network is masked already, so masking it again changes nothing
      have hbits (v : Vector UInt8 4) : (u32FromBeBytes v).getMsbD = octetBits v.toList :=
        funext fun i => (octetBits_u32FromBeBytes v i).symm
      rw [beq_iff_eq, BitVec.and_assoc, BitVec.and_self, ipv4Mask,
        and_prefixMask_eq_iff (by omega), hbits, hbits]
      constructor
      · intro hagree
        exact ⟨rfl, fun i hi => (hagree i hi).symm⟩
      · rintro ⟨-, hagree⟩ i hi
        exact (hagree i hi).symm
  | v6 o =>
    obtain ⟨hp, heq⟩ := Option.ite_none_left_eq_some.mp h
    obtain rfl := Option.some_injective _ heq
    cases client with
    | v4 o' => simp [IpAddr.family]
    | v6 o' =>
      rw [beq_iff_eq, BitVec.and_assoc, BitVec.and_self, ipv6Mask,
        and_prefixMask_eq_iff (by omega)]
      constructor
      · intro hagree
        refine ⟨rfl, fun i hi => ?_⟩
        have hbit := hagree i hi
        rw [getMsbD_u128FromBeBytes _ (by omega), getMsbD_u128FromBeBytes _ (by omega)] at hbit
        exact hbit.symm
      · rintro ⟨-, hagree⟩ i hi
        rw [getMsbD_u128FromBeBytes _ (by omega), getMsbD_u128FromBeBytes _ (by omega)]
        exact (hagree i hi).symm

/-! ### Canonical addresses -/

theorem canonicalizeIp_idem (ip : IpAddr) :
    canonicalizeIp (canonicalizeIp ip) = canonicalizeIp ip := by
  cases ip with
  | v4 o => rfl
  | v6 o =>
    rw [canonicalizeIp]
    split
    · rfl
    · next hmapped => rw [canonicalizeIp, if_neg hmapped]

end CrowdSecBouncer
