import CrowdSecBouncer.Foundations.PrefixMatch
import Mathlib.Tactic.IntervalCases

/-!
# IP addresses and network masks

`IpAddr` is an address as its octets, in network order. The two masking routines of the
decision cache follow the source: IPv4 masks through a 32-bit word, IPv6 byte by byte.
`octetBits` reads an octet list as a bit string, most significant bit first, and both
routines are the same operation on bits: keep the first `p`, clear the rest
(`octetBits_applyIpv4Mask`, `octetBits_applyIpv6Mask`).
-/

namespace CrowdSecBouncer

open PrefixMatch

/-- An IP address of either family, as its octets in network order. -/
inductive IpAddr
  | v4 (octets : Vector UInt8 4)
  | v6 (octets : Vector UInt8 16)
  deriving DecidableEq, Repr

/-- The octets of an address. -/
def IpAddr.octets : IpAddr → List UInt8
  | .v4 o => o.toList
  | .v6 o => o.toList

/-- The address family byte stored in the caches: 4 or 6. -/
def IpAddr.family : IpAddr → UInt8
  | .v4 _ => 4
  | .v6 _ => 6

/-- The number of address bits of a family (`4` or `6`). -/
def familyWidth (family : UInt8) : ℕ :=
  if family = 4 then 32 else 128

/-! ### Octets as bits -/

/-- An octet list as a bit string, most significant bit first, zeros after its end. -/
def octetBits (l : List UInt8) : ℕ → Bool :=
  fun i => (l.getD (i / 8) 0).toBitVec.getMsbD (i % 8)

theorem octetBits_of_le {l : List UInt8} {i : ℕ} (h : 8 * l.length ≤ i) :
    octetBits l i = false := by
  have hnone : l[i / 8]? = none := List.getElem?_eq_none (by omega)
  simp [octetBits, List.getD_eq_getElem?_getD, hnone]

theorem octetBits_toList {n : ℕ} (v : Vector UInt8 n) {i : ℕ} (h : i / 8 < n) :
    octetBits v.toList i = v[i / 8].toBitVec.getMsbD (i % 8) := by
  simp [octetBits, List.getD_eq_getElem?_getD, h]

/-- Octet lists of one length are determined by their bits. -/
theorem octetBits_injective {l l' : List UInt8} (hlen : l.length = l'.length)
    (h : octetBits l = octetBits l') : l = l' := by
  refine List.ext_getElem hlen fun j hj hj' => UInt8.eq_of_toBitVec_eq ?_
  refine BitVec.eq_of_getMsbD_eq fun r hr => ?_
  have hbit := congrFun h (8 * j + r)
  have hdiv : (8 * j + r) / 8 = j := by omega
  have hmod : (8 * j + r) % 8 = r := by omega
  simpa [octetBits, hdiv, hmod, List.getD_eq_getElem?_getD, hj, hj'] using hbit

/-! ### IPv4 masking, through a 32-bit word -/

/-- `u32::from_be_bytes`. -/
def u32FromBeBytes (b : Vector UInt8 4) : BitVec 32 :=
  (b[0].toBitVec.setWidth 32 <<< 24) ||| (b[1].toBitVec.setWidth 32 <<< 16) |||
    (b[2].toBitVec.setWidth 32 <<< 8) ||| b[3].toBitVec.setWidth 32

/-- `u32::to_be_bytes`. -/
def u32ToBeBytes (x : BitVec 32) : Vector UInt8 4 :=
  #v[.ofBitVec (x.extractLsb' 24 8), .ofBitVec (x.extractLsb' 16 8),
    .ofBitVec (x.extractLsb' 8 8), .ofBitVec (x.extractLsb' 0 8)]

/-- Apply netmask to IPv4 address, returning network address. -/
def applyIpv4Mask (addr : Vector UInt8 4) (prefixLen : UInt8) : Vector UInt8 4 :=
  if prefixLen = 0 then #v[0, 0, 0, 0]
  else if 32 ≤ prefixLen then addr
  else
    let mask := ~~~((1#32 <<< (32 - prefixLen).toNat) - 1#32)
    u32ToBeBytes (u32FromBeBytes addr &&& mask)

theorem octetBits_u32FromBeBytes (b : Vector UInt8 4) (i : ℕ) :
    octetBits b.toList i = (u32FromBeBytes b).getMsbD i := by
  rcases Nat.lt_or_ge i 32 with hi | hi
  · simp only [octetBits, u32FromBeBytes]
    interval_cases i <;> simp [BitVec.getMsbD_setWidth, List.getD_eq_getElem?_getD]
  · rw [octetBits_of_le (by simpa using hi), BitVec.getMsbD_of_ge _ _ hi]

private theorem octetBits_u32ToBeBytes (x : BitVec 32) (i : ℕ) :
    octetBits (u32ToBeBytes x).toList i = x.getMsbD i := by
  rcases Nat.lt_or_ge i 32 with hi | hi
  · simp only [octetBits, u32ToBeBytes]
    interval_cases i <;> simp [BitVec.getMsbD_extractLsb']
  · rw [octetBits_of_le (by simpa using hi), BitVec.getMsbD_of_ge _ _ hi]

/-- `(1 << k) - 1` is the word whose `k` low bits are set. -/
private theorem getLsbD_shiftLeft_sub_one {w k j : ℕ} (hk : k < w) :
    ((1#w <<< k) - 1#w).getLsbD j = decide (j < k) := by
  have hpow : 2 ^ k < 2 ^ w := Nat.pow_lt_pow_right (by omega) hk
  have hpos : 0 < 2 ^ k := by positivity
  have hone : 1 < 2 ^ w := Nat.one_lt_two_pow (by omega)
  have hshift : (1#w <<< k).toNat = 2 ^ k := by
    rw [BitVec.toNat_shiftLeft, BitVec.toNat_ofNat, Nat.mod_eq_of_lt hone, Nat.one_shiftLeft,
      Nat.mod_eq_of_lt hpow]
  have hval : ((1#w <<< k) - 1#w).toNat = 2 ^ k - 1 := by
    rw [BitVec.toNat_sub, hshift, BitVec.toNat_ofNat, Nat.mod_eq_of_lt hone,
      show 2 ^ w - 1 + 2 ^ k = 2 ^ k - 1 + 2 ^ w by omega, Nat.add_mod_right,
      Nat.mod_eq_of_lt (by omega)]
  rw [BitVec.getLsbD, hval, Nat.testBit_two_pow_sub_one]

/-- The complement of `(1 << (w - p)) - 1` is the netmask of length `p`. -/
private theorem getMsbD_netmask {w p i : ℕ} (hp : 0 < p) (hi : i < w) :
    (~~~((1#w <<< (w - p)) - 1#w)).getMsbD i = decide (i < p) := by
  rw [BitVec.getMsbD_eq_getLsbD, BitVec.getLsbD_not, getLsbD_shiftLeft_sub_one (by omega)]
  simp only [hi, show w - 1 - i < w by omega, decide_true, Bool.true_and, ← decide_not,
    decide_eq_decide]
  omega

/-- **IPv4 masking** keeps the first `prefixLen` bits and clears the rest. -/
theorem octetBits_applyIpv4Mask (addr : Vector UInt8 4) (prefixLen : UInt8) :
    octetBits (applyIpv4Mask addr prefixLen).toList =
      maskBits prefixLen.toNat (octetBits addr.toList) := by
  funext i
  rw [applyIpv4Mask]
  split_ifs with h₀ h₃₂
  · subst h₀
    rcases Nat.lt_or_ge i 32 with hi | hi
    · simp only [maskBits, octetBits]
      interval_cases i <;> simp
    · rw [octetBits_of_le (by simpa using hi)]
      simp [maskBits]
  · rw [maskBits]
    rcases Nat.lt_or_ge i 32 with hi | hi
    · have hp : i < prefixLen.toNat := lt_of_lt_of_le hi (UInt8.le_iff_toNat_le.mp h₃₂)
      simp [hp]
    · simp [octetBits_of_le (l := addr.toList) (by simpa using hi)]
  · -- the shift is by less than the width, so the mask is what it looks like
    have hlt : prefixLen.toNat < 32 := by
      simpa [UInt8.le_iff_toNat_le] using h₃₂
    have hpos : 0 < prefixLen.toNat := by
      refine Nat.pos_of_ne_zero fun hzero => h₀ ?_
      exact UInt8.toNat_inj.mp hzero
    have hsub : (32 - prefixLen).toNat = 32 - prefixLen.toNat :=
      UInt8.toNat_sub_of_le _ _ (UInt8.le_iff_toNat_le.mpr hlt.le)
    rw [octetBits_u32ToBeBytes, BitVec.getMsbD_and, ← octetBits_u32FromBeBytes, hsub, maskBits,
      Bool.and_comm]
    rcases Nat.lt_or_ge i 32 with hi | hi
    · rw [getMsbD_netmask hpos hi]
    · rw [BitVec.getMsbD_of_ge _ _ hi, octetBits_of_le (by simpa using hi), Bool.and_false,
        Bool.and_false]

/-! ### IPv6 masking, byte by byte -/

/-- Apply netmask to IPv6 address, returning network address. -/
def applyIpv6Mask (addr : Vector UInt8 16) (prefixLen : UInt8) : Vector UInt8 16 :=
  if prefixLen = 0 then Vector.replicate 16 0
  else if 128 ≤ prefixLen then addr
  else
    let fullBytes := (prefixLen / 8).toNat
    let remainingBits := prefixLen % 8
    Vector.ofFn fun i =>
      if i < fullBytes then addr[i]
      else if 0 < remainingBits ∧ i = fullBytes then
        addr[i] &&& ~~~((1 <<< (8 - remainingBits)) - 1)
      else 0

/-- **IPv6 masking** keeps the first `prefixLen` bits and clears the rest. -/
theorem octetBits_applyIpv6Mask (addr : Vector UInt8 16) (prefixLen : UInt8) :
    octetBits (applyIpv6Mask addr prefixLen).toList =
      maskBits prefixLen.toNat (octetBits addr.toList) := by
  funext i
  rcases Nat.lt_or_ge i 128 with hi | hi
  swap
  · rw [octetBits_of_le (by simpa using hi), maskBits, octetBits_of_le (by simpa using hi),
      Bool.and_false]
  have hj : i / 8 < 16 := by omega
  rw [maskBits, octetBits_toList _ hj, octetBits_toList _ hj]
  rw [applyIpv6Mask]
  split_ifs with h₀ h₁₂₈
  · subst h₀
    rw [Vector.getElem_replicate]
    simp
  · have hp : i < prefixLen.toNat := lt_of_lt_of_le hi (UInt8.le_iff_toNat_le.mp h₁₂₈)
    simp [hp]
  · rw [Vector.getElem_ofFn]
    have hdiv : (prefixLen / 8).toNat = prefixLen.toNat / 8 := rfl
    have hmod : (prefixLen % 8).toNat = prefixLen.toNat % 8 := rfl
    simp only [hdiv]
    split_ifs with hfull hpart
    · have hp : i < prefixLen.toNat := by omega
      simp [hp]
    · -- the byte in which the prefix ends
      obtain ⟨hrem, hbyte⟩ := hpart
      have hrem' : 0 < prefixLen.toNat % 8 := hmod ▸ UInt8.lt_iff_toNat_lt.mp hrem
      have hmask : (~~~((1 : UInt8) <<< (8 - prefixLen % 8) - 1)).toBitVec =
          ~~~((1#8 <<< (8 - prefixLen.toNat % 8)) - 1#8) := by
        have hsub : (8 - prefixLen % 8).toNat = 8 - prefixLen.toNat % 8 :=
          UInt8.toNat_sub_of_le _ _ (UInt8.le_iff_toNat_le.mpr (by rw [hmod]; change _ ≤ 8; omega))
        have hshift : ((8 - prefixLen % 8).toBitVec % 8).toNat = 8 - prefixLen.toNat % 8 := by
          rw [BitVec.toNat_umod, UInt8.toNat_toBitVec, hsub]
          exact Nat.mod_eq_of_lt (by change _ < 8; omega)
        rw [UInt8.toBitVec_not, UInt8.toBitVec_sub, UInt8.toBitVec_shiftLeft,
          BitVec.shiftLeft_eq', hshift]
        rfl
      rw [UInt8.toBitVec_and, hmask, BitVec.getMsbD_and,
        getMsbD_netmask hrem' (Nat.mod_lt _ (by omega)), Bool.and_comm]
      have hiff : (i % 8 < prefixLen.toNat % 8) ↔ (i < prefixLen.toNat) := by omega
      simp only [hiff, Fin.getElem_fin]
    · have hp : ¬ i < prefixLen.toNat := by
        intro hlt
        refine hpart ⟨UInt8.lt_iff_toNat_lt.mpr ?_, by omega⟩
        rw [hmod]
        change 0 < _
        omega
      simp [hp]

end CrowdSecBouncer
