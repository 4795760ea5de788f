import CrowdSecBouncer.Net.Address
import CrowdSecBouncer.Shm.Decision

/-!
# Hash table entries

An entry of the decision cache holds the record of one key: an exact IP address or a
network (family, prefix length, network bytes). Both kinds share one table. This module
follows the source's entry methods and its two hash functions, and states once what the
table code needs from them: an entry built for a key is filed under
that key (`wellKeyed_newIpEntry`, `wellKeyed_newCidrEntry`), an entry matches no key but its
own (`Key.matchesEntry_iff`), and the hash of a key is never one of the two slot markers
(`Key.two_le_hash`).
-/

namespace CrowdSecBouncer

/-- Empty hash slot marker. -/
def HASH_EMPTY : UInt32 := 0

/-- Tombstone marker for deleted entries. -/
def HASH_TOMBSTONE : UInt32 := 1

/-- Flag bits in the flags field. -/
def FLAG_TOMBSTONE : UInt8 := 1

@[inherit_doc FLAG_TOMBSTONE]
def FLAG_IS_CIDR : UInt8 := 4

/-- Hash table entry for IP decisions. Padding and the raw byte layout are left out. -/
structure ShmHashEntry where
  hash : UInt32
  family : UInt8
  decisionTypes : UInt8
  origin : UInt8
  flags : UInt8
  prefixLen : UInt8
  addr : Vector UInt8 16
  expires : DecisionExpiry
  scenarioId : UInt16
  deriving DecidableEq, Repr

namespace ShmHashEntry

def empty : ShmHashEntry :=
  { hash := HASH_EMPTY, family := 0, decisionTypes := 0, origin := 0, flags := 0,
    prefixLen := 0, addr := Vector.replicate 16 0, expires := DecisionExpiry.empty,
    scenarioId := 0 }

def isEmpty (e : ShmHashEntry) : Bool := e.hash == HASH_EMPTY

def isTombstone (e : ShmHashEntry) : Bool :=
  e.hash == HASH_TOMBSTONE || e.flags &&& FLAG_TOMBSTONE != 0

def isVacant (e : ShmHashEntry) : Bool := e.isEmpty || e.isTombstone

def isCidr (e : ShmHashEntry) : Bool := e.flags &&& FLAG_IS_CIDR != 0

def markTombstone (e : ShmHashEntry) : ShmHashEntry :=
  { e with hash := HASH_TOMBSTONE, flags := e.flags ||| FLAG_TOMBSTONE, decisionTypes := 0 }

def hasDecisions (e : ShmHashEntry) : Bool := e.decisionTypes != 0

def removeDecisionType (e : ShmHashEntry) (dt : DecisionType) : ShmHashEntry :=
  { e with decisionTypes := e.decisionTypes &&& ~~~dt.toBit
           expires := e.expires.clearBit dt.toBit }

/-- Drop expired bits so the slot can be tombstoned or reused. -/
def pruneExpired (e : ShmHashEntry) (now : ℤ) : ShmHashEntry :=
  { e with decisionTypes := (e.expires.pruneInactive e.decisionTypes now).2
           expires := (e.expires.pruneInactive e.decisionTypes now).1 }

/-- Merge one more decision into a live entry, as both adding functions do. -/
def mergeDecision (e : ShmHashEntry) (dt : DecisionType) (origin : Origin) (scenarioId : UInt16)
    (expires : ℤ) : ShmHashEntry :=
  { e with expires := e.expires.merge e.decisionTypes dt.toBit expires
           decisionTypes := e.decisionTypes ||| dt.toBit
           origin := origin.toU8
           scenarioId := if scenarioId = 0 then e.scenarioId else scenarioId }

/-- Check if this entry matches an exact IP (not CIDR). -/
def matchesIp (e : ShmHashEntry) (ip : IpAddr) : Bool :=
  if e.isVacant then false
  else match ip with
    | .v4 o => e.family == 4 && !e.isCidr && e.addr.toList.take 4 == o.toList
    | .v6 o => e.family == 6 && !e.isCidr && e.addr == o

end ShmHashEntry

/-- The number of octets of a network address (`if family == 4 { 4 } else { 16 }`). -/
def networkLen (family : UInt8) : ℕ := if family = 4 then 4 else 16

/-- Check if this entry matches a CIDR key (network + prefix). A slice shorter than its
family's length matches nothing: the source panics there, before it has changed anything. -/
def ShmHashEntry.matchesCidr (e : ShmHashEntry) (family prefixLen : UInt8)
    (network : List UInt8) : Bool :=
  if e.isVacant || !e.isCidr then false
  else if e.family != family || e.prefixLen != prefixLen then false
  else e.addr.toList.take (networkLen family) == network.take (networkLen family)

namespace ShmHashEntry

def originOf (e : ShmHashEntry) : Origin := Origin.fromU8 e.origin

def decisionTypeAt (e : ShmHashEntry) (now : ℤ) : DecisionType :=
  DecisionType.fromBitmask (e.expires.activeMask e.decisionTypes now)

def isExpiredAt (e : ShmHashEntry) (now : ℤ) : Bool :=
  e.expires.activeMask e.decisionTypes now == 0

end ShmHashEntry

/-! ### Hash functions -/

def FNV_OFFSET : UInt32 := 2166136261

def FNV_PRIME : UInt32 := 16777619

/-- One byte of FNV-1a, with wrapping multiplication. -/
def fnvStep (hash : UInt32) (byte : UInt8) : UInt32 := (hash ^^^ byte.toUInt32) * FNV_PRIME

/-- Ensure hash is at least 2 (0 = empty, 1 = tombstone). -/
def avoidMarkers (hash : UInt32) : UInt32 := if hash < 2 then hash + 2 else hash

/-- FNV-1a hash function for IP addresses; the family marker is mixed in without a
multiplication. -/
def hashIp (ip : IpAddr) : UInt32 :=
  avoidMarkers (ip.octets.foldl fnvStep (FNV_OFFSET ^^^ ip.family.toUInt32))

/-- Hash function for CIDR entries (network address + prefix length); missing network
bytes count as zero. -/
def hashCidr (family prefixLen : UInt8) (network : List UInt8) : UInt32 :=
  let hash := fnvStep (fnvStep FNV_OFFSET family) prefixLen
  let bytes := (List.range (networkLen family)).map fun i => network.getD i 0
  avoidMarkers (bytes.foldl fnvStep hash)

theorem two_le_avoidMarkers (hash : UInt32) : 2 ≤ avoidMarkers hash := by
  rw [avoidMarkers]
  split_ifs with h
  · have hlt : hash.toNat < 2 := UInt32.lt_iff_toNat_lt.mp h
    refine UInt32.le_iff_toNat_le.mpr ?_
    rw [UInt32.toNat_add]
    change 2 ≤ (hash.toNat + 2) % 2 ^ 32
    omega
  · exact UInt32.not_lt.mp h

/-! ### Keys -/

/-- What a record of the table is filed under. -/
inductive Key
  | ip (addr : IpAddr)
  | cidr (family prefixLen : UInt8) (network : List UInt8)
  deriving DecidableEq, Repr

namespace Key

/-- The key of a network given as a slice: only the octets of its family count. -/
def ofCidr (family prefixLen : UInt8) (network : List UInt8) : Key :=
  .cidr family prefixLen (network.take (networkLen family))

def hash : Key → UInt32
  | .ip addr => hashIp addr
  | .cidr family prefixLen network => hashCidr family prefixLen network

/-- The entry's own check against a key: `matches_ip` or `matches_cidr`. -/
def matchesEntry : Key → ShmHashEntry → Bool
  | .ip addr, e => e.matchesIp addr
  | .cidr family prefixLen network, e => e.matchesCidr family prefixLen network

/-- Keys that an entry can be built for. -/
def Valid : Key → Prop
  | .ip _ => True
  | .cidr family prefixLen network =>
    (family = 4 ∧ prefixLen ≤ 32 ∨ family = 6 ∧ prefixLen ≤ 128) ∧
      network.length = networkLen family

/-- Keys as callers can name them: at most the octets of the family. -/
def Normal : Key → Prop
  | .ip _ => True
  | .cidr family _ network => network.length ≤ networkLen family

theorem Valid.normal {k : Key} (h : k.Valid) : k.Normal := by
  cases k with
  | ip addr => trivial
  | cidr family prefixLen network => exact h.2.le

theorem normal_ofCidr (family prefixLen : UInt8) (network : List UInt8) :
    (ofCidr family prefixLen network).Normal :=
  List.length_take_le _ _

/-- The hash of a key is neither slot marker. -/
theorem two_le_hash (k : Key) : 2 ≤ k.hash := by
  cases k with
  | ip addr => exact two_le_avoidMarkers _
  | cidr family prefixLen network => exact two_le_avoidMarkers _

theorem hash_ofCidr (family prefixLen : UInt8) (network : List UInt8) :
    (ofCidr family prefixLen network).hash = hashCidr family prefixLen network := by
  have hbytes : (List.range (networkLen family)).map
        (fun i => (network.take (networkLen family)).getD i 0) =
      (List.range (networkLen family)).map fun i => network.getD i 0 := by
    refine List.map_congr_left fun i hi => ?_
    rw [List.getD_eq_getElem?_getD, List.getD_eq_getElem?_getD,
      List.getElem?_take_of_lt (List.mem_range.mp hi)]
  simp only [ofCidr, hash, hashCidr, hbytes]

theorem matchesEntry_ofCidr (family prefixLen : UInt8) (network : List UInt8)
    (e : ShmHashEntry) :
    (ofCidr family prefixLen network).matchesEntry e =
      e.matchesCidr family prefixLen network := by
  simp only [ofCidr, matchesEntry, ShmHashEntry.matchesCidr, List.take_take, min_self]

end Key

/-! ### The key of an entry -/

namespace ShmHashEntry

/-- The key an entry is filed under, read off its fields. -/
def key (e : ShmHashEntry) : Key :=
  if e.isCidr then .cidr e.family e.prefixLen (e.addr.toList.take (networkLen e.family))
  else if e.family = 4 then .ip (.v4 ⟨⟨e.addr.toList.take 4⟩, by simp⟩)
  else .ip (.v6 e.addr)

/-- An occupied slot's entry: it is stored under the hash of its own key, and its mask
has no unknown bits. -/
structure WellKeyed (e : ShmHashEntry) : Prop where
  occupied : e.isVacant = false
  family : e.family = 4 ∨ e.family = 6
  valid : e.key.Valid
  hash_eq : e.hash = e.key.hash
  mask_lt : e.decisionTypes < 4

/-- Two entries agree on everything the key is read from. -/
def SameKeyFields (e e' : ShmHashEntry) : Prop :=
  e'.hash = e.hash ∧ e'.family = e.family ∧ e'.flags = e.flags ∧ e'.prefixLen = e.prefixLen ∧
    e'.addr = e.addr

variable {e e' : ShmHashEntry} {k : Key}

theorem SameKeyFields.trans {e'' : ShmHashEntry} (h : SameKeyFields e e')
    (h' : SameKeyFields e' e'') : SameKeyFields e e'' :=
  ⟨h'.1.trans h.1, h'.2.1.trans h.2.1, h'.2.2.1.trans h.2.2.1, h'.2.2.2.1.trans h.2.2.2.1,
    h'.2.2.2.2.trans h.2.2.2.2⟩

theorem SameKeyFields.isVacant (h : SameKeyFields e e') : e'.isVacant = e.isVacant := by
  obtain ⟨hhash, -, hflags, -, -⟩ := h
  simp only [ShmHashEntry.isVacant, isEmpty, isTombstone, hhash, hflags]

theorem SameKeyFields.key (h : SameKeyFields e e') : e'.key = e.key := by
  cases e
  cases e'
  simp only [SameKeyFields] at h
  obtain ⟨-, rfl, rfl, rfl, rfl⟩ := h
  rfl

/-- Updating the decisions of an entry leaves it filed where it was. -/
theorem WellKeyed.of_sameKeyFields (h : e.WellKeyed) (hsame : SameKeyFields e e')
    (hmask : e'.decisionTypes < 4) : e'.WellKeyed where
  occupied := hsame.isVacant ▸ h.occupied
  family := hsame.2.1 ▸ h.family
  valid := hsame.key ▸ h.valid
  hash_eq := by rw [hsame.1, hsame.key, h.hash_eq]
  mask_lt := hmask

theorem sameKeyFields_pruneExpired (now : ℤ) : SameKeyFields e (e.pruneExpired now) :=
  ⟨rfl, rfl, rfl, rfl, rfl⟩

theorem sameKeyFields_removeDecisionType (dt : DecisionType) :
    SameKeyFields e (e.removeDecisionType dt) :=
  ⟨rfl, rfl, rfl, rfl, rfl⟩

theorem sameKeyFields_mergeDecision (dt : DecisionType) (o : Origin) (sid : UInt16) (x : ℤ) :
    SameKeyFields e (e.mergeDecision dt o sid x) :=
  ⟨rfl, rfl, rfl, rfl, rfl⟩

@[simp] theorem isTombstone_markTombstone : e.markTombstone.isTombstone = true := by
  simp [markTombstone, isTombstone, HASH_TOMBSTONE]

@[simp] theorem isVacant_markTombstone : e.markTombstone.isVacant = true := by
  simp [isVacant]

/-- A tombstone is not an empty slot. -/
@[simp] theorem isEmpty_markTombstone : e.markTombstone.isEmpty = false := rfl

theorem isEmpty_of_occupied (h : e.isVacant = false) : e.isEmpty = false := by
  rw [isVacant, Bool.or_eq_false_iff] at h
  exact h.1

theorem isTombstone_of_occupied (h : e.isVacant = false) : e.isTombstone = false := by
  rw [isVacant, Bool.or_eq_false_iff] at h
  exact h.2

end ShmHashEntry

/-- A vacant entry matches no key. -/
theorem Key.matchesEntry_of_vacant {k : Key} {e : ShmHashEntry} (h : e.isVacant = true) :
    k.matchesEntry e = false := by
  cases k with
  | ip addr => simp [matchesEntry, ShmHashEntry.matchesIp, h]
  | cidr family prefixLen network => simp [matchesEntry, ShmHashEntry.matchesCidr, h]

/-- **An entry matches its own key only.** -/
theorem Key.matchesEntry_iff {k : Key} {e : ShmHashEntry} (hk : k.Normal) (he : e.WellKeyed) :
    k.matchesEntry e = true ↔ k = e.key := by
  have hvacant := he.occupied
  cases k with
  | ip addr =>
    cases hcidr : e.isCidr with
    | true => cases addr <;> simp [matchesEntry, ShmHashEntry.matchesIp, ShmHashEntry.key, hcidr]
    | false =>
      cases addr with
      | v4 o =>
        -- only the first four octets count, here and in the key
        by_cases hfam : e.family = 4
        · simp only [matchesEntry, ShmHashEntry.matchesIp, ShmHashEntry.key, hvacant, hcidr, hfam,
            Bool.false_eq_true, if_false, if_true, Key.ip.injEq, IpAddr.v4.injEq]
          simp only [beq_self_eq_true, Bool.not_false, Bool.and_self, Bool.true_and, beq_iff_eq]
          rw [← Vector.toList_inj, eq_comm]
          rfl
        · simp [matchesEntry, ShmHashEntry.matchesIp, ShmHashEntry.key, hcidr, hfam]
      | v6 o =>
        rcases he.family with hfam | hfam
        · simp [matchesEntry, ShmHashEntry.matchesIp, ShmHashEntry.key, hvacant, hcidr, hfam]
        · simp only [matchesEntry, ShmHashEntry.matchesIp, ShmHashEntry.key, hvacant, hcidr, hfam,
            Bool.false_eq_true, if_false, Bool.not_false, Bool.true_and, beq_iff_eq,
            beq_self_eq_true, Key.ip.injEq, show (6 : UInt8) ≠ 4 by decide, IpAddr.v6.injEq]
          exact eq_comm
  | cidr family prefixLen network =>
    cases hcidr : e.isCidr with
    | false =>
      simp only [matchesEntry, ShmHashEntry.matchesCidr, ShmHashEntry.key, hvacant, hcidr]
      split_ifs <;> simp_all
    | true =>
      simp only [matchesEntry, ShmHashEntry.matchesCidr, ShmHashEntry.key, hvacant, hcidr,
        List.take_of_length_le hk]
      by_cases hfam : e.family = family
      · by_cases hpre : e.prefixLen = prefixLen
        · subst hfam hpre
          simp only [Bool.not_true, Bool.or_self, Bool.false_eq_true, if_false, bne_self_eq_false,
            beq_iff_eq, if_true, Key.cidr.injEq, true_and]
          exact eq_comm
        · simp [hpre, Ne.symm hpre]
      · simp [hfam, Ne.symm hfam]

/-! ### Building entries -/

/-- The 16 address bytes of an entry: the given octets, then zeros. -/
def addrBytes (octets : List UInt8) : Vector UInt8 16 :=
  Vector.ofFn fun i => octets.getD i 0

theorem take_addrBytes {octets : List UInt8} (h : octets.length ≤ 16) :
    (addrBytes octets).toList.take octets.length = octets := by
  refine List.ext_getElem (by simp [h]) fun i h₁ h₂ => ?_
  simp [addrBytes, List.getElem_take, h₂]

theorem addrBytes_toList (o : Vector UInt8 16) : addrBytes o.toList = o := by
  ext i hi
  simp [addrBytes]

/-- The entry built for an IP address. -/
def newIpEntry (ip : IpAddr) (dt : DecisionType) (origin : Origin) (scenarioId : UInt16)
    (expires : ℤ) : ShmHashEntry :=
  { hash := hashIp ip
    family := ip.family
    decisionTypes := dt.toBit
    origin := origin.toU8
    flags := 0
    prefixLen := if ip.family = 4 then 32 else 128
    addr := addrBytes ip.octets
    expires := DecisionExpiry.empty.merge 0 dt.toBit expires
    scenarioId := scenarioId }

/-- The entry built for a network. -/
def newCidrEntry (family prefixLen : UInt8) (network : List UInt8) (dt : DecisionType)
    (origin : Origin) (scenarioId : UInt16) (expires : ℤ) : ShmHashEntry :=
  { hash := hashCidr family prefixLen network
    family := family
    decisionTypes := dt.toBit
    origin := origin.toU8
    flags := FLAG_IS_CIDR
    prefixLen := prefixLen
    addr := addrBytes (network.take (networkLen family))
    expires := DecisionExpiry.empty.merge 0 dt.toBit expires
    scenarioId := scenarioId }

theorem isCidr_newIpEntry (ip : IpAddr) (dt : DecisionType) (o : Origin) (sid : UInt16) (x : ℤ) :
    (newIpEntry ip dt o sid x).isCidr = false :=
  show ((0 : UInt8) &&& FLAG_IS_CIDR != 0) = false by decide

theorem toBit_lt (dt : DecisionType) : dt.toBit < 4 := by
  cases dt <;> decide

private theorem isVacant_of_two_le {e : ShmHashEntry} (hhash : 2 ≤ e.hash)
    (hflags : e.flags &&& FLAG_TOMBSTONE = 0) : e.isVacant = false := by
  have hne (m : UInt32) (hm : m < 2) : e.hash ≠ m := fun h =>
    absurd (h ▸ hhash) (UInt32.not_le.mpr hm)
  simp [ShmHashEntry.isVacant, ShmHashEntry.isEmpty, ShmHashEntry.isTombstone, hflags,
    hne HASH_EMPTY (by decide), hne HASH_TOMBSTONE (by decide)]

theorem wellKeyed_newIpEntry (ip : IpAddr) (dt : DecisionType) (o : Origin) (sid : UInt16)
    (x : ℤ) : (newIpEntry ip dt o sid x).WellKeyed ∧ (newIpEntry ip dt o sid x).key = .ip ip := by
  have hkey : (newIpEntry ip dt o sid x).key = .ip ip := by
    cases ip with
    | v4 octets =>
      have hle : octets.toList.length ≤ 16 := by simp
      have htake := take_addrBytes hle
      rw [Vector.length_toList] at htake
      simp only [ShmHashEntry.key, ShmHashEntry.isCidr, newIpEntry, IpAddr.family,
        IpAddr.octets, htake]
      rfl
    | v6 octets =>
      simp [ShmHashEntry.key, ShmHashEntry.isCidr, newIpEntry, IpAddr.family, IpAddr.octets,
        addrBytes_toList]
  refine ⟨⟨?_, ?_, ?_, ?_, toBit_lt dt⟩, hkey⟩
  · exact isVacant_of_two_le (Key.two_le_hash (.ip ip))
      (show (0 : UInt8) &&& FLAG_TOMBSTONE = 0 by decide)
  · cases ip with
    | v4 octets => exact .inl rfl
    | v6 octets => exact .inr rfl
  · rw [hkey]
    trivial
  · rw [hkey]
    rfl

theorem wellKeyed_newCidrEntry {family prefixLen : UInt8} {network : List UInt8}
    (hvalid : (Key.ofCidr family prefixLen network).Valid) (dt : DecisionType) (o : Origin)
    (sid : UInt16) (x : ℤ) :
    (newCidrEntry family prefixLen network dt o sid x).WellKeyed ∧
      (newCidrEntry family prefixLen network dt o sid x).key =
        .ofCidr family prefixLen network := by
  have hlen : (network.take (networkLen family)).length = networkLen family := hvalid.2
  have hkey : (newCidrEntry family prefixLen network dt o sid x).key =
      .ofCidr family prefixLen network := by
    have hle : networkLen family ≤ 16 := by
      rw [networkLen]
      split_ifs <;> omega
    have htake := take_addrBytes (hlen.trans_le hle)
    rw [hlen] at htake
    simp [ShmHashEntry.key, ShmHashEntry.isCidr, newCidrEntry, FLAG_IS_CIDR, Key.ofCidr, htake]
  refine ⟨⟨?_, ?_, ?_, ?_, toBit_lt dt⟩, hkey⟩
  · refine isVacant_of_two_le ?_ (show FLAG_IS_CIDR &&& FLAG_TOMBSTONE = 0 by decide)
    exact two_le_avoidMarkers _
  · exact hvalid.1.imp And.left And.left
  · rw [hkey]
    exact hvalid
  · rw [hkey, Key.hash_ofCidr]
    rfl

end CrowdSecBouncer
