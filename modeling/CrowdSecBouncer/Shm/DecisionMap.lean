import CrowdSecBouncer.Shm.Table

/-!
# The decision cache as a plain map

What the table is for: a map from keys to records, where a record carries an independent
deadline for each decision type together with the origin and scenario of its latest
decision. Adding merges into a record that is still alive and replaces one that is not;
removing forgets one type. Nothing expires: a deadline that has passed is simply not
active.

An address is answered by its own record if that one is alive, else by the living record of
the longest network containing it (`IsAnswer`).
-/

namespace CrowdSecBouncer

open PrefixMatch

/-- A record: a deadline for each decision type, and where the latest decision came from. -/
structure DecisionRecord (T : Type*) where
  deadline : DecisionType → Deadline T
  origin : Origin
  scenarioId : UInt16

/-- The plain map. -/
abbrev DecisionMap (K T : Type*) := K → Option (DecisionRecord T)

namespace DecisionRecord

variable {T : Type*} [LinearOrder T]

/-- Some decision of the record is in force. -/
def Alive (r : DecisionRecord T) (t : T) : Prop := ∃ dt, (r.deadline dt).Active t

/-- A record with one decision. -/
def single (dt : DecisionType) (d : Deadline T) (o : Origin) (sid : UInt16) : DecisionRecord T :=
  ⟨Function.update (fun _ => ⊥) dt d, o, sid⟩

/-- One more decision in a record; scenario `0` names none and keeps the one it has. -/
def merge (r : DecisionRecord T) (dt : DecisionType) (d : Deadline T) (o : Origin)
    (sid : UInt16) : DecisionRecord T :=
  ⟨Function.update r.deadline dt (r.deadline dt ⊔ d), o, if sid = 0 then r.scenarioId else sid⟩

open Classical in
/-- The record after adding a decision at `t`: merged if the old one is alive, else new. -/
noncomputable def added (old : Option (DecisionRecord T)) (t : T) (dt : DecisionType)
    (d : Deadline T) (o : Origin) (sid : UInt16) : DecisionRecord T :=
  match old with
  | some r => if r.Alive t then r.merge dt d o sid else single dt d o sid
  | none => single dt d o sid

/-- Forget the decision of one type. -/
def forget (r : DecisionRecord T) (dt : DecisionType) : DecisionRecord T :=
  { r with deadline := Function.update r.deadline dt ⊥ }

omit [LinearOrder T] in
@[simp] theorem single_deadline (dt dt' : DecisionType) (d : Deadline T) (o : Origin)
    (sid : UInt16) : (single dt d o sid).deadline dt' = if dt' = dt then d else ⊥ :=
  Function.update_apply (fun _ => ⊥) dt d dt'

@[simp] theorem merge_deadline (r : DecisionRecord T) (dt dt' : DecisionType) (d : Deadline T)
    (o : Origin) (sid : UInt16) : (r.merge dt d o sid).deadline dt' =
      if dt' = dt then r.deadline dt ⊔ d else r.deadline dt' :=
  Function.update_apply ..

omit [LinearOrder T] in
@[simp] theorem forget_deadline (r : DecisionRecord T) (dt dt' : DecisionType) :
    (r.forget dt).deadline dt' = if dt' = dt then ⊥ else r.deadline dt' :=
  Function.update_apply ..

open Classical in
/-- The answer of a record that is alive: a ban comes first. -/
noncomputable def answer (r : DecisionRecord T) (t : T) : LookupResult :=
  ⟨true, if (r.deadline .ban).Active t then .ban else .captcha, r.origin, r.scenarioId⟩

theorem answer_of_ban {r : DecisionRecord T} {t : T} (h : (r.deadline .ban).Active t) :
    (r.answer t).decisionType = .ban :=
  if_pos h

theorem answer_of_not_ban {r : DecisionRecord T} {t : T} (h : ¬ (r.deadline .ban).Active t) :
    (r.answer t).decisionType = .captcha :=
  if_neg h

end DecisionRecord

namespace DecisionMap

section Operations

variable {K T : Type*} [DecidableEq K] [LinearOrder T]

/-- Add a decision at the time `t`. -/
noncomputable def add (m : DecisionMap K T) (k : K) (t : T) (dt : DecisionType) (d : Deadline T)
    (o : Origin) (sid : UInt16) : DecisionMap K T :=
  Function.update m k (some (DecisionRecord.added (m k) t dt d o sid))

/-- Remove the decision of one type. -/
def remove (m : DecisionMap K T) (k : K) (dt : DecisionType) : DecisionMap K T :=
  Function.update m k ((m k).map fun r => r.forget dt)

/-- The key has a record that is alive. -/
def AliveAt (m : DecisionMap K T) (k : K) (t : T) : Prop := ∃ r, m k = some r ∧ r.Alive t

end Operations

/-- A network contains an address when the two agree on the prefix. -/
def Contains (prefixLen : UInt8) (network : List UInt8) (ip : IpAddr) : Prop :=
  AgreeUpTo prefixLen.toNat (octetBits network) (octetBits ip.octets)

variable {T : Type*} [LinearOrder T]

/-- The longest network containing the address whose record is alive has the key `k`. -/
structure LongestAlive (m : DecisionMap Key T) (ip : IpAddr) (t : T) (prefixLen : UInt8)
    (network : List UInt8) : Prop where
  contains : Contains prefixLen network ip
  alive : m.AliveAt (.cidr ip.family prefixLen network) t
  longest : ∀ prefixLen' network', prefixLen < prefixLen' → Contains prefixLen' network' ip →
    ¬ m.AliveAt (.cidr ip.family prefixLen' network') t

/-- The answer of the map for an address: that of the exact record if it is alive, else that
of the longest living prefix, else not found. -/
inductive IsAnswer (m : DecisionMap Key T) (ip : IpAddr) (t : T) : LookupResult → Prop
  | exact {r : DecisionRecord T} (hrec : m (.ip ip) = some r) (halive : r.Alive t) :
      IsAnswer m ip t (r.answer t)
  | network {prefixLen : UInt8} {network : List UInt8} {r : DecisionRecord T}
      (hexact : ¬ m.AliveAt (.ip ip) t) (hlongest : m.LongestAlive ip t prefixLen network)
      (hrec : m (.cidr ip.family prefixLen network) = some r) : IsAnswer m ip t (r.answer t)
  | notFound (hexact : ¬ m.AliveAt (.ip ip) t)
      (hnone : ∀ prefixLen network, Contains prefixLen network ip →
        ¬ m.AliveAt (.cidr ip.family prefixLen network) t) :
      IsAnswer m ip t .notFound

end DecisionMap

/-! ### Masked networks -/

/-- The host bits of the network are zero. -/
def MaskedNetwork (family prefixLen : UInt8) (network : List UInt8) : Prop :=
  octetBits (network.take (networkLen family)) =
    maskBits prefixLen.toNat (octetBits (network.take (networkLen family)))

/-- Parse a CIDR string, from the point where its address and prefix length are parsed: the
network bytes, the family and the prefix length. -/
def parseCidr (addr : IpAddr) (prefixLen : UInt8) : Option (Vector UInt8 16 × UInt8 × UInt8) :=
  match addr with
  | .v4 octets =>
    if 32 < prefixLen then none
    else some (addrBytes (applyIpv4Mask octets prefixLen).toList, 4, prefixLen)
  | .v6 octets =>
    if 128 < prefixLen then none else some (applyIpv6Mask octets prefixLen, 6, prefixLen)

/-- The network of an address, masked by the routine of its family. -/
def IpAddr.networkOf (ip : IpAddr) (prefixLen : UInt8) : List UInt8 :=
  match ip with
  | .v4 octets => (applyIpv4Mask octets prefixLen).toList
  | .v6 octets => (applyIpv6Mask octets prefixLen).toList

theorem IpAddr.octetBits_networkOf (ip : IpAddr) (prefixLen : UInt8) :
    octetBits (ip.networkOf prefixLen) = maskBits prefixLen.toNat (octetBits ip.octets) := by
  cases ip with
  | v4 octets => exact octetBits_applyIpv4Mask octets prefixLen
  | v6 octets => exact octetBits_applyIpv6Mask octets prefixLen

theorem IpAddr.length_networkOf (ip : IpAddr) (prefixLen : UInt8) :
    (ip.networkOf prefixLen).length = networkLen ip.family := by
  cases ip <;> simp [networkOf, family, networkLen]

/-- What `parse_cidr` returns: the network of the address, when the prefix length fits. -/
theorem parseCidr_spec {addr : IpAddr} {p family prefixLen : UInt8} {network : Vector UInt8 16}
    (h : parseCidr addr p = some (network, family, prefixLen)) :
    prefixLen = p ∧ family = addr.family ∧ p.toNat ≤ familyWidth addr.family ∧
      network.toList.take (networkLen family) = addr.networkOf p := by
  cases addr with
  | v4 octets =>
    obtain ⟨hle, heq⟩ := Option.ite_none_left_eq_some.mp h
    obtain ⟨rfl, rfl, rfl⟩ : _ = network ∧ _ = family ∧ _ = prefixLen := by simpa using heq
    have hlen : (applyIpv4Mask octets p).toList.length ≤ 16 := by simp
    have htake := take_addrBytes hlen
    rw [Vector.length_toList] at htake
    exact ⟨rfl, rfl, UInt8.le_iff_toNat_le.mp (UInt8.not_lt.mp hle), htake⟩
  | v6 octets =>
    obtain ⟨hle, heq⟩ := Option.ite_none_left_eq_some.mp h
    obtain ⟨rfl, rfl, rfl⟩ : _ = network ∧ _ = family ∧ _ = prefixLen := by simpa using heq
    exact ⟨rfl, rfl, UInt8.le_iff_toNat_le.mp (UInt8.not_lt.mp hle),
      List.take_of_length_le (by simp [networkLen])⟩

/-- `parse_cidr` returns masked networks. -/
theorem maskedNetwork_of_parseCidr {addr : IpAddr} {p family prefixLen : UInt8}
    {network : Vector UInt8 16} (h : parseCidr addr p = some (network, family, prefixLen)) :
    MaskedNetwork family prefixLen network.toList := by
  have hmask : maskBits p.toNat (maskBits p.toNat (octetBits addr.octets)) =
      maskBits p.toNat (octetBits addr.octets) :=
    maskBits_eq_iff.mpr agreeUpTo_maskBits
  obtain ⟨rfl, rfl, -, hnetwork⟩ := parseCidr_spec h
  rw [MaskedNetwork, hnetwork, addr.octetBits_networkOf, hmask]

/-- Two addresses of one family have the same network when they agree on the prefix. -/
theorem IpAddr.networkOf_eq_iff {a b : IpAddr} {p : UInt8} (hfamily : a.family = b.family) :
    a.networkOf p = b.networkOf p ↔
      AgreeUpTo p.toNat (octetBits a.octets) (octetBits b.octets) := by
  rw [← maskBits_eq_iff, ← a.octetBits_networkOf, ← b.octetBits_networkOf]
  constructor
  · intro heq
    rw [heq]
  · intro heq
    refine octetBits_injective ?_ heq
    rw [a.length_networkOf, b.length_networkOf, hfamily]

/-- A masked network of the family of an address contains it exactly when it is the network
of the address. -/
theorem eq_networkOf_of_contains {ip : IpAddr} {prefixLen : UInt8} {network : List UInt8}
    (hlen : network.length = networkLen ip.family)
    (hmasked : octetBits network = maskBits prefixLen.toNat (octetBits network))
    (h : DecisionMap.Contains prefixLen network ip) : network = ip.networkOf prefixLen := by
  refine octetBits_injective (hlen.trans (ip.length_networkOf prefixLen).symm) ?_
  rw [hmasked, ip.octetBits_networkOf]
  exact maskBits_eq_iff.mpr h

theorem contains_networkOf (ip : IpAddr) (prefixLen : UInt8) :
    DecisionMap.Contains prefixLen (ip.networkOf prefixLen) ip := by
  rw [DecisionMap.Contains, ip.octetBits_networkOf]
  exact agreeUpTo_maskBits

/-! ### Runs of the plain map -/

/-- The plain map with the table of scenario names. -/
structure MapState where
  map : DecisionMap Key ℤ
  scenarios : List (List UInt8)

/-- A cleared map. -/
def MapState.cleared (scenarios : List (List UInt8)) : MapState := ⟨fun _ => none, scenarios⟩

/-- What a call means on the plain map. -/
noncomputable def MapState.apply (m : MapState) : TableOp → MapState
  | .addDecision info clock =>
    let (sid, scenarios) := scenarioIdOf m.scenarios info.scenario
    ⟨m.map.add (.ip info.ip) clock.now info.decisionType
      (DecisionExpiry.requested info.decisionType (expiresOf info.durationSecs clock))
      info.origin sid, scenarios⟩
  | .addCidrDecision info clock =>
    if cidrParamsValid info.family info.prefixLen info.network then
      let (sid, scenarios) := scenarioIdOf m.scenarios info.scenario
      ⟨m.map.add (.ofCidr info.family info.prefixLen info.network) clock.now info.decisionType
        (DecisionExpiry.requested info.decisionType (expiresOf info.durationSecs clock))
        info.origin sid, scenarios⟩
    else m
  | .removeDecisionType ip dt _ => { m with map := m.map.remove (.ip ip) dt }
  | .removeCidrDecisionType family prefixLen network dt _ =>
    { m with map := m.map.remove (.ofCidr family prefixLen network) dt }
  | .clearAll => { m with map := fun _ => none }

noncomputable def MapState.run (m : MapState) (ops : List TableOp) : MapState :=
  ops.foldl MapState.apply m

/-- A call that adds a network adds a masked one. -/
def TableOp.Masked : TableOp → Prop
  | .addCidrDecision info _ => MaskedNetwork info.family info.prefixLen info.network
  | _ => True

end CrowdSecBouncer
