import CrowdSecBouncer.Foundations.CircularProbe
import CrowdSecBouncer.Foundations.PrefixMatch
import CrowdSecBouncer.Shm.Entry
import Mathlib.Data.Int.Basic

/-!
# The decision table

The shared-memory table is one array of entries with open addressing, linear probing and
tombstones. Every operation here runs under the zone's lock, so it is a function on
`ShmData`; the lock itself and the poller election are the subject of `Shm.Poller`.

The writing operations read the system clock up to three times: for the deadline of the new
decision, for pruning the entry they found, and for evicting. `CallClock` holds the three
readings, so that nothing has to be assumed about how they relate.
-/

namespace CrowdSecBouncer

open CircularProbe

/-- Maximum number of unique scenarios. -/
def MAX_SCENARIOS : ℕ := 256

/-- Maximum length of a scenario string. -/
def MAX_SCENARIO_LEN : ℕ := 127

/-- Shared memory data header with its tables. `scenarios` holds the rows in use, each as
its `len` bytes; slots from `capacity` on are not part of the table. -/
structure ShmData where
  count : ℕ
  capacity : ℕ
  scenarios : List (List UInt8)
  version : UInt64
  clockHand : ℕ
  evictionCount : UInt32
  cidrPrefixes : Vector UInt64 3
  entries : ℕ → ShmHashEntry

/-- A freshly initialised zone with room for `capacity` entries. -/
def ShmData.fresh (capacity : ℕ) : ShmData :=
  { count := 0, capacity, scenarios := [], version := 0, clockHand := 0, evictionCount := 0,
    cidrPrefixes := #v[0, 0, 0], entries := fun _ => ShmHashEntry.empty }

/-! ### Prefix bitmap and scenario table -/

def prefixIsPresent (s : ShmData) (pre : UInt8) : Bool :=
  if h : pre.toNat / 64 < 3 then
    s.cidrPrefixes[pre.toNat / 64] &&& (1 <<< UInt64.ofNat (pre.toNat % 64)) != 0
  else false

def markPrefixPresent (s : ShmData) (pre : UInt8) : ShmData :=
  if h : pre.toNat / 64 < 3 then
    let word := s.cidrPrefixes[pre.toNat / 64] ||| (1 <<< UInt64.ofNat (pre.toNat % 64))
    { s with cidrPrefixes := s.cidrPrefixes.set (pre.toNat / 64) word }
  else s

@[simp] theorem markPrefixPresent_entries (s : ShmData) (pre : UInt8) :
    (markPrefixPresent s pre).entries = s.entries := by
  rw [markPrefixPresent]
  split <;> rfl

@[simp] theorem markPrefixPresent_capacity (s : ShmData) (pre : UInt8) :
    (markPrefixPresent s pre).capacity = s.capacity := by
  rw [markPrefixPresent]
  split <;> rfl

@[simp] theorem markPrefixPresent_clockHand (s : ShmData) (pre : UInt8) :
    (markPrefixPresent s pre).clockHand = s.clockHand := by
  rw [markPrefixPresent]
  split <;> rfl

@[simp] theorem markPrefixPresent_scenarios (s : ShmData) (pre : UInt8) :
    (markPrefixPresent s pre).scenarios = s.scenarios := by
  rw [markPrefixPresent]
  split <;> rfl

def cidrParamsValid (family prefixLen : UInt8) (network : List UInt8) : Bool :=
  if family = 4 then prefixLen ≤ 32 && 4 ≤ network.length
  else if family = 6 then prefixLen ≤ 128 && 16 ≤ network.length
  else false

/-- Find or create a scenario ID for the given scenario string: 1-based, or 0 if the table
is full. A string longer than a row is cut when stored and never found again. -/
def getOrCreateScenarioId (scenarios : List (List UInt8)) (scenario : List UInt8) :
    UInt16 × List (List UInt8) :=
  match scenarios.findIdx? (· == scenario) with
  | some i => (UInt16.ofNat (i + 1), scenarios)
  | none =>
    if scenarios.length < MAX_SCENARIOS then
      (UInt16.ofNat (scenarios.length + 1), scenarios ++ [scenario.take MAX_SCENARIO_LEN])
    else (0, scenarios)

/-- The scenario of a call, `0` when it names none. -/
def scenarioIdOf (scenarios : List (List UInt8)) (scenario : Option (List UInt8)) :
    UInt16 × List (List UInt8) :=
  match scenario with
  | some name => getOrCreateScenarioId scenarios name
  | none => (0, scenarios)

/-! ### Finding slots -/

section Slots

variable (entries : ℕ → ShmHashEntry) (capacity : ℕ) (hash : UInt32)

/-- Find entry by hash using linear probing: the slot index, and whether the entry
matches. -/
def findSlotIp (ip : IpAddr) : ℕ × Bool :=
  probe capacity ShmHashEntry.isEmpty
    (fun e => !e.isTombstone && e.hash == hash && e.matchesIp ip) entries
    (hash.toNat % capacity)

/-- Find entry by CIDR key using linear probing. -/
def findSlotCidr (family prefixLen : UInt8) (network : List UInt8) : ℕ × Bool :=
  probe capacity ShmHashEntry.isEmpty
    (fun e => !e.isTombstone && e.hash == hash && e.matchesCidr family prefixLen network) entries
    (hash.toNat % capacity)

/-- Find first vacant slot (empty or tombstone) for insertion. -/
def findVacantSlot : Option ℕ :=
  circularScan capacity (hash.toNat % capacity) fun idx =>
    if (entries idx).isVacant then some idx else none

end Slots

/-! ### Eviction -/

/-- Overwrite one slot. -/
def writeEntry (s : ShmData) (i : ℕ) (e : ShmHashEntry) : ShmData :=
  { s with entries := Function.update s.entries i e }

@[simp] theorem writeEntry_entries (s : ShmData) (i : ℕ) (e : ShmHashEntry) :
    (writeEntry s i e).entries = Function.update s.entries i e := rfl

/-- Evict the entry under the clock hand and move the hand past it. -/
def evictAt (s : ShmData) (hand : ℕ) : ShmData :=
  { s with
    entries := Function.update s.entries hand (s.entries hand).markTombstone
    count := s.count - 1
    evictionCount := s.evictionCount + 1
    clockHand := (hand + 1) % s.capacity }

@[simp] theorem evictAt_entries (s : ShmData) (i : ℕ) :
    (evictAt s i).entries = Function.update s.entries i (s.entries i).markTombstone := rfl

/-- One round of the clock hand; `expiredOnly` restricts it to expired entries. -/
def evictClockMatching (s : ShmData) (now : ℤ) (expiredOnly : Bool) : Option (ℕ × ShmData) :=
  (circularScan s.capacity s.clockHand fun hand =>
    if !(s.entries hand).isVacant && (!expiredOnly || (s.entries hand).isExpiredAt now)
    then some hand else none).map fun hand => (hand, evictAt s hand)

/-- Evict an entry in round-robin order, preferring slots whose decisions have expired. -/
def evictClock (s : ShmData) (now : ℤ) : Option (ℕ × ShmData) :=
  (evictClockMatching s now true).or (evictClockMatching s now false)

/-! ### Adding decisions -/

/-- Count an update. -/
def bumpVersion (s : ShmData) : ShmData := { s with version := s.version + 1 }

/-- Clock readings of one call, in seconds since the epoch. The reading for the deadline is
`none` when the clock stands before the epoch; the other two are then `0`. -/
structure CallClock where
  deadline : Option ℤ
  now : ℤ
  evict : ℤ
  deriving DecidableEq, Repr

/-- The deadline of a call: none without a duration, else the 64-bit sum. -/
def expiresOf (durationSecs : Option ℤ) (clock : CallClock) : ℤ :=
  match durationSecs, clock.deadline with
  | some d, some t => (t + d).bmod (2 ^ 64)
  | _, _ => 0

/-- Write a new entry into a vacant slot. -/
def placeEntry (s : ShmData) (slot : ℕ) (newEntry : ShmHashEntry) : ShmData :=
  { s with entries := Function.update s.entries slot newEntry
           count := s.count + 1
           version := s.version + 1 }

@[simp] theorem placeEntry_entries (s : ShmData) (i : ℕ) (e : ShmHashEntry) :
    (placeEntry s i e).entries = Function.update s.entries i e := rfl

/-- Find a vacant slot for insertion, evicting if there is none. -/
def insertEntry (s : ShmData) (newEntry : ShmHashEntry) (clock : CallClock) : ShmData :=
  match findVacantSlot s.entries s.capacity newEntry.hash with
  | some slot => placeEntry s slot newEntry
  | none =>
    match evictClock s clock.evict with
    | some (evicted, s) => placeEntry s evicted newEntry
    | none => s

/-- Turn a slot into a tombstone. -/
def buryEntry (s : ShmData) (slot : ℕ) : ShmData :=
  { s with entries := Function.update s.entries slot (s.entries slot).markTombstone
           count := s.count - 1 }

@[simp] theorem buryEntry_entries (s : ShmData) (i : ℕ) :
    (buryEntry s i).entries = Function.update s.entries i (s.entries i).markTombstone := rfl

/-- The common body of the two adding functions, after the search for the key: merge into a
live entry, else bury what was found and insert a new entry. -/
def upsertEntry (s : ShmData) (slot : ℕ × Bool) (dt : DecisionType) (origin : Origin)
    (scenarioId : UInt16) (expires : ℤ) (newEntry : ShmHashEntry) (clock : CallClock) : ShmData :=
  if slot.2 then
    let entry := (s.entries slot.1).pruneExpired clock.now
    if entry.hasDecisions then
      bumpVersion (writeEntry s slot.1 (entry.mergeDecision dt origin scenarioId expires))
    else insertEntry (buryEntry (writeEntry s slot.1 entry) slot.1) newEntry clock
  else insertEntry s newEntry clock

/-- Decision metadata for adding entries; the scenario is its UTF-8 bytes. -/
structure DecisionInfo where
  ip : IpAddr
  decisionType : DecisionType
  origin : Origin
  scenario : Option (List UInt8)
  durationSecs : Option ℤ
  deriving DecidableEq, Repr

/-- CIDR decision metadata. -/
structure CidrDecisionInfo where
  network : List UInt8
  family : UInt8
  prefixLen : UInt8
  decisionType : DecisionType
  origin : Origin
  scenario : Option (List UInt8)
  durationSecs : Option ℤ
  deriving DecidableEq, Repr

/-- Add a decision for an individual IP to shared memory. -/
def addDecision (s : ShmData) (info : DecisionInfo) (clock : CallClock) : ShmData :=
  let expires := expiresOf info.durationSecs clock
  let (scenarioId, scenarios) := scenarioIdOf s.scenarios info.scenario
  let s := { s with scenarios }
  upsertEntry s (findSlotIp s.entries s.capacity (hashIp info.ip) info.ip)
    info.decisionType info.origin scenarioId expires
    (newIpEntry info.ip info.decisionType info.origin scenarioId expires) clock

/-- Add a CIDR range decision to shared memory. After the parameter check the network slice
is long enough for the new entry. -/
def addCidrDecision (s : ShmData) (info : CidrDecisionInfo) (clock : CallClock) : ShmData :=
  if cidrParamsValid info.family info.prefixLen info.network then
    let expires := expiresOf info.durationSecs clock
    let s := markPrefixPresent s info.prefixLen
    let (scenarioId, scenarios) := scenarioIdOf s.scenarios info.scenario
    let s := { s with scenarios }
    upsertEntry s
      (findSlotCidr s.entries s.capacity (hashCidr info.family info.prefixLen info.network)
        info.family info.prefixLen info.network)
      info.decisionType info.origin scenarioId expires
      (newCidrEntry info.family info.prefixLen info.network info.decisionType info.origin
        scenarioId expires) clock
  else s

/-! ### Removing decisions -/

/-- The common body of the two removing functions, after the search for the key. -/
def removeFromSlot (s : ShmData) (slot : ℕ × Bool) (dt : DecisionType) (now : ℤ) : ShmData :=
  if slot.2 then
    let entry := ((s.entries slot.1).pruneExpired now).removeDecisionType dt
    let s := writeEntry s slot.1 entry
    bumpVersion (if entry.hasDecisions then s else buryEntry s slot.1)
  else s

/-- Remove a specific decision type for an IP from shared memory. -/
def removeDecisionType (s : ShmData) (ip : IpAddr) (dt : DecisionType) (now : ℤ) : ShmData :=
  removeFromSlot s (findSlotIp s.entries s.capacity (hashIp ip) ip) dt now

/-- Remove a specific decision type for a CIDR range from shared memory. -/
def removeCidrDecisionType (s : ShmData) (family prefixLen : UInt8) (network : List UInt8)
    (dt : DecisionType) (now : ℤ) : ShmData :=
  removeFromSlot s
    (findSlotCidr s.entries s.capacity (hashCidr family prefixLen network) family prefixLen
      network) dt now

/-- Clear all entries from shared memory. -/
def clearAll (s : ShmData) : ShmData :=
  { s with
    entries := fun _ => ShmHashEntry.empty
    count := 0
    clockHand := 0
    cidrPrefixes := #v[0, 0, 0]
    version := s.version + 1 }

@[simp] theorem isVacant_clearAll (s : ShmData) (i : ℕ) :
    ((clearAll s).entries i).isVacant = true := rfl

/-! ### Lookup -/

/-- Result of looking up an IP in shared memory. -/
structure LookupResult where
  found : Bool
  decisionType : DecisionType
  origin : Origin
  scenarioId : UInt16
  deriving DecidableEq, Repr

def LookupResult.notFound : LookupResult := ⟨false, .unknown, .unknown, 0⟩

/-- What a lookup answers from the slot it probed: nothing when the key is absent or its
decisions have expired. -/
def answerFromSlot (s : ShmData) (slot : ℕ × Bool) (now : ℤ) : Option LookupResult :=
  if slot.2 then
    let entry := s.entries slot.1
    if entry.isExpiredAt now then none
    else some ⟨true, entry.decisionTypeAt now, entry.originOf, entry.scenarioId⟩
  else none

/-- Lookup an address in CIDR entries, most specific to least specific. -/
def lookupCidr (s : ShmData) (family : UInt8) (width : ℕ) (network : UInt8 → List UInt8)
    (now : ℤ) : LookupResult :=
  (PrefixMatch.longestFirst width fun p =>
    let prefixLen := UInt8.ofNat p
    if prefixIsPresent s prefixLen then
      answerFromSlot s
        (findSlotCidr s.entries s.capacity (hashCidr family prefixLen (network prefixLen))
          family prefixLen (network prefixLen)) now
    else none).getD .notFound

/-- Lookup IPv4 address in CIDR entries. -/
def lookupCidrV4 (s : ShmData) (addr : Vector UInt8 4) (now : ℤ) : LookupResult :=
  lookupCidr s 4 32 (fun prefixLen => (applyIpv4Mask addr prefixLen).toList) now

/-- Lookup IPv6 address in CIDR entries. -/
def lookupCidrV6 (s : ShmData) (addr : Vector UInt8 16) (now : ℤ) : LookupResult :=
  lookupCidr s 6 128 (fun prefixLen => (applyIpv6Mask addr prefixLen).toList) now

/-- Check if an IP has a decision and return details: exact match first, then CIDR
ranges. -/
def lookupIp (s : ShmData) (ip : IpAddr) (now : ℤ) : LookupResult :=
  match answerFromSlot s (findSlotIp s.entries s.capacity (hashIp ip) ip) now with
  | some result => result
  | none =>
    match ip with
    | .v4 addr => lookupCidrV4 s addr now
    | .v6 addr => lookupCidrV6 s addr now

/-! ### Reaching the eviction -/

/-- The insertion finds no vacant slot and calls `evict_clock`. -/
def insertReachesEvictClock (s : ShmData) (hash : UInt32) : Bool :=
  (findVacantSlot s.entries s.capacity hash).isNone

/-- The common body of the adding functions calls `evict_clock`. -/
def upsertReachesEvictClock (s : ShmData) (slot : ℕ × Bool) (hash : UInt32) (now : ℤ) : Bool :=
  if slot.2 then
    let entry := (s.entries slot.1).pruneExpired now
    if entry.hasDecisions then false
    else insertReachesEvictClock (buryEntry (writeEntry s slot.1 entry) slot.1) hash
  else insertReachesEvictClock s hash

/-! ### Runs -/

/-- A call on the table with its clock readings. -/
inductive TableOp
  | addDecision (info : DecisionInfo) (clock : CallClock)
  | addCidrDecision (info : CidrDecisionInfo) (clock : CallClock)
  | removeDecisionType (ip : IpAddr) (dt : DecisionType) (now : ℤ)
  | removeCidrDecisionType (family prefixLen : UInt8) (network : List UInt8)
      (dt : DecisionType) (now : ℤ)
  | clearAll
  deriving DecidableEq, Repr

def TableOp.apply (s : ShmData) : TableOp → ShmData
  | .addDecision info clock => CrowdSecBouncer.addDecision s info clock
  | .addCidrDecision info clock => CrowdSecBouncer.addCidrDecision s info clock
  | .removeDecisionType ip dt now => CrowdSecBouncer.removeDecisionType s ip dt now
  | .removeCidrDecisionType family prefixLen network dt now =>
    CrowdSecBouncer.removeCidrDecisionType s family prefixLen network dt now
  | .clearAll => CrowdSecBouncer.clearAll s

/-- The call reaches `evict_clock`. -/
def TableOp.reachesEvictClock (s : ShmData) : TableOp → Bool
  | .addDecision info clock =>
    upsertReachesEvictClock s (findSlotIp s.entries s.capacity (hashIp info.ip) info.ip)
      (hashIp info.ip) clock.now
  | .addCidrDecision info clock =>
    let hash := hashCidr info.family info.prefixLen info.network
    cidrParamsValid info.family info.prefixLen info.network &&
      upsertReachesEvictClock s
        (findSlotCidr s.entries s.capacity hash info.family info.prefixLen info.network)
        hash clock.now
  | _ => false

/-- The clock reading of a call that counts as its time, if it makes one. -/
def TableOp.time? : TableOp → Option ℤ
  | .addDecision _ clock => some clock.now
  | .addCidrDecision _ clock => some clock.now
  | .removeDecisionType _ _ now => some now
  | .removeCidrDecisionType _ _ _ _ now => some now
  | .clearAll => none

/-- The table after a sequence of calls. -/
def TableOp.run (s : ShmData) (ops : List TableOp) : ShmData := ops.foldl TableOp.apply s

end CrowdSecBouncer
