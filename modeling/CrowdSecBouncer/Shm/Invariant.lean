import CrowdSecBouncer.Shm.Table
import Mathlib.Algebra.Order.Group.Nat
import Mathlib.Data.Finset.Card
import Mathlib.Data.Finset.Range

/-!
# The representation invariant of the decision table

`SlotsOk` is the invariant of the slot array: every occupied slot holds an entry filed
under its own key, no key occupies two slots, and every occupied slot is reached by a probe
for its hash without crossing an empty one. The array changes in three ways only, by
rewriting the decisions of an occupied slot, by burying a slot and by placing an entry in a
vacant one; each keeps `SlotsOk`, and `Holds` says what the array then contains.

`TableOk` adds the header fields. Every operation keeps it, from any state and at any clock
readings, so it holds after every run (`representationInvariant_run`).
-/

namespace CrowdSecBouncer

open CircularProbe

/-! ### The slot array -/

/-- The number of occupied slots. -/
def occupiedCount (C : ℕ) (entries : ℕ → ShmHashEntry) : ℕ :=
  ((Finset.range C).filter fun i => (entries i).isVacant = false).card

/-- Invariant of the slot array. -/
structure SlotsOk (C : ℕ) (entries : ℕ → ShmHashEntry) : Prop where
  wellKeyed : ∀ i < C, (entries i).isVacant = false → (entries i).WellKeyed
  unique : ∀ i < C, ∀ j < C, (entries i).isVacant = false → (entries j).isVacant = false →
    (entries i).key = (entries j).key → i = j
  path : ∀ i < C, (entries i).isVacant = false →
    PathClear C ShmHashEntry.isEmpty entries ((entries i).hash.toNat % C) i

/-- The array holds the entry `e` under the key `k`. -/
def Holds (C : ℕ) (entries : ℕ → ShmHashEntry) (k : Key) (e : ShmHashEntry) : Prop :=
  ∃ i < C, (entries i).isVacant = false ∧ entries i = e ∧ e.key = k

/-- Probing for a key; the two searches of the source are instances. -/
def findKey (entries : ℕ → ShmHashEntry) (C : ℕ) (k : Key) : ℕ × Bool :=
  probe C ShmHashEntry.isEmpty
    (fun e => !e.isTombstone && e.hash == k.hash && k.matchesEntry e) entries
    (k.hash.toNat % C)

variable {C : ℕ} {entries : ℕ → ShmHashEntry} {k : Key} {i : ℕ} {e : ShmHashEntry}

theorem findSlotIp_eq_findKey (ip : IpAddr) :
    findSlotIp entries C (hashIp ip) ip = findKey entries C (.ip ip) := rfl

theorem findSlotCidr_eq_findKey (family prefixLen : UInt8) (network : List UInt8) :
    findSlotCidr entries C (hashCidr family prefixLen network) family prefixLen network =
      findKey entries C (.ofCidr family prefixLen network) := by
  simp only [findSlotCidr, findKey, Key.hash_ofCidr, Key.matchesEntry_ofCidr]

/-- A probe for a key stops at an occupied slot exactly when the entry is filed under it. -/
private theorem hit_iff (hk : k.Normal) (he : e.WellKeyed) :
    (!e.isTombstone && e.hash == k.hash && k.matchesEntry e) = true ↔ e.key = k := by
  rw [Bool.and_eq_true, Key.matchesEntry_iff hk he, eq_comm (a := k)]
  refine and_iff_right_of_imp ?_
  rintro rfl
  simp [he.hash_eq, ShmHashEntry.isTombstone_of_occupied he.occupied]

private theorem not_hit_of_vacant (hvacant : e.isVacant = true) :
    (!e.isTombstone && e.hash == k.hash && k.matchesEntry e) = false := by
  rw [Key.matchesEntry_of_vacant hvacant, Bool.and_false]

namespace SlotsOk

variable (h : SlotsOk C entries)

include h

/-- **An occupied slot is found** by the probe for its key. -/
theorem findKey_eq (hk : k.Normal) (hi : i < C) (hocc : (entries i).isVacant = false)
    (hkey : (entries i).key = k) : findKey entries C k = (i, true) := by
  have hpath := h.path i hi hocc
  rw [(h.wellKeyed i hi hocc).hash_eq, hkey] at hpath
  refine probe_eq_of_pathClear (Nat.mod_lt _ (by omega)) hpath
    ((hit_iff hk (h.wellKeyed i hi hocc)).mpr hkey) fun j hj _ hhit => ?_
  cases hvacant : (entries j).isVacant with
  | true => exact absurd hhit (by rw [not_hit_of_vacant hvacant]; simp)
  | false =>
    have hkey' := (hit_iff hk (h.wellKeyed j hj hvacant)).mp hhit
    exact h.unique j hj i hi hvacant hocc (hkey'.trans hkey.symm)

/-- What a successful probe for a key has found. -/
theorem of_findKey (hC : 0 < C) (hk : k.Normal) (hfound : (findKey entries C k).2 = true) :
    (findKey entries C k).1 < C ∧ (entries (findKey entries C k).1).isVacant = false ∧
      (entries (findKey entries C k).1).key = k := by
  obtain ⟨hlt, -, hhit⟩ := probe_sound (Nat.mod_lt _ hC) hfound
  change _ < C at hlt
  cases hvacant : (entries (findKey entries C k).1).isVacant with
  | true => exact absurd hhit (by rw [findKey] at hvacant; rw [not_hit_of_vacant hvacant]; simp)
  | false => exact ⟨hlt, rfl, (hit_iff hk (h.wellKeyed _ hlt hvacant)).mp hhit⟩

/-- A failed probe: no slot is occupied by the key. -/
theorem of_findKey_eq_false (hk : k.Normal) (hnone : (findKey entries C k).2 = false)
    (hi : i < C) (hocc : (entries i).isVacant = false) : (entries i).key ≠ k := by
  intro hkey
  rw [h.findKey_eq hk hi hocc hkey] at hnone
  exact absurd hnone (by simp)

/-- Rewriting the decisions of an occupied slot. -/
theorem rewrite (hi : i < C) (hocc : (entries i).isVacant = false)
    (hsame : (entries i).SameKeyFields e) (hmask : e.decisionTypes < 4) :
    SlotsOk C (Function.update entries i e) := by
  have hvacant (j : ℕ) : (Function.update entries i e j).isVacant = (entries j).isVacant := by
    rcases eq_or_ne j i with rfl | hne
    · rw [Function.update_self, hsame.isVacant]
    · rw [Function.update_of_ne hne]
  have hkey (j : ℕ) : (Function.update entries i e j).key = (entries j).key := by
    rcases eq_or_ne j i with rfl | hne
    · rw [Function.update_self, hsame.key]
    · rw [Function.update_of_ne hne]
  refine ⟨fun j hj hj' => ?_, fun j hj j' hj' hocc₁ hocc₂ heq => ?_, fun j hj hj' => ?_⟩
  · rcases eq_or_ne j i with rfl | hne
    · rw [Function.update_self]
      exact (h.wellKeyed j hj hocc).of_sameKeyFields hsame hmask
    · rw [Function.update_of_ne hne] at hj' ⊢
      exact h.wellKeyed j hj hj'
  · rw [hvacant] at hocc₁ hocc₂
    rw [hkey, hkey] at heq
    exact h.unique j hj j' hj' hocc₁ hocc₂ heq
  · rw [hvacant] at hj'
    have hhash : (Function.update entries i e j).hash = (entries j).hash := by
      rcases eq_or_ne j i with rfl | hne
      · rw [Function.update_self, hsame.1]
      · rw [Function.update_of_ne hne]
    rw [hhash]
    refine (h.path j hj hj').update ?_
    exact ShmHashEntry.isEmpty_of_occupied (hsame.isVacant ▸ hocc)

/-- Burying a slot: the tombstone keeps the paths across it. -/
theorem bury (i : ℕ) : SlotsOk C (Function.update entries i (entries i).markTombstone) := by
  have hne {j : ℕ}
      (hj : (Function.update entries i (entries i).markTombstone j).isVacant = false) : j ≠ i := by
    rintro rfl
    rw [Function.update_self, ShmHashEntry.isVacant_markTombstone] at hj
    exact absurd hj (by simp)
  refine ⟨fun j hj hocc => ?_, fun j hj j' hj' hocc hocc' heq => ?_, fun j hj hocc => ?_⟩
  · have hji := hne hocc
    rw [Function.update_of_ne hji] at hocc ⊢
    exact h.wellKeyed j hj hocc
  · have hji := hne hocc
    have hji' := hne hocc'
    rw [Function.update_of_ne hji] at hocc heq
    rw [Function.update_of_ne hji'] at hocc' heq
    exact h.unique j hj j' hj' hocc hocc' heq
  · have hji := hne hocc
    rw [Function.update_of_ne hji] at hocc ⊢
    exact (h.path j hj hocc).update ShmHashEntry.isEmpty_markTombstone

/-- Placing an entry in a slot at the end of a clear path, when its key is absent. -/
theorem place (he : e.WellKeyed)
    (habsent : ∀ j < C, (entries j).isVacant = false → (entries j).key ≠ e.key)
    (hpath : PathClear C ShmHashEntry.isEmpty (Function.update entries i e) (e.hash.toNat % C) i) :
    SlotsOk C (Function.update entries i e) := by
  refine ⟨fun j hj hocc => ?_, fun j hj j' hj' hocc hocc' heq => ?_, fun j hj hocc => ?_⟩
  · rcases eq_or_ne j i with rfl | hne
    · rwa [Function.update_self]
    · rw [Function.update_of_ne hne] at hocc ⊢
      exact h.wellKeyed j hj hocc
  · by_cases hji : j = i
    · by_cases hji' : j' = i
      · rw [hji, hji']
      · rw [hji, Function.update_self, Function.update_of_ne hji'] at heq
        rw [Function.update_of_ne hji'] at hocc'
        exact absurd heq.symm (habsent j' hj' hocc')
    · rw [Function.update_of_ne hji] at hocc heq
      by_cases hji' : j' = i
      · rw [hji', Function.update_self] at heq
        exact absurd heq (habsent j hj hocc)
      · rw [Function.update_of_ne hji'] at hocc' heq
        exact h.unique j hj j' hj' hocc hocc' heq
  · rcases eq_or_ne j i with rfl | hne
    · rwa [Function.update_self]
    · rw [Function.update_of_ne hne] at hocc ⊢
      exact (h.path j hj hocc).update (ShmHashEntry.isEmpty_of_occupied he.occupied)

end SlotsOk

/-! ### Counting occupied slots -/

theorem occupiedCount_le : occupiedCount C entries ≤ C := by
  have h := Finset.card_filter_le (Finset.range C) fun i => (entries i).isVacant = false
  rwa [Finset.card_range] at h

/-- Overwriting a slot without changing whether it is vacant. -/
theorem occupiedCount_rewrite (hsame : e.isVacant = (entries i).isVacant) :
    occupiedCount C (Function.update entries i e) = occupiedCount C entries := by
  rw [occupiedCount]
  congr 1
  refine Finset.filter_congr fun j _ => ?_
  rcases eq_or_ne j i with rfl | hne
  · rw [Function.update_self, hsame]
  · rw [Function.update_of_ne hne]

/-- Overwriting a vacant slot by an occupied one. -/
theorem occupiedCount_place (hi : i < C) (hvacant : (entries i).isVacant = true)
    (he : e.isVacant = false) :
    occupiedCount C (Function.update entries i e) = occupiedCount C entries + 1 := by
  have hfilter : (Finset.range C).filter (fun j => (Function.update entries i e j).isVacant = false)
      = insert i ((Finset.range C).filter fun j => (entries j).isVacant = false) := by
    ext j
    rcases eq_or_ne j i with rfl | hne
    · simp [hi, he]
    · simp [hne]
  rw [occupiedCount, hfilter, Finset.card_insert_of_notMem (by simp [hvacant]), occupiedCount]

/-- Overwriting an occupied slot by a vacant one. -/
theorem occupiedCount_bury (hi : i < C) (hocc : (entries i).isVacant = false)
    (he : e.isVacant = true) :
    occupiedCount C (Function.update entries i e) = occupiedCount C entries - 1 := by
  have hback : Function.update (Function.update entries i e) i (entries i) = entries := by
    rw [Function.update_idem, Function.update_eq_self]
  have hcount : occupiedCount C (Function.update (Function.update entries i e) i (entries i)) =
      occupiedCount C (Function.update entries i e) + 1 :=
    occupiedCount_place hi (by rwa [Function.update_self]) hocc
  rw [hback] at hcount
  omega

/-! ### Finding a slot to write -/

/-- A vacant slot found by probing is at the end of a clear path. -/
theorem findVacantSlot_spec {hash : UInt32} (hC : 0 < C)
    (hslot : findVacantSlot entries C hash = some i) :
    i < C ∧ (entries i).isVacant = true ∧ ∀ e : ShmHashEntry, e.isEmpty = false →
      PathClear C ShmHashEntry.isEmpty (Function.update entries i e) (hash.toNat % C) i := by
  obtain ⟨j, hj, htest, hbefore⟩ := (circularScan_eq_some_iff (Nat.mod_lt _ hC)).mp hslot
  split at htest
  · next hvacant =>
    obtain rfl := Option.some_injective _ htest
    refine ⟨Nat.mod_lt _ hC, hvacant, fun e he => pathClear_of_scan he hj fun m hm => ?_⟩
    refine ShmHashEntry.isEmpty_of_occupied ?_
    simpa using hbefore m hm
  · exact absurd htest (by simp)

/-- With no vacant slot to find, every slot is occupied. -/
theorem findVacantSlot_eq_none {hash : UInt32} (hC : 0 < C)
    (hnone : findVacantSlot entries C hash = none) (hi : i < C) :
    (entries i).isVacant = false := by
  simpa using (circularScan_eq_none_iff (Nat.mod_lt _ hC)).mp hnone i hi

/-- Inversion of an eviction: it hits an occupied slot. -/
theorem evictClock_spec {s s' : ShmData} {now : ℤ} (hhand : s.clockHand < s.capacity)
    (h : evictClock s now = some (i, s')) :
    i < s.capacity ∧ (s.entries i).isVacant = false ∧ s' = evictAt s i := by
  have hround (expiredOnly : Bool) (hr : evictClockMatching s now expiredOnly = some (i, s')) :
      i < s.capacity ∧ (s.entries i).isVacant = false ∧ s' = evictAt s i := by
    obtain ⟨hand, hscan, heq⟩ := Option.map_eq_some_iff.mp hr
    obtain ⟨rfl, rfl⟩ := Prod.mk.injEq .. ▸ heq
    obtain ⟨j, -, htest, -⟩ := (circularScan_eq_some_iff hhand).mp hscan
    split at htest
    · next hcond =>
      obtain rfl := Option.some_injective _ htest
      rw [Bool.and_eq_true, Bool.not_eq_true'] at hcond
      exact ⟨Nat.mod_lt _ (by omega), hcond.1, rfl⟩
    · exact absurd htest (by simp)
  rcases Option.or_eq_some_iff.mp h with h | ⟨-, h⟩
  · exact hround true h
  · exact hround false h

/-! ### The table -/

/-- Invariant of the decision table. -/
structure TableOk (s : ShmData) : Prop where
  capacity_pos : 0 < s.capacity
  slots : SlotsOk s.capacity s.entries
  count_eq : s.count = occupiedCount s.capacity s.entries
  hand_lt : s.clockHand < s.capacity
  prefix_marked : ∀ i < s.capacity, (s.entries i).isVacant = false → (s.entries i).isCidr = true →
    prefixIsPresent s (s.entries i).prefixLen = true

namespace TableOk

variable {s s' : ShmData} (h : TableOk s)

include h

/-- Version, scenarios and the eviction count are outside the invariant. -/
theorem of_eq (hcapacity : s'.capacity = s.capacity) (hentries : s'.entries = s.entries)
    (hcount : s'.count = s.count) (hhand : s'.clockHand = s.clockHand)
    (hmarkedes : s'.cidrPrefixes = s.cidrPrefixes) : TableOk s' := by
  cases s
  cases s'
  simp only at hcapacity hentries hcount hhand hmarkedes
  subst hcapacity hentries hcount hhand hmarkedes
  exact ⟨h.capacity_pos, h.slots, h.count_eq, h.hand_lt, h.prefix_marked⟩

/-- Rewriting the decisions of an occupied slot. -/
theorem rewrite (hi : i < s.capacity) (hocc : (s.entries i).isVacant = false)
    (hsame : (s.entries i).SameKeyFields e) (hmask : e.decisionTypes < 4) :
    TableOk (writeEntry s i e) where
  capacity_pos := h.capacity_pos
  slots := h.slots.rewrite hi hocc hsame hmask
  count_eq := by
    rw [writeEntry_entries, occupiedCount_rewrite hsame.isVacant]
    exact h.count_eq
  hand_lt := h.hand_lt
  prefix_marked := by
    intro j hj hj' hcidr
    rcases eq_or_ne j i with rfl | hne
    · simp only [writeEntry_entries, Function.update_self] at hcidr ⊢
      rw [ShmHashEntry.isCidr, hsame.2.2.1] at hcidr
      rw [hsame.2.2.2.1]
      exact h.prefix_marked j hj hocc hcidr
    · simp only [writeEntry_entries, Function.update_of_ne hne] at hj' hcidr ⊢
      exact h.prefix_marked j hj hj' hcidr

/-- Burying an occupied slot. -/
theorem bury (hi : i < s.capacity) (hocc : (s.entries i).isVacant = false) :
    TableOk (buryEntry s i) where
  capacity_pos := h.capacity_pos
  slots := h.slots.bury i
  count_eq := by
    change s.count - 1 = occupiedCount s.capacity (Function.update s.entries i _)
    rw [occupiedCount_bury hi hocc ShmHashEntry.isVacant_markTombstone, h.count_eq]
  hand_lt := h.hand_lt
  prefix_marked := by
    intro j hj hj' hcidr
    rcases eq_or_ne j i with rfl | hne
    · simp at hj'
    · simp only [buryEntry_entries, Function.update_of_ne hne] at hj' hcidr ⊢
      exact h.prefix_marked j hj hj' hcidr

/-- What the buried slot held is gone. -/
theorem bury_absent (hi : i < s.capacity) (hocc : (s.entries i).isVacant = false) :
    ∀ j < s.capacity, ((buryEntry s i).entries j).isVacant = false →
      ((buryEntry s i).entries j).key ≠ (s.entries i).key := by
  intro j hj hj'
  rcases eq_or_ne j i with rfl | hne
  · simp at hj'
  · rw [buryEntry_entries, Function.update_of_ne hne] at hj' ⊢
    exact fun heq => hne (h.slots.unique j hj i hi hj' hocc heq)

/-- Placing an entry in a vacant slot at the end of a clear path. -/
theorem place (hi : i < s.capacity) (hvacant : (s.entries i).isVacant = true)
    (he : e.WellKeyed)
    (habsent : ∀ j < s.capacity, (s.entries j).isVacant = false → (s.entries j).key ≠ e.key)
    (hpath : PathClear s.capacity ShmHashEntry.isEmpty (Function.update s.entries i e)
      (e.hash.toNat % s.capacity) i)
    (hmarked : e.isCidr = true → prefixIsPresent s e.prefixLen = true) :
    TableOk (placeEntry s i e) where
  capacity_pos := h.capacity_pos
  slots := h.slots.place he habsent hpath
  count_eq := by
    change s.count + 1 = occupiedCount s.capacity (Function.update s.entries i e)
    rw [occupiedCount_place hi hvacant he.occupied, h.count_eq]
  hand_lt := h.hand_lt
  prefix_marked := by
    intro j hj hj' hcidr
    rcases eq_or_ne j i with rfl | hne
    · simp only [placeEntry_entries, Function.update_self] at hcidr ⊢
      exact hmarked hcidr
    · simp only [placeEntry_entries, Function.update_of_ne hne] at hj' hcidr ⊢
      exact h.prefix_marked j hj hj' hcidr

/-- **Inserting** an entry whose key is absent, evicting another one if need be. -/
theorem insertEntry (he : e.WellKeyed)
    (habsent : ∀ j < s.capacity, (s.entries j).isVacant = false → (s.entries j).key ≠ e.key)
    (hmarked : e.isCidr = true → prefixIsPresent s e.prefixLen = true) (clock : CallClock) :
    TableOk (insertEntry s e clock) := by
  have hnonempty := ShmHashEntry.isEmpty_of_occupied he.occupied
  rw [CrowdSecBouncer.insertEntry]
  cases hvac : findVacantSlot s.entries s.capacity e.hash with
  | some slot =>
    obtain ⟨hlt, hvacant, hpath⟩ := findVacantSlot_spec h.capacity_pos hvac
    exact h.place hlt hvacant he habsent (hpath e hnonempty) hmarked
  | none =>
    have hfull (j : ℕ) (hj : j < s.capacity) : (s.entries j).isVacant = false :=
      findVacantSlot_eq_none h.capacity_pos hvac hj
    cases hevict : evictClock s clock.evict with
    | none => exact h
    | some r =>
      obtain ⟨slot, s'⟩ := r
      obtain ⟨hlt, hocc, rfl⟩ := evictClock_spec h.hand_lt hevict
      -- the eviction leaves a tombstone in a table without empty slots
      have hempty (j : ℕ) (hj : j < s.capacity) :
          (Function.update (evictAt s slot).entries slot e j).isEmpty = false := by
        rcases eq_or_ne j slot with rfl | hne
        · rwa [Function.update_self]
        · rw [evictAt_entries, Function.update_of_ne hne, Function.update_of_ne hne]
          exact ShmHashEntry.isEmpty_of_occupied (hfull j hj)
      have hbury := h.bury hlt hocc
      have hevicted : TableOk (evictAt s slot) :=
        ⟨hbury.capacity_pos, hbury.slots, hbury.count_eq, Nat.mod_lt _ h.capacity_pos,
          hbury.prefix_marked⟩
      refine hevicted.place hlt ?_ he ?_
        (pathClear_of_full (Nat.mod_lt _ h.capacity_pos) hlt hempty) hmarked
      · simp
      · intro j hj hj'
        rcases eq_or_ne j slot with rfl | hne
        · simp at hj'
        · rw [evictAt_entries, Function.update_of_ne hne] at hj' ⊢
          exact habsent j hj hj'

/-- **Adding**: the common body of both adding functions. -/
theorem upsertEntry (hk : k.Normal) {newEntry : ShmHashEntry} (hnew : newEntry.WellKeyed)
    (hkey : newEntry.key = k)
    (hmarked : newEntry.isCidr = true → prefixIsPresent s newEntry.prefixLen = true)
    (dt : DecisionType) (origin : Origin) (scenarioId : UInt16) (expires : ℤ)
    (clock : CallClock) :
    TableOk (upsertEntry s (findKey s.entries s.capacity k) dt origin scenarioId expires
      newEntry clock) := by
  rw [CrowdSecBouncer.upsertEntry]
  split
  · next hfound =>
    obtain ⟨hlt, hocc, hkey'⟩ := h.slots.of_findKey h.capacity_pos hk hfound
    generalize (findKey s.entries s.capacity k).1 = i at hlt hocc hkey' ⊢
    have hsame : (s.entries i).SameKeyFields ((s.entries i).pruneExpired clock.now) :=
      ShmHashEntry.sameKeyFields_pruneExpired clock.now
    have hmask : ((s.entries i).pruneExpired clock.now).decisionTypes < 4 :=
      DecisionExpiry.activeMask_lt (h.slots.wellKeyed i hlt hocc).mask_lt
    dsimp only
    split
    · have hmerge := hsame.trans
        (ShmHashEntry.sameKeyFields_mergeDecision dt origin scenarioId expires)
      exact (h.rewrite hlt hocc hmerge (mask_or_toBit_lt hmask dt)).of_eq rfl rfl rfl rfl rfl
    · have hprune := h.rewrite hlt hocc hsame hmask
      have hocc' : ((writeEntry s i ((s.entries i).pruneExpired clock.now)).entries i).isVacant
          = false := by
        rwa [writeEntry_entries, Function.update_self, hsame.isVacant]
      -- the key is gone with the dead entry, so the new one is the only one again
      refine (hprune.bury hlt hocc').insertEntry hnew (fun j hj hj' => ?_) hmarked clock
      have habsent := hprune.bury_absent hlt hocc' j hj hj'
      rwa [writeEntry_entries, Function.update_self, hsame.key, hkey', ← hkey] at habsent
  · next hnone =>
    refine h.insertEntry hnew (fun j hj hocc => ?_) hmarked clock
    rw [hkey]
    exact h.slots.of_findKey_eq_false hk (by simpa using hnone) hj hocc

/-- **Removing**: the common body of both removing functions. -/
theorem removeFromSlot (hk : k.Normal) (dt : DecisionType) (now : ℤ) :
    TableOk (removeFromSlot s (findKey s.entries s.capacity k) dt now) := by
  rw [CrowdSecBouncer.removeFromSlot]
  split
  · next hfound =>
    obtain ⟨hlt, hocc, -⟩ := h.slots.of_findKey h.capacity_pos hk hfound
    generalize (findKey s.entries s.capacity k).1 = i at hlt hocc ⊢
    have hsame : (s.entries i).SameKeyFields
        (((s.entries i).pruneExpired now).removeDecisionType dt) :=
      (ShmHashEntry.sameKeyFields_pruneExpired now).trans
        (ShmHashEntry.sameKeyFields_removeDecisionType dt)
    have hmask : (((s.entries i).pruneExpired now).removeDecisionType dt).decisionTypes < 4 :=
      mask_and_not_toBit_lt (DecisionExpiry.activeMask_lt (h.slots.wellKeyed i hlt hocc).mask_lt) dt
    have hremove := h.rewrite hlt hocc hsame hmask
    refine of_eq (s := if _ then _ else _) ?_ rfl rfl rfl rfl rfl
    split
    · exact hremove
    · refine hremove.bury hlt ?_
      rwa [writeEntry_entries, Function.update_self, hsame.isVacant]
  · exact h

end TableOk

/-- A cleared table satisfies the invariant. -/
theorem tableOk_clearAll {s : ShmData} (hC : 0 < s.capacity) : TableOk (clearAll s) where
  capacity_pos := hC
  slots := ⟨fun i _ h => by simp at h, fun i _ _ _ h => by simp at h, fun i _ h => by simp at h⟩
  count_eq := by
    change 0 = (Finset.filter (fun _ => ShmHashEntry.empty.isVacant = false) _).card
    rw [Finset.filter_false_of_mem fun _ _ => by decide, Finset.card_empty]
  hand_lt := hC
  prefix_marked := fun i _ h => by simp at h

/-! ### The prefix bitmap -/

section Bitmap

variable {s : ShmData} {p q : UInt8}

private theorem one_shiftLeft_ne_zero {n : ℕ} (hn : n < 64) :
    (1 : UInt64) <<< UInt64.ofNat n ≠ 0 := by
  intro hzero
  have hval := congrArg UInt64.toNat hzero
  rw [UInt64.toNat_shiftLeft, UInt64.toNat_ofNat_of_lt' (by change n < 2 ^ 64; omega)] at hval
  have hpow : 2 ^ n < 2 ^ 64 := Nat.pow_lt_pow_right (by omega) hn
  rw [Nat.mod_eq_of_lt hn, show (1 : UInt64).toNat = 1 from rfl, Nat.one_shiftLeft,
    Nat.mod_eq_of_lt hpow] at hval
  exact absurd hval (by positivity)

private theorem or_and_distrib {w x y : UInt64} : (w ||| x) &&& y = w &&& y ||| x &&& y := by
  simp [← UInt64.toBitVec_inj, BitVec.and_or_distrib_right]

private theorem or_and_ne_zero_left {w x y : UInt64} (h : w &&& y ≠ 0) : (w ||| x) &&& y ≠ 0 := by
  intro hzero
  rw [or_and_distrib, UInt64.or_eq_zero_iff] at hzero
  exact h hzero.1

private theorem or_and_ne_zero_self {w x : UInt64} (h : x ≠ 0) : (w ||| x) &&& x ≠ 0 := by
  intro hzero
  rw [or_and_distrib, UInt64.or_eq_zero_iff, UInt64.and_self] at hzero
  exact h hzero.2

/-- The prefix that was marked is present. -/
theorem prefixIsPresent_markPrefixPresent_self (hp : p ≤ 128) :
    prefixIsPresent (markPrefixPresent s p) p = true := by
  have hword : p.toNat / 64 < 3 := by
    have hle : p.toNat ≤ 128 := UInt8.le_iff_toNat_le.mp hp
    omega
  rw [prefixIsPresent, markPrefixPresent]
  simp only [hword, dif_pos, Vector.getElem_set_self, bne_iff_ne]
  exact or_and_ne_zero_self (one_shiftLeft_ne_zero (Nat.mod_lt _ (by omega)))

/-- Marking a prefix keeps the others present. -/
theorem prefixIsPresent_markPrefixPresent (hq : prefixIsPresent s q = true) :
    prefixIsPresent (markPrefixPresent s p) q = true := by
  unfold prefixIsPresent at hq ⊢
  split at hq
  · next hword =>
    rw [dif_pos hword]
    rw [bne_iff_ne] at hq ⊢
    rw [markPrefixPresent]
    split
    · rw [Vector.getElem_set]
      split
      · next heq =>
        simp only [heq]
        exact or_and_ne_zero_left hq
      · exact hq
    · exact hq
  · exact absurd hq (by simp)

end Bitmap

/-- The check of the parameters leaves the keys that an entry can be built for. -/
theorem valid_of_cidrParamsValid {family prefixLen : UInt8} {network : List UInt8}
    (h : cidrParamsValid family prefixLen network = true) :
    (Key.ofCidr family prefixLen network).Valid ∧ prefixLen ≤ 128 := by
  unfold cidrParamsValid at h
  split at h
  · next hfam =>
    subst hfam
    rw [Bool.and_eq_true, decide_eq_true_eq, decide_eq_true_eq] at h
    refine ⟨⟨.inl ⟨rfl, h.1⟩, ?_⟩, UInt8.le_trans h.1 (by decide)⟩
    rw [List.length_take]
    exact min_eq_left h.2
  · split at h
    · next hfam =>
      subst hfam
      rw [Bool.and_eq_true, decide_eq_true_eq, decide_eq_true_eq] at h
      refine ⟨⟨.inr ⟨rfl, h.1⟩, ?_⟩, h.1⟩
      rw [List.length_take]
      exact min_eq_left h.2
    · exact absurd h (by simp)

/-! ### The operations keep the invariant -/

namespace TableOk

variable {s : ShmData} (h : TableOk s)

include h

theorem markPrefixPresent (p : UInt8) : TableOk (markPrefixPresent s p) where
  capacity_pos := by simpa using h.capacity_pos
  slots := by simpa using h.slots
  count_eq := by
    have hcount : (CrowdSecBouncer.markPrefixPresent s p).count = s.count := by
      rw [CrowdSecBouncer.markPrefixPresent]
      split <;> rfl
    simpa [hcount] using h.count_eq
  hand_lt := by
    simpa using h.hand_lt
  prefix_marked := by
    intro i hi hocc hcidr
    simp only [markPrefixPresent_capacity, markPrefixPresent_entries] at hi hocc hcidr ⊢
    exact prefixIsPresent_markPrefixPresent (h.prefix_marked i hi hocc hcidr)

end TableOk

end CrowdSecBouncer
