import CrowdSecBouncer.Foundations.Tally
import CrowdSecBouncer.Shm.Covering
import Mathlib.Data.Set.Card

/-!
# Counting the decisions

The metrics page shows how many rows of the table are in force, and the usage metrics break this
number down by origin, scenario and address family. Both walk over the slots; what they count are
the keys with a decision in force, each of them once: a key has at most one slot, and a slot that
has expired, or that is vacant, is passed over (`TableOk.ncard_active`).
-/

namespace CrowdSecBouncer

/-! ### The counts -/

/-- The walks count this entry. -/
def ShmHashEntry.isLive (e : ShmHashEntry) (now : ℤ) : Bool :=
  !e.isVacant && e.hasDecisions && !e.isExpiredAt now

/-- Count of non-expired hash slots. -/
def getActiveCount (s : ShmData) (now : ℤ) : ℕ :=
  (List.range s.capacity).foldl (fun n idx => if (s.entries idx).isLive now then n + 1 else n) 0

/-- Current count of hash slots in use, including expired. -/
def getCount (s : ShmData) : ℕ := s.count

/-- Origin, scenario and IP family that an entry is counted under. -/
def ShmHashEntry.group (e : ShmHashEntry) : Origin × UInt16 × UInt8 :=
  (e.originOf, e.scenarioId, e.family)

/-- Count non-expired rows grouped by origin, scenario and IP family. The source's hash map has
these entries in any order. -/
def countActiveDecisionsByOrigin (s : ShmData) (now : ℤ) : List ((Origin × UInt16 × UInt8) × ℕ) :=
  (List.range s.capacity).foldl
    (fun counts idx =>
      if (s.entries idx).isLive now then Tally.add (s.entries idx).group 1 counts else counts) []

/-! ### What they count -/

/-- The keys with a decision in force. -/
def ShmData.activeKeys (s : ShmData) (now : ℤ) : Set Key :=
  {k | k.Normal ∧ ∃ dt, s.InForce now k dt}

/-- The active keys whose entries satisfy `P`. -/
def ShmData.activeKeysWith (s : ShmData) (now : ℤ) (P : ShmHashEntry → Prop) : Set Key :=
  {k | k ∈ s.activeKeys now ∧ ∃ e, s.find k = some e ∧ P e}

variable {s : ShmData} {now : ℤ} {i : ℕ}

/-- An active key has an entry. -/
theorem ShmData.activeKeysWith_true (s : ShmData) (now : ℤ) :
    s.activeKeysWith now (fun _ => True) = s.activeKeys now := by
  refine Set.Subset.antisymm (fun k hk => hk.1) fun k hk => ⟨hk, ?_⟩
  obtain ⟨-, dt, hforce⟩ := hk
  rcases hfind : s.find k with _ | e
  · rw [ShmData.InForce, ShmData.deadlineAt, hfind] at hforce
    exact absurd hforce Deadline.not_active_bot
  · exact ⟨e, rfl, trivial⟩

theorem getActiveCount_eq_countP :
    getActiveCount s now =
      (List.range s.capacity).countP fun idx => (s.entries idx).isLive now := by
  have hfold (l : List ℕ) (n : ℕ) :
      l.foldl (fun n idx => if (s.entries idx).isLive now then n + 1 else n) n =
        n + l.countP fun idx => (s.entries idx).isLive now := by
    induction l generalizing n with
    | nil => rfl
    | cons idx l ih =>
      rw [List.foldl_cons, ih, List.countP_cons]
      split
      · omega
      · omega
  rw [getActiveCount, hfold, Nat.zero_add]

/-- The groups of the live slots, one for each slot. -/
def liveGroups (s : ShmData) (now : ℤ) : List ((Origin × UInt16 × UInt8) × ℕ) :=
  ((List.range s.capacity).filter fun idx => (s.entries idx).isLive now).map
    fun idx => ((s.entries idx).group, 1)

/-- The walk is their tally. -/
theorem countActiveDecisionsByOrigin_eq :
    countActiveDecisionsByOrigin s now = Tally.of (liveGroups s now) := by
  rw [countActiveDecisionsByOrigin, Tally.of, liveGroups, List.foldl_map, List.foldl_filter]

theorem pos_of_mem_liveGroups : ∀ c ∈ liveGroups s now, 0 < c.2 := by
  intro c hc
  obtain ⟨idx, -, rfl⟩ := List.mem_map.mp hc
  exact Nat.one_pos

namespace TableOk

variable (h : TableOk s)

include h

/-- A slot is counted when its key has a decision in force. -/
theorem isLive_iff (hi : i < s.capacity) (hocc : (s.entries i).isVacant = false) :
    (s.entries i).isLive now = true ↔ ∃ dt, s.InForce now (s.entries i).key dt := by
  have hkeyed := h.slots.wellKeyed i hi hocc
  have hfind : s.find (s.entries i).key = some (s.entries i) :=
    h.find_eq_of_slot hkeyed.valid.normal hi hocc rfl
  simp only [ShmHashEntry.isLive, hocc, ShmData.InForce, ShmData.deadlineAt, hfind,
    ShmHashEntry.isExpiredAt]
  rcases hhas : (s.entries i).hasDecisions with _ | _
  · simp only [Bool.and_false, Bool.false_and, Bool.false_eq_true, false_iff, not_exists]
    intro dt
    rw [viewOf_of_not_hasDecisions hhas]
    exact Deadline.not_active_bot
  · simp only [Bool.not_false, Bool.and_self, Bool.true_and, Bool.not_eq_true', beq_eq_false_iff_ne,
      ne_eq, DecisionExpiry.activeMask_eq_zero_iff hkeyed.mask_lt, not_forall, not_not]
    rfl

/-- **A census**: the live slots whose entries satisfy `P` are as many as the active keys whose
entries do. -/
theorem ncard_active (P : ShmHashEntry → Prop) [DecidablePred P] :
    (s.activeKeysWith now P).ncard =
      (List.range s.capacity).countP fun idx =>
        (s.entries idx).isLive now && P (s.entries idx) := by
  let slots := (List.range s.capacity).filter fun idx =>
    (s.entries idx).isLive now && P (s.entries idx)
  have hslots (idx : ℕ) : idx ∈ slots ↔ idx < s.capacity ∧ (s.entries idx).isVacant = false ∧
      (s.entries idx).isLive now = true ∧ P (s.entries idx) := by
    simp only [slots, List.mem_filter, List.mem_range, Bool.and_eq_true, decide_eq_true_eq]
    refine and_congr_right fun _ => ⟨fun hlive => ⟨?_, hlive⟩, And.right⟩
    have hall := hlive.1
    simp only [ShmHashEntry.isLive, Bool.and_eq_true, Bool.not_eq_true'] at hall
    exact hall.1.1
  have hnodup : (slots.map fun idx => (s.entries idx).key).Nodup := by
    refine List.Nodup.map_on (fun i hi j hj heq => ?_) (List.nodup_range.filter _)
    obtain ⟨hlt, hocc, -⟩ := (hslots i).mp hi
    obtain ⟨hlt', hocc', -⟩ := (hslots j).mp hj
    exact h.slots.unique i hlt j hlt' hocc hocc' heq
  have hkeys : s.activeKeysWith now P =
      ((slots.map fun idx => (s.entries idx).key).toFinset : Set Key) := by
    ext k
    simp only [ShmData.activeKeysWith, ShmData.activeKeys, Set.mem_ofPred_eq, List.coe_toFinset,
      List.mem_map]
    constructor
    · rintro ⟨⟨hk, dt, hforce⟩, e, hfind, hP⟩
      obtain ⟨idx, hlt, hocc, rfl, rfl⟩ := (h.find_eq_some_iff hk).mp hfind
      exact ⟨idx, (hslots idx).mpr ⟨hlt, hocc, (h.isLive_iff hlt hocc).mpr ⟨dt, hforce⟩, hP⟩, rfl⟩
    · rintro ⟨idx, hmem, rfl⟩
      obtain ⟨hlt, hocc, hlive, hP⟩ := (hslots idx).mp hmem
      have hnormal := (h.slots.wellKeyed idx hlt hocc).valid.normal
      exact ⟨⟨hnormal, (h.isLive_iff hlt hocc).mp hlive⟩, _,
        h.find_eq_of_slot hnormal hlt hocc rfl, hP⟩
  rw [hkeys, Set.ncard_coe_finset, List.toFinset_card_of_nodup hnodup, List.length_map,
    List.countP_eq_length_filter]

/-- The counts of the groups in `p` add up to the number of keys in these groups. -/
theorem weight_countActiveDecisionsByOrigin (p : Origin × UInt16 × UInt8 → Prop)
    [DecidablePred p] :
    Tally.weight p (countActiveDecisionsByOrigin s now) =
      (s.activeKeysWith now fun e => p e.group).ncard := by
  rw [countActiveDecisionsByOrigin_eq, Tally.weight_of, liveGroups, Tally.weight_ones,
    List.countP_filter, h.ncard_active]
  exact List.countP_congr fun idx _ => by rw [Bool.and_comm]

/-- The groups, each with the number of its keys. -/
theorem mem_countActiveDecisionsByOrigin_iff {g : Origin × UInt16 × UInt8} {n : ℕ} :
    (g, n) ∈ countActiveDecisionsByOrigin s now ↔
      0 < n ∧ (s.activeKeysWith now fun e => e.group = g).ncard = n := by
  rw [countActiveDecisionsByOrigin_eq, Tally.mem_of_iff _ pos_of_mem_liveGroups,
    ← Tally.weight_of, ← countActiveDecisionsByOrigin_eq, h.weight_countActiveDecisionsByOrigin]

/-- The active count is the number of active keys. -/
theorem ncard_activeKeys : (s.activeKeys now).ncard = getActiveCount s now := by
  rw [getActiveCount_eq_countP, ← s.activeKeysWith_true, h.ncard_active]
  simp

/-- No more slots are counted than are in use. -/
theorem activeCount_le_count : getActiveCount s now ≤ getCount s := by
  rw [getActiveCount_eq_countP, getCount, h.count_eq, occupiedCount, List.countP_eq_length_filter,
    ← List.toFinset_card_of_nodup (List.nodup_range.filter _)]
  refine Finset.card_le_card fun i hi => ?_
  simp only [List.mem_toFinset, List.mem_filter, List.mem_range, ShmHashEntry.isLive,
    Bool.and_eq_true, Bool.not_eq_true'] at hi
  exact Finset.mem_filter.mpr ⟨Finset.mem_range.mpr hi.1, hi.2.1.1⟩

end TableOk

end CrowdSecBouncer
