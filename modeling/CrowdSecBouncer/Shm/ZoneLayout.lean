import CrowdSecBouncer.Settings.Sizes
import CrowdSecBouncer.Shm.Table

/-!
# The layout of the decision zone

The zone holds a header, the hash table and the scenario table. The capacity of the table comes
from the size of the zone: 70 percent of what the header and the scenarios leave, but never less
than 1024 entries, as a 32-bit number. `zoneLaidOut_iff` says for which accepted sizes the three
parts fit: the smallest sizes do not have room for 1024 entries, and from 320 GiB on the capacity
does not fit into its field.
-/

namespace CrowdSecBouncer

/-! ### Sizes of C structures -/

/-- The next multiple of an alignment. -/
def alignUp (n align : ℕ) : ℕ := (n + align - 1) / align * align

/-- The size of a structure with the C representation, from the sizes and alignments of its
fields. -/
def reprCSize (fields : List (ℕ × ℕ)) : ℕ :=
  let packed := fields.foldl (fun offset (size, align) => alignUp offset align + size) 0
  alignUp packed ((fields.map Prod.snd).foldl max 1)

/-- `size_of::<ShmData>()`: the numbers of the layout, the two atomics, the counters, the two
offsets and the three words of the prefix bitmap. -/
def shmDataSize : ℕ :=
  reprCSize [(4, 4), (4, 4), (8, 8), (8, 8), (4, 4), (4, 4), (2, 2), (8, 8), (4, 4), (4, 4), (8, 8),
    (8, 8), (24, 8)]

/-- `size_of::<ShmHashEntry>()`: hash, five bytes and three of padding, address, two deadlines and
the scenario. -/
def shmHashEntrySize : ℕ :=
  reprCSize [(4, 4), (1, 1), (1, 1), (1, 1), (1, 1), (1, 1), (3, 1), (16, 1), (16, 8), (2, 2)]

/-- `size_of::<ShmScenario>()`: the length and the characters. -/
def shmScenarioSize : ℕ := reprCSize [(1, 1), (MAX_SCENARIO_LEN, 1)]

/-! ### The capacity of a zone -/

/-- Percentage of SHM to use for entries (rest is overhead). -/
def USABLE_MEMORY_PERCENT : ℕ := 70

/-- Minimum hash table capacity. -/
def MIN_CAPACITY : ℕ := 1024

/-- Header and scenario string table. -/
def fixedOverhead : ℕ := shmDataSize + shmScenarioSize * MAX_SCENARIOS

/-- How many entries the table of a zone should have; the product wraps around. -/
def wantedCapacity (size : ℕ) : ℕ :=
  let availableForEntries := (size - fixedOverhead) * USABLE_MEMORY_PERCENT % 2 ^ 64 / 100
  max (availableForEntries / shmHashEntrySize) MIN_CAPACITY

/-- The capacity that `decisions_shm_zone_init` computes, as a `u32`. -/
def zoneCapacity (size : ℕ) : ℕ := wantedCapacity size % 2 ^ 32

/-- The zone has room for the header, the scenarios and a table of its capacity, which is at
least 1024 and what it was before the cast. -/
structure ZoneLaidOut (size : ℕ) : Prop where
  minCapacity : 1024 ≤ zoneCapacity size
  notTruncated : zoneCapacity size = wantedCapacity size
  fits : shmDataSize + 56 * zoneCapacity size + 256 * 128 ≤ size

theorem shmDataSize_eq : shmDataSize = 96 := by decide

theorem shmHashEntrySize_eq : shmHashEntrySize = 56 := by decide

theorem fixedOverhead_eq : fixedOverhead = 32864 := by decide

variable {size : ℕ}

theorem wantedCapacity_eq (size : ℕ) :
    wantedCapacity size = max ((size - 32864) * 70 % 2 ^ 64 / 5600) 1024 := by
  rw [wantedCapacity, fixedOverhead_eq, shmHashEntrySize_eq, Nat.div_div_eq_div_mul]
  rfl

/-- The entries never take more than what the header and the scenarios leave, unless they are
the 1024 of the minimum. -/
theorem wantedCapacity_cases (size : ℕ) :
    wantedCapacity size = 1024 ∨
      1024 < wantedCapacity size ∧ 56 * wantedCapacity size ≤ size - 32864 := by
  have hwrap := Nat.mod_le ((size - 32864) * 70) (2 ^ 64)
  rw [wantedCapacity_eq]
  omega

theorem zoneLaidOut_iff_of_notTruncated (h : wantedCapacity size < 2 ^ 32) :
    ZoneLaidOut size ↔ 90208 ≤ size := by
  have hcapacity : zoneCapacity size = wantedCapacity size := Nat.mod_eq_of_lt h
  have hcases := wantedCapacity_cases size
  constructor
  · rintro ⟨-, -, hfits⟩
    rw [hcapacity, shmDataSize_eq] at hfits
    omega
  · intro hsize
    refine ⟨?_, hcapacity, ?_⟩
    · omega
    · rw [hcapacity, shmDataSize_eq]
      omega

/-- **A zone can be laid out** when it has room for 1024 entries and its capacity fits into 32
bits, and in no other case: from 90208 bytes on, and below 320 GiB or where the computation has
wrapped around to a smaller capacity. This holds of every size, accepted or not. -/
theorem zoneLaidOut_iff (size : ℕ) :
    ZoneLaidOut size ↔ 90208 ≤ size ∧ (size - 32864) * 70 % 2 ^ 64 < 5600 * 2 ^ 32 := by
  have htruncated : wantedCapacity size < 2 ^ 32 ↔
      (size - 32864) * 70 % 2 ^ 64 < 5600 * 2 ^ 32 := by
    rw [wantedCapacity_eq]
    omega
  rw [← htruncated]
  constructor
  · intro hlaid
    have hbound : wantedCapacity size < 2 ^ 32 := by
      rw [← hlaid.notTruncated]
      exact Nat.mod_lt _ (by decide)
    exact ⟨(zoneLaidOut_iff_of_notTruncated hbound).mp hlaid, hbound⟩
  · rintro ⟨hsize, hbound⟩
    exact (zoneLaidOut_iff_of_notTruncated hbound).mpr hsize

/-- The minimum of 64 KiB is accepted and too small, and a size above 320 GiB gets no capacity
at all. -/
theorem not_zoneLaidOut_minimum :
    setShmSize "64k".toList = some 65536 ∧ ¬ ZoneLaidOut 65536 ∧
      setShmSize "343597416544".toList = some 343597416544 ∧ zoneCapacity 343597416544 = 0 := by
  refine ⟨by decide +kernel, fun h => ?_, by decide +kernel, by decide +kernel⟩
  have hfits := h.fits
  revert hfits
  decide +kernel

end CrowdSecBouncer
