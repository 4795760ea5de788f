import CrowdSecBouncer.Foundations.Deadline
import Mathlib.Order.BoundedOrder.Lattice
import Mathlib.Order.MinMax

/-!
# Decision types, origins and independent deadlines

The decision cache keeps a bitmask of decision types per entry and one deadline for each of
the two bits, where the integer `0` means both "no limit" and "cleared". The functions
here are those of the source on masks and integers. `DecisionExpiry.view` reads a mask and
its deadlines as one `Deadline` per decision type, and each function becomes a lattice
operation under that reading: merging is `⊔`, removing is `⊥`, pruning forgets the
deadlines that have passed.

Deadlines and clock readings are the values of 64-bit signed integers.
-/

namespace CrowdSecBouncer

/-- Decision types from CrowdSec. -/
inductive DecisionType
  | ban
  | captcha
  | unknown
  deriving DecidableEq, Repr

/-- Bitmask constants for decision types. -/
def DECISION_BIT_BAN : UInt8 := 1

@[inherit_doc DECISION_BIT_BAN]
def DECISION_BIT_CAPTCHA : UInt8 := 2

/-- Convert decision type to its bitmask value. -/
def DecisionType.toBit : DecisionType → UInt8
  | .ban => DECISION_BIT_BAN
  | .captcha => DECISION_BIT_CAPTCHA
  | .unknown => 0

/-- Get the highest priority decision type from a bitmask. -/
def DecisionType.fromBitmask (bits : UInt8) : DecisionType :=
  if bits &&& DECISION_BIT_BAN ≠ 0 then .ban
  else if bits &&& DECISION_BIT_CAPTCHA ≠ 0 then .captcha
  else .unknown

/-- Origin of the decision. -/
inductive Origin
  | crowdsec
  | cscli
  | capi
  | console
  | lists
  | appsec
  | unknown
  deriving DecidableEq, Repr

/-- The stored origin byte (`origin as u8`). -/
def Origin.toU8 : Origin → UInt8
  | .crowdsec => 1
  | .cscli => 2
  | .capi => 3
  | .console => 4
  | .lists => 5
  | .appsec => 6
  | .unknown => 255

def Origin.fromU8 (v : UInt8) : Origin :=
  if v = 1 then .crowdsec
  else if v = 2 then .cscli
  else if v = 3 then .capi
  else if v = 4 then .console
  else if v = 5 then .lists
  else if v = 6 then .appsec
  else .unknown

/-- The stored origin byte is read back as the origin. -/
@[simp] theorem Origin.fromU8_toU8 (o : Origin) : Origin.fromU8 o.toU8 = o := by
  cases o <;> rfl

/-! ### Masks -/

/-- Masks of the two known decision bits. -/
theorem mask_cases {m : UInt8} (h : m < 4) : m = 0 ∨ m = 1 ∨ m = 2 ∨ m = 3 := by
  have h' : m.toNat < 4 := UInt8.lt_iff_toNat_lt.mp h
  simp only [← UInt8.toNat_inj]
  change m.toNat = 0 ∨ m.toNat = 1 ∨ m.toNat = 2 ∨ m.toNat = 3
  omega

theorem mask_or_toBit_lt {m : UInt8} (h : m < 4) (dt : DecisionType) : m ||| dt.toBit < 4 := by
  rcases mask_cases h with rfl | rfl | rfl | rfl <;> cases dt <;> decide

theorem mask_and_not_toBit_lt {m : UInt8} (h : m < 4) (dt : DecisionType) :
    m &&& ~~~dt.toBit < 4 := by
  rcases mask_cases h with rfl | rfl | rfl | rfl <;> cases dt <;> decide

/-- The bit that was cleared is clear. -/
theorem mask_clear_self {m : UInt8} {dt : DecisionType} : m &&& ~~~dt.toBit &&& dt.toBit = 0 := by
  rw [UInt8.and_assoc, show ~~~dt.toBit &&& dt.toBit = 0 by cases dt <;> decide, UInt8.and_zero]

/-- The other bit is unchanged by clearing one. -/
theorem mask_clear_of_ne {m : UInt8} {dt dt' : DecisionType} (h : dt' ≠ dt) :
    m &&& ~~~dt.toBit &&& dt'.toBit = m &&& dt'.toBit := by
  have hkeep : ~~~dt.toBit &&& dt'.toBit = dt'.toBit := by
    cases dt <;> cases dt' <;> first | exact absurd rfl h | decide
  rw [UInt8.and_assoc, hkeep]

private theorem or_and {m a b : UInt8} : (m ||| a) &&& b = m &&& b ||| a &&& b := by
  simp [← UInt8.toBitVec_inj, BitVec.and_or_distrib_right]

/-- The bit that was set is set. -/
theorem mask_set_self {m : UInt8} {dt : DecisionType} (h : dt ≠ .unknown) :
    (m ||| dt.toBit) &&& dt.toBit ≠ 0 := by
  rw [or_and, UInt8.and_self, ne_eq, UInt8.or_eq_zero_iff]
  cases dt with
  | ban => simp [DecisionType.toBit, DECISION_BIT_BAN]
  | captcha => simp [DecisionType.toBit, DECISION_BIT_CAPTCHA]
  | unknown => exact absurd rfl h

/-- The other bit is unchanged by setting one. -/
theorem mask_set_of_ne {m : UInt8} {dt dt' : DecisionType} (h : dt' ≠ dt) :
    (m ||| dt.toBit) &&& dt'.toBit = m &&& dt'.toBit := by
  have hdisj : dt.toBit &&& dt'.toBit = 0 := by
    cases dt <;> cases dt' <;> first | exact absurd rfl h | decide
  rw [or_and, hdisj, UInt8.or_zero]

/-- A mask of known bits is empty when neither bit is set. -/
theorem mask_eq_zero_iff {m : UInt8} (h : m < 4) :
    m = 0 ↔ ∀ dt : DecisionType, m &&& dt.toBit = 0 := by
  rcases mask_cases h with rfl | rfl | rfl | rfl
  · exact iff_of_true rfl fun dt => by cases dt <;> rfl
  · exact iff_of_false (by decide) fun hall => absurd (hall .ban) (by decide)
  · exact iff_of_false (by decide) fun hall => absurd (hall .captcha) (by decide)
  · exact iff_of_false (by decide) fun hall => absurd (hall .ban) (by decide)

/-- Whether the bit of one type is set says which of its two values the bit has. -/
theorem and_toBit_ext {m m' : UInt8} {dt : DecisionType}
    (h : m &&& dt.toBit ≠ 0 ↔ m' &&& dt.toBit ≠ 0) : m &&& dt.toBit = m' &&& dt.toBit := by
  have hbit (x : UInt8) : x &&& dt.toBit = 0 ∨ x &&& dt.toBit = dt.toBit := by
    have hmask : x &&& dt.toBit = x &&& 3 &&& dt.toBit := by
      rw [UInt8.and_assoc, show 3 &&& dt.toBit = dt.toBit by cases dt <;> decide]
    have hlt : x &&& 3 < 4 := by
      rw [UInt8.lt_iff_toNat_lt, UInt8.toNat_and]
      exact Nat.lt_of_le_of_lt Nat.and_le_right (by decide)
    rw [hmask]
    rcases mask_cases hlt with hx | hx | hx | hx <;> rw [hx] <;> cases dt <;> decide
  rcases hbit m with hm | hm <;> rcases hbit m' with hm' | hm' <;> simp_all

/-- Masks of known bits that have the same bits are equal. -/
theorem mask_ext {m m' : UInt8} (hm : m < 4) (hm' : m' < 4)
    (h : ∀ dt : DecisionType, m &&& dt.toBit ≠ 0 ↔ m' &&& dt.toBit ≠ 0) : m = m' := by
  have hban := h .ban
  have hcaptcha := h .captcha
  rcases mask_cases hm with rfl | rfl | rfl | rfl <;>
    rcases mask_cases hm' with rfl | rfl | rfl | rfl <;>
      first | rfl | exact absurd hban (by decide) | exact absurd hcaptcha (by decide)

/-! ### Independent deadlines -/

/-- Independent ban/captcha deadlines in the shared decision cache; zero means no
expiry. -/
structure DecisionExpiry where
  ban : ℤ
  captcha : ℤ
  deriving DecidableEq, Repr

namespace DecisionExpiry

def empty : DecisionExpiry := ⟨0, 0⟩

/-- One deadline after merging: zero means unlimited, so it dominates a finite deadline. -/
def mergeDeadline (present bit : UInt8) (deadline expires : ℤ) : ℤ :=
  if present &&& bit = 0 then expires
  else if deadline = 0 ∨ expires = 0 then 0
  else max deadline expires

/-- Merge a deadline into the field of `bit`; any other bit leaves both fields alone. -/
def merge (e : DecisionExpiry) (present bit : UInt8) (expires : ℤ) : DecisionExpiry :=
  if bit = 1 then { e with ban := mergeDeadline present bit e.ban expires }
  else if bit = 2 then { e with captcha := mergeDeadline present bit e.captcha expires }
  else e

/-- The bits of `present` whose deadline has not passed at `now`. -/
def activeMask (e : DecisionExpiry) (present : UInt8) (now : ℤ) : UInt8 :=
  let active := if e.ban ≠ 0 ∧ e.ban ≤ now then present &&& ~~~1 else present
  if e.captcha ≠ 0 ∧ e.captcha ≤ now then active &&& ~~~2 else active

def clearBit (e : DecisionExpiry) (bit : UInt8) : DecisionExpiry :=
  if bit = 1 then { e with ban := 0 }
  else if bit = 2 then { e with captcha := 0 }
  else e

/-- Drop the expired bits and their deadlines; returns the deadlines and the new mask. -/
def pruneInactive (e : DecisionExpiry) (present : UInt8) (now : ℤ) : DecisionExpiry × UInt8 :=
  let active := e.activeMask present now
  let e := if active &&& 1 = 0 then { e with ban := 0 } else e
  let e := if active &&& 2 = 0 then { e with captcha := 0 } else e
  (e, active)

/-! ### The lattice reading -/

/-- A stored deadline as a `Deadline`: zero is no limit. -/
def ofStored (x : ℤ) : Deadline ℤ := if x = 0 then ⊤ else Deadline.at' x

/-- The stored deadline of a decision type. -/
def stored (e : DecisionExpiry) : DecisionType → ℤ
  | .ban => e.ban
  | .captcha => e.captcha
  | .unknown => 0

/-- The deadline of one decision type in an entry with mask `present`. -/
def view (e : DecisionExpiry) (present : UInt8) (dt : DecisionType) : Deadline ℤ :=
  if present &&& dt.toBit = 0 then ⊥ else ofStored (e.stored dt)

variable {e : DecisionExpiry} {m : UInt8} {now x : ℤ} {dt dt' : DecisionType}

theorem active_ofStored : Deadline.Active now (ofStored x) ↔ x = 0 ∨ now < x := by
  rw [ofStored]
  split_ifs with h <;> simp [h]

@[simp] theorem view_unknown : e.view m .unknown = ⊥ := by
  simp [view, DecisionType.toBit]

theorem activeMask_lt (hm : m < 4) : e.activeMask m now < 4 := by
  rw [activeMask]
  rcases mask_cases hm with rfl | rfl | rfl | rfl <;> split_ifs <;> decide

theorem stored_merge (hdt : dt ≠ .unknown) :
    (e.merge m dt.toBit x).stored dt' =
      if dt' = dt then mergeDeadline m dt.toBit (e.stored dt) x else e.stored dt' := by
  cases dt with
  | unknown => exact absurd rfl hdt
  | ban => cases dt' <;> rfl
  | captcha => cases dt' <;> rfl

theorem stored_clearBit :
    (e.clearBit dt.toBit).stored dt' = if dt' = dt then 0 else e.stored dt' := by
  cases dt <;> cases dt' <;> rfl

/-- The active mask drops the bit of a type exactly when its deadline has passed. -/
theorem activeMask_and_toBit :
    e.activeMask m now &&& dt.toBit =
      if e.stored dt ≠ 0 ∧ e.stored dt ≤ now then 0 else m &&& dt.toBit := by
  have hban (x : UInt8) : x &&& ~~~1 &&& dt.toBit = if dt = .ban then 0 else x &&& dt.toBit := by
    split_ifs with h
    · exact h ▸ @mask_clear_self x .ban
    · exact @mask_clear_of_ne x .ban dt h
  have hcaptcha (x : UInt8) :
      x &&& ~~~2 &&& dt.toBit = if dt = .captcha then 0 else x &&& dt.toBit := by
    split_ifs with h
    · exact h ▸ @mask_clear_self x .captcha
    · exact @mask_clear_of_ne x .captcha dt h
  have hmask : e.activeMask m now &&& dt.toBit =
      if dt = .captcha ∧ e.captcha ≠ 0 ∧ e.captcha ≤ now then 0
      else if dt = .ban ∧ e.ban ≠ 0 ∧ e.ban ≤ now then 0 else m &&& dt.toBit := by
    simp only [activeMask, apply_ite (· &&& dt.toBit), hban, hcaptcha]
    grind
  rw [hmask]
  cases dt <;> grind [stored]

/-- The active mask has exactly the bits whose deadline is active. -/
theorem activeMask_and_toBit_ne_zero :
    e.activeMask m now &&& dt.toBit ≠ 0 ↔ Deadline.Active now (e.view m dt) := by
  rw [activeMask_and_toBit, view]
  by_cases hbit : m &&& dt.toBit = 0
  · simp [hbit]
  · rw [if_neg hbit, active_ofStored]
    split_ifs with hpassed
    · exact iff_of_false (fun h => h rfl) (by omega)
    · exact iff_of_true hbit (by omega)

/-- An entry is expired when no decision type is active. -/
theorem activeMask_eq_zero_iff (hm : m < 4) :
    e.activeMask m now = 0 ↔ ∀ dt, ¬ Deadline.Active now (e.view m dt) := by
  rw [mask_eq_zero_iff (activeMask_lt hm)]
  exact forall_congr' fun dt => by rw [← activeMask_and_toBit_ne_zero, not_not]

/-- Merging two stored deadlines of a present type is the join. -/
private theorem ofStored_mergeDeadline {bit : UInt8} {d : ℤ} (h : ¬ m &&& bit = 0) :
    ofStored (mergeDeadline m bit d x) = ofStored d ⊔ ofStored x := by
  rw [mergeDeadline, if_neg h]
  split_ifs with hzero
  · rcases hzero with rfl | rfl <;> simp [ofStored]
  · obtain ⟨hd, hx⟩ := not_or.mp hzero
    have hmax : max d x ≠ 0 := by
      rcases max_choice d x with h | h <;> rw [h] <;> assumption
    simp only [ofStored, hd, hx, hmax, if_false, Deadline.at', WithBot.coe_max, WithTop.coe_max]

/-- The deadline that a call asks for: an unknown type has no bit and carries none. -/
def requested (dt : DecisionType) (x : ℤ) : Deadline ℤ :=
  if dt = .unknown then ⊥ else ofStored x

/-- **Merging** takes the later of the two deadlines of the merged type. -/
theorem view_merge :
    (e.merge m dt.toBit x).view (m ||| dt.toBit) dt' =
      if dt' = dt then e.view m dt ⊔ requested dt x else e.view m dt' := by
  by_cases hdt : dt = .unknown
  · subst hdt
    have hmerge : e.merge m DecisionType.unknown.toBit x = e := rfl
    have hmask : m ||| DecisionType.unknown.toBit = m := UInt8.or_zero
    rw [hmerge, hmask]
    split_ifs with heq
    · rw [heq, view_unknown, requested, if_pos rfl, bot_sup_eq]
    · rfl
  rw [view, stored_merge hdt, requested, if_neg hdt]
  split_ifs with hbit heq heq
  · exact absurd (heq ▸ hbit) (mask_set_self hdt)
  · rw [mask_set_of_ne heq] at hbit
    rw [view, if_pos hbit]
  · rw [view]
    split_ifs with hold
    · rw [mergeDeadline, if_pos hold, bot_sup_eq]
    · exact ofStored_mergeDeadline hold
  · rw [mask_set_of_ne heq] at hbit
    rw [view, if_neg hbit]

/-- Merging into an empty record starts the merged type alone. -/
theorem view_merge_empty :
    (empty.merge 0 dt.toBit x).view dt.toBit dt' = if dt' = dt then requested dt x else ⊥ := by
  have h : (empty.merge 0 dt.toBit x).view (0 ||| dt.toBit) dt' =
      if dt' = dt then empty.view 0 dt ⊔ requested dt x else empty.view 0 dt' := view_merge
  rw [UInt8.zero_or] at h
  rw [h]
  simp [view]

/-- **Removing** a type leaves it without a deadline. -/
theorem view_clearBit :
    (e.clearBit dt.toBit).view (m &&& ~~~dt.toBit) dt' =
      if dt' = dt then ⊥ else e.view m dt' := by
  rw [view, stored_clearBit]
  split_ifs with hbit heq heq
  · rfl
  · rw [mask_clear_of_ne heq] at hbit
    rw [view, if_pos hbit]
  · exact absurd (heq ▸ mask_clear_self) hbit
  · rw [mask_clear_of_ne heq] at hbit
    rw [view, if_neg hbit]

theorem stored_pruneInactive :
    (e.pruneInactive m now).1.stored dt =
      if e.activeMask m now &&& dt.toBit = 0 then 0 else e.stored dt := by
  rw [pruneInactive]
  cases dt <;>
    simp only [DecisionType.toBit, DECISION_BIT_BAN, DECISION_BIT_CAPTCHA] <;>
    split_ifs <;> simp_all [stored]

/-- **Pruning** forgets exactly the deadlines that have passed. -/
theorem view_pruneInactive :
    (e.pruneInactive m now).1.view (e.pruneInactive m now).2 dt =
      open Classical in if Deadline.Active now (e.view m dt) then e.view m dt else ⊥ := by
  have hmask : (e.pruneInactive m now).2 = e.activeMask m now := rfl
  rw [view, stored_pruneInactive, hmask]
  split_ifs with hbit hactive hactive
  · exact absurd hbit (activeMask_and_toBit_ne_zero.mpr hactive)
  · rfl
  · rw [activeMask_and_toBit] at hbit
    rw [view, if_neg fun hzero => hbit (by rw [hzero, ite_self])]
  · exact absurd (activeMask_and_toBit_ne_zero.mp hbit) hactive

end DecisionExpiry

end CrowdSecBouncer
