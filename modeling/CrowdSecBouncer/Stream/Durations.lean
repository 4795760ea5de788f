import CrowdSecBouncer.Shm.Additions
import CrowdSecBouncer.Stream.Decisions
import Mathlib.Data.Rat.Floor
import Mathlib.Tactic.FieldSimp
import Mathlib.Tactic.Positivity

/-!
# Durations

`parse_duration` reads groups of digits with a unit, and bare digits at the end, and adds the
seconds up in checked 64-bit arithmetic. The checks change nothing but the range: the loop
computes the exact sum and gives up exactly when that sum does not fit
(`parseDuration_exact`), because the partial sums never exceed the whole.

What the parser turns away is stored without a limit. Go prints durations with a decimal fraction,
which the parser turns away.
-/

namespace CrowdSecBouncer

open Text

/-! ### The loop, one byte at a time -/

/-- The variables of the loop of `parse_duration`. -/
structure DurationState where
  totalSecs : ℤ
  number : ℤ
  hasNumber : Bool
  deriving DecidableEq, Repr

namespace DurationState

def start : DurationState := ⟨0, 0, false⟩

/-- The loop body; `check` is what the arithmetic does with a result. -/
def next (check : ℤ → Option ℤ) (st : DurationState) (c : Char) : Option DurationState :=
  if c.isDigit then do
    let number ← check (st.number * 10)
    let number ← check (number + digitVal c)
    some ⟨st.totalSecs, number, true⟩
  else if st.hasNumber then do
    let multiplier ← durationMultiplier c
    let secs ← check (st.number * multiplier)
    let totalSecs ← check (st.totalSecs + secs)
    some ⟨totalSecs, 0, false⟩
  else none

/-- After the loop. -/
def finish (check : ℤ → Option ℤ) (st : DurationState) : Option ℤ :=
  if st.hasNumber then check (st.totalSecs + st.number) else some st.totalSecs

/-- The loop and what follows it, from any state. -/
def run (check : ℤ → Option ℤ) (st : DurationState) (cs : List Char) : Option ℤ :=
  (cs.foldlM (next check) st).bind (finish check)

/-- The states that the loop can be in: no number is left over without its digits. -/
structure Ok (st : DurationState) : Prop where
  totalSecs : 0 ≤ st.totalSecs
  number : 0 ≤ st.number
  no_number : st.hasNumber = false → st.number = 0

variable {st st' : DurationState} {c : Char} {cs : List Char} {check : ℤ → Option ℤ} {v : ℤ}

@[simp] theorem run_nil : run check st [] = finish check st := rfl

@[simp] theorem run_cons :
    run check st (c :: cs) = (next check st c).bind fun st => run check st cs := by
  rw [run, List.foldlM_cons]
  exact Option.bind_assoc ..

end DurationState

open DurationState

theorem parseDurationLoop_eq (t n : ℤ) (b : Bool) (cs : List Char) :
    parseDurationLoop t n b cs = run checkI64 ⟨t, n, b⟩ cs := by
  induction cs generalizing t n b with
  | nil => rfl
  | cons c cs ih =>
    rw [run_cons, parseDurationLoop, next]
    simp only [ih]
    split
    · simp [Option.bind_assoc]
    · split
      · simp [Option.bind_assoc]
      · rfl

theorem durationMultiplier_pos {c : Char} {m : ℤ} (h : durationMultiplier c = some m) : 1 ≤ m := by
  rw [durationMultiplier] at h
  split_ifs at h <;> cases h <;> decide

namespace DurationState

variable {st st' : DurationState} {c : Char} {cs : List Char} {v : ℤ}

theorem ok_start : start.Ok := ⟨le_rfl, le_rfl, fun _ => rfl⟩

/-- **One byte**, exactly: the state stays in order and its numbers do not go down. -/
theorem Ok.next (h : st.Ok) (hnext : st.next some c = some st') :
    st'.Ok ∧ st.totalSecs + st.number ≤ st'.totalSecs + st'.number := by
  have htotal := h.totalSecs
  have hnumber := h.number
  rw [DurationState.next] at hnext
  split at hnext
  · simp only [bind, Option.bind_some, Option.some.injEq] at hnext
    subst hnext
    have hdigit : (0 : ℤ) ≤ digitVal c := Int.natCast_nonneg _
    exact ⟨⟨htotal, by dsimp only; omega, by simp⟩, by dsimp only; omega⟩
  · split at hnext
    · obtain ⟨m, hm, hnext⟩ := Option.bind_eq_some_iff.mp hnext
      simp only [bind, Option.bind_some, Option.some.injEq] at hnext
      subst hnext
      have hle : st.number * 1 ≤ st.number * m :=
        mul_le_mul_of_nonneg_left (durationMultiplier_pos hm) hnumber
      exact ⟨⟨by dsimp only; omega, le_rfl, fun _ => rfl⟩, by dsimp only; omega⟩
    · exact absurd hnext (by simp)

/-- The exact result is not below any partial sum. -/
theorem Ok.le_run (h : st.Ok) (hrun : run some st cs = some v) :
    st.totalSecs + st.number ≤ v := by
  induction cs generalizing st with
  | nil =>
    rw [run_nil, finish] at hrun
    split at hrun
    · exact (Option.some_injective _ hrun).le
    · next hno =>
      have hzero := h.no_number (by simpa using hno)
      have hv := Option.some_injective _ hrun
      omega
  | cons c cs ih =>
    rw [run_cons] at hrun
    obtain ⟨st', hnext, hrest⟩ := Option.bind_eq_some_iff.mp hrun
    obtain ⟨hok, hle⟩ := h.next hnext
    exact hle.trans (ih hok hrest)

/-- The variables fit in 64 bits. -/
def InRange (st : DurationState) : Prop := st.totalSecs < 2 ^ 63 ∧ st.number < 2 ^ 63

theorem checkI64_of_lt {x : ℤ} (hx : 0 ≤ x) (hlt : x < 2 ^ 63) : checkI64 x = some x :=
  if_pos ⟨by omega, hlt⟩

theorem checkI64_of_not_lt {x : ℤ} (hlt : ¬ x < 2 ^ 63) : checkI64 x = none :=
  if_neg fun h => hlt h.2

/-- A checked byte that succeeds is an exact one that leaves the variables in range. -/
theorem InRange.next_checked (hrange : st.InRange) (hnext : st.next checkI64 c = some st') :
    st.next some c = some st' ∧ st'.InRange := by
  have hcheck {x y : ℤ} (hx : checkI64 x = some y) : x = y ∧ y < 2 ^ 63 := by
    obtain ⟨hrange, heq⟩ := Option.ite_none_right_eq_some.mp hx
    obtain rfl := Option.some_injective _ heq
    exact ⟨rfl, hrange.2⟩
  rw [DurationState.next] at hnext ⊢
  split at hnext
  · next hdigit =>
    obtain ⟨x, hx, hnext⟩ := Option.bind_eq_some_iff.mp hnext
    obtain ⟨y, hy, hnext⟩ := Option.bind_eq_some_iff.mp hnext
    obtain ⟨rfl, -⟩ := hcheck hx
    obtain ⟨rfl, hlt⟩ := hcheck hy
    obtain rfl := Option.some_injective _ hnext
    exact ⟨if_pos hdigit, hrange.1, hlt⟩
  · next hdigit =>
    rw [if_neg hdigit]
    split at hnext
    · next hhas =>
      obtain ⟨m, hm, hnext⟩ := Option.bind_eq_some_iff.mp hnext
      obtain ⟨x, hx, hnext⟩ := Option.bind_eq_some_iff.mp hnext
      obtain ⟨y, hy, hnext⟩ := Option.bind_eq_some_iff.mp hnext
      obtain ⟨rfl, -⟩ := hcheck hx
      obtain ⟨rfl, hlt⟩ := hcheck hy
      obtain rfl := Option.some_injective _ hnext
      rw [if_pos hhas, hm]
      exact ⟨rfl, hlt, show (0 : ℤ) < 2 ^ 63 by decide⟩
    · exact absurd hnext (by simp)

/-- An exact byte that leaves the variables in range is a checked one. -/
theorem Ok.next_of_inRange (h : st.Ok) (hnext : st.next some c = some st')
    (hrange' : st'.InRange) : st.next checkI64 c = some st' := by
  have htotal := h.totalSecs
  have hnumber := h.number
  rw [DurationState.next] at hnext ⊢
  split at hnext
  · next hdigit =>
    simp only [bind, Option.bind_some, Option.some.injEq] at hnext
    subst hnext
    -- the product is checked first; it is not above the sum
    obtain ⟨-, hlt⟩ := hrange'
    have hnonneg : (0 : ℤ) ≤ digitVal c := Int.natCast_nonneg _
    dsimp only at hlt
    rw [if_pos hdigit, checkI64_of_lt (by omega) (by omega)]
    simp only [bind, Option.bind_some]
    rw [checkI64_of_lt (by omega) hlt]
    rfl
  · next hdigit =>
    rw [if_neg hdigit]
    split at hnext
    · next hhas =>
      obtain ⟨m, hm, hnext⟩ := Option.bind_eq_some_iff.mp hnext
      simp only [bind, Option.bind_some, Option.some.injEq] at hnext
      subst hnext
      obtain ⟨hlt, -⟩ := hrange'
      have hsecs : 0 ≤ st.number * m :=
        mul_nonneg hnumber (by have := durationMultiplier_pos hm; omega)
      dsimp only at hlt
      rw [if_pos hhas, hm]
      simp only [bind, Option.bind_some]
      rw [checkI64_of_lt hsecs (by omega)]
      simp only [Option.bind_some]
      rw [checkI64_of_lt (by omega) hlt]
      rfl
    · exact absurd hnext (by simp)

/-- **The checks only cut off**: the checked loop computes the exact result when that fits, and
gives up when it does not. -/
theorem Ok.run_checked (h : st.Ok) (hrange : st.InRange) :
    run checkI64 st cs = (run some st cs).filter (· < 2 ^ 63) := by
  induction cs generalizing st with
  | nil =>
    rw [run_nil, run_nil, finish, finish]
    have htotal := h.totalSecs
    have hnumber := h.number
    split
    · by_cases hlt : st.totalSecs + st.number < 2 ^ 63
      · rw [checkI64_of_lt (by omega) hlt, Option.filter_some, if_pos (by simpa using hlt)]
      · rw [checkI64_of_not_lt hlt, Option.filter_some, if_neg (by simpa using hlt)]
    · rw [Option.filter_some, if_pos (by simpa using hrange.1)]
  | cons c cs ih =>
    rw [run_cons, run_cons]
    cases hnext : st.next some c with
    | none =>
      have hnone : st.next checkI64 c = none :=
        Option.eq_none_iff_forall_ne_some.mpr fun st' hst' => by
          rw [(hrange.next_checked hst').1] at hnext
          exact absurd hnext (by simp)
      rw [hnone]
      rfl
    | some st' =>
      obtain ⟨hok, -⟩ := h.next hnext
      rw [Option.bind_some]
      by_cases hrange' : st'.InRange
      · rw [h.next_of_inRange hnext hrange', Option.bind_some]
        exact ih hok hrange'
      · have hnone : st.next checkI64 c = none :=
          Option.eq_none_iff_forall_ne_some.mpr fun st'' hst'' => by
            obtain ⟨hexact, hrange''⟩ := hrange.next_checked hst''
            rw [hexact] at hnext
            exact hrange' (Option.some_injective _ hnext ▸ hrange'')
        rw [hnone, Option.bind_none]
        -- the exact result is out of range too
        cases hrun : run some st' cs with
        | none => rfl
        | some v =>
          have hle := hok.le_run hrun
          have htotal := hok.totalSecs
          have hnumber := hok.number
          have hbig : ¬ v < 2 ^ 63 := by
            intro hlt
            exact hrange' ⟨by omega, by omega⟩
          rw [Option.filter_some, if_neg (by simpa using hbig)]

/-- **Nothing wraps**: the variables of the checked loop are the exact ones, and in range. -/
theorem InRange.foldlM_checked (hrange : st.InRange)
    (hfold : cs.foldlM (next checkI64) st = some st') :
    cs.foldlM (next some) st = some st' ∧ st'.InRange := by
  induction cs generalizing st with
  | nil =>
    obtain rfl := Option.some_injective _ hfold
    exact ⟨rfl, hrange⟩
  | cons c cs ih =>
    rw [List.foldlM_cons] at hfold ⊢
    obtain ⟨st₁, hnext, hrest⟩ := Option.bind_eq_some_iff.mp hfold
    obtain ⟨hexact, hrange₁⟩ := hrange.next_checked hnext
    rw [hexact]
    exact ih hrange₁ hrest

theorem Ok.foldlM (h : st.Ok) (hfold : cs.foldlM (DurationState.next some) st = some st') :
    st'.Ok := by
  induction cs generalizing st with
  | nil =>
    obtain rfl := Option.some_injective _ hfold
    exact h
  | cons c cs ih =>
    rw [List.foldlM_cons] at hfold
    obtain ⟨st₁, hnext, hrest⟩ := Option.bind_eq_some_iff.mp hfold
    exact ih (h.next hnext).1 hrest

end DurationState

/-! ### The grammar of durations -/

/-- One or more ASCII digits. -/
def IsDigits (ds : List Char) : Prop := ds ≠ [] ∧ ∀ c ∈ ds, c.isDigit = true

/-- Groups of digits with a unit, possibly bare digits at the end, and the seconds they add up
to. -/
inductive DurationText : List Char → ℤ → Prop
  | nil : DurationText [] 0
  | bare {ds : List Char} (hds : IsDigits ds) : DurationText ds (decimalValue ds)
  | group {ds rest : List Char} {unit : Char} {multiplier n : ℤ} (hds : IsDigits ds)
      (hunit : durationMultiplier unit = some multiplier) (hrest : DurationText rest n) :
      DurationText (ds ++ unit :: rest) (decimalValue ds * multiplier + n)

namespace DurationState

variable {st : DurationState} {t : ℤ} {b : Bool} {ds rest cs : List Char} {v : ℤ}

/-- Reading digits, exactly. -/
theorem run_digits (acc : ℕ) (hds : ∀ c ∈ ds, c.isDigit = true) (hne : ds ≠ []) :
    run some ⟨t, acc, b⟩ (ds ++ rest) =
      run some ⟨t, (ds.foldl (fun acc c => acc * 10 + digitVal c) acc : ℕ), true⟩ rest := by
  induction ds generalizing acc b with
  | nil => exact absurd rfl hne
  | cons c ds ih =>
    obtain ⟨hc, hrest⟩ := List.forall_mem_cons.mp hds
    have hnext : next some ⟨t, acc, b⟩ c = some ⟨t, (acc * 10 + digitVal c : ℕ), true⟩ := by
      rw [next, if_pos hc]
      push_cast
      rfl
    rw [List.cons_append, run_cons, hnext, Option.bind_some, List.foldl_cons]
    cases ds with
    | nil => rfl
    | cons d ds => exact ih (acc * 10 + digitVal c) hrest (by simp)

theorem isDigit_eq_false_of_durationMultiplier {unit : Char} {m : ℤ}
    (h : durationMultiplier unit = some m) : unit.isDigit = false := by
  rw [durationMultiplier] at h
  split_ifs at h with hh hm hs
  · subst hh; decide
  · subst hm; decide
  · subst hs; decide

/-- A unit ends a group. -/
theorem run_unit {unit : Char} {n m : ℤ} (hunit : durationMultiplier unit = some m) :
    run some ⟨t, n, true⟩ (unit :: rest) = run some ⟨t + n * m, 0, false⟩ rest := by
  rw [run_cons, next, if_neg (by rw [isDigit_eq_false_of_durationMultiplier hunit]; simp),
    if_pos rfl, hunit]
  rfl

/-- **The exact loop reads the grammar.** -/
theorem run_exact_iff :
    run some ⟨t, 0, false⟩ cs = some v ↔ ∃ n, DurationText cs n ∧ v = t + n := by
  constructor
  · intro hrun
    induction hlen : cs.length using Nat.strong_induction_on generalizing cs t with
    | _ len ih =>
      -- the digits at the front, and what follows them
      obtain ⟨ds, rest, rfl, hds, hrest⟩ : ∃ ds rest, cs = ds ++ rest ∧
          (∀ c ∈ ds, c.isDigit = true) ∧ ∀ c rest', rest = c :: rest' → c.isDigit = false := by
        refine ⟨cs.takeWhile Char.isDigit, cs.dropWhile Char.isDigit,
          List.takeWhile_append_dropWhile.symm, fun c hc => List.mem_takeWhile_imp hc, ?_⟩
        intro c rest' heq
        have hhead := List.head_dropWhile_not Char.isDigit (l := cs) (by rw [heq]; simp)
        simpa [heq] using hhead
      rcases eq_or_ne ds [] with rfl | hne
      · cases rest with
        | nil =>
          rw [List.append_nil, run_nil, finish, if_neg Bool.false_ne_true] at hrun
          exact ⟨0, .nil, by rw [← Option.some_injective _ hrun, add_zero]⟩
        | cons c rest' =>
          rw [List.nil_append, run_cons, next, if_neg (by rw [hrest c rest' rfl]; simp),
            if_neg Bool.false_ne_true] at hrun
          exact absurd hrun (by simp)
      · have hread := @run_digits t false ds rest 0 hds hne
        rw [Nat.cast_zero] at hread
        rw [hread] at hrun
        change run some ⟨t, (decimalValue ds : ℕ), true⟩ rest = some v at hrun
        cases rest with
        | nil =>
          rw [run_nil, finish, if_pos rfl] at hrun
          exact ⟨_, by rw [List.append_nil]; exact .bare ⟨hne, hds⟩,
            (Option.some_injective _ hrun).symm⟩
        | cons unit rest' =>
          cases hunit : durationMultiplier unit with
          | none =>
            rw [run_cons, next, if_neg (by rw [hrest unit rest' rfl]; simp), if_pos rfl,
              hunit] at hrun
            exact absurd hrun (by simp)
          | some m =>
            rw [run_unit hunit] at hrun
            obtain ⟨n, hn, hv⟩ := ih rest'.length (by rw [← hlen]; simp; omega) hrun rfl
            exact ⟨_, .group ⟨hne, hds⟩ hunit hn, by rw [hv, add_assoc]⟩
  · rintro ⟨n, htext, rfl⟩
    induction htext generalizing t with
    | nil => rw [run_nil, finish, if_neg Bool.false_ne_true, add_zero]
    | @bare ds hds =>
      have hread := @run_digits t false ds [] 0 hds.2 hds.1
      rw [Nat.cast_zero, List.append_nil] at hread
      rw [hread, run_nil, finish, if_pos rfl]
      rfl
    | @group ds rest unit m n hds hunit _ ih =>
      have hread := @run_digits t false ds (unit :: rest) 0 hds.2 hds.1
      rw [Nat.cast_zero] at hread
      rw [hread, run_unit hunit, ih, add_assoc]
      rfl

end DurationState

theorem DurationState.inRange_start : DurationState.start.InRange :=
  ⟨show (0 : ℤ) < 2 ^ 63 by decide, show (0 : ℤ) < 2 ^ 63 by decide⟩

/-- The parser returns the sum of the groups when it is positive and fits. -/
theorem parseDuration_eq_some_iff {s : List Char} {n : ℤ} :
    parseDuration s = some n ↔ DurationText (trim s) n ∧ 0 < n ∧ n ≤ 2 ^ 63 - 1 := by
  have hloop : parseDurationLoop 0 0 false (trim s) =
      (run some start (trim s)).filter (· < 2 ^ 63) := by
    rw [parseDurationLoop_eq]
    exact ok_start.run_checked inRange_start
  have hexact : run some start (trim s) = some n ↔ DurationText (trim s) n := by
    rw [start, run_exact_iff]
    simp
  rw [parseDuration, hloop, Option.ite_none_left_eq_some, Option.filter_eq_some_iff,
    Option.filter_eq_some_iff, hexact, decide_eq_true_eq, decide_eq_true_eq]
  constructor
  · rintro ⟨-, ⟨htext, hlt⟩, hpos⟩
    exact ⟨htext, hpos, by omega⟩
  · rintro ⟨htext, hpos, hle⟩
    refine ⟨fun hempty => ?_, ⟨htext, by omega⟩, hpos⟩
    rw [← hexact, hempty] at htext
    have hzero : (0 : ℤ) = n := Option.some_injective _ htext
    omega

/-- **`parse_duration` is exact and free of overflow.** It returns the sum of the groups exactly
when the trimmed text is made of them and the sum is positive and fits; and at every byte the
variables of its loop are the exact ones, in range. -/
theorem parseDuration_exact (s : List Char) :
    (∀ n, parseDuration s = some n ↔ DurationText (trim s) n ∧ 0 < n ∧ n ≤ 2 ^ 63 - 1) ∧
      ∀ done rest st, trim s = done ++ rest →
        done.foldlM (DurationState.next checkI64) DurationState.start = some st →
        done.foldlM (DurationState.next some) DurationState.start = some st ∧
          0 ≤ st.totalSecs ∧ st.totalSecs < 2 ^ 63 ∧ 0 ≤ st.number ∧ st.number < 2 ^ 63 := by
  refine ⟨fun n => parseDuration_eq_some_iff, fun done rest st _ hfold => ?_⟩
  obtain ⟨hexact, hrange⟩ := inRange_start.foldlM_checked hfold
  have hok := ok_start.foldlM hexact
  exact ⟨hexact, hok.totalSecs, hrange.1, hok.number, hrange.2⟩

/-! ### The deadline of a duration -/

/-- The addition of a new decision. -/
theorem addition_of_additionCall {fallback : FallbackRemediation} {d : Decision}
    {clock : CallClock} {op : TableOp} (h : additionCall fallback d clock = some op) :
    ∃ a, op.addition? = some a ∧ d.pair? fallback = some (a.key, a.decisionType) ∧
      a.decisionType ≠ .unknown ∧ a.clock = clock ∧
      a.expires = expiresOf (d.duration.bind parseDuration) clock := by
  obtain ⟨dt, target, hdt, ⟨value, htarget⟩, hpair, h⟩ := d.exists_target h
  have hknown := ne_unknown_of_resolveUnknownType hdt
  cases target with
  | ip addr =>
    obtain rfl := Option.some_injective _ h
    exact ⟨_, rfl, hpair, hknown, rfl, rfl⟩
  | cidr network family prefixLen =>
    obtain rfl := Option.some_injective _ h
    exact ⟨_, if_pos (cidrParamsValid_of_parseValue htarget), hpair, hknown, rfl, rfl⟩

theorem expiresOf_some {d now : ℤ} {clock : CallClock} (hclock : clock.deadline = some now) :
    expiresOf (some d) clock = (now + d).bmod (2 ^ 64) := by
  rw [expiresOf.eq_def, hclock]

/-- The 64-bit sum of two numbers that are not negative is the sum when that fits, and negative
when it does not. -/
theorem bmod_add_cases {now d : ℤ} (hnow : 0 ≤ now) (hd : 0 ≤ d) (hnow' : now < 2 ^ 63)
    (hd' : d < 2 ^ 63) :
    now + d < 2 ^ 63 ∧ (now + d).bmod (2 ^ 64) = now + d ∨
      ¬ now + d < 2 ^ 63 ∧ (now + d).bmod (2 ^ 64) < 0 := by
  by_cases hfits : now + d < 2 ^ 63
  · refine .inl ⟨hfits, Int.bmod_eq_of_le ?_ ?_⟩ <;> norm_num <;> omega
  · refine .inr ⟨hfits, ?_⟩
    have hwrap : (now + d).bmod (2 ^ 64) = now + d - 2 ^ 64 := by
      have hsub : (now + d - 2 ^ 64).bmod (2 ^ 64) = (now + d).bmod (2 ^ 64) := by
        have hsub := Int.sub_bmod_right (now + d) (2 ^ 64)
        exact_mod_cast hsub
      rw [← hsub]
      refine Int.bmod_eq_of_le ?_ ?_ <;> norm_num <;> omega
    rw [hwrap]
    omega

theorem bmod_add_eq_iff {now d : ℤ} (hnow : 0 ≤ now) (hd : 0 ≤ d) (hnow' : now < 2 ^ 63)
    (hd' : d < 2 ^ 63) : (now + d).bmod (2 ^ 64) = now + d ↔ now + d < 2 ^ 63 := by
  rcases bmod_add_cases hnow hd hnow' hd' with ⟨hfits, hsum⟩ | ⟨hno, hneg⟩
  · exact iff_of_true hsum hfits
  · exact iff_of_false (by omega) hno

theorem lt_bmod_add_iff {now d : ℤ} (hnow : 0 ≤ now) (hd : 0 < d) (hnow' : now < 2 ^ 63)
    (hd' : d < 2 ^ 63) : now < (now + d).bmod (2 ^ 64) ↔ now + d < 2 ^ 63 := by
  rcases bmod_add_cases hnow hd.le hnow' hd' with ⟨hfits, hsum⟩ | ⟨hno, hneg⟩
  · exact iff_of_true (by omega) hfits
  · exact iff_of_false (by omega) hno

/-- **Finite deadlines lie in the future** exactly when the clock reading plus the duration fits in
64 bits: then the call computes a deadline after the reading, the decision is active at it, and it
is stored without a limit only where one without a limit was in force already. -/
theorem future_deadline_iff {s₀ : ShmData} (hC : 1 ≤ s₀.capacity) (ops : List TableOp)
    {text : List Char} {d now : ℤ} (hd : parseDuration text = some d) (hnow : 0 ≤ now)
    (hnow' : now < 2 ^ 62) (op : TableOp) (a : Addition) (ha : op.addition? = some a)
    (hdt : a.decisionType ≠ .unknown) (hclock : a.clock.deadline = some now)
    (hexpires : a.expires = expiresOf (some d) a.clock) :
    (now < a.expires ∧ ∃ e, (op.apply (TableOp.run (clearAll s₀) ops)).find a.key = some e ∧
      e.expires.activeMask e.decisionTypes now &&& a.decisionType.toBit ≠ 0 ∧
      (e.expires.stored a.decisionType = 0 →
        (TableOp.run (clearAll s₀) ops).deadlineAt (a.key, a.decisionType) = ⊤)) ↔
    now + d < 2 ^ 63 := by
  have h : TableOk (TableOp.run (clearAll s₀) ops) := (tableOk_clearAll hC).run ops
  generalize TableOp.run (clearAll s₀) ops = s at h ⊢
  obtain ⟨-, hpos, hle⟩ := parseDuration_eq_some_iff.mp hd
  rw [expiresOf_some hclock] at hexpires
  have hfits : now < a.expires ↔ now + d < 2 ^ 63 := by
    rw [hexpires]
    exact lt_bmod_add_iff hnow hpos (by omega) (by omega)
  rw [← hfits]
  exact ⟨fun hahead => hahead.1, fun hahead => ⟨hahead, h.addition_ahead ha hdt hnow hahead⟩⟩

/-- A decision of an hour is active when it has been added. -/
theorem future_deadline_iff_hour :
    1000 < expiresOf (some 3600) ⟨some 1000, 1000, 1000⟩ ∧
      ∃ e, ((TableOp.addDecision ⟨.v4 #v[10, 0, 0, 1], .ban, .capi, none, some 3600⟩
          ⟨some 1000, 1000, 1000⟩).apply (TableOp.run (clearAll (ShmData.fresh 1)) [])).find
          (.ip (.v4 #v[10, 0, 0, 1])) = some e ∧
        e.expires.activeMask e.decisionTypes 1000 &&& DecisionType.ban.toBit ≠ 0 ∧
        (e.expires.stored .ban = 0 → (TableOp.run (clearAll (ShmData.fresh 1)) []).deadlineAt
          (.ip (.v4 #v[10, 0, 0, 1]), .ban) = ⊤) :=
  (@future_deadline_iff (ShmData.fresh 1) (by decide) [] "1h".toList 3600 1000 (by decide)
    (by decide) (by decide) _ ⟨.ip (.v4 #v[10, 0, 0, 1]), .ban, .capi, none,
      expiresOf (some 3600) ⟨some 1000, 1000, 1000⟩, ⟨some 1000, 1000, 1000⟩⟩ rfl (by decide) rfl
    rfl).mpr (by decide)

/-- The longest duration that the parser reads wraps a second after the epoch, and the ban is gone
when it has been added. -/
theorem not_future_deadline :
    parseDuration "9223372036854775807".toList = some (2 ^ 63 - 1) ∧
      ¬ 1 < expiresOf (some (2 ^ 63 - 1)) ⟨some 1, 1, 1⟩ ∧
      lookupIp ((TableOp.addDecision ⟨.v4 #v[10, 0, 0, 1], .ban, .capi, none, some (2 ^ 63 - 1)⟩
        ⟨some 1, 1, 1⟩).apply (clearAll (ShmData.fresh 1))) (.v4 #v[10, 0, 0, 1]) 1 =
        .notFound := by
  decide +kernel

/-! ### Durations as Go prints them -/

/-- The parser accepts no decimal point. -/
theorem DurationText.point_notMem {cs : List Char} {n : ℤ} (h : DurationText cs n) :
    '.' ∉ cs := by
  have hdigits {ds : List Char} (hds : IsDigits ds) : '.' ∉ ds := fun hmem =>
    absurd (hds.2 _ hmem) (by decide)
  induction h with
  | nil => exact List.not_mem_nil
  | bare hds => exact hdigits hds
  | group hds hunit _ ih =>
    rw [List.mem_append, List.mem_cons, not_or, not_or]
    refine ⟨hdigits hds, ?_, ih⟩
    rintro rfl
    exact absurd hunit (by simp [durationMultiplier])

/-- A number as text. -/
abbrev Digits := { ds : List Char // IsDigits ds }

/-- A duration in Go's format: hours, minutes and seconds, each of them optional, the seconds
possibly with a decimal fraction. -/
structure GoDuration where
  hours : Option Digits
  minutes : Option Digits
  seconds : Option (Digits × Option Digits)

namespace GoDuration

/-- A component with its unit. -/
def component (unit : Char) : Option Digits → List Char
  | some ds => ds.val ++ [unit]
  | none => []

def secondsText : Option (Digits × Option Digits) → List Char
  | some (ds, some fraction) => ds.val ++ '.' :: fraction.val ++ ['s']
  | some (ds, none) => ds.val ++ ['s']
  | none => []

def text (g : GoDuration) : List Char :=
  component 'h' g.hours ++ component 'm' g.minutes ++ secondsText g.seconds

def value (ds : Option Digits) : ℕ := (ds.map fun ds => decimalValue ds.val).getD 0

/-- The decimal fraction of the seconds. -/
def fraction (g : GoDuration) : Option Digits := g.seconds.bind Prod.snd

def wholeSeconds (g : GoDuration) : ℕ :=
  value g.hours * 3600 + value g.minutes * 60 + value (g.seconds.map Prod.fst)

/-- The fraction of a second that digits after the point stand for. -/
def fractionValue (ds : Option Digits) : ℚ :=
  (ds.map fun ds => (decimalValue ds.val : ℚ) / 10 ^ ds.val.length).getD 0

/-- The duration in seconds. -/
def toSeconds (g : GoDuration) : ℚ := g.wholeSeconds + fractionValue g.fraction

variable {g : GoDuration}

private theorem foldl_lt (acc : ℕ) {ds : List Char} (hds : ∀ c ∈ ds, c.isDigit = true) :
    ds.foldl (fun acc c => acc * 10 + digitVal c) acc < (acc + 1) * 10 ^ ds.length := by
  induction ds generalizing acc with
  | nil => simp
  | cons c ds ih =>
    obtain ⟨hc, hrest⟩ := List.forall_mem_cons.mp hds
    have hdigit : digitVal c < 10 := by
      simp only [Char.isDigit, UInt32.le_iff_toNat_le, Bool.and_eq_true, decide_eq_true_eq] at hc
      change 48 ≤ c.toNat ∧ c.toNat ≤ 57 at hc
      change c.toNat - 48 < 10
      omega
    rw [List.foldl_cons, List.length_cons]
    calc _ < (acc * 10 + digitVal c + 1) * 10 ^ ds.length := ih _ hrest
      _ ≤ ((acc + 1) * 10) * 10 ^ ds.length := Nat.mul_le_mul_right _ (by omega)
      _ = (acc + 1) * 10 ^ (ds.length + 1) := by rw [pow_succ]; ring

theorem decimalValue_lt (ds : Digits) : decimalValue ds.val < 10 ^ ds.val.length := by
  have hlt := foldl_lt 0 ds.property.2
  rwa [Nat.zero_add, Nat.one_mul] at hlt

/-- The whole seconds are the floor. -/
theorem floor_toSeconds (g : GoDuration) : ⌊g.toSeconds⌋ = g.wholeSeconds := by
  have hfraction : 0 ≤ fractionValue g.fraction ∧ fractionValue g.fraction < 1 := by
    cases g.fraction with
    | none => exact ⟨le_rfl, zero_lt_one⟩
    | some ds =>
      have hpow : (0 : ℚ) < 10 ^ ds.val.length := by positivity
      have hlt : (decimalValue ds.val : ℚ) < 10 ^ ds.val.length := by
        exact_mod_cast decimalValue_lt ds
      exact ⟨div_nonneg (Nat.cast_nonneg _) hpow.le, (div_lt_one hpow).mpr hlt⟩
  rw [toSeconds, Int.floor_eq_iff]
  push_cast
  exact ⟨by linarith, by linarith⟩

theorem isGraphic_component {unit : Char} (hunit : IsGraphic unit) (ds : Option Digits) :
    ∀ c ∈ component unit ds, IsGraphic c := by
  intro c hc
  cases ds with
  | none => exact absurd hc List.not_mem_nil
  | some ds =>
    rcases List.mem_append.mp hc with hc | hc
    · exact isGraphic_of_isDigit (ds.property.2 c hc)
    · rw [List.mem_singleton.mp hc]
      exact hunit

/-- The text has no white space to trim. -/
theorem trim_text (g : GoDuration) : trim g.text = g.text := by
  refine trim_eq_self fun c hc => ?_
  have hs : IsGraphic 's' := ⟨by decide, by decide⟩
  rcases List.mem_append.mp hc with hc | hc
  · rcases List.mem_append.mp hc with hc | hc
    · exact isGraphic_component ⟨by decide, by decide⟩ g.hours c hc
    · exact isGraphic_component ⟨by decide, by decide⟩ g.minutes c hc
  · cases hseconds : g.seconds with
    | none =>
      rw [hseconds] at hc
      exact absurd hc List.not_mem_nil
    | some p =>
      obtain ⟨ds, _ | fraction⟩ := p
      · rw [hseconds] at hc
        exact isGraphic_component hs (some ds) c hc
      · rw [hseconds] at hc
        rcases List.mem_append.mp hc with hc | hc
        · rcases List.mem_append.mp hc with hc | hc
          · exact isGraphic_of_isDigit (ds.property.2 c hc)
          · rcases List.mem_cons.mp hc with rfl | hc
            · exact ⟨by decide, by decide⟩
            · exact isGraphic_of_isDigit (fraction.property.2 c hc)
        · rw [List.mem_singleton.mp hc]
          exact hs

theorem durationText_component {unit : Char} {m : ℕ} {rest : List Char} {n : ℤ}
    (hunit : durationMultiplier unit = some (m : ℤ)) (ds : Option Digits)
    (hrest : DurationText rest n) :
    DurationText (component unit ds ++ rest) ((value ds * m : ℕ) + n) := by
  cases ds with
  | none => simpa [component, value] using hrest
  | some ds =>
    have hgroup := DurationText.group ds.property hunit hrest
    simpa [component, value] using hgroup

/-- Without a fraction the text is one that the parser reads. -/
theorem durationText_text (h : g.fraction = none) : DurationText g.text g.wholeSeconds := by
  have hseconds : secondsText g.seconds = component 's' (g.seconds.map Prod.fst) := by
    rw [fraction] at h
    cases hseconds : g.seconds with
    | none => rfl
    | some p =>
      obtain ⟨ds, _ | digits⟩ := p
      · rfl
      · rw [hseconds] at h
        exact absurd h (by simp)
  have hs := @durationText_component 's' 1 [] 0 (by decide) (g.seconds.map Prod.fst) .nil
  have hm := @durationText_component 'm' 60 _ _ (by decide) g.minutes hs
  have hh := @durationText_component 'h' 3600 _ _ (by decide) g.hours hm
  rw [List.append_nil] at hh
  rw [text, hseconds, List.append_assoc, wholeSeconds]
  convert hh using 1
  push_cast
  ring

/-- With a fraction it is not. -/
theorem point_mem_text (h : g.fraction ≠ none) : '.' ∈ g.text := by
  obtain ⟨digits, hfraction⟩ := Option.ne_none_iff_exists'.mp h
  obtain ⟨⟨ds, _⟩, hseconds, rfl⟩ := Option.bind_eq_some_iff.mp hfraction
  rw [text, hseconds]
  exact List.mem_append_right _ (by simp [secondsText])

/-- **What the parser makes of a Go duration**: its whole seconds when it has no fraction and they
fit, and nothing when it has one. -/
theorem parseDuration_text (hpos : 0 < g.wholeSeconds) (hlt : (g.wholeSeconds : ℤ) < 2 ^ 63) :
    parseDuration g.text = if g.fraction = none then some (g.wholeSeconds : ℤ) else none := by
  split
  · next h =>
    rw [parseDuration_eq_some_iff, g.trim_text]
    exact ⟨durationText_text h, by exact_mod_cast hpos, by omega⟩
  · next h =>
    refine Option.eq_none_iff_forall_ne_some.mpr fun n hn => ?_
    obtain ⟨htext, -⟩ := parseDuration_eq_some_iff.mp hn
    rw [g.trim_text] at htext
    exact htext.point_notMem (point_mem_text h)

/-- **Go durations yield finite deadlines** exactly when they have no decimal fraction and the
clock reading plus the duration fits in 64 bits. A decision that was not in force is then stored
with that sum, and not without a limit. -/
theorem stored_deadline_iff {s₀ : ShmData} (hC : 1 ≤ s₀.capacity) (ops : List TableOp)
    (fallback : FallbackRemediation) (d : Decision) (g : GoDuration)
    (hd : d.duration = some g.text) (hlow : 1 ≤ g.toSeconds) (hhigh : g.toSeconds < 2 ^ 62)
    (clock : CallClock) (hclock : ∀ now, clock.deadline = some now → 0 ≤ now ∧ now < 2 ^ 63)
    (op : TableOp) (hop : additionCall fallback d clock = some op) (k : Key) (dt : DecisionType)
    (hpair : d.pair? fallback = some (k, dt))
    (hnew : ¬ (TableOp.run (clearAll s₀) ops).InForce clock.now k dt) :
    (∃ now e, clock.deadline = some now ∧
      (op.apply (TableOp.run (clearAll s₀) ops)).find k = some e ∧
      e.decisionTypes &&& dt.toBit ≠ 0 ∧ e.expires.stored dt = now + ⌊g.toSeconds⌋ ∧
      e.expires.stored dt ≠ 0) ↔
    g.fraction = none ∧ ∃ now, clock.deadline = some now ∧ now + ⌊g.toSeconds⌋ < 2 ^ 63 := by
  have h : TableOk (TableOp.run (clearAll s₀) ops) := (tableOk_clearAll hC).run ops
  generalize TableOp.run (clearAll s₀) ops = s at h hnew ⊢
  obtain ⟨a, ha, hpair', hdt, rfl, hexpires⟩ := addition_of_additionCall hop
  obtain ⟨rfl, rfl⟩ := Prod.mk.inj (Option.some_injective _ (hpair'.symm.trans hpair))
  obtain ⟨e, hfind, hstored, hbit⟩ := h.stored_addition ha hdt hnew
  have hfloor := g.floor_toSeconds
  have hpos : 0 < g.wholeSeconds := by
    have hle : (1 : ℤ) ≤ ⌊g.toSeconds⌋ := Int.le_floor.mpr (by exact_mod_cast hlow)
    omega
  have hlt : (g.wholeSeconds : ℤ) < 2 ^ 62 := by
    rw [← hfloor]
    exact Int.floor_lt.mpr (by exact_mod_cast hhigh)
  have hparse := parseDuration_text hpos (by omega)
  rw [hd, Option.bind_some, hparse] at hexpires
  rw [hfloor]
  by_cases hfraction : g.fraction = none
  · rw [if_pos hfraction] at hexpires
    have hfits {now : ℤ} (hnow : a.clock.deadline = some now) :
        a.expires = now + g.wholeSeconds ↔ now + (g.wholeSeconds : ℤ) < 2 ^ 63 := by
      obtain ⟨hnonneg, hnow'⟩ := hclock now hnow
      rw [hexpires, expiresOf_some hnow]
      exact bmod_add_eq_iff hnonneg (Int.natCast_nonneg _) hnow' (by omega)
    constructor
    · rintro ⟨now, e', hnow, hfind', -, hsum, -⟩
      obtain rfl : e = e' := Option.some_injective _ (hfind.symm.trans hfind')
      exact ⟨hfraction, now, hnow, (hfits hnow).mp (hstored.symm.trans hsum)⟩
    · rintro ⟨-, now, hnow, hsum⟩
      have hdeadline := hstored.trans ((hfits hnow).mpr hsum)
      have hnonneg := (hclock now hnow).1
      exact ⟨now, e, hnow, hfind, hbit, hdeadline, by omega⟩
  · rw [if_neg hfraction] at hexpires
    refine iff_of_false ?_ fun h => hfraction h.1
    rintro ⟨now, e', -, hfind', -, -, hne⟩
    obtain rfl : e = e' := Option.some_injective _ (hfind.symm.trans hfind')
    rw [hstored, hexpires] at hne
    exact hne rfl

theorem isDigits_of_all {ds : List Char} (hne : ds ≠ []) (h : ds.all Char.isDigit = true) :
    IsDigits ds := ⟨hne, fun c hc => List.all_eq_true.mp h c hc⟩

/-- The duration `3h59m57s`, possibly with a fraction. -/
def underFourHours (fraction : Option Digits) : GoDuration :=
  ⟨some ⟨['3'], isDigits_of_all (List.cons_ne_nil _ _) rfl⟩,
    some ⟨['5', '9'], isDigits_of_all (List.cons_ne_nil _ _) rfl⟩,
    some (⟨['5', '7'], isDigits_of_all (List.cons_ne_nil _ _) rfl⟩, fraction)⟩

/-- Without a fraction it is stored with its deadline. -/
theorem stored_deadline_iff_whole :
    ∃ now e, some 1000 = some now ∧
      ((TableOp.addDecision ⟨.v4 #v[10, 0, 0, 1], .ban, .unknown, none, some 14397⟩
          ⟨some 1000, 1000, 1000⟩).apply (TableOp.run (clearAll (ShmData.fresh 1)) [])).find
          (.ip (.v4 #v[10, 0, 0, 1])) = some e ∧
      e.decisionTypes &&& DecisionType.ban.toBit ≠ 0 ∧
      e.expires.stored .ban = now + ⌊(underFourHours none).toSeconds⌋ ∧
      e.expires.stored .ban ≠ 0 :=
  (@stored_deadline_iff (ShmData.fresh 1) (by decide) [] .ban
    ⟨none, "ban".toList, some "10.0.0.1".toList, some (underFourHours none).text, none, none⟩
    (underFourHours none) rfl (by decide +kernel) (by decide +kernel) ⟨some 1000, 1000, 1000⟩
    (by simp) _ (by decide +kernel) (.ip (.v4 #v[10, 0, 0, 1])) .ban (by decide +kernel)
    (Deadline.not_active_bot)).mpr ⟨rfl, 1000, rfl, by decide +kernel⟩

/-- With a fraction it is stored without a limit. -/
theorem not_stored_deadline :
    let g := underFourHours (some ⟨['6', '4'], isDigits_of_all (List.cons_ne_nil _ _) rfl⟩)
    g.text = "3h59m57.64s".toList ∧ 1 ≤ g.toSeconds ∧ g.toSeconds < 2 ^ 62 ∧
      additionCall .ban ⟨none, "ban".toList, some "10.0.0.1".toList, some g.text, none, none⟩
        ⟨some 1000, 1000, 1000⟩ = some (.addDecision
          ⟨.v4 #v[10, 0, 0, 1], .ban, .unknown, none, none⟩ ⟨some 1000, 1000, 1000⟩) ∧
      (((TableOp.addDecision ⟨.v4 #v[10, 0, 0, 1], .ban, .unknown, none, none⟩
          ⟨some 1000, 1000, 1000⟩).apply (clearAll (ShmData.fresh 1))).find
          (.ip (.v4 #v[10, 0, 0, 1]))).map (fun e => e.expires.stored .ban) = some 0 := by
  decide +kernel

end GoDuration

end CrowdSecBouncer
