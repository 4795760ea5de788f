import CrowdSecBouncer.Foundations.Armour
import CrowdSecBouncer.Shm.Table
import Mathlib.Data.Finset.Card
import Mathlib.Data.Finset.Dedup

/-!
# The scenario table

A scenario is stored once and referenced by a 1-based id. A row holds 127 bytes: a longer text
is cut when it is stored (`ShmScenario::from_str`), but the search for a text compares its full
length (`matches`), and reading a row back (`as_str`) needs whole characters. So the table interns
the texts that fit a row, and it is a faithful interning of longer ones too as long as each of
them is passed once and its cut falls between two characters (`faithfulInterning_iff`). A text
that does not fit takes a new row each time it is passed.
-/

namespace CrowdSecBouncer

open Text

/-- `ShmScenario::as_str`: a row that is not UTF-8 reads as the empty text. -/
def asStr (row : List UInt8) : List Char := if row = [] then [] else (fromUtf8 row).getD []

/-- Get scenario string by ID; none if the ID is invalid or 0. -/
def getScenario (scenarios : List (List UInt8)) (scenarioId : UInt16) : Option (List Char) :=
  if scenarioId = 0 then none
  else if scenarioId.toNat ≤ scenarios.length then
    some (asStr (scenarios.getD (scenarioId.toNat - 1) []))
  else none

/-- The rows after a sequence of calls, from an empty table. -/
def rowsAfter (names : List (List Char)) : List (List UInt8) :=
  names.foldl (fun scenarios name => (getOrCreateScenarioId scenarios (utf8Bytes name)).2) []

/-- The id that a call returns after a sequence of calls. -/
def idAfter (before : List (List Char)) (name : List Char) : UInt16 :=
  (getOrCreateScenarioId (rowsAfter before) (utf8Bytes name)).1

variable {scenarios : List (List UInt8)} {name : List Char} {names before : List (List Char)}

/-! ### One call -/

theorem asStr_eq (row : List UInt8) : asStr row = (fromUtf8 row).getD [] := by
  rw [asStr]
  split
  · next h =>
    rw [h, fromUtf8_eq_some_iff.mpr (by rfl : [] = utf8Bytes []), Option.getD_some]
  · rfl

/-- The row that a text is stored in. -/
def storedRow (name : List Char) : List UInt8 := (utf8Bytes name).take MAX_SCENARIO_LEN

/-- The texts that fit a row. -/
def FitsRow (name : List Char) : Prop := (utf8Bytes name).length ≤ MAX_SCENARIO_LEN

instance (name : List Char) : Decidable (FitsRow name) := inferInstanceAs (Decidable (_ ≤ _))

theorem storedRow_of_fitsRow (h : FitsRow name) : storedRow name = utf8Bytes name :=
  List.take_of_length_le h

/-- Rows are not longer than they can be. -/
def RowsOk (scenarios : List (List UInt8)) : Prop :=
  scenarios.length ≤ MAX_SCENARIOS ∧ ∀ row ∈ scenarios, row.length ≤ MAX_SCENARIO_LEN

/-- What one call does: it finds the row of the text, or it adds one at the end, or the table is
full. -/
theorem getOrCreateScenarioId_cases (hrows : RowsOk scenarios) (name : List Char) :
    (∃ n, n < scenarios.length ∧ FitsRow name ∧
        scenarios.findIdx? (· == utf8Bytes name) = some n ∧ scenarios[n]? = some (storedRow name) ∧
        getOrCreateScenarioId scenarios (utf8Bytes name) = (UInt16.ofNat (n + 1), scenarios)) ∨
      (scenarios.findIdx? (· == utf8Bytes name) = none ∧ scenarios.length < MAX_SCENARIOS ∧
        getOrCreateScenarioId scenarios (utf8Bytes name) =
          (UInt16.ofNat (scenarios.length + 1), scenarios ++ [storedRow name])) ∨
      (scenarios.findIdx? (· == utf8Bytes name) = none ∧ scenarios.length = MAX_SCENARIOS ∧
        getOrCreateScenarioId scenarios (utf8Bytes name) = (0, scenarios)) := by
  rw [getOrCreateScenarioId]
  cases hfind : scenarios.findIdx? (· == utf8Bytes name) with
  | some n =>
    obtain ⟨hn, heq, -⟩ := List.findIdx?_eq_some_iff_getElem.mp hfind
    have hrow : scenarios[n] = utf8Bytes name := eq_of_beq heq
    have hfits : FitsRow name := by
      rw [FitsRow, ← hrow]
      exact hrows.2 _ (List.getElem_mem hn)
    refine .inl ⟨n, hn, hfits, rfl, ?_, rfl⟩
    rw [List.getElem?_eq_getElem hn, hrow, storedRow_of_fitsRow hfits]
  | none =>
    by_cases hroom : scenarios.length < MAX_SCENARIOS
    · exact .inr (.inl ⟨rfl, hroom, by simp only [if_pos hroom]; rfl⟩)
    · exact .inr (.inr ⟨rfl, le_antisymm hrows.1 (not_lt.mp hroom), by simp only [if_neg hroom]⟩)

/-! ### Sequences of calls -/

theorem rowsAfter_concat (before : List (List Char)) (name : List Char) :
    rowsAfter (before ++ [name]) =
      (getOrCreateScenarioId (rowsAfter before) (utf8Bytes name)).2 := by
  rw [rowsAfter, List.foldl_append]
  rfl

theorem rowsOk_rowsAfter (names : List (List Char)) : RowsOk (rowsAfter names) := by
  induction names using List.reverseRecOn with
  | nil => exact ⟨Nat.zero_le _, fun row hrow => absurd hrow List.not_mem_nil⟩
  | append_singleton before name ih =>
    rw [rowsAfter_concat]
    obtain ⟨n, -, -, -, -, hcall⟩ | ⟨-, hroom, hcall⟩ | ⟨-, -, hcall⟩ :=
      getOrCreateScenarioId_cases ih name
    · rw [hcall]
      exact ih
    · rw [hcall]
      refine ⟨List.length_append.trans_le (Nat.succ_le_of_lt hroom), fun row hrow => ?_⟩
      rcases List.mem_append.mp hrow with hrow | hrow
      · exact ih.2 row hrow
      · rw [List.mem_singleton.mp hrow, storedRow]
        exact List.length_take_le ..
    · rw [hcall]
      exact ih

/-- Rows are only ever added at the end. -/
theorem rowsAfter_isPrefix (before mid : List (List Char)) :
    rowsAfter before <+: rowsAfter (before ++ mid) := by
  induction mid using List.reverseRecOn with
  | nil => rw [List.append_nil]
  | append_singleton mid name ih =>
    rw [← List.append_assoc, rowsAfter_concat]
    refine ih.trans ?_
    obtain ⟨n, -, -, -, -, hcall⟩ | ⟨-, -, hcall⟩ | ⟨-, -, hcall⟩ :=
      getOrCreateScenarioId_cases (rowsOk_rowsAfter (before ++ mid)) name
    · rw [hcall]
    · rw [hcall]
      exact List.prefix_append ..
    · rw [hcall]

/-- A row keeps its contents. -/
theorem getElem?_rowsAfter {mid : List (List Char)} {n : ℕ} {row : List UInt8}
    (h : (rowsAfter before)[n]? = some row) : (rowsAfter (before ++ mid))[n]? = some row := by
  obtain ⟨rest, hrest⟩ := rowsAfter_isPrefix before mid
  obtain ⟨hn, -⟩ := List.getElem?_eq_some_iff.mp h
  rw [← hrest, List.getElem?_append_left hn, h]

private theorem toNat_ofNat_succ {n : ℕ} (hn : n < MAX_SCENARIOS) :
    (UInt16.ofNat (n + 1)).toNat = n + 1 := by
  refine UInt16.toNat_ofNat_of_lt' ?_
  change n < 256 at hn
  change n + 1 < 65536
  omega

private theorem ofNat_succ_ne_zero {n : ℕ} (hn : n < MAX_SCENARIOS) :
    UInt16.ofNat (n + 1) ≠ 0 := by
  intro hzero
  have hval := toNat_ofNat_succ hn
  rw [hzero] at hval
  exact absurd hval (by simp)

/-- **What an id stands for**: the row it numbers holds the text, up to its cut. A text that fits
has the row that a search finds, any other a new row. -/
theorem row_of_idAfter (hid : idAfter before name ≠ 0) :
    ∃ n, n < MAX_SCENARIOS ∧ idAfter before name = UInt16.ofNat (n + 1) ∧
      (rowsAfter (before ++ [name]))[n]? = some (storedRow name) ∧
      (FitsRow name →
        (rowsAfter (before ++ [name])).findIdx? (· == utf8Bytes name) = some n) ∧
      (¬ FitsRow name → n = (rowsAfter before).length) := by
  have hrows := rowsOk_rowsAfter before
  obtain ⟨n, hn, hfits, hfind, hrow, hcall⟩ | ⟨hnone, hroom, hcall⟩ | ⟨-, -, hcall⟩ :=
    getOrCreateScenarioId_cases hrows name
  · refine ⟨n, hn.trans_le hrows.1, by rw [idAfter, hcall], ?_, fun _ => ?_,
      fun hlong => absurd hfits hlong⟩
    · rw [rowsAfter_concat, hcall, hrow]
    · rw [rowsAfter_concat, hcall, hfind]
  · refine ⟨_, hroom, by rw [idAfter, hcall], ?_, fun hfits => ?_, fun _ => rfl⟩
    · rw [rowsAfter_concat, hcall, List.getElem?_concat_length]
    · rw [rowsAfter_concat, hcall, List.findIdx?_append, hnone, Option.none_or,
        storedRow_of_fitsRow hfits]
      simp
  · rw [idAfter, hcall] at hid
    exact absurd rfl hid

/-- An id reads back as its row. -/
theorem getScenario_of_row {n : ℕ} {row : List UInt8} (hn : n < MAX_SCENARIOS)
    (hrow : scenarios[n]? = some row) :
    getScenario scenarios (UInt16.ofNat (n + 1)) = some ((fromUtf8 row).getD []) := by
  obtain ⟨hlt, -⟩ := List.getElem?_eq_some_iff.mp hrow
  rw [getScenario, if_neg (ofNat_succ_ne_zero hn), toNat_ofNat_succ hn,
    if_pos (Nat.succ_le_of_lt hlt), Nat.add_sub_cancel, List.getD_eq_getElem?_getD,
    hrow, Option.getD_some, asStr_eq]

theorem getScenario_idAfter {mid : List (List Char)} (hid : idAfter before name ≠ 0) :
    getScenario (rowsAfter (before ++ name :: mid)) (idAfter before name) =
      some ((fromUtf8 (storedRow name)).getD []) := by
  obtain ⟨n, hn, heq, hrow, -⟩ := row_of_idAfter hid
  rw [heq, ← List.append_cons before name mid |>.symm]
  exact getScenario_of_row hn (getElem?_rowsAfter hrow)

/-! ### When the table is a faithful interning -/

/-- Scenario ids are a faithful interning of a sequence of calls. -/
structure FaithfulInterning (names : List (List Char)) : Prop where
  ne_zero : ∀ before name after, names = before ++ name :: after → idAfter before name ≠ 0
  same : ∀ before name mid after, names = before ++ name :: mid ++ name :: after →
    idAfter (before ++ name :: mid) name = idAfter before name
  stable : ∀ before mid after, names = before ++ mid ++ after → ∀ scenarioId text,
    getScenario (rowsAfter before) scenarioId = some text →
    getScenario (rowsAfter (before ++ mid)) scenarioId = some text
  apart : ∀ before name mid name' after, names = before ++ name :: mid ++ name' :: after →
    storedRow name ≠ storedRow name' → idAfter before name ≠ idAfter (before ++ name :: mid) name'
  reads : ∀ before name after, names = before ++ name :: after →
    ∃ text, getScenario (rowsAfter names) (idAfter before name) = some text ∧
      (FitsRow name → text = name) ∧ IsLongestPrefix MAX_SCENARIO_LEN name text

/-- A text that does not fit a row is passed at most once. -/
def LongOnce (names : List (List Char)) : Prop :=
  ∀ name ∈ names, ¬ FitsRow name → names.count name = 1

theorem LongOnce.of_append {mid : List (List Char)} (h : LongOnce (before ++ mid)) :
    LongOnce before := by
  intro name hmem hlong
  have hcount := h name (List.mem_append_left _ hmem) hlong
  have hpos := List.count_pos_iff.mpr hmem
  rw [List.count_append] at hcount
  omega

/-- While long texts are passed once, a text that is not found has not been passed before. -/
theorem LongOnce.notMem (h : LongOnce (before ++ [name]))
    (hfound : ∀ x ∈ before, FitsRow x → utf8Bytes x ∈ rowsAfter before)
    (hnone : (rowsAfter before).findIdx? (· == utf8Bytes name) = none) : name ∉ before := by
  intro hmem
  by_cases hfits : FitsRow name
  · have hmiss := List.findIdx?_eq_none_iff.mp hnone _ (hfound name hmem hfits)
    exact absurd hmiss (by simp)
  · have hcount := h name (List.mem_append_left _ hmem) hfits
    have hpos := List.count_pos_iff.mpr hmem
    rw [List.count_append, List.count_singleton_self] at hcount
    omega

private theorem toFinset_concat (before : List (List Char)) (name : List Char) :
    (before ++ [name]).toFinset = insert name before.toFinset := by
  ext x
  simp

private theorem card_toFinset_le (before after : List (List Char)) :
    before.toFinset.card ≤ (before ++ after).toFinset.card := by
  rw [List.toFinset_append]
  exact Finset.card_le_card Finset.subset_union_left

/-- While long texts are passed once, each row belongs to a text of its own, and the rows of the
texts that fit are found. -/
theorem LongOnce.rows (h : LongOnce names) (hdistinct : names.toFinset.card ≤ MAX_SCENARIOS) :
    (rowsAfter names).length ≤ names.toFinset.card ∧
      ∀ name ∈ names, FitsRow name → utf8Bytes name ∈ rowsAfter names := by
  induction names using List.reverseRecOn with
  | nil => exact ⟨Nat.zero_le _, fun name hname => absurd hname List.not_mem_nil⟩
  | append_singleton before name ih =>
    have hcard := card_toFinset_le before [name]
    obtain ⟨hlen, hfound⟩ := ih h.of_append (hcard.trans hdistinct)
    have hkeep (x : List Char) (hx : x ∈ before) (hfits : FitsRow x) :
        utf8Bytes x ∈ rowsAfter (before ++ [name]) :=
      (rowsAfter_isPrefix before [name]).subset (hfound x hx hfits)
    have hnew (hnone : (rowsAfter before).findIdx? (· == utf8Bytes name) = none) :
        (before ++ [name]).toFinset.card = before.toFinset.card + 1 := by
      have hnot := h.notMem hfound hnone
      rw [toFinset_concat, Finset.card_insert_of_notMem (by simpa using hnot)]
    have hmem {x : List Char} (hx : x ∈ before ++ [name]) : x ∈ before ∨ x = name := by
      simpa using hx
    -- the row is there, or it is appended; the table is never full
    obtain ⟨n, hn, hfits, -, hrow, hcall⟩ | ⟨hnone, -, hcall⟩ | ⟨hnone, hfull, -⟩ :=
      getOrCreateScenarioId_cases (rowsOk_rowsAfter before) name
    · rw [storedRow_of_fitsRow hfits] at hrow
      rw [rowsAfter_concat, hcall] at hkeep ⊢
      refine ⟨hlen.trans hcard, fun x hx hfits' => ?_⟩
      rcases hmem hx with hx | rfl
      · exact hkeep x hx hfits'
      · exact List.mem_of_getElem? hrow
    · have hcard' := hnew hnone
      rw [rowsAfter_concat, hcall] at hkeep ⊢
      refine ⟨?_, fun x hx hfits' => ?_⟩
      · rw [hcard', List.length_append, List.length_singleton]
        omega
      · rcases hmem hx with hx | rfl
        · exact hkeep x hx hfits'
        · rw [storedRow_of_fitsRow hfits']
          exact List.mem_append_right _ List.mem_cons_self
    · have hcard' := hnew hnone
      omega

/-- While long texts are passed once, every call has an id to give. -/
theorem LongOnce.idAfter_ne_zero (h : LongOnce names)
    (hdistinct : names.toFinset.card ≤ MAX_SCENARIOS) {after : List (List Char)}
    (hnames : names = before ++ name :: after) : idAfter before name ≠ 0 := by
  rw [List.append_cons] at hnames
  subst hnames
  have hlast : LongOnce (before ++ [name]) := h.of_append
  have hcard := (card_toFinset_le (before ++ [name]) after).trans hdistinct
  obtain ⟨hlen, hfound⟩ := hlast.of_append.rows ((card_toFinset_le before [name]).trans hcard)
  obtain ⟨n, hn, -, -, -, hcall⟩ | ⟨-, hroom, hcall⟩ | ⟨hnone, hfull, -⟩ :=
    getOrCreateScenarioId_cases (rowsOk_rowsAfter before) name
  · rw [idAfter, hcall]
    exact ofNat_succ_ne_zero (hn.trans_le (rowsOk_rowsAfter before).1)
  · rw [idAfter, hcall]
    exact ofNat_succ_ne_zero hroom
  · have hnot := hlast.notMem hfound hnone
    rw [toFinset_concat, Finset.card_insert_of_notMem (by simpa using hnot)] at hcard
    omega

/-- The parts of a faithful interning that need only non-zero ids. -/
theorem idAfter_ne_of_storedRow_ne {mid : List (List Char)} {name' : List Char}
    (hid : idAfter before name ≠ 0) (hid' : idAfter (before ++ name :: mid) name' ≠ 0)
    (hne : storedRow name ≠ storedRow name') :
    idAfter before name ≠ idAfter (before ++ name :: mid) name' := by
  obtain ⟨n, hn, heq, hrow, -⟩ := row_of_idAfter hid
  obtain ⟨n', hn', heq', hrow', -⟩ := row_of_idAfter hid'
  intro hsame
  rw [heq, heq'] at hsame
  have hval : n = n' := by
    have htoNat := congrArg UInt16.toNat hsame
    rw [toNat_ofNat_succ hn, toNat_ofNat_succ hn'] at htoNat
    omega
  subst hval
  have hlater : (rowsAfter (before ++ name :: mid ++ [name']))[n]? = some (storedRow name) := by
    have hnames : before ++ name :: mid ++ [name'] = before ++ [name] ++ (mid ++ [name']) := by simp
    rw [hnames]
    exact getElem?_rowsAfter hrow
  rw [hlater] at hrow'
  exact hne (Option.some_injective _ hrow')

/-- A text that fits keeps its id. -/
theorem idAfter_eq_of_fitsRow {mid : List (List Char)} (hfits : FitsRow name)
    (hid : idAfter before name ≠ 0) :
    idAfter (before ++ name :: mid) name = idAfter before name := by
  obtain ⟨n, hn, heq, -, hfind, -⟩ := row_of_idAfter hid
  obtain ⟨rest, hrest⟩ := rowsAfter_isPrefix (before ++ [name]) mid
  have hlater : (rowsAfter (before ++ name :: mid)).findIdx? (· == utf8Bytes name) = some n := by
    rw [List.append_cons, ← hrest, List.findIdx?_append, hfind hfits, Option.some_or]
  rw [idAfter, getOrCreateScenarioId, hlater, heq]

theorem getScenario_rowsAfter {mid : List (List Char)} {scenarioId : UInt16} {text : List Char}
    (h : getScenario (rowsAfter before) scenarioId = some text) :
    getScenario (rowsAfter (before ++ mid)) scenarioId = some text := by
  obtain ⟨rest, hrest⟩ := rowsAfter_isPrefix before mid
  rw [getScenario, Option.ite_none_left_eq_some, Option.ite_none_right_eq_some] at h
  obtain ⟨hne, hle, htext⟩ := h
  have hlt : scenarioId.toNat - 1 < (rowsAfter before).length := by
    have hpos : scenarioId.toNat ≠ 0 := fun hzero => hne (UInt16.toNat_inj.mp hzero)
    omega
  rw [← hrest, getScenario, if_neg hne,
    if_pos (hle.trans (by rw [List.length_append]; exact Nat.le_add_right ..)), ← htext,
    List.getD_eq_getElem?_getD, List.getElem?_append_left hlt, ← List.getD_eq_getElem?_getD]

/-- The first character of a text fits a row. -/
private theorem length_utf8EncodeChar_le (c : Char) :
    (utf8Bytes [c]).length ≤ MAX_SCENARIO_LEN := by
  have hsize : (utf8Bytes [c]).length = c.utf8Size := by
    rw [utf8Bytes, List.flatMap_singleton, String.length_utf8EncodeChar]
  rw [hsize]
  exact (Char.utf8Size_le_four c).trans (by decide)

/-- What is read back of a text that does not fit. -/
theorem isCharBoundary_of_isLongestPrefix (hlong : ¬ FitsRow name)
    (h : IsLongestPrefix MAX_SCENARIO_LEN name ((fromUtf8 (storedRow name)).getD [])) :
    IsCharBoundary name MAX_SCENARIO_LEN := by
  by_contra hcut
  have hnone := fromUtf8_take_of_not_isCharBoundary (not_le.mp hlong).le hcut
  rw [storedRow, hnone, Option.getD_none] at h
  cases name with
  | nil => exact hlong (Nat.zero_le _)
  | cons c cs =>
    -- the first character would be a longer prefix
    have hfirst := h.longest [c] (by simp) (length_utf8EncodeChar_le c)
    simp at hfirst

/-- In a faithful interning, a text that does not fit is passed once. -/
theorem FaithfulInterning.count_eq_one (h : FaithfulInterning names) (hmem : name ∈ names)
    (hlong : ¬ FitsRow name) : names.count name = 1 := by
  refine le_antisymm (not_lt.mp fun htwo => ?_) (List.count_pos_iff.mpr hmem)
  obtain ⟨l, r, rfl, hl, hr⟩ :=
    List.cons_sublist_iff.mp (List.replicate_sublist_iff.mpr htwo : [name, name].Sublist names)
  obtain ⟨before, mid₁, rfl⟩ := List.append_of_mem hl
  obtain ⟨mid₂, after, rfl⟩ := List.append_of_mem (List.singleton_sublist.mp hr)
  have hnames : before ++ name :: mid₁ ++ (mid₂ ++ name :: after) =
      before ++ name :: (mid₁ ++ mid₂) ++ name :: after := by
    simp
  have hid := h.ne_zero before name (mid₁ ++ (mid₂ ++ name :: after)) (by simp)
  have hid' := h.ne_zero (before ++ name :: (mid₁ ++ mid₂)) name after hnames
  have hsame := h.same before name (mid₁ ++ mid₂) after hnames
  -- the second call takes the row after the last one, not the row of the first call
  obtain ⟨n, hn, heq, hrow, -, hlast⟩ := row_of_idAfter hid
  obtain ⟨n', hn', heq', -, -, hlast'⟩ := row_of_idAfter hid'
  obtain ⟨hlt, -⟩ := List.getElem?_eq_some_iff.mp
    (@getElem?_rowsAfter _ (mid₁ ++ mid₂) _ _ hrow)
  rw [← List.append_cons, ← hlast' hlong] at hlt
  rw [heq, heq'] at hsame
  have htoNat := congrArg UInt16.toNat hsame
  rw [toNat_ofNat_succ hn, toNat_ofNat_succ hn'] at htoNat
  omega

/-- **Scenario ids are a faithful interning** of a sequence of calls with at most 256 distinct
texts exactly when each text that does not fit a row is passed once and is cut between two
characters. -/
theorem faithfulInterning_iff (names : List (List Char))
    (hdistinct : names.toFinset.card ≤ MAX_SCENARIOS) :
    FaithfulInterning names ↔ ∀ name ∈ names, ¬ FitsRow name →
      names.count name = 1 ∧ IsCharBoundary name MAX_SCENARIO_LEN := by
  constructor
  · intro h name hmem hlong
    refine ⟨h.count_eq_one hmem hlong, isCharBoundary_of_isLongestPrefix hlong ?_⟩
    obtain ⟨before, after, rfl⟩ := List.append_of_mem hmem
    obtain ⟨text, htext, -, hlongest⟩ := h.reads before name after rfl
    rw [getScenario_idAfter (h.ne_zero before name after rfl)] at htext
    rwa [Option.some_injective _ htext]
  · intro h
    have honce : LongOnce names := fun name hmem hlong => (h name hmem hlong).1
    have hid (before : List (List Char)) (name : List Char) (after : List (List Char))
        (hnames : names = before ++ name :: after) : idAfter before name ≠ 0 :=
      honce.idAfter_ne_zero hdistinct hnames
    refine ⟨hid, ?_, ?_, ?_, ?_⟩
    · intro before name mid after hnames
      have hfirst := hid before name (mid ++ name :: after) (by rw [hnames]; simp)
      by_cases hfits : FitsRow name
      · exact idAfter_eq_of_fitsRow hfits hfirst
      · -- a long text that comes twice is not passed once
        have hcount := honce name (by rw [hnames]; simp) hfits
        rw [hnames, List.count_append, List.count_append, List.count_cons_self,
          List.count_cons_self] at hcount
        omega
    · rintro before mid after - scenarioId text htext
      exact getScenario_rowsAfter htext
    · intro before name mid name' after hnames hne
      exact idAfter_ne_of_storedRow_ne
        (hid before name (mid ++ name' :: after) (by rw [hnames]; simp)) (hid _ _ _ hnames) hne
    · intro before name after hnames
      have hread := @getScenario_idAfter _ _ after (hid before name after hnames)
      rw [← hnames] at hread
      refine ⟨_, hread, ?_⟩
      by_cases hfits : FitsRow name
      · rw [storedRow_of_fitsRow hfits, fromUtf8_utf8Bytes]
        exact ⟨fun _ => rfl, isLongestPrefix_self hfits⟩
      · obtain ⟨p, hp, hlongest⟩ :=
          fromUtf8_take_of_isCharBoundary (h name (by rw [hnames]; simp) hfits).2
        rw [storedRow, hp]
        exact ⟨fun hfits' => absurd hfits' hfits, hlongest⟩

/-- Three calls with two texts that fit. -/
theorem faithfulInterning_short :
    FaithfulInterning ["ssh-bf".toList, "http-probing".toList, "ssh-bf".toList] :=
  (faithfulInterning_iff ["ssh-bf".toList, "http-probing".toList, "ssh-bf".toList]
    (by decide +kernel)).mpr fun name hmem hlong => absurd (by revert name; decide +kernel) hlong

/-- A text of 128 bytes that is passed twice gets two ids. -/
theorem not_faithfulInterning_repeated :
    [List.replicate 128 'a', List.replicate 128 'a'].toFinset.card ≤ MAX_SCENARIOS ∧
      ¬ FaithfulInterning [List.replicate 128 'a', List.replicate 128 'a'] := by
  have hlong : ¬ FitsRow (List.replicate 128 'a') := by decide +kernel
  refine ⟨by simp [MAX_SCENARIOS], fun h => ?_⟩
  have hcount := h.count_eq_one List.mem_cons_self hlong
  rw [List.count_cons_self, List.count_cons_self] at hcount
  omega

end CrowdSecBouncer
