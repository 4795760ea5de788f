import Mathlib.Data.List.DropRight
import Mathlib.Data.Option.Basic
import Mathlib.Tactic.Common

/-!
# Texts and readers

The routines of a standard text library that parsers are built from, on lists of characters:
trimming, splitting at a separator, decimal numbers with an upper bound. A `Reader` takes
what it recognises from the front of a text and leaves the rest; `Reader.parse` asks that
nothing is left. What a reader takes are characters of a fixed kind (`Consumes`), which bounds
what a parsed text can contain.
-/

namespace Text

/-- The Unicode property White_Space. -/
def isWhitespace (c : Char) : Bool :=
  let n := c.toNat
  (0x09 ≤ n && n ≤ 0x0D) || n == 0x20 || n == 0x85 || n == 0xA0 || n == 0x1680 ||
    (0x2000 ≤ n && n ≤ 0x200A) || n == 0x2028 || n == 0x2029 || n == 0x202F || n == 0x205F ||
    n == 0x3000

/-- A visible ASCII character. -/
def IsGraphic (c : Char) : Prop := 0x21 ≤ c.toNat ∧ c.toNat ≤ 0x7E

theorem IsGraphic.isWhitespace {c : Char} (h : IsGraphic c) : isWhitespace c = false := by
  obtain ⟨hlow, hhigh⟩ := h
  simp only [Text.isWhitespace]
  grind

theorem isGraphic_of_isDigit {c : Char} (h : c.isDigit = true) : IsGraphic c := by
  simp only [Char.isDigit, UInt32.le_iff_toNat_le, Bool.and_eq_true, decide_eq_true_eq] at h
  change 48 ≤ c.toNat ∧ c.toNat ≤ 57 at h
  exact ⟨by omega, by omega⟩

theorem toNat_ofNat {n : ℕ} (h : n.isValidChar) : (Char.ofNat n).toNat = n := by
  rw [Char.ofNat, dif_pos h]
  rfl

/-- What holds of the ASCII characters by inspection. -/
theorem forall_ascii {P : Char → Prop} (h : ∀ n < 128, P (Char.ofNat n)) {c : Char}
    (hc : c.toNat < 128) : P c := by
  have hchar := h c.toNat hc
  rwa [Char.ofNat_toNat] at hchar

/-- Without white space at either end. -/
def trim (cs : List Char) : List Char := (cs.dropWhile isWhitespace).rdropWhile isWhitespace

/-- Before and after the first separator. -/
def splitOnce (sep : Char) : List Char → Option (List Char × List Char)
  | [] => none
  | c :: cs =>
    if c = sep then some ([], cs)
    else (splitOnce sep cs).map fun (before, rest) => (c :: before, rest)

/-- Before and after the last separator. -/
def rsplitOnce (sep : Char) (cs : List Char) : Option (List Char × List Char) :=
  (splitOnce sep cs.reverse).map fun (after, before) => (before.reverse, after.reverse)

/-- Before and after the first place where one character follows another. -/
def splitOncePair (a b : Char) : List Char → Option (List Char × List Char)
  | [] => none
  | c :: cs =>
    if c = a ∧ cs.head? = some b then some ([], cs.tail)
    else (splitOncePair a b cs).map fun (before, rest) => (c :: before, rest)

/-- Equality up to the case of ASCII letters. -/
def eqIgnoreAsciiCase (a b : List Char) : Bool := a.map Char.toLower == b.map Char.toLower

variable {cs cs' : List Char} {sep : Char}

/-- No white space at either end. -/
structure IsTrimmed (cs : List Char) : Prop where
  head : ∀ c ∈ cs.head?, isWhitespace c = false
  last : ∀ c ∈ cs.getLast?, isWhitespace c = false

theorem dropWhile_eq_self_of_head? {p : Char → Bool} (h : ∀ c ∈ cs.head?, p c = false) :
    cs.dropWhile p = cs := by
  cases cs with
  | nil => rfl
  | cons c cs => rw [List.dropWhile_cons_of_neg (by simp [h c rfl])]

/-- Dropping from the end spares the first element, or leaves nothing at all. -/
theorem rdropWhile_cons_cases (p : Char → Bool) (c : Char) (cs : List Char) :
    (c :: cs).rdropWhile p = c :: cs.rdropWhile p ∨
      p c = true ∧ cs.rdropWhile p = [] ∧ (c :: cs).rdropWhile p = [] := by
  simp only [List.rdropWhile, List.reverse_cons, List.dropWhile_append, List.reverse_eq_nil_iff]
  cases hdrop : cs.reverse.dropWhile p with
  | nil =>
    cases hc : p c with
    | true => exact .inr ⟨rfl, rfl, by simp [hc]⟩
    | false => exact .inl (by simp [hc])
  | cons d ds => exact .inl (by simp)

/-- White space around a text is trimmed, and nothing of the text. -/
theorem trim_append_append {ws ws' : List Char} (hws : ∀ c ∈ ws, isWhitespace c = true)
    (hws' : ∀ c ∈ ws', isWhitespace c = true) (h : IsTrimmed cs) :
    trim (ws ++ (cs ++ ws')) = cs := by
  have hfront : (ws ++ (cs ++ ws')).dropWhile isWhitespace = cs ++ ws' ∨ cs = [] := by
    rw [List.dropWhile_append_of_pos hws]
    cases cs with
    | nil => exact .inr rfl
    | cons c cs => exact .inl (dropWhile_eq_self_of_head? h.head)
  rcases hfront with hfront | rfl
  · rw [trim, hfront, List.rdropWhile, List.reverse_append,
      List.dropWhile_append_of_pos (by simpa using hws'), dropWhile_eq_self_of_head?,
      List.reverse_reverse]
    rw [List.head?_reverse]
    exact h.last
  · rw [List.nil_append, trim, List.dropWhile_append_of_pos hws,
      List.dropWhile_eq_nil_iff.mpr hws', List.rdropWhile_nil]

/-- What is trimmed to nothing is white space. -/
theorem isWhitespace_of_trim_eq_nil {cs : List Char} (h : trim cs = []) :
    ∀ c ∈ cs, isWhitespace c = true := by
  rw [trim, List.rdropWhile_eq_nil_iff] at h
  intro c hc
  rw [← List.takeWhile_append_dropWhile (p := isWhitespace) (l := cs), List.mem_append] at hc
  exact hc.elim List.mem_takeWhile_imp (h c)

theorem isTrimmed_trim (cs : List Char) : IsTrimmed (trim cs) := by
  refine ⟨fun c hc => ?_, fun c hc => ?_⟩
  · -- the first character of the trimmed text is the first after the leading white space
    obtain ⟨rest, hrest⟩ := List.rdropWhile_prefix isWhitespace (l := cs.dropWhile isWhitespace)
    have hhead := List.head?_dropWhile_not isWhitespace cs
    rw [← hrest, List.head?_append] at hhead
    rw [trim] at hc
    rw [hc] at hhead
    simpa using hhead
  · obtain ⟨hne, rfl⟩ := List.mem_getLast?_eq_getLast hc
    exact Bool.not_eq_true _ ▸ List.rdropWhile_last_not isWhitespace _ hne

/-- A front without white space at its ends stays in front when what follows is trimmed too. -/
theorem trim_append_front {ws front : List Char} (hws : ∀ c ∈ ws, isWhitespace c = true)
    (hfront : IsTrimmed front) (hne : front ≠ []) (rest : List Char) :
    ∃ tail, trim (ws ++ (front ++ rest)) = front ++ tail := by
  refine ⟨rest.rdropWhile isWhitespace, ?_⟩
  have htrimmed : IsTrimmed (front ++ rest.rdropWhile isWhitespace) := by
    refine ⟨fun c hc => hfront.head c ?_, fun c hc => ?_⟩
    · rwa [List.head?_append_of_ne_nil _ hne] at hc
    · cases hdrop : rest.rdropWhile isWhitespace with
      | nil => exact hfront.last c (by simpa [hdrop] using hc)
      | cons d ds =>
        rw [List.getLast?_append_of_ne_nil _ (by simp [hdrop])] at hc
        obtain ⟨hne', rfl⟩ := List.mem_getLast?_eq_getLast hc
        exact Bool.not_eq_true _ ▸ List.rdropWhile_last_not isWhitespace _ hne'
  have hrest : ws ++ (front ++ rest) = ws ++ ((front ++ rest.rdropWhile isWhitespace) ++
      rest.rtakeWhile isWhitespace) := by
    rw [List.append_assoc, List.rdropWhile_append_rtakeWhile]
  rw [hrest]
  exact trim_append_append hws (fun c hc => List.mem_rtakeWhile_imp hc) htrimmed

theorem trim_eq_self_of_isTrimmed (h : IsTrimmed cs) : trim cs = cs := by
  have htrim : trim ([] ++ (cs ++ [])) = cs := trim_append_append (by simp) (by simp) h
  rwa [List.append_nil, List.nil_append] at htrim

theorem trim_trim (cs : List Char) : trim (trim cs) = trim cs :=
  trim_eq_self_of_isTrimmed (isTrimmed_trim cs)

theorem trim_eq_self_of_not_isWhitespace (h : ∀ c ∈ cs, isWhitespace c = false) : trim cs = cs :=
  trim_eq_self_of_isTrimmed
    ⟨fun c hc => h c (List.mem_of_mem_head? hc), fun c hc => h c (List.mem_of_mem_getLast? hc)⟩

theorem trim_eq_self (h : ∀ c ∈ cs, IsGraphic c) : trim cs = cs :=
  trim_eq_self_of_not_isWhitespace fun c hc => (h c hc).isWhitespace

theorem splitOnce_append (h : sep ∉ cs) : splitOnce sep (cs ++ sep :: cs') = some (cs, cs') := by
  induction cs with
  | nil => simp [splitOnce]
  | cons c cs ih =>
    obtain ⟨hc, hcs⟩ := not_or.mp (mt List.mem_cons.mpr h)
    simp [splitOnce, Ne.symm hc, ih hcs]

theorem splitOnce_eq_some_iff {before rest : List Char} :
    splitOnce sep cs = some (before, rest) ↔ cs = before ++ sep :: rest ∧ sep ∉ before := by
  refine ⟨fun h => ?_, fun ⟨heq, hnot⟩ => heq ▸ splitOnce_append hnot⟩
  induction cs generalizing before with
  | nil => simp [splitOnce] at h
  | cons c cs ih =>
    rw [splitOnce] at h
    split at h
    · next hc =>
      obtain ⟨rfl, rfl⟩ := Prod.mk.inj (Option.some_injective _ h)
      simp [hc]
    · next hc =>
      obtain ⟨⟨before', rest'⟩, hsplit, heq⟩ := Option.map_eq_some_iff.mp h
      obtain ⟨rfl, rfl⟩ := Prod.mk.inj heq
      obtain ⟨rfl, hnot⟩ := ih hsplit
      exact ⟨rfl, by simp [Ne.symm hc, hnot]⟩

theorem rsplitOnce_append (h : sep ∉ cs') : rsplitOnce sep (cs ++ sep :: cs') = some (cs, cs') := by
  have hreverse : (cs ++ sep :: cs').reverse = cs'.reverse ++ sep :: cs.reverse := by simp
  rw [rsplitOnce, hreverse, splitOnce_append (by simpa using h)]
  simp

theorem splitOncePair_spec {a b : Char} {before rest : List Char}
    (h : splitOncePair a b cs = some (before, rest)) : cs = before ++ a :: b :: rest := by
  induction cs generalizing before with
  | nil => exact absurd h (by simp [splitOncePair])
  | cons c cs ih =>
    rw [splitOncePair] at h
    split at h
    · next hc =>
      obtain ⟨rfl, rfl⟩ := Prod.mk.inj (Option.some_injective _ h)
      obtain ⟨rfl, hhead⟩ := hc
      obtain ⟨rest, rfl⟩ : ∃ rest, cs = b :: rest := List.head?_eq_some_iff.mp hhead
      rfl
    · obtain ⟨⟨before', rest'⟩, hsplit, heq⟩ := Option.map_eq_some_iff.mp h
      obtain ⟨rfl, rfl⟩ := Prod.mk.inj heq
      rw [ih hsplit]
      rfl

/-- What comes after the two characters is shorter than the text. -/
theorem length_lt_of_splitOncePair {a b : Char} {before rest : List Char}
    (h : splitOncePair a b cs = some (before, rest)) : rest.length + 2 ≤ cs.length := by
  rw [splitOncePair_spec h]
  simp only [List.length_append, List.length_cons]
  omega

/-- No part of a split has the separator. -/
theorem not_mem_of_mem_splitOn {part : List Char} (h : part ∈ cs.splitOn sep) : sep ∉ part := by
  induction cs generalizing part with
  | nil =>
    obtain rfl := List.mem_singleton.mp h
    exact List.not_mem_nil
  | cons c cs ih =>
    rw [List.splitOn_cons_eq_if_modifyHead] at h
    split at h
    · rcases List.mem_cons.mp h with rfl | h
      · exact List.not_mem_nil
      · exact ih h
    · next hc =>
      cases hsplit : cs.splitOn sep with
      | nil => exact absurd hsplit (List.splitOn_ne_nil sep cs)
      | cons first rest =>
        rw [hsplit] at h ih
        rcases List.mem_cons.mp h with rfl | h
        · refine List.not_mem_cons_of_ne_of_not_mem ?_ (ih List.mem_cons_self)
          rintro rfl
          exact hc (by simp)
        · exact ih (List.mem_cons_of_mem _ h)

/-- A search that has one possible result finds it. -/
theorem findSome?_eq_some_of_forall {α β : Type*} {f : α → Option β} {l : List α} {b : β}
    (hall : ∀ a ∈ l, f a = none ∨ f a = some b) (hex : ∃ a ∈ l, f a = some b) :
    l.findSome? f = some b := by
  cases hfind : l.findSome? f with
  | none =>
    obtain ⟨a, ha, hb⟩ := hex
    rw [List.findSome?_eq_none_iff.mp hfind a ha] at hb
    exact absurd hb (by simp)
  | some b' =>
    obtain ⟨a, ha, hb'⟩ := List.exists_of_findSome?_eq_some hfind
    rcases hall a ha with hnone | hb
    · exact absurd (hnone.symm.trans hb') (by simp)
    · exact hb'.symm.trans hb

theorem eqIgnoreAsciiCase_refl (a : List Char) : eqIgnoreAsciiCase a a = true := by
  simp [eqIgnoreAsciiCase]

/-! ### Decimal numbers -/

/-- The value of a decimal digit. -/
def digitVal (c : Char) : ℕ := c.toNat - '0'.toNat

/-- The value of a list of digits. -/
def decimalValue (cs : List Char) : ℕ := cs.foldl (fun acc c => acc * 10 + digitVal c) 0

/-- The value of a list of digits after `acc`, at most `max`. -/
def decimalFrom (max : ℕ) : ℕ → List Char → Option ℕ
  | acc, [] => some acc
  | acc, c :: cs =>
    if c.isDigit ∧ acc * 10 + digitVal c ≤ max then decimalFrom max (acc * 10 + digitVal c) cs
    else none

/-- An unsigned number of a type with the greatest value `max`: digits, after one `+` or
none. -/
def parseUnsigned (max : ℕ) : List Char → Option ℕ
  | [] => none
  | ['+'] => none
  | '+' :: cs => decimalFrom max 0 cs
  | cs => decimalFrom max 0 cs

theorem decimalFrom_mono {max max' acc n : ℕ} (hmax : max ≤ max')
    (h : decimalFrom max acc cs = some n) : decimalFrom max' acc cs = some n := by
  induction cs generalizing acc with
  | nil => exact h
  | cons c cs ih =>
    rw [decimalFrom] at h ⊢
    split at h
    · next hc =>
      rw [if_pos ⟨hc.1, hc.2.trans hmax⟩]
      exact ih h
    · exact absurd h (by simp)

theorem decimalFrom_le {max acc n : ℕ} (hacc : acc ≤ max) (h : decimalFrom max acc cs = some n) :
    n ≤ max := by
  induction cs generalizing acc with
  | nil => exact Option.some_injective _ h ▸ hacc
  | cons c cs ih =>
    rw [decimalFrom] at h
    split at h
    · next hc => exact ih hc.2 h
    · exact absurd h (by simp)

theorem isDigit_of_decimalFrom {max acc n : ℕ} (h : decimalFrom max acc cs = some n) :
    ∀ c ∈ cs, c.isDigit = true := by
  induction cs generalizing acc with
  | nil => simp
  | cons c cs ih =>
    rw [decimalFrom] at h
    split at h
    · next hc => exact List.forall_mem_cons.mpr ⟨hc.1, ih h⟩
    · exact absurd h (by simp)

/-- What a successful parse has read: digits, after one `+` or none. -/
theorem parseUnsigned_spec {max n : ℕ} (h : parseUnsigned max cs = some n) :
    cs ≠ [] ∧ ∃ digits, decimalFrom max 0 digits = some n ∧ digits ≠ [] ∧
      ((cs = '+' :: digits) ∨ cs = digits ∧ ∀ rest, cs ≠ '+' :: rest) := by
  rw [parseUnsigned.eq_def] at h
  split at h
  · exact absurd h (by simp)
  · exact absurd h (by simp)
  · next digits hne =>
    refine ⟨by simp, digits, h, ?_, .inl rfl⟩
    rintro rfl
    exact hne rfl
  · next hnil hplus hplus' =>
    refine ⟨hnil, cs, h, hnil, .inr ⟨rfl, ?_⟩⟩
    rintro rest rfl
    exact hplus' rest rfl

theorem le_foldl_decimal (acc : ℕ) (cs : List Char) :
    acc ≤ cs.foldl (fun acc c => acc * 10 + digitVal c) acc := by
  induction cs generalizing acc with
  | nil => exact Nat.le_refl _
  | cons c cs ih =>
    have hnext := ih (acc * 10 + digitVal c)
    rw [List.foldl_cons]
    omega

theorem decimalFrom_eq_some_iff {max acc n : ℕ} (hacc : acc ≤ max) :
    decimalFrom max acc cs = some n ↔
      (∀ c ∈ cs, c.isDigit = true) ∧ cs.foldl (fun acc c => acc * 10 + digitVal c) acc = n ∧
        n ≤ max := by
  induction cs generalizing acc with
  | nil =>
    rw [decimalFrom, Option.some_inj, List.foldl_nil]
    exact ⟨fun h => ⟨by simp, h, h ▸ hacc⟩, fun h => h.2.1⟩
  | cons c cs ih =>
    rw [decimalFrom, List.foldl_cons, List.forall_mem_cons]
    split
    · next hc =>
      rw [ih hc.2]
      simp [hc.1]
    · next hc =>
      refine iff_of_false (by simp) ?_
      rintro ⟨⟨hdigit, -⟩, hvalue, hmax⟩
      refine hc ⟨hdigit, ?_⟩
      have hle := le_foldl_decimal (acc * 10 + digitVal c) cs
      omega

/-- The text of an unsigned number: digits, after one `+` or none. -/
def IsNumberText (cs : List Char) (n : ℕ) : Prop :=
  ∃ sign digits, cs = sign ++ digits ∧ (sign = [] ∨ sign = ['+']) ∧ digits ≠ [] ∧
    (∀ c ∈ digits, c.isDigit = true) ∧ decimalValue digits = n

/-- An unsigned number is read when it fits into its type. -/
theorem parseUnsigned_eq_some_iff {max n : ℕ} :
    parseUnsigned max cs = some n ↔ IsNumberText cs n ∧ n ≤ max := by
  constructor
  · intro h
    obtain ⟨-, digits, hdigits, hne, rfl | ⟨rfl, -⟩⟩ := parseUnsigned_spec h
    · obtain ⟨hdigit, hvalue, hle⟩ := (decimalFrom_eq_some_iff (Nat.zero_le _)).mp hdigits
      exact ⟨⟨['+'], digits, rfl, .inr rfl, hne, hdigit, hvalue⟩, hle⟩
    · obtain ⟨hdigit, hvalue, hle⟩ := (decimalFrom_eq_some_iff (Nat.zero_le _)).mp hdigits
      exact ⟨⟨[], cs, rfl, .inl rfl, hne, hdigit, hvalue⟩, hle⟩
  · rintro ⟨⟨sign, digits, rfl, hsign, hne, hdigit, hvalue⟩, hle⟩
    have hdigits := (decimalFrom_eq_some_iff (Nat.zero_le max)).mpr ⟨hdigit, hvalue, hle⟩
    obtain ⟨c, cs, rfl⟩ := List.exists_cons_of_ne_nil hne
    rcases hsign with rfl | rfl
    · have hplus : c ≠ '+' := by
        rintro rfl
        exact absurd (hdigit '+' (by simp)) (by decide)
      rw [List.nil_append, parseUnsigned.eq_def]
      split
      · next heq => exact absurd heq (by simp)
      · next heq => exact absurd (List.cons.inj heq).1 hplus
      · next heq => exact absurd (List.cons.inj heq).1 hplus
      · exact hdigits
    · exact hdigits

theorem IsNumberText.unique {n n' : ℕ} (h : IsNumberText cs n) (h' : IsNumberText cs n') :
    n = n' := by
  have hread := parseUnsigned_eq_some_iff.mpr ⟨h, le_max_left n n'⟩
  have hread' := parseUnsigned_eq_some_iff.mpr ⟨h', le_max_right n n'⟩
  exact Option.some_injective _ (hread.symm.trans hread')

/-- A wider type reads the same numbers and more. -/
theorem parseUnsigned_mono {max max' n : ℕ} (hmax : max ≤ max')
    (h : parseUnsigned max cs = some n) : parseUnsigned max' cs = some n := by
  obtain ⟨-, digits, hdigits, hne, rfl | ⟨rfl, hplus⟩⟩ := parseUnsigned_spec h
  · obtain ⟨c, cs, rfl⟩ := List.exists_cons_of_ne_nil hne
    exact decimalFrom_mono hmax hdigits
  · have heq : ∀ m, parseUnsigned m cs = decimalFrom m 0 cs := by
      intro m
      rw [parseUnsigned.eq_def]
      split
      · exact absurd rfl hne
      · exact absurd rfl (hplus [])
      · exact absurd rfl (hplus _)
      · rfl
    rw [heq] at h ⊢
    exact decimalFrom_mono hmax h

theorem parseUnsigned_le {max n : ℕ} (h : parseUnsigned max cs = some n) : n ≤ max := by
  obtain ⟨-, digits, hdigits, -⟩ := parseUnsigned_spec h
  exact decimalFrom_le (Nat.zero_le _) hdigits

theorem isGraphic_of_parseUnsigned {max n : ℕ} (h : parseUnsigned max cs = some n) :
    ∀ c ∈ cs, IsGraphic c := by
  obtain ⟨-, digits, hdigits, -, rfl | ⟨rfl, -⟩⟩ := parseUnsigned_spec h
  · exact List.forall_mem_cons.mpr ⟨⟨by decide, by decide⟩,
      fun c hc => isGraphic_of_isDigit (isDigit_of_decimalFrom hdigits c hc)⟩
  · exact fun c hc => isGraphic_of_isDigit (isDigit_of_decimalFrom hdigits c hc)

/-! ### Readers -/

/-- Takes a value from the front of a text and leaves the rest. -/
abbrev Reader (α : Type*) := List Char → Option (α × List Char)

namespace Reader

variable {α β : Type*}

/-- The whole text is read. -/
def parse (r : Reader α) (cs : List Char) : Option α :=
  match r cs with
  | some (a, []) => some a
  | some (_, _ :: _) | none => none

theorem parse_eq_some_iff {r : Reader α} {a : α} : parse r cs = some a ↔ r cs = some (a, []) := by
  rw [parse]
  split
  · next heq => simp [heq]
  · next heq => simp [heq]
  · next heq => simp [heq]

/-- What the reader takes has the property `P`. -/
def Consumes (P : Char → Prop) (r : Reader α) : Prop :=
  ∀ cs a rest, r cs = some (a, rest) → ∃ taken, cs = taken ++ rest ∧ ∀ c ∈ taken, P c

theorem Consumes.forall_mem {P : Char → Prop} {r : Reader α} (h : Consumes P r) {a : α}
    (hparse : parse r cs = some a) : ∀ c ∈ cs, P c := by
  obtain ⟨taken, heq, htaken⟩ := h cs a [] (parse_eq_some_iff.mp hparse)
  rw [heq, List.append_nil]
  exact htaken

/-- One reader after the other. -/
def andThen (r : Reader α) (f : α → Reader β) : Reader β := fun cs =>
  (r cs).bind fun (a, rest) => f a rest

theorem andThen_eq_some_iff {r : Reader α} {f : α → Reader β} {b : β} {rest : List Char} :
    andThen r f cs = some (b, rest) ↔
      ∃ a mid, r cs = some (a, mid) ∧ f a mid = some (b, rest) := by
  simp [andThen, Option.bind_eq_some_iff]

theorem Consumes.andThen {P : Char → Prop} {r : Reader α} {f : α → Reader β} (h : Consumes P r)
    (hf : ∀ a, Consumes P (f a)) : Consumes P (andThen r f) := by
  intro cs b rest hr
  obtain ⟨a, mid, hfirst, hsecond⟩ := andThen_eq_some_iff.mp hr
  obtain ⟨taken, rfl, htaken⟩ := h cs a mid hfirst
  obtain ⟨taken', rfl, htaken'⟩ := hf a mid b rest hsecond
  refine ⟨taken ++ taken', (List.append_assoc ..).symm, fun c hc => ?_⟩
  rcases List.mem_append.mp hc with hc | hc
  · exact htaken c hc
  · exact htaken' c hc

/-- Nothing is taken. -/
def succeed (a : α) : Reader α := fun cs => some (a, cs)

theorem Consumes.succeed {P : Char → Prop} (a : α) : Consumes P (succeed a) := by
  intro cs b rest h
  obtain ⟨rfl, rfl⟩ := Prod.mk.inj (Option.some_injective _ h)
  exact ⟨[], rfl, by simp⟩

/-- One given character. -/
def readChar (c : Char) : Reader Unit
  | [] => none
  | c' :: cs => if c' = c then some ((), cs) else none

theorem readChar_eq_some_iff {c : Char} {u : Unit} {rest : List Char} :
    readChar c cs = some (u, rest) ↔ cs = c :: rest := by
  cases cs with
  | nil => simp [readChar]
  | cons c' cs => simp [readChar]

theorem Consumes.readChar {P : Char → Prop} {c : Char} (hc : P c) : Consumes P (readChar c) := by
  intro cs u rest h
  obtain rfl := readChar_eq_some_iff.mp h
  exact ⟨[c], rfl, by simpa using hc⟩

/-- The value of a digit in a radix up to 16, in either case. -/
def toDigit (radix : ℕ) (c : Char) : Option ℕ :=
  let value :=
    if c.isDigit then some (c.toNat - '0'.toNat)
    else if 'a' ≤ c ∧ c ≤ 'f' then some (c.toNat - 'a'.toNat + 10)
    else if 'A' ≤ c ∧ c ≤ 'F' then some (c.toNat - 'A'.toNat + 10)
    else none
  value.filter (· < radix)

theorem isGraphic_of_toDigit {radix : ℕ} {c : Char} (h : (toDigit radix c).isSome = true) :
    IsGraphic c := by
  simp only [toDigit, Option.isSome_filter] at h
  split at h
  · next hdigit => exact isGraphic_of_isDigit hdigit
  · split at h
    · next hlower =>
      have hlow : 97 ≤ c.toNat := hlower.1
      have hhigh : c.toNat ≤ 102 := hlower.2
      exact ⟨by omega, by omega⟩
    · split at h
      · next hupper =>
        have hlow : 65 ≤ c.toNat := hupper.1
        have hhigh : c.toNat ≤ 70 := hupper.2
        exact ⟨by omega, by omega⟩
      · exact absurd h (by simp)

/-- A digit of one radix is a digit of a greater one. -/
theorem isSome_toDigit_mono {radix radix' : ℕ} (h : radix ≤ radix') {c : Char}
    (hc : (toDigit radix c).isSome = true) : (toDigit radix' c).isSome = true := by
  obtain ⟨n, hn⟩ := Option.isSome_iff_exists.mp hc
  rw [toDigit, Option.filter_eq_some_iff] at hn
  refine Option.isSome_iff_exists.mpr ⟨n, ?_⟩
  rw [toDigit, Option.filter_eq_some_iff]
  exact ⟨hn.1, decide_eq_true (lt_of_lt_of_le (of_decide_eq_true hn.2) h)⟩

/-- A number of at most `maxDigits` digits and of a type with the greatest value `max`; a
leading zero may be forbidden. -/
def readNumber (radix maxDigits : ℕ) (allowZeroPrefix : Bool) (max : ℕ) : Reader ℕ := fun cs =>
  let digits := cs.takeWhile fun c => (toDigit radix c).isSome
  let value := digits.foldl (fun n c => n * radix + (toDigit radix c).getD 0) 0
  if digits = [] ∨ maxDigits < digits.length then none
  else if allowZeroPrefix = false ∧ digits.head? = some '0' ∧ 1 < digits.length then none
  else if value ≤ max then some (value, cs.dropWhile fun c => (toDigit radix c).isSome)
  else none

theorem Consumes.readNumber {P : Char → Prop} {radix maxDigits max : ℕ} {allowZeroPrefix : Bool}
    (hP : ∀ c, (toDigit radix c).isSome = true → P c) :
    Consumes P (readNumber radix maxDigits allowZeroPrefix max) := by
  intro cs n rest h
  simp only [Reader.readNumber, Option.ite_none_left_eq_some, Option.ite_none_right_eq_some] at h
  obtain ⟨-, -, -, heq⟩ := h
  obtain ⟨-, rfl⟩ := Prod.mk.inj (Option.some_injective _ heq)
  refine ⟨cs.takeWhile fun c => (toDigit radix c).isSome, by simp, fun c hc => ?_⟩
  have htaken := List.mem_takeWhile_imp (p := fun c => (toDigit radix c).isSome) hc
  exact hP c htaken

/-- What the reader takes it takes also when the text goes on after the rest, unless it goes on
with a character of the kind `P`. -/
def Extends (P : Char → Prop) (r : Reader α) : Prop :=
  ∀ cs a rest more, r cs = some (a, rest) → (∀ c ∈ more.head?, ¬ P c) →
    r (cs ++ more) = some (a, rest ++ more)

theorem Extends.andThen {P : Char → Prop} {r : Reader α} {f : α → Reader β} (h : Extends P r)
    (hf : ∀ a, Extends P (f a)) : Extends P (andThen r f) := by
  intro cs b rest more hr hmore
  obtain ⟨a, mid, hfirst, hsecond⟩ := andThen_eq_some_iff.mp hr
  exact andThen_eq_some_iff.mpr
    ⟨a, mid ++ more, h cs a mid more hfirst hmore, hf a mid b rest more hsecond hmore⟩

theorem Extends.succeed {P : Char → Prop} (a : α) : Extends P (succeed a) := by
  intro cs b rest more h _
  obtain ⟨rfl, rfl⟩ := Prod.mk.inj (Option.some_injective _ h)
  rfl

theorem Extends.readChar {P : Char → Prop} (c : Char) : Extends P (readChar c) := by
  intro cs u rest more h _
  obtain rfl := readChar_eq_some_iff.mp h
  exact readChar_eq_some_iff.mpr rfl

theorem Extends.readNumber {P : Char → Prop} {radix maxDigits max : ℕ} {allowZeroPrefix : Bool}
    (hP : ∀ c, (toDigit radix c).isSome = true → P c) :
    Extends P (readNumber radix maxDigits allowZeroPrefix max) := by
  intro cs n rest more h hmore
  have hstop (c : Char) (hc : c ∈ more.head?) : (toDigit radix c).isSome = false :=
    Bool.eq_false_iff.mpr fun hdigit => hmore c hc (hP c hdigit)
  have htake : more.takeWhile (fun c => (toDigit radix c).isSome) = [] := by
    cases more with
    | nil => rfl
    | cons c more => rw [List.takeWhile_cons_of_neg (by simp [hstop c rfl])]
  -- the digits end where they ended, with or without what follows
  have hdigits : (cs ++ more).takeWhile (fun c => (toDigit radix c).isSome) =
      cs.takeWhile fun c => (toDigit radix c).isSome := by
    rw [List.takeWhile_append, htake, List.append_nil]
    split
    · next hlen => exact ((List.takeWhile_prefix _).eq_of_length hlen).symm
    · rfl
  have hrest : (cs ++ more).dropWhile (fun c => (toDigit radix c).isSome) =
      cs.dropWhile (fun c => (toDigit radix c).isSome) ++ more := by
    rw [List.dropWhile_append]
    split
    · next hnil =>
      rw [List.isEmpty_iff.mp hnil, dropWhile_eq_self_of_head? hstop]
      rfl
    · rfl
  simp only [Reader.readNumber, Option.ite_none_left_eq_some, Option.ite_none_right_eq_some] at h ⊢
  obtain ⟨hlen, hzero, hvalue, heq⟩ := h
  obtain ⟨rfl, rfl⟩ := Prod.mk.inj (Option.some_injective _ heq)
  rw [hdigits, hrest]
  exact ⟨hlen, hzero, hvalue, rfl⟩

end Reader

end Text
