import CrowdSecBouncer.Foundations.Hexadecimal

/-!
# The text exposition of metrics

A page of metrics has three lines for each of them: its help text, its type and a sample. A scraper
takes the page apart at the ends of lines, passes empty ones over, and refuses a page on which the
three lines do not agree about the name or a name occurs twice. It reads back the metrics that were
written, with their values, when the names are made of the characters of a name and the help texts
stay in their lines (`readPage_writePage`).
-/

namespace Exposition

open Text

inductive Kind
  | counter
  | gauge
  deriving DecidableEq, Repr

def Kind.keyword : Kind → List Char
  | .counter => "counter".toList
  | .gauge => "gauge".toList

/-- A metric with one sample. -/
structure Metric where
  name : List Char
  help : List Char
  kind : Kind
  value : ℕ
  deriving DecidableEq, Repr

def Metric.lines (m : Metric) : List (List Char) :=
  ["# HELP ".toList ++ m.name ++ ' ' :: m.help, "# TYPE ".toList ++ m.name ++ ' ' :: m.kind.keyword,
    m.name ++ ' ' :: Nat.toDigits 10 m.value]

def writePage (metrics : List Metric) : List Char :=
  metrics.flatMap fun m => m.lines.flatMap (· ++ ['\n'])

/-! ### Reading -/

/-- A name, a blank and a text behind a keyword. -/
def readComment (keyword line : List Char) : Option (List Char × List Char) :=
  if keyword.isPrefixOf line then splitOnce ' ' (line.drop keyword.length) else none

def readKind (keyword : List Char) : Option Kind :=
  if keyword = Kind.counter.keyword then some .counter
  else if keyword = Kind.gauge.keyword then some .gauge
  else none

/-- A name, a blank and digits. -/
def readSample (line : List Char) : Option (List Char × ℕ) := do
  let (name, digits) ← splitOnce ' ' line
  if digits ≠ [] ∧ digits.all fun c => (Reader.toDigit 10 c).isSome then
    some (name, digitsValue 10 digits)
  else none

/-- The metrics of lines that are not empty, when no name is one of `seen` or occurs twice. -/
def readMetrics (seen : List (List Char)) : List (List Char) → Option (List Metric)
  | [] => some []
  | helpLine :: typeLine :: sampleLine :: lines => do
    let (name, help) ← readComment "# HELP ".toList helpLine
    let (name', keyword) ← readComment "# TYPE ".toList typeLine
    let (name'', value) ← readSample sampleLine
    let kind ← readKind keyword
    if name = name' ∧ name = name'' ∧ !seen.contains name then
      (readMetrics (name :: seen) lines).map (⟨name, help, kind, value⟩ :: ·)
    else none
  | _ => none

def readPage (page : List Char) : Option (List Metric) :=
  readMetrics [] ((page.splitOn '\n').filter (· ≠ []))

/-! ### Round trip -/

def isNameChar (c : Char) : Bool := c.isAlphanum || c == '_' || c == ':'

/-- The lines of the metric can be told apart, and nothing in the help text needs an escape. -/
structure IsMetric (m : Metric) : Prop where
  name : m.name.all isNameChar = true
  help : '\n' ∉ m.help ∧ '\\' ∉ m.help

variable {m : Metric} {metrics : List Metric}

theorem not_mem_of_isNameChar {name : List Char} {c : Char} (hname : name.all isNameChar = true)
    (hc : isNameChar c = false) : c ∉ name := by
  intro hmem
  exact Bool.false_ne_true (hc.symm.trans (List.all_eq_true.mp hname c hmem))

theorem toDigit_newline : Reader.toDigit 10 '\n' = none := by decide

/-- No line of a metric has the end of a line in it. -/
theorem IsMetric.newline_not_mem (h : IsMetric m) : ∀ line ∈ m.lines, '\n' ∉ line := by
  have hname : '\n' ∉ m.name := not_mem_of_isNameChar h.name (by decide)
  have hvalue : '\n' ∉ Nat.toDigits 10 m.value := fun hmem =>
    absurd (isSome_toDigit_of_mem_toDigits (by decide) _ hmem) (by simp [toDigit_newline])
  have hkind : '\n' ∉ m.kind.keyword := by
    cases m.kind <;> decide
  have hsep {front text : List Char} (hfront : '\n' ∉ front) (htext : '\n' ∉ text) :
      '\n' ∉ front ++ ' ' :: text :=
    mt List.mem_append.mp
      (not_or.mpr ⟨hfront, List.not_mem_cons_of_ne_of_not_mem (by decide) htext⟩)
  have hkeyword {keyword : List Char} (h : '\n' ∉ keyword) : '\n' ∉ keyword ++ m.name :=
    mt List.mem_append.mp (not_or.mpr ⟨h, hname⟩)
  rw [Metric.lines, List.forall_mem_cons, List.forall_mem_cons, List.forall_mem_singleton]
  exact ⟨hsep (hkeyword (by decide)) h.help.1, hsep (hkeyword (by decide)) hkind, hsep hname hvalue⟩

theorem Metric.ne_nil_of_mem_lines : ∀ line ∈ m.lines, line ≠ [] := by
  simp [Metric.lines]

/-- Lines are taken apart where they end. -/
theorem splitOn_flatMap_newline {lines : List (List Char)} (h : ∀ line ∈ lines, '\n' ∉ line) :
    (lines.flatMap (· ++ ['\n'])).splitOn '\n' = lines ++ [[]] := by
  induction lines with
  | nil => rfl
  | cons line lines ih =>
    obtain ⟨hline, hlines⟩ := List.forall_mem_cons.mp h
    rw [List.flatMap_cons, List.append_assoc, List.singleton_append,
      List.splitOn_append_cons_self_of_not_mem hline, ih hlines, List.cons_append]

theorem readComment_append {keyword name text : List Char} (hname : ' ' ∉ name) :
    readComment keyword (keyword ++ name ++ ' ' :: text) = some (name, text) := by
  rw [List.append_assoc, readComment, if_pos (by simp), List.drop_left, splitOnce_append hname]

theorem readKind_keyword (kind : Kind) : readKind kind.keyword = some kind := by
  cases kind <;> rfl

theorem readSample_append {name : List Char} (hname : ' ' ∉ name) (n : ℕ) :
    readSample (name ++ ' ' :: Nat.toDigits 10 n) = some (name, n) := by
  have hdigits : (Nat.toDigits 10 n).all (fun c => (Reader.toDigit 10 c).isSome) = true :=
    List.all_eq_true.mpr (isSome_toDigit_of_mem_toDigits (by decide))
  rw [readSample, splitOnce_append hname, Option.bind_eq_bind, Option.bind_some]
  dsimp only
  rw [if_pos ⟨Nat.toDigits_ne_nil, hdigits⟩, digitsValue_toDigits (by decide)]

theorem readMetrics_lines {seen : List (List Char)} (h : ∀ m ∈ metrics, IsMetric m)
    (hnodup : (metrics.map Metric.name).Nodup) (hseen : ∀ m ∈ metrics, m.name ∉ seen) :
    readMetrics seen (metrics.flatMap Metric.lines) = some metrics := by
  induction metrics generalizing seen with
  | nil => rfl
  | cons m metrics ih =>
    obtain ⟨hm, hmetrics⟩ := List.forall_mem_cons.mp h
    obtain ⟨hmseen, hrest⟩ := List.forall_mem_cons.mp hseen
    rw [List.map_cons, List.nodup_cons] at hnodup
    have hblank : ' ' ∉ m.name := not_mem_of_isNameChar hm.name (by decide)
    have hunseen : (!seen.contains m.name) = true := by
      rwa [Bool.not_eq_true', ← Bool.not_eq_true, List.contains_iff_mem]
    have htail : readMetrics (m.name :: seen) (metrics.flatMap Metric.lines) = some metrics := by
      refine ih hmetrics hnodup.2 fun m' hm' => List.not_mem_cons_of_ne_of_not_mem ?_ (hrest m' hm')
      exact fun heq => hnodup.1 (heq ▸ List.mem_map_of_mem hm')
    rw [List.flatMap_cons, Metric.lines, List.cons_append, List.cons_append, List.cons_append,
      List.nil_append, readMetrics]
    simp only [readComment_append hblank, readSample_append hblank, readKind_keyword,
      Option.bind_eq_bind, Option.bind_some, hunseen, and_self, if_true, htail,
      Option.map_some]

/-- **Round trip.** -/
theorem readPage_writePage (h : ∀ m ∈ metrics, IsMetric m)
    (hnodup : (metrics.map Metric.name).Nodup) :
    readPage (writePage metrics) = some metrics := by
  have hwrite : writePage metrics = (metrics.flatMap Metric.lines).flatMap (· ++ ['\n']) := by
    rw [writePage, List.flatMap_assoc]
  have hlines : ∀ line ∈ metrics.flatMap Metric.lines, '\n' ∉ line ∧ line ≠ [] := by
    intro line hline
    obtain ⟨m, hm, hline⟩ := List.mem_flatMap.mp hline
    exact ⟨(h m hm).newline_not_mem line hline, Metric.ne_nil_of_mem_lines line hline⟩
  have hfilter : (metrics.flatMap Metric.lines ++ [[]]).filter (· ≠ []) =
      metrics.flatMap Metric.lines := by
    rw [List.filter_append, List.filter_eq_self.mpr fun line hline => by
      simpa using (hlines line hline).2]
    exact List.append_nil _
  rw [readPage, hwrite, splitOn_flatMap_newline fun line hline => (hlines line hline).1, hfilter]
  exact readMetrics_lines h hnodup fun _ _ => List.not_mem_nil

end Exposition
