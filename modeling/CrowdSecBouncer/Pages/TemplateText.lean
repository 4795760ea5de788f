import CrowdSecBouncer.Pages.Template

/-!
# The text of a template

What a template text says, without the scanner: texts, pairs of braces with a name between them,
and at most one opening pair that is never closed (`ReadsAs`). Only a pair of braces with a name
that is not blank is a placeholder; everything else is text. The scanner drops the closing braces
of a blank name and adds a brace to what is never closed, and in every other template it keeps all
of the text (`losesNothing_iff`).
-/

namespace CrowdSecBouncer

namespace Pages

open Text

/-- A part of a template text. -/
inductive Piece
  /-- Text before an opening pair of braces, or at the end. -/
  | text (t : List Char)
  /-- An opening pair up to the next closing pair. -/
  | braces (name : List Char)
  /-- An opening pair with no closing pair after it. -/
  | unterminated (rest : List Char)
  deriving DecidableEq, Repr

/-- The parts of a text, from the leftmost opening pair on. -/
inductive ReadsAs : List Char → List Piece → Prop
  | text {cs : List Char} (hopen : splitOncePair '{' '{' cs = none) : ReadsAs cs [.text cs]
  | unterminated {cs before after : List Char}
      (hopen : splitOncePair '{' '{' cs = some (before, after))
      (hclose : splitOncePair '}' '}' after = none) :
      ReadsAs cs [.text before, .unterminated after]
  | braces {cs before after name rest : List Char} {ps : List Piece}
      (hopen : splitOncePair '{' '{' cs = some (before, after))
      (hclose : splitOncePair '}' '}' after = some (name, rest)) (hrest : ReadsAs rest ps) :
      ReadsAs cs (.text before :: .braces name :: ps)

/-- White space only, or nothing. -/
def IsBlank (name : List Char) : Prop := trim name = []

instance (name : List Char) : Decidable (IsBlank name) := inferInstanceAs (Decidable (_ = _))

/-- Opening braces are closed and have a name between them. -/
def Piece.WellFormed : Piece → Prop
  | .text _ => True
  | .braces name => ¬ IsBlank name
  | .unterminated _ => False

/-- A pair of braces with a name. -/
def Piece.IsPlaceholder : Piece → Prop
  | .text _ | .unterminated _ => False
  | .braces name => ¬ IsBlank name

/-- The text of a part, with `placeholder` for the name of a placeholder. -/
def Piece.write (placeholder : List Char → List Char) : Piece → List Char
  | .text t => t
  | .braces name =>
    if IsBlank name then ['{', '{'] ++ name ++ ['}', '}'] else placeholder (trim name)
  | .unterminated rest => ['{', '{'] ++ rest

/-- The text of a part as it stands in the template. -/
def Piece.source : Piece → List Char
  | .text t => t
  | .braces name => ['{', '{'] ++ name ++ ['}', '}']
  | .unterminated rest => ['{', '{'] ++ rest

/-- The text of a segment, with its name in braces. -/
def TemplateSegment.source : TemplateSegment → List Char
  | .text t => t
  | .variable name => ['{', '{'] ++ name ++ ['}', '}']

/-- Nothing is lost or invented: what is rendered is the text with the values in the place of the
placeholders, which is the text itself where it has no placeholder; and the segments give back the
text up to white space around names. -/
structure LosesNothing (content contentType : List Char) (ps : List Piece) : Prop where
  rendered : ∀ vars, (Template.parseWithContentType content contentType).render vars =
    ps.flatMap (Piece.write fun name =>
      (escapeModeFromContentType contentType).escape (vars.value name))
  verbatim : (∀ p ∈ ps, ¬ p.IsPlaceholder) → ∀ vars,
    (Template.parseWithContentType content contentType).render vars = content
  source : (Template.parseWithContentType content contentType).segments.flatMap
      TemplateSegment.source =
    ps.flatMap (Piece.write fun name => ['{', '{'] ++ name ++ ['}', '}'])

variable {cs content contentType : List Char} {ps : List Piece}

/-! ### The parts of a text -/

/-- Every text has parts. -/
theorem exists_readsAs (cs : List Char) : ∃ ps, ReadsAs cs ps := by
  induction hn : cs.length using Nat.strong_induction_on generalizing cs with
  | _ n ih =>
    cases hopen : splitOncePair '{' '{' cs with
    | none => exact ⟨_, .text hopen⟩
    | some split =>
      obtain ⟨before, after⟩ := split
      cases hclose : splitOncePair '}' '}' after with
      | none => exact ⟨_, .unterminated hopen hclose⟩
      | some split =>
        obtain ⟨name, rest⟩ := split
        have hafter := length_lt_of_splitOncePair hopen
        have hrest := length_lt_of_splitOncePair hclose
        obtain ⟨ps, hps⟩ := ih rest.length (by omega) rest rfl
        exact ⟨_, .braces hopen hclose hps⟩

/-- And in one way only. -/
theorem ReadsAs.unique (h : ReadsAs cs ps) {ps' : List Piece} (h' : ReadsAs cs ps') : ps = ps' := by
  induction h generalizing ps' with
  | text hopen =>
    cases h' with
    | text hopen' => rfl
    | unterminated hopen' _ | braces hopen' _ _ => exact absurd (hopen.symm.trans hopen') (by simp)
  | unterminated hopen hclose =>
    cases h' with
    | text hopen' => exact absurd (hopen.symm.trans hopen') (by simp)
    | unterminated hopen' _ =>
      obtain ⟨rfl, rfl⟩ := Prod.mk.inj (Option.some_injective _ (hopen.symm.trans hopen'))
      rfl
    | braces hopen' hclose' _ =>
      obtain ⟨rfl, rfl⟩ := Prod.mk.inj (Option.some_injective _ (hopen.symm.trans hopen'))
      exact absurd (hclose.symm.trans hclose') (by simp)
  | braces hopen hclose _ ih =>
    cases h' with
    | text hopen' => exact absurd (hopen.symm.trans hopen') (by simp)
    | unterminated hopen' hclose' =>
      obtain ⟨rfl, rfl⟩ := Prod.mk.inj (Option.some_injective _ (hopen.symm.trans hopen'))
      exact absurd (hclose.symm.trans hclose') (by simp)
    | braces hopen' hclose' hrest' =>
      obtain ⟨rfl, rfl⟩ := Prod.mk.inj (Option.some_injective _ (hopen.symm.trans hopen'))
      obtain ⟨rfl, rfl⟩ := Prod.mk.inj (Option.some_injective _ (hclose.symm.trans hclose'))
      rw [ih hrest']

/-- The parts make up the text. -/
theorem ReadsAs.flatMap_source (h : ReadsAs cs ps) : ps.flatMap Piece.source = cs := by
  induction h with
  | text hopen => simp [Piece.source]
  | unterminated hopen hclose =>
    rw [splitOncePair_spec hopen]
    simp [Piece.source]
  | braces hopen hclose _ ih =>
    rw [List.flatMap_cons, List.flatMap_cons, ih, splitOncePair_spec hopen,
      splitOncePair_spec hclose]
    simp [Piece.source]

/-! ### The scanner -/

theorem scanSegments_text_cons {current : List Char} {c : Char}
    (h : ¬ (c = '{' ∧ cs.head? = some '{')) :
    scanSegments (.text current) (c :: cs) = scanSegments (.text (current ++ [c])) cs := by
  rw [scanSegments]
  rintro rest rfl rfl
  exact h ⟨rfl, rfl⟩

theorem scanSegments_name_cons {varName : List Char} {c : Char}
    (h : ¬ (c = '}' ∧ cs.head? = some '}')) :
    scanSegments (.name varName) (c :: cs) = scanSegments (.name (varName ++ [c])) cs := by
  rw [scanSegments]
  rintro rest rfl rfl
  exact h ⟨rfl, rfl⟩

theorem scanSegments_text_of_none (hopen : splitOncePair '{' '{' cs = none)
    (current : List Char) : scanSegments (.text current) cs = textSegment (current ++ cs) := by
  induction cs generalizing current with
  | nil => rw [scanSegments, List.append_nil]
  | cons c cs ih =>
    rw [splitOncePair] at hopen
    split at hopen
    · exact absurd hopen (by simp)
    · next hc =>
      rw [scanSegments_text_cons hc, ih (Option.map_eq_none_iff.mp hopen), List.append_assoc,
        List.singleton_append]

theorem scanSegments_text_of_some {before after : List Char}
    (hopen : splitOncePair '{' '{' cs = some (before, after)) (current : List Char) :
    scanSegments (.text current) cs =
      textSegment (current ++ before) ++ scanSegments (.name []) after := by
  induction cs generalizing current before with
  | nil => exact absurd hopen (by simp [splitOncePair])
  | cons c cs ih =>
    rw [splitOncePair] at hopen
    split at hopen
    · next hc =>
      obtain ⟨rfl, rfl⟩ := Prod.mk.inj (Option.some_injective _ hopen)
      obtain ⟨rfl, hhead⟩ := hc
      obtain ⟨rest, rfl⟩ := List.head?_eq_some_iff.mp hhead
      rw [scanSegments, List.append_nil, List.tail_cons]
    · next hc =>
      obtain ⟨⟨before', after'⟩, hsplit, heq⟩ := Option.map_eq_some_iff.mp hopen
      obtain ⟨rfl, rfl⟩ := Prod.mk.inj heq
      rw [scanSegments_text_cons hc, ih hsplit, List.append_assoc, List.singleton_append]

theorem scanSegments_name_of_none (hclose : splitOncePair '}' '}' cs = none)
    (varName : List Char) :
    scanSegments (.name varName) cs =
      textSegment (['{', '{'] ++ (varName ++ cs) ++ ['}']) := by
  induction cs generalizing varName with
  | nil => rw [scanSegments, List.append_nil]
  | cons c cs ih =>
    rw [splitOncePair] at hclose
    split at hclose
    · exact absurd hclose (by simp)
    · next hc =>
      rw [scanSegments_name_cons hc, ih (Option.map_eq_none_iff.mp hclose)]
      simp

theorem scanSegments_name_of_some {name rest : List Char}
    (hclose : splitOncePair '}' '}' cs = some (name, rest)) (varName : List Char) :
    scanSegments (.name varName) cs =
      if trim (varName ++ name) ≠ [] then
        .variable (trim (varName ++ name)) :: scanSegments (.text []) rest
      else scanSegments (.text (['{', '{'] ++ (varName ++ name))) rest := by
  induction cs generalizing varName name with
  | nil => exact absurd hclose (by simp [splitOncePair])
  | cons c cs ih =>
    rw [splitOncePair] at hclose
    split at hclose
    · next hc =>
      obtain ⟨rfl, rfl⟩ := Prod.mk.inj (Option.some_injective _ hclose)
      obtain ⟨rfl, hhead⟩ := hc
      obtain ⟨rest, rfl⟩ := List.head?_eq_some_iff.mp hhead
      rw [scanSegments, List.append_nil, List.tail_cons]
    · next hc =>
      obtain ⟨⟨name', rest'⟩, hsplit, heq⟩ := Option.map_eq_some_iff.mp hclose
      obtain ⟨rfl, rfl⟩ := Prod.mk.inj heq
      rw [scanSegments_name_cons hc, ih hsplit, List.append_assoc, List.singleton_append]

/-- What the scanner makes of a part: the braces after a blank name are gone, and a text that is
not closed ends in a brace. -/
def Piece.scanned (placeholder : List Char → List Char) : Piece → List Char
  | .text t => t
  | .braces name => if IsBlank name then ['{', '{'] ++ name else placeholder (trim name)
  | .unterminated rest => ['{', '{'] ++ rest ++ ['}']

theorem flatMap_textSegment {write : TemplateSegment → List Char}
    (htext : ∀ t, write (.text t) = t) (t : List Char) : (textSegment t).flatMap write = t := by
  rw [textSegment]
  split
  · next h => exact h.symm
  · rw [List.flatMap_singleton, htext]

/-- **The scanner reads the parts of the text**: what it makes of them, one after the other, is
what its segments are written as. -/
theorem flatMap_scanSegments (h : ReadsAs cs ps) {write : TemplateSegment → List Char}
    (htext : ∀ t, write (.text t) = t) (current : List Char) :
    (scanSegments (.text current) cs).flatMap write =
      current ++ ps.flatMap (Piece.scanned fun name => write (.variable name)) := by
  induction h generalizing current with
  | text hopen =>
    rw [scanSegments_text_of_none hopen, flatMap_textSegment htext, List.flatMap_singleton]
    rfl
  | unterminated hopen hclose =>
    rw [scanSegments_text_of_some hopen, scanSegments_name_of_none hclose, List.flatMap_append,
      flatMap_textSegment htext, flatMap_textSegment htext]
    simp [Piece.scanned]
  | @braces cs before after name rest ps hopen hclose _ ih =>
    rw [scanSegments_text_of_some hopen, scanSegments_name_of_some hclose, List.flatMap_append,
      flatMap_textSegment htext, List.flatMap_cons, List.flatMap_cons, List.append_assoc]
    refine congrArg (current ++ ·) (congrArg (before ++ ·) ?_)
    by_cases hblank : trim name = []
    · -- a blank name goes on as text, without its closing braces
      rw [List.nil_append, if_neg (not_not.mpr hblank), ih, Piece.scanned,
        if_pos (show IsBlank name from hblank)]
    · rw [List.nil_append, if_pos hblank, List.flatMap_cons, ih, Piece.scanned,
        if_neg (show ¬ IsBlank name from hblank), List.nil_append]

/-! ### What is lost and what is invented -/

theorem Piece.scanned_of_wellFormed {p : Piece} (h : p.WellFormed)
    (placeholder : List Char → List Char) : p.scanned placeholder = p.write placeholder := by
  cases p with
  | text t => rfl
  | braces name => rw [scanned, write, if_neg h, if_neg h]
  | unterminated rest => exact absurd h (by simp [WellFormed])

/-- The characters that the scanner drops. -/
def Piece.lost : Piece → ℕ
  | .braces name => if IsBlank name then 2 else 0
  | .text _ | .unterminated _ => 0

/-- The characters that the scanner adds. -/
def Piece.invented : Piece → ℕ
  | .unterminated _ => 1
  | .text _ | .braces _ => 0

theorem length_flatMap_scanned (ps : List Piece) (placeholder : List Char → List Char) :
    (ps.flatMap (Piece.scanned placeholder)).length + (ps.map Piece.lost).sum =
      (ps.flatMap (Piece.write placeholder)).length + (ps.map Piece.invented).sum := by
  induction ps with
  | nil => rfl
  | cons p ps ih =>
    have hp : (p.scanned placeholder).length + p.lost =
        (p.write placeholder).length + p.invented := by
      cases p with
      | text t => rfl
      | braces name =>
        simp only [Piece.scanned, Piece.write, Piece.lost, Piece.invented]
        split
        · simp only [List.length_append, List.length_cons, List.length_nil]
        · rfl
      | unterminated rest =>
        simp only [Piece.scanned, Piece.write, Piece.lost, Piece.invented, List.length_append,
          List.length_cons, List.length_nil]
    rw [List.flatMap_cons, List.flatMap_cons, List.length_append, List.length_append,
      List.map_cons, List.map_cons, List.sum_cons, List.sum_cons]
    omega

/-- Only the last part is not closed. -/
theorem ReadsAs.sum_invented_le (h : ReadsAs cs ps) : (ps.map Piece.invented).sum ≤ 1 := by
  induction h with
  | text hopen => simp [Piece.invented]
  | unterminated hopen hclose => simp [Piece.invented]
  | braces hopen hclose _ ih => simpa [Piece.invented] using ih

theorem even_sum_lost (ps : List Piece) : ∃ n, (ps.map Piece.lost).sum = 2 * n := by
  induction ps with
  | nil => exact ⟨0, rfl⟩
  | cons p ps ih =>
    obtain ⟨n, hn⟩ := ih
    have hp : p.lost = 0 ∨ p.lost = 2 := by
      cases p with
      | text t => exact .inl rfl
      | braces name =>
        rw [Piece.lost]
        split
        · exact .inr rfl
        · exact .inl rfl
      | unterminated rest => exact .inl rfl
    rw [List.map_cons, List.sum_cons, hn]
    rcases hp with hp | hp
    · exact ⟨n, by omega⟩
    · exact ⟨n + 1, by omega⟩

theorem Piece.wellFormed_of_lost {p : Piece} (hlost : p.lost = 0) (hinvented : p.invented = 0) :
    p.WellFormed := by
  cases p with
  | text t => trivial
  | braces name =>
    intro hblank
    rw [lost, if_pos hblank] at hlost
    exact absurd hlost (by decide)
  | unterminated rest => exact absurd hinvented (by simp [invented])

/-- What the scanner drops comes in twos and what it adds is one at most, so that they never make
up for each other. -/
theorem ReadsAs.wellFormed_of_sum_eq (h : ReadsAs cs ps)
    (heq : (ps.map Piece.lost).sum = (ps.map Piece.invented).sum) : ∀ p ∈ ps, p.WellFormed := by
  have hinvented := h.sum_invented_le
  obtain ⟨n, hlost⟩ := even_sum_lost ps
  have hzero : (ps.map Piece.lost).sum = 0 ∧ (ps.map Piece.invented).sum = 0 := by omega
  intro p hp
  refine Piece.wellFormed_of_lost ?_ ?_
  · exact List.sum_eq_zero_iff_forall_eq_nat.mp hzero.1 _ (List.mem_map_of_mem hp)
  · exact List.sum_eq_zero_iff_forall_eq_nat.mp hzero.2 _ (List.mem_map_of_mem hp)

theorem write_of_not_isPlaceholder {p : Piece} (h : ¬ p.IsPlaceholder)
    (placeholder : List Char → List Char) : p.write placeholder = p.source := by
  cases p with
  | text t => rfl
  | braces name => rw [Piece.write, if_pos (not_not.mp h), Piece.source]
  | unterminated rest => rfl

/-- A page is what the scanner makes of the parts, with the escaped values. -/
theorem render_parseWithContentType (h : ReadsAs content ps) (vars : TemplateVariables) :
    (Template.parseWithContentType content contentType).render vars =
      ps.flatMap (Piece.scanned fun name =>
        (escapeModeFromContentType contentType).escape (vars.value name)) :=
  flatMap_scanSegments h (fun _ => rfl) []

theorem flatMap_scanned_of_wellFormed (hwell : ∀ p ∈ ps, p.WellFormed)
    (placeholder : List Char → List Char) :
    ps.flatMap (Piece.scanned placeholder) = ps.flatMap (Piece.write placeholder) :=
  List.flatMap_congr fun p hp => Piece.scanned_of_wellFormed (hwell p hp) placeholder

/-- **Template parsing loses and invents nothing** in the templates whose opening braces are all
closed and have a name between them, and in no other: for any content type, what is rendered is
the text with the values in the place of the placeholders, a text without placeholders is rendered
as it is, and the segments give back the text. -/
theorem losesNothing_iff (h : ReadsAs content ps) :
    LosesNothing content contentType ps ↔ ∀ p ∈ ps, p.WellFormed := by
  constructor
  · intro hloses
    have hlength := length_flatMap_scanned ps fun name =>
      (escapeModeFromContentType contentType).escape (TemplateVariables.value {} name)
    rw [(render_parseWithContentType h {}).symm.trans (hloses.rendered {})] at hlength
    exact h.wellFormed_of_sum_eq (Nat.add_left_cancel hlength)
  · intro hwell
    refine ⟨fun vars => ?_, fun hplain vars => ?_, ?_⟩
    · rw [render_parseWithContentType h, flatMap_scanned_of_wellFormed hwell]
    · rw [render_parseWithContentType h, flatMap_scanned_of_wellFormed hwell, ← h.flatMap_source]
      exact List.flatMap_congr fun p hp => write_of_not_isPlaceholder (hplain p hp) _
    · rw [← flatMap_scanned_of_wellFormed hwell]
      exact flatMap_scanSegments h (fun _ => rfl) []

theorem losesNothing_iff_page :
    LosesNothing "<b>\x7b\x7b host \x7d\x7d</b>".toList "text/html".toList
        [.text "<b>".toList, .braces " host ".toList, .text "</b>".toList] ↔
      ∀ p ∈ [.text "<b>".toList, .braces " host ".toList, .text "</b>".toList],
        Piece.WellFormed p :=
  losesNothing_iff (.braces rfl rfl (.text rfl))

/-- Empty braces are rendered without the closing ones, and an opening pair that is not closed
gets a brace. -/
theorem not_losesNothing_braces :
    ReadsAs "a\x7b\x7b\x7d\x7db".toList [.text ['a'], .braces [], .text ['b']] ∧
      ¬ LosesNothing "a\x7b\x7b\x7d\x7db".toList "text/html".toList
          [.text ['a'], .braces [], .text ['b']] ∧
      ReadsAs "a\x7b\x7bb".toList [.text ['a'], .unterminated ['b']] ∧
      ¬ LosesNothing "a\x7b\x7bb".toList "text/html".toList
          [.text ['a'], .unterminated ['b']] := by
  refine ⟨.braces rfl rfl (.text rfl), fun h => ?_, .unterminated rfl rfl, fun h => ?_⟩
  · have hverbatim := h.verbatim (by simp [Piece.IsPlaceholder, IsBlank, trim]) {}
    exact absurd hverbatim (by decide +kernel)
  · have hverbatim := h.verbatim (by simp [Piece.IsPlaceholder]) {}
    exact absurd hverbatim (by decide +kernel)

end Pages

end CrowdSecBouncer
