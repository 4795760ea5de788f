import CrowdSecBouncer.Foundations.Json
import CrowdSecBouncer.Pages.TemplateText

/-!
# JSON pages

In a JSON page the values of variables are written with the escapes of JSON strings. What is
written for a value is the inside of a string literal for that value, so that in a template whose
placeholders are all in strings a value takes the place of its placeholder and nothing else
changes: the page is the document of the template with its holes filled (`keepsStructure_iff`).
This needs the braces of the template to be well formed, since what the parser drops or adds
otherwise is missing in a string or stands after the document.
-/

namespace CrowdSecBouncer

namespace Pages

open Text Text.Json

/-- A part of a template with its placeholder as a hole. -/
def Piece.items : Piece → List (Item (List Char))
  | .text t => t.map .char
  | .braces name =>
    if IsBlank name then (['{', '{'] ++ name ++ ['}', '}']).map .char else [.hole (trim name)]
  | .unterminated rest => (['{', '{'] ++ rest).map .char

/-- A JSON template: its content type names JSON and neither HTML nor XHTML, and its text, with the
placeholders as holes that are all in strings, is of a document. -/
structure IsJsonTemplate (content contentType : List Char) (ps : List Piece)
    (doc : Value (StringPart (List Char))) : Prop where
  namesJson : NamesType contentType "application/json".toList
  notHtml : ¬ NamesType contentType "text/html".toList
  notXhtml : ¬ NamesType contentType "application/xhtml".toList
  readsAs : ReadsAs content ps
  document : IsJsonWithHoles (ps.flatMap Piece.items) doc

/-- Whatever the variables are, the page is of the document with their values in the holes, and of
no other. -/
def KeepsStructure (content contentType : List Char) (doc : Value (StringPart (List Char))) :
    Prop :=
  ∀ (vars : TemplateVariables) (v : Value ℕ),
    IsJson ((Template.parseWithContentType content contentType).render vars) v ↔
      v = doc.fill vars.value

variable {cs content contentType : List Char} {ps : List Piece}
  {doc : Value (StringPart (List Char))}

/-! ### Escaped values -/

theorem escapeJsonChar_cases (c : Char) :
    c.toNat < 0x100 ∧
        ((∃ d, escapeJsonChar c = ['\\', d] ∧ d ≠ 'u' ∧ 0x20 ≤ d.toNat ∧
            shortEscape d = some c.toNat) ∨
          escapeJsonChar c = '\\' :: 'u' :: hexDigits4 c.toNat) ∨
      c ≠ '"' ∧ c ≠ '\\' ∧ 0x20 ≤ c.toNat ∧ escapeJsonChar c = [c] := by
  rw [escapeJsonChar]
  split_ifs with hquote hbackslash hn hr ht hcontrol
  · exact .inl ⟨by simp [hquote], .inl ⟨'"', rfl, by simp [hquote, shortEscape]⟩⟩
  · exact .inl ⟨by simp [hbackslash], .inl ⟨'\\', rfl, by simp [hbackslash, shortEscape]⟩⟩
  · exact .inl ⟨by simp [hn], .inl ⟨'n', rfl, by simp [hn, shortEscape]⟩⟩
  · exact .inl ⟨by simp [hr], .inl ⟨'r', rfl, by simp [hr, shortEscape]⟩⟩
  · exact .inl ⟨by simp [ht], .inl ⟨'t', rfl, by simp [ht, shortEscape]⟩⟩
  · refine .inl ⟨?_, .inr rfl⟩
    simp only [isControl, Bool.or_eq_true, Bool.and_eq_true, decide_eq_true_eq] at hcontrol
    omega
  · refine .inr ⟨hquote, hbackslash, ?_, rfl⟩
    simp only [isControl, Bool.or_eq_true, decide_eq_true_eq, not_or, not_lt] at hcontrol
    exact hcontrol.1

/-- What is written for a character is read as its code units. -/
theorem run_escapeJsonChar (c : Char) (contents : List ℕ) (tokens : List (Token ℕ)) :
    (⟨.string contents, tokens⟩ : Lexer ℕ).run id (escapeJsonChar c) =
      some ⟨.string (contents ++ charUnits c), tokens⟩ := by
  rcases escapeJsonChar_cases c with ⟨hlt, ⟨d, hself, hu, -, hd⟩ | hself⟩ |
    ⟨hquote, hbackslash, hle, hself⟩
  · rw [hself, charUnits_of_lt (by omega)]
    simp [Lexer.run, Lexer.step, hu, hd, push]
  · have hcode : ((c.toNat / 4096 * 16 + c.toNat / 256 % 16) * 16 + c.toNat / 16 % 16) * 16 +
        c.toNat % 16 = c.toNat := by omega
    rw [hself, charUnits_of_lt (by omega), hexDigits4,
      run_hexEscape (toDigit_digitChar (by omega)) (toDigit_digitChar (by omega))
        (toDigit_digitChar (by omega)) (toDigit_digitChar (by omega)), hcode]
  · rw [hself]
    simp [Lexer.run, Lexer.step, hquote, hbackslash, Nat.not_lt.mpr hle, push]

theorem isStringEscape_escapeJson : IsStringEscape escapeJson :=
  isStringEscape_flatMap run_escapeJsonChar

theorem digitChar_plain {n : ℕ} (h : n < 16) :
    Nat.digitChar n ≠ '"' ∧ Nat.digitChar n ≠ '\\' ∧ 0x20 ≤ (Nat.digitChar n).toNat := by
  have hall : ∀ n < 16, Nat.digitChar n ≠ '"' ∧ Nat.digitChar n ≠ '\\' ∧
      0x20 ≤ (Nat.digitChar n).toNat := by decide
  exact hall n h

theorem digitChar_of_mem_hexDigits4 {d : Char} {n : ℕ} (hn : n < 0x100) (hd : d ∈ hexDigits4 n) :
    ∃ m < 16, d = Nat.digitChar m := by
  simp only [hexDigits4, List.mem_cons, List.not_mem_nil, or_false] at hd
  rcases hd with rfl | rfl | rfl | rfl
  · exact ⟨_, by omega, rfl⟩
  · exact ⟨_, by omega, rfl⟩
  · exact ⟨_, by omega, rfl⟩
  · exact ⟨_, by omega, rfl⟩

/-- What is written for a character is above the control characters. -/
theorem le_of_mem_escapeJsonChar {c d : Char} (h : d ∈ escapeJsonChar c) : 0x20 ≤ d.toNat := by
  rcases escapeJsonChar_cases c with ⟨hlt, ⟨e, hself, -, hle, -⟩ | hself⟩ | ⟨-, -, hle, hself⟩
  · rw [hself, List.mem_pair] at h
    rcases h with rfl | rfl
    · decide
    · exact hle
  · rw [hself, List.mem_cons, List.mem_cons] at h
    rcases h with rfl | rfl | hdigit
    · decide
    · decide
    · obtain ⟨m, hm, rfl⟩ := digitChar_of_mem_hexDigits4 hlt hdigit
      exact (digitChar_plain hm).2.2
  · rw [hself, List.mem_singleton] at h
    exact h ▸ hle

/-- What is written for a character has no quote without its backslash. -/
theorem hasRawQuote_escapeJsonChar_append (c : Char) (cs : List Char) :
    hasRawQuote (escapeJsonChar c ++ cs) = hasRawQuote cs := by
  rcases escapeJsonChar_cases c with ⟨hlt, ⟨e, hself, -, -, -⟩ | hself⟩ |
    ⟨hquote, hbackslash, -, hself⟩
  · rw [hself]
    rfl
  · rw [hself, List.cons_append, List.cons_append, hasRawQuote]
    refine hasRawQuote_append_of_plain (fun d hd => ?_) cs
    obtain ⟨m, hm, rfl⟩ := digitChar_of_mem_hexDigits4 hlt hd
    exact ⟨(digitChar_plain hm).1, (digitChar_plain hm).2.1⟩
  · rw [hself]
    refine hasRawQuote_append_of_plain (fun d hd => ?_) cs
    obtain rfl := List.mem_singleton.mp hd
    exact ⟨hquote, hbackslash⟩

/-- What is written for a value is the inside of a string literal for it. -/
theorem isInsideOf_escapeJson (s : List Char) : IsInsideOf (escapeJson s) s where
  hasRawQuote_eq := by
    induction s with
    | nil => rfl
    | cons c s ih =>
      rw [escapeJson, List.flatMap_cons, hasRawQuote_escapeJsonChar_append]
      exact ih
  noControl c hc := by
    obtain ⟨d, -, hd⟩ := List.mem_flatMap.mp hc
    exact le_of_mem_escapeJsonChar hd
  decodeString_eq := isStringEscape_escapeJson.decodeString_eq s

/-! ### The page of a template -/

/-- What takes the place of a hole is written for the placeholder. -/
theorem Piece.flatMap_items (p : Piece) (placeholder : List Char → List Char) :
    p.items.flatMap (Item.fill placeholder) = p.write placeholder := by
  have hchars (t : List Char) : (t.map Item.char).flatMap (Item.fill placeholder) = t := by
    rw [List.flatMap_map]
    exact List.flatMap_singleton' t
  cases p with
  | text t => exact hchars t
  | braces name =>
    rw [items, write]
    split
    · exact hchars _
    · exact List.append_nil _
  | unterminated rest => exact hchars _

/-- With all of its text, a template would keep the structure. -/
theorem IsJsonTemplate.isJson_write (h : IsJsonTemplate content contentType ps doc)
    (value : List Char → List Char) :
    IsJson (ps.flatMap (Piece.write fun name => escapeJson (value name))) (doc.fill value) := by
  have hfill := h.document.fill isStringEscape_escapeJson value
  rwa [List.flatMap_assoc, List.flatMap_congr fun p _ => p.flatMap_items _] at hfill

theorem IsJsonTemplate.escapeMode_eq (h : IsJsonTemplate content contentType ps doc) :
    escapeModeFromContentType contentType = .json := by
  rw [escapeModeFromContentType]
  simp only [Bool.or_eq_true, containsText_eq_true_iff]
  rw [if_neg (not_or.mpr ⟨h.notHtml, h.notXhtml⟩), if_pos h.namesJson]

theorem plain_of_isBlank {name : List Char} (h : IsBlank name) :
    ∀ c ∈ name, c ≠ '"' ∧ c ≠ '\\' := by
  intro c hc
  have hwhite := isWhitespace_of_trim_eq_nil h c hc
  constructor
  · rintro rfl
    exact absurd hwhite (by decide)
  · rintro rfl
    exact absurd hwhite (by decide)

/-- Opening braces with a blank name are in a string: the page lacks the two closing ones there. -/
theorem exists_run_blank {name : List Char} (hblank : IsBlank name) {s s' t : Lexer ℕ}
    {v : Value ℕ} (hshape : s.SameShape s')
    (hrun : s.run id (['{', '{'] ++ name ++ ['}', '}']) = some t)
    (htokens : t.tokens <+: v.tokens) :
    ∃ t', s'.run id (['{', '{'] ++ name) = some t' ∧ t.SameShape t' ∧
      t.weight + s'.weight = t'.weight + s.weight + 2 := by
  obtain ⟨u, hu, hclose⟩ := Lexer.exists_of_run_append hrun
  obtain ⟨r, hr, hname⟩ := Lexer.exists_of_run_append hu
  rcases Lexer.run_open_open hr with ⟨contents, hmode⟩ | ⟨ts, hlast⟩
  · obtain ⟨mode, tokens⟩ := s
    obtain rfl : mode = .string contents := hmode
    obtain ⟨t', ht', hshape', hweight⟩ := Lexer.exists_run_of_sameShape hshape hu
    have hplain : ∀ c ∈ ['{', '{'] ++ name, c ≠ '"' ∧ c ≠ '\\' := by
      intro c hc
      rcases List.mem_append.mp hc with hbrace | hc
      · obtain rfl : c = '{' := by simpa using hbrace
        decide
      · exact plain_of_isBlank hblank c hc
    obtain rfl := Lexer.eq_of_run_string hplain hu
    obtain rfl := Lexer.eq_of_run_string (by simp) hclose
    refine ⟨t', ht', hshape', ?_⟩
    simp only [Lexer.weight, Mode.weight, push, List.length_append, List.length_map] at hweight ⊢
    have hlength : (utf16 ['}', '}']).length = 2 := rfl
    omega
  · -- outside of strings they would be two tokens in a row, which no document has
    have hprefix := ((Lexer.tokens_isPrefix_run hname).trans
      (Lexer.tokens_isPrefix_run hclose)).trans htokens
    obtain ⟨after, hafter⟩ := hprefix
    rw [hlast, List.append_assoc] at hafter
    exact absurd hafter.symm (v.tokens_ne_append_open_open ts after)

/-- The page lacks what the scanner drops of a pair of braces, and reads the rest as the text is
read. -/
theorem exists_run_braces {name : List Char} {placeholder : List Char → List Char}
    {s s' t : Lexer ℕ} {v : Value ℕ} (hshape : s.SameShape s')
    (hrun : s.run id ((Piece.braces name).write placeholder) = some t)
    (htokens : t.tokens <+: v.tokens) :
    ∃ t', s'.run id ((Piece.braces name).scanned placeholder) = some t' ∧ t.SameShape t' ∧
      t.weight + s'.weight = t'.weight + s.weight + (Piece.braces name).lost := by
  rw [Piece.scanned, Piece.lost]
  rw [Piece.write] at hrun
  split at hrun
  · next hblank =>
    rw [if_pos hblank, if_pos hblank]
    exact exists_run_blank hblank hshape hrun htokens
  · next hblank =>
    rw [if_neg hblank, if_neg hblank]
    exact Lexer.exists_run_of_sameShape hshape hrun

/-- A closing brace after a text is one token more. -/
theorem exists_run_close {s s' : Lexer ℕ} {ts : List (Token ℕ)} (hshape : s.SameShape s')
    (hfinish : s.finish = some ts) :
    ∃ t', s'.run id ['}'] = some t' ∧ t'.weight = s'.weight + 1 := by
  obtain ⟨mode, tokens⟩ := s
  obtain ⟨mode', tokens'⟩ := s'
  obtain ⟨hmode, -⟩ := Lexer.mk.inj hshape
  cases mode with
  | outside word =>
    cases mode' with
    | outside word' =>
      refine ⟨_, rfl, ?_⟩
      simp only [Lexer.weight, List.map_append, List.sum_append, sum_weight_wordToken]
      rfl
    | string _ | escape _ | hex _ _ _ => exact absurd hmode (by simp [Mode.map])
  | string _ | escape _ | hex _ _ _ => exact absurd hfinish (by simp [Lexer.finish])

/-- Reading the page in the place of the text goes through the same modes, and reads less by what
the scanner drops and more by what it adds. -/
theorem ReadsAs.exists_run_scanned (h : ReadsAs cs ps) {placeholder : List Char → List Char}
    {s s' t : Lexer ℕ} {v : Value ℕ} (hshape : s.SameShape s')
    (hrun : s.run id (ps.flatMap (Piece.write placeholder)) = some t)
    (hfinish : t.finish = some v.tokens) :
    ∃ t', s'.run id (ps.flatMap (Piece.scanned placeholder)) = some t' ∧
      t.weight + s'.weight + (ps.map Piece.invented).sum =
        t'.weight + s.weight + (ps.map Piece.lost).sum := by
  induction h generalizing s s' with
  | text hopen =>
    obtain ⟨t', ht', -, hweight⟩ := Lexer.exists_run_of_sameShape hshape hrun
    exact ⟨t', ht', hweight⟩
  | @unterminated cs before after hopen hclose =>
    obtain ⟨u', hu', hshape', hweight⟩ := Lexer.exists_run_of_sameShape hshape hrun
    obtain ⟨t', ht', hlast⟩ := exists_run_close hshape' hfinish
    refine ⟨t', ?_, ?_⟩
    · have hscanned : [Piece.text before, .unterminated after].flatMap (Piece.scanned placeholder) =
          [Piece.text before, .unterminated after].flatMap (Piece.write placeholder) ++ ['}'] := by
        simp [Piece.scanned, Piece.write]
      rw [hscanned, Lexer.run_append, hu', Option.bind_some, ht']
    · simp only [List.map_cons, List.map_nil, List.sum_cons, List.sum_nil, Piece.invented,
        Piece.lost]
      omega
  | @braces cs before after name rest ps hopen hclose _ ih =>
    rw [List.flatMap_cons, List.flatMap_cons] at hrun
    obtain ⟨u, hu, hafter⟩ := Lexer.exists_of_run_append hrun
    obtain ⟨w, hw, hrest⟩ := Lexer.exists_of_run_append hafter
    obtain ⟨u', hu', hshape', hbefore⟩ := Lexer.exists_run_of_sameShape hshape hu
    obtain ⟨w', hw', hshape'', hweight⟩ := exists_run_braces hshape' hw
      ((Lexer.tokens_isPrefix_run hrest).trans (Lexer.tokens_isPrefix_finish hfinish))
    obtain ⟨t', ht', hlast⟩ := ih hshape'' hrest
    refine ⟨t', ?_, ?_⟩
    · rw [List.flatMap_cons, List.flatMap_cons, Lexer.run_append]
      refine (congrArg (Option.bind · _) hu').trans ?_
      rw [Option.bind_some, Lexer.run_append, hw', Option.bind_some, ht']
    · simp only [List.map_cons, List.sum_cons, Piece.invented] at hlast ⊢
      have htext : (Piece.text before).lost = 0 := rfl
      omega

/-- Two texts of one document are of one weight, so that what the scanner drops would have to be
what it adds. -/
theorem IsJsonTemplate.wellFormed_of_isJson (h : IsJsonTemplate content contentType ps doc)
    {value : List Char → List Char}
    (hpage : IsJson (ps.flatMap (Piece.scanned fun name => escapeJson (value name)))
      (doc.fill value)) : ∀ p ∈ ps, p.WellFormed := by
  obtain ⟨t, hrun, hfinish⟩ := Option.bind_eq_some_iff.mp (h.isJson_write value)
  obtain ⟨t', hrun', hweight⟩ := h.readsAs.exists_run_scanned rfl hrun hfinish
  obtain ⟨u, hu, hfinish'⟩ := Option.bind_eq_some_iff.mp hpage
  obtain rfl := Option.some_injective _ (hrun'.symm.trans hu)
  have hsum := Lexer.sum_weight_of_finish hfinish
  have hsum' := Lexer.sum_weight_of_finish hfinish'
  exact h.readsAs.wellFormed_of_sum_eq (by omega)

/-- **JSON pages stay well-formed**: what is written for a value is the inside of a string literal
for it, and a page is the document of its template with the values in the place of the
placeholders, whatever the variables are. For the page this holds of the templates whose opening
braces are all closed and have a name between them, and of no other. -/
theorem keepsStructure_iff (h : IsJsonTemplate content contentType ps doc) :
    (∀ s, IsInsideOf (escapeJson s) s) ∧
      (KeepsStructure content contentType doc ↔ ∀ p ∈ ps, p.WellFormed) := by
  refine ⟨isInsideOf_escapeJson, fun hkeeps => ?_, ?_⟩
  · have hpage := (hkeeps {} (doc.fill (TemplateVariables.value {}))).mpr rfl
    rw [render_parseWithContentType h.readsAs, h.escapeMode_eq] at hpage
    exact h.wellFormed_of_isJson hpage
  · intro hwell vars v
    rw [render_parseWithContentType h.readsAs, h.escapeMode_eq,
      flatMap_scanned_of_wellFormed hwell]
    constructor
    · intro hv
      exact hv.unique (h.isJson_write vars.value)
    · rintro rfl
      exact h.isJson_write vars.value

theorem keepsStructure_iff_uri :
    (∀ s, IsInsideOf (escapeJson s) s) ∧
      (KeepsStructure "\x7b\"uri\": \"\x7b\x7brequest_uri\x7d\x7d\"\x7d".toList
          "application/json".toList
          (.object (.cons [.unit 0x75, .unit 0x72, .unit 0x69]
            (.string [.hole "request_uri".toList]) .nil)) ↔
        ∀ p ∈ [.text "\x7b\"uri\": \"".toList, .braces "request_uri".toList, .text "\"\x7d".toList],
          Piece.WellFormed p) :=
  keepsStructure_iff ⟨by decide +kernel, by decide +kernel, by decide +kernel,
    .braces rfl rfl (.text rfl), by decide +kernel⟩

/-- A brace stands after the document where an opening pair in a string is not closed, so that the
page is of no document, and two braces are missing in a string where they close nothing. -/
theorem not_keepsStructure_braces :
    IsJsonTemplate "\x7b\"a\":\"\x7b\x7b\"\x7d".toList "application/json".toList
        [.text "\x7b\"a\":\"".toList, .unterminated "\"\x7d".toList]
        (.object (.cons [.unit 0x61] (.string [.unit 0x7B, .unit 0x7B]) .nil)) ∧
      (∀ (vars : TemplateVariables) (v : Value ℕ),
        ¬ IsJson ((Template.parseWithContentType "\x7b\"a\":\"\x7b\x7b\"\x7d".toList
          "application/json".toList).render vars) v) ∧
      ¬ KeepsStructure "\x7b\"a\":\"\x7b\x7b\"\x7d".toList "application/json".toList
        (.object (.cons [.unit 0x61] (.string [.unit 0x7B, .unit 0x7B]) .nil)) ∧
      IsJsonTemplate "[\"\x7b\x7b\x7d\x7d\"]".toList "application/json".toList
        [.text "[\"".toList, .braces [], .text "\"]".toList]
        (.array (.cons (.string [.unit 0x7B, .unit 0x7B, .unit 0x7D, .unit 0x7D]) .nil)) ∧
      ¬ KeepsStructure "[\"\x7b\x7b\x7d\x7d\"]".toList "application/json".toList
        (.array (.cons (.string [.unit 0x7B, .unit 0x7B, .unit 0x7D, .unit 0x7D]) .nil)) := by
  have hnone (vars : TemplateVariables) (v : Value ℕ) :
      ¬ IsJson ((Template.parseWithContentType "\x7b\"a\":\"\x7b\x7b\"\x7d".toList
        "application/json".toList).render vars) v := by
    intro hv
    rw [render_parseWithContentType (.unterminated rfl rfl)] at hv
    have htokens : v.tokens ++ [] =
        (Value.object (.cons [0x61] (.string [0x7B, 0x7B]) .nil)).tokens ++ [.structural '}'] :=
      (List.append_nil _).trans (Option.some_injective _ (hv.symm.trans (by rfl)))
    exact absurd (Value.eq_of_tokens_append _ _ htokens).2 (by simp)
  refine ⟨⟨by decide +kernel, by decide +kernel, by decide +kernel, .unterminated rfl rfl,
      by decide +kernel⟩, hnone, fun h => hnone {} _ ((h {} _).mpr rfl),
    ⟨by decide +kernel, by decide +kernel, by decide +kernel, .braces rfl rfl (.text rfl),
      by decide +kernel⟩, fun h => ?_⟩
  exact absurd ((h {} _).mpr rfl) (by decide +kernel)

end Pages

end CrowdSecBouncer
