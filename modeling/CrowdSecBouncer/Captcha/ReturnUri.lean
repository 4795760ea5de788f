import CrowdSecBouncer.Foundations.Text
import Mathlib.Data.List.Infix

/-!
# The URI to return to after a captcha

The URI is the form's action and the `Location` after a solved captcha, so it must not lead to
another site. `sanitizeReturnUri` looks at the characters as they are; a browser first removes
tabs and line breaks, cuts control characters and spaces off the ends and reads a backslash as a
slash (`browserUrl`). The two agree on every text but one kind: a slash, some tabs and another
slash pass the checks, and a browser reads them as the two slashes that name a host
(`sanitizeReturnUri_sameOrigin_iff`).
-/

namespace CrowdSecBouncer

open Text

/-- What is accepted as a return URI, once it is trimmed. -/
structure PassesUriChecks (uri : List Char) : Prop where
  slash : ['/'] <+: uri
  noDoubleSlash : ¬ ['/', '/'] <+: uri
  noBreaks : ∀ c ∈ uri, c ≠ '\\' ∧ c ≠ '\r' ∧ c ≠ '\n'
  noScheme : ¬ [':', '/', '/'] <:+: uri

theorem passesUriChecks_iff {uri : List Char} :
    PassesUriChecks uri ↔ ['/'] <+: uri ∧ ¬ ['/', '/'] <+: uri ∧
      (uri.all fun c => decide (c ≠ '\\' ∧ c ≠ '\r' ∧ c ≠ '\n')) = true ∧
        ¬ [':', '/', '/'] <:+: uri := by
  rw [List.all_eq_true]
  simp only [decide_eq_true_eq]
  exact ⟨fun ⟨h₁, h₂, h₃, h₄⟩ => ⟨h₁, h₂, h₃, h₄⟩, fun ⟨h₁, h₂, h₃, h₄⟩ => ⟨h₁, h₂, h₃, h₄⟩⟩

instance (uri : List Char) : Decidable (PassesUriChecks uri) :=
  decidable_of_iff' _ passesUriChecks_iff

/-- Only same-origin relative paths. -/
def sanitizeReturnUri (raw : List Char) : List Char :=
  let uri := trim raw
  if PassesUriChecks uri then uri else ['/']

/-- C0 controls and the space. -/
def isC0OrSpace (c : Char) : Bool := c.toNat ≤ 0x20

/-- ASCII tab, CR and LF. -/
def isTabOrNewline (c : Char) : Bool := c == '\t' || c == '\r' || c == '\n'

/-- What a browser makes of a URL before it parses it. -/
def browserUrl (uri : List Char) : List Char :=
  let stripped := (uri.dropWhile isC0OrSpace).rdropWhile isC0OrSpace
  (stripped.filter fun c => !isTabOrNewline c).map fun c => if c = '\\' then '/' else c

/-- The URI fits into a header, and a browser reads it as a path on the same host. -/
structure IsSameOriginUri (uri : List Char) : Prop where
  ne_nil : uri ≠ []
  noCr : '\r' ∉ uri
  noLf : '\n' ∉ uri
  slash : ['/'] <+: browserUrl uri
  noHost : ¬ ['/', '/'] <+: browserUrl uri

/-- A text that passes the checks and has nothing but tabs between its first slash and another. -/
def HidesSlash (uri : List Char) : Prop :=
  PassesUriChecks uri ∧ ∃ tabs rest, (∀ c ∈ tabs, c = '\t') ∧ uri = '/' :: (tabs ++ '/' :: rest)

variable {raw uri : List Char}

theorem sanitizeReturnUri_of_passesUriChecks (h : PassesUriChecks (trim raw)) :
    sanitizeReturnUri raw = trim raw :=
  if_pos h

theorem sanitizeReturnUri_of_not_passesUriChecks (h : ¬ PassesUriChecks (trim raw)) :
    sanitizeReturnUri raw = ['/'] :=
  if_neg h

/-- What was sanitized once stays as it is. -/
theorem sanitizeReturnUri_idempotent (raw : List Char) :
    sanitizeReturnUri (sanitizeReturnUri raw) = sanitizeReturnUri raw := by
  by_cases h : PassesUriChecks (trim raw)
  · rw [sanitizeReturnUri_of_passesUriChecks h]
    have htrim := trim_trim raw
    rw [sanitizeReturnUri_of_passesUriChecks (htrim.symm ▸ h), htrim]
  · rw [sanitizeReturnUri_of_not_passesUriChecks h]
    decide

/-! ### What the browser sees -/

/-- What a browser makes of the part of a URL after its first slash. -/
def browserTail (rest : List Char) : List Char :=
  ((rest.rdropWhile isC0OrSpace).filter fun c => !isTabOrNewline c).map fun c =>
    if c = '\\' then '/' else c

theorem rdropWhile_slash_cons (rest : List Char) :
    ('/' :: rest).rdropWhile isC0OrSpace = '/' :: rest.rdropWhile isC0OrSpace := by
  rcases rdropWhile_cons_cases isC0OrSpace '/' rest with hrdrop | ⟨hslash, -⟩
  · exact hrdrop
  · exact absurd hslash (by decide)

/-- A browser removes nothing before a leading slash. -/
theorem browserUrl_slash_cons (rest : List Char) :
    browserUrl ('/' :: rest) = '/' :: browserTail rest := by
  have hdrop : ('/' :: rest).dropWhile isC0OrSpace = '/' :: rest := rfl
  rw [browserUrl, hdrop, rdropWhile_slash_cons]
  rfl

theorem browserTail_slash_cons (rest : List Char) :
    browserTail ('/' :: rest) = '/' :: browserTail rest := by
  rw [browserTail, rdropWhile_slash_cons]
  rfl

/-- Tabs are not seen. -/
theorem browserTail_tab_cons (rest : List Char) :
    browserTail ('\t' :: rest) = browserTail rest := by
  rcases rdropWhile_cons_cases isC0OrSpace '\t' rest with hrdrop | ⟨-, hrest, hrdrop⟩
  · rw [browserTail, hrdrop]
    rfl
  · rw [browserTail, browserTail, hrest, hrdrop]

/-- A browser sees a slash first exactly when nothing but tabs comes before it. -/
theorem slash_isPrefix_browserTail_iff {rest : List Char}
    (hbreaks : ∀ c ∈ rest, c ≠ '\\' ∧ c ≠ '\r' ∧ c ≠ '\n') :
    ['/'] <+: browserTail rest ↔
      ∃ tabs after, (∀ c ∈ tabs, c = '\t') ∧ rest = tabs ++ '/' :: after := by
  induction rest with
  | nil => simp [browserTail]
  | cons c rest ih =>
    obtain ⟨hc, hrest⟩ := List.forall_mem_cons.mp hbreaks
    by_cases hslash : c = '/'
    · subst hslash
      refine iff_of_true ?_ ⟨[], rest, by simp, rfl⟩
      rw [browserTail_slash_cons]
      exact ⟨browserTail rest, rfl⟩
    by_cases htab : c = '\t'
    · subst htab
      rw [browserTail_tab_cons, ih hrest]
      constructor
      · rintro ⟨tabs, after, htabs, rfl⟩
        exact ⟨'\t' :: tabs, after, List.forall_mem_cons.mpr ⟨rfl, htabs⟩, rfl⟩
      · rintro ⟨tabs, after, htabs, heq⟩
        cases tabs with
        | nil => exact absurd (List.cons.inj heq).1 (by decide)
        | cons t tabs =>
          exact ⟨tabs, after, (List.forall_mem_cons.mp htabs).2, (List.cons.inj heq).2⟩
    · -- any other character stays in front, or the whole rest is cut off
      refine iff_of_false (fun h => ?_) ?_
      · rcases rdropWhile_cons_cases isC0OrSpace c rest with hrdrop | ⟨-, -, hrdrop⟩
        · rw [browserTail, hrdrop, List.filter_cons_of_pos (by simp [isTabOrNewline, htab, hc]),
            List.map_cons, if_neg hc.1] at h
          exact hslash (List.cons_prefix_cons.mp h).1.symm
        · rw [browserTail, hrdrop] at h
          exact absurd h (by simp)
      · rintro ⟨tabs, after, htabs, heq⟩
        cases tabs with
        | nil => exact hslash (List.cons.inj heq).1
        | cons t tabs =>
          exact htab ((List.cons.inj heq).1.trans ((List.forall_mem_cons.mp htabs).1))

/-- The sanitized URI fits into a header and is a path, and no host is hidden in it unless a
slash is. -/
theorem isSameOriginUri_iff_of_passesUriChecks (h : PassesUriChecks uri) :
    IsSameOriginUri uri ↔ ¬ HidesSlash uri := by
  obtain ⟨rest, rfl⟩ := h.slash
  rw [List.singleton_append] at h ⊢
  have hbreaks := (List.forall_mem_cons.mp h.noBreaks).2
  have hhost : ['/', '/'] <+: browserUrl ('/' :: rest) ↔
      ∃ tabs after, (∀ c ∈ tabs, c = '\t') ∧ rest = tabs ++ '/' :: after := by
    rw [browserUrl_slash_cons, List.cons_prefix_cons, ← slash_isPrefix_browserTail_iff hbreaks]
    simp
  constructor
  · rintro hsame ⟨-, tabs, after, htabs, heq⟩
    exact hsame.noHost (hhost.mpr ⟨tabs, after, htabs, (List.cons.inj heq).2⟩)
  · intro hhides
    refine ⟨by simp, fun hcr => (h.noBreaks _ hcr).2.1 rfl, fun hlf => (h.noBreaks _ hlf).2.2 rfl,
      ?_, fun hslashes => hhides ⟨h, ?_⟩⟩
    · rw [browserUrl_slash_cons]
      exact ⟨browserTail rest, rfl⟩
    · obtain ⟨tabs, after, htabs, rfl⟩ := hhost.mp hslashes
      exact ⟨tabs, after, htabs, rfl⟩

/-- **The return URI is a path on the same host**, fits into a header and is not changed by
sanitizing it again: for every raw text except those that, trimmed, pass the checks and have
nothing but tabs between their first slash and another. -/
theorem sanitizeReturnUri_sameOrigin_iff (raw : List Char) :
    (IsSameOriginUri (sanitizeReturnUri raw) ∧
        sanitizeReturnUri (sanitizeReturnUri raw) = sanitizeReturnUri raw) ↔
      ¬ HidesSlash (trim raw) := by
  rw [and_iff_left (sanitizeReturnUri_idempotent raw)]
  by_cases h : PassesUriChecks (trim raw)
  · rw [sanitizeReturnUri_of_passesUriChecks h, isSameOriginUri_iff_of_passesUriChecks h]
  · rw [sanitizeReturnUri_of_not_passesUriChecks h]
    refine iff_of_true ⟨by decide, by decide, by decide, by decide, by decide⟩ fun hhides => ?_
    exact h hhides.1

/-- A tab between two slashes passes the checks, and the browser goes to another host. -/
theorem sanitizeReturnUri_tab :
    sanitizeReturnUri "/\t/evil.example/".toList = "/\t/evil.example/".toList ∧
      browserUrl "/\t/evil.example/".toList = "//evil.example/".toList ∧
      ¬ IsSameOriginUri (sanitizeReturnUri "/\t/evil.example/".toList) := by
  refine ⟨by decide +kernel, by decide, fun h => h.noHost ?_⟩
  decide +kernel

end CrowdSecBouncer
