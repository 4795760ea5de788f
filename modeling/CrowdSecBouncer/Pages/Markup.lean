import CrowdSecBouncer.Foundations.CharRefs
import CrowdSecBouncer.Pages.Template

/-!
# The markup of HTML and XML pages

In an HTML or XML page the values of variables are written with character references. No value
contributes a character that could open or close a tag or an attribute, so two requests get pages
with the same markup, that of the template's own text; and each value is what a browser decodes
(`render_markup`). Content types that name nothing known are treated as HTML.
-/

namespace CrowdSecBouncer

namespace Pages

open Text

/-- An HTML or XML content type: one that names HTML or XHTML, or else, unless it names JSON, one
that names XML, or that is not plain text. -/
def IsMarkupType (contentType : List Char) : Prop :=
  NamesType contentType "text/html".toList ∨ NamesType contentType "application/xhtml".toList ∨
    ¬ NamesType contentType "application/json".toList ∧
      (NamesType contentType "application/xml".toList ∨ NamesType contentType "text/xml".toList ∨
        ¬ NamesType contentType "text/plain".toList)

/-- A character that can open or close a tag or an attribute. -/
def isMarkupChar (c : Char) : Bool := c == '<' || c == '>' || c == '"' || c == '\''

/-- The static text of a template. -/
def staticText (segments : List TemplateSegment) : List Char :=
  segments.flatMap fun segment =>
    match segment with
    | .text t => t
    | .variable _ => []

variable {contentType : List Char}

/-- The values of an HTML or XML page are escaped for HTML. -/
theorem escape_of_isMarkupType (h : IsMarkupType contentType) (value : List Char) :
    (escapeModeFromContentType contentType).escape value = escapeHtml value := by
  rw [escapeModeFromContentType]
  simp only [Bool.or_eq_true, containsText_eq_true_iff]
  split
  · rfl
  · next hhtml =>
    obtain ⟨hjson, hxml⟩ := (or_assoc.mpr h).resolve_left hhtml
    rw [if_neg hjson]
    split
    · rfl
    · next hnotXml =>
      rw [if_neg ((or_assoc.mpr hxml).resolve_left hnotXml)]
      rfl

theorem escapeHtmlChar_cases (c : Char) :
    (c, escapeHtmlChar c) ∈ commonRefs ∨
      c ≠ '&' ∧ escapeHtmlChar c = [c] ∧ isMarkupChar c = false := by
  rw [escapeHtmlChar]
  split_ifs with hamp hlt hgt hquot hapos
  · exact .inl (by simp [hamp, commonRefs])
  · exact .inl (by simp [hlt, commonRefs])
  · exact .inl (by simp [hgt, commonRefs])
  · exact .inl (by simp [hquot, commonRefs])
  · exact .inl (by simp [hapos, commonRefs])
  · exact .inr ⟨hamp, rfl, by simp [isMarkupChar, hlt, hgt, hquot, hapos]⟩

/-- No character of markup is left in a value. -/
theorem filter_escapeHtml (s : List Char) : (escapeHtml s).filter isMarkupChar = [] := by
  rw [escapeHtml, List.filter_flatMap, List.flatMap_eq_nil_iff]
  intro c _
  rcases escapeHtmlChar_cases c with href | ⟨-, hself, hchar⟩
  · have hrefs : ∀ ref ∈ commonRefs, ref.2.filter isMarkupChar = [] := by decide
    exact hrefs _ href
  · rw [hself, List.filter_cons_of_neg (by simp [hchar]), List.filter_nil]

/-- A value is what its references are decoded to. -/
theorem decode_escapeHtml (d : RefDecoder) (s : List Char) : d.decode (escapeHtml s) = s :=
  d.decode_writeRefs (fun c => (escapeHtmlChar_cases c).imp_right fun h => ⟨h.1, h.2.1⟩) s

/-- The markup of a rendered page is that of its static text. -/
theorem filter_render (h : IsMarkupType contentType) (content : List Char)
    (vars : TemplateVariables) :
    ((Template.parseWithContentType content contentType).render vars).filter isMarkupChar =
      (staticText (Template.parseWithContentType content contentType).segments).filter
        isMarkupChar := by
  rw [Template.render, staticText, List.filter_flatMap, List.filter_flatMap]
  refine List.flatMap_congr fun segment _ => ?_
  obtain t | name := segment
  · rfl
  · exact (congrArg _ (escape_of_isMarkupType h _)).trans (filter_escapeHtml _)

/-- **Values cannot change the markup of an HTML or XML page**: for any template and any two
assignments of variables, the characters `<`, `>`, `"` and `'` of the two pages are the same and
those of the static text, and every decoder of character references gives back the value of each
variable from the piece that is written for it. -/
theorem render_markup (h : IsMarkupType contentType) (content : List Char)
    (vars vars' : TemplateVariables) (d : RefDecoder) :
    ((Template.parseWithContentType content contentType).render vars).filter isMarkupChar =
        ((Template.parseWithContentType content contentType).render vars').filter isMarkupChar ∧
      ((Template.parseWithContentType content contentType).render vars).filter isMarkupChar =
        (staticText (Template.parseWithContentType content contentType).segments).filter
          isMarkupChar ∧
      ∀ name, .variable name ∈ (Template.parseWithContentType content contentType).segments →
        d.decode (renderSegment (escapeModeFromContentType contentType) vars (.variable name)) =
          vars.value name := by
  refine ⟨(filter_render h content vars).trans (filter_render h content vars').symm,
    filter_render h content vars, fun name _ => ?_⟩
  rw [renderSegment, escape_of_isMarkupType h, decode_escapeHtml]

theorem render_markup_xml :
    ((Template.parseWithContentType "<ip>\x7b\x7bhost\x7d\x7d</ip>".toList
          "application/xml; charset=utf-8".toList).render
            { host := some "<a href='x'>&amp;".toList }).filter isMarkupChar =
        ((Template.parseWithContentType "<ip>\x7b\x7bhost\x7d\x7d</ip>".toList
          "application/xml; charset=utf-8".toList).render {}).filter isMarkupChar ∧
      ((Template.parseWithContentType "<ip>\x7b\x7bhost\x7d\x7d</ip>".toList
          "application/xml; charset=utf-8".toList).render
            { host := some "<a href='x'>&amp;".toList }).filter isMarkupChar =
        (staticText (Template.parseWithContentType "<ip>\x7b\x7bhost\x7d\x7d</ip>".toList
          "application/xml; charset=utf-8".toList).segments).filter isMarkupChar ∧
      ∀ name, .variable name ∈ (Template.parseWithContentType "<ip>\x7b\x7bhost\x7d\x7d</ip>".toList
          "application/xml; charset=utf-8".toList).segments →
        predefinedRefs.decode (renderSegment
            (escapeModeFromContentType "application/xml; charset=utf-8".toList)
            { host := some "<a href='x'>&amp;".toList } (.variable name)) =
          TemplateVariables.value { host := some "<a href='x'>&amp;".toList } name :=
  render_markup (.inr (.inr ⟨by decide +kernel, .inl (by decide +kernel)⟩)) _ _ _ _

end Pages

end CrowdSecBouncer
