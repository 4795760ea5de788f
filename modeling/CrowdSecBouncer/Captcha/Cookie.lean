import CrowdSecBouncer.Foundations.Text

/-!
# Cookies

The session token travels as a cookie: written as one `Set-Cookie` header, sent back as a pair
among others on one or several `Cookie` lines. The lines are searched in order for the first
cookie with the name. A pair that comes back is read as it was written, as long as no other
cookie has its name (`getCookie_of_sentBack`).
-/

namespace CrowdSecBouncer

open Text

inductive SameSite
  | strict
  | lax
  | none
  deriving DecidableEq, Repr

def SameSite.asStr : SameSite → List Char
  | strict => "Strict".toList
  | lax => "Lax".toList
  | none => "None".toList

def isCookieName (name : List Char) : Bool :=
  name ≠ [] && name.length ≤ 64 && name.all fun c => c.isAlphanum || c == '-' || c == '_'

def cookieAttrSuffix (secure httpOnly : Bool) (sameSite : SameSite) : List Char :=
  (if secure then "; Secure".toList else []) ++ (if httpOnly then "; HttpOnly".toList else []) ++
    "; SameSite=".toList ++ sameSite.asStr

/-- Build a `Set-Cookie` header value. -/
def buildSetCookie (name value : List Char) (maxAge : ℕ) (path : List Char)
    (secure httpOnly : Bool) (sameSite : SameSite) : List Char :=
  name ++ '=' :: value ++ "; Max-Age=".toList ++ Nat.toDigits 10 maxAge ++ "; Path=".toList ++
    path ++ cookieAttrSuffix secure httpOnly sameSite

/-- One `Cookie` line of the request; a value that is not UTF-8 is `none`. -/
structure CookieLine where
  hash : ℕ
  value : Option (List Char)
  deriving DecidableEq, Repr

/-- The value of a line that is in force and not empty. -/
def CookieLine.text? (line : CookieLine) : Option (List Char) :=
  if line.hash ≠ 0 then line.value.filter (· ≠ []) else none

/-- Parse a cookie value from a cookie string. -/
def parseCookieValue (cookieStr name : List Char) : Option (List Char) :=
  (cookieStr.splitOn ';').findSome? fun cookie => do
    let (key, value) ← splitOnce '=' (trim cookie)
    if trim key = name then some (trim value) else none

/-- Scan every `Cookie` line. -/
def getCookie (lines : List CookieLine) (name : List Char) : Option (List Char) :=
  lines.findSome? fun line => line.text?.bind fun cookieStr => parseCookieValue cookieStr name

/-! ### What comes back -/

/-- What a client keeps of a `Set-Cookie` header: name and value. -/
def cookiePair (setCookie : List Char) : List Char := setCookie.takeWhile (· ≠ ';')

/-- The name of a cookie in a `Cookie` line. -/
def cookieName? (cookie : List Char) : Option (List Char) :=
  (splitOnce '=' (trim cookie)).map fun kv => trim kv.1

/-- The pair is sent back, among other cookies with different names, in any order and on any
number of lines. -/
structure SentBack (lines : List CookieLine) (name pair : List Char) : Prop where
  sent : ∃ line ∈ lines, ∃ text ∈ line.text?, ∃ cookie ∈ text.splitOn ';', trim cookie = pair
  others : ∀ line ∈ lines, ∀ text ∈ line.text?, ∀ cookie ∈ text.splitOn ';',
    trim cookie = pair ∨ cookieName? cookie ≠ some name

variable {name value : List Char} {lines : List CookieLine}

/-- A cookie name has no separator and no white space. -/
theorem isGraphic_of_isCookieName (h : isCookieName name = true) :
    ∀ c ∈ name, IsGraphic c ∧ c ≠ ';' ∧ c ≠ '=' := by
  simp only [isCookieName, Bool.and_eq_true, List.all_eq_true] at h
  intro c hc
  have hchar := h.2 c hc
  change (((decide (c.val ≥ 65 ∧ c.val ≤ 90) ||
    (decide (c.val ≥ 97) && decide (c.val ≤ 122))) ||
    (decide (c.val ≥ 48) && decide (c.val ≤ 57))) || c == '-' || c == '_') = true at hchar
  simp only [ge_iff_le, UInt32.le_iff_toNat_le, Bool.or_eq_true, Bool.and_eq_true,
    decide_eq_true_eq, beq_iff_eq] at hchar
  change ((((65 ≤ c.toNat ∧ c.toNat ≤ 90) ∨ (97 ≤ c.toNat ∧ c.toNat ≤ 122)) ∨
    (48 ≤ c.toNat ∧ c.toNat ≤ 57)) ∨ c = '-') ∨ c = '_' at hchar
  refine ⟨?_, ?_, ?_⟩
  · rcases hchar with (((hchar | hchar) | hchar) | rfl) | rfl
    · exact ⟨by omega, by omega⟩
    · exact ⟨by omega, by omega⟩
    · exact ⟨by omega, by omega⟩
    · exact ⟨by decide, by decide⟩
    · exact ⟨by decide, by decide⟩
  · rintro rfl
    exact absurd hchar (by decide)
  · rintro rfl
    exact absurd hchar (by decide)

/-- The pair of a `Set-Cookie` header is what was put in front. -/
theorem cookiePair_buildSetCookie (hname : isCookieName name = true) (hvalue : ';' ∉ value)
    (maxAge : ℕ) (path : List Char) (secure httpOnly : Bool) (sameSite : SameSite) :
    cookiePair (buildSetCookie name value maxAge path secure httpOnly sameSite) =
      name ++ '=' :: value := by
  have hpair : ∀ c ∈ name ++ '=' :: value, (decide (c ≠ ';')) = true := by
    intro c hc
    rw [List.mem_append, List.mem_cons] at hc
    rcases hc with hc | rfl | hc
    · exact decide_eq_true (isGraphic_of_isCookieName hname c hc).2.1
    · decide
    · refine decide_eq_true ?_
      rintro rfl
      exact hvalue hc
  have hattrs : "; Max-Age=".toList = ';' :: " Max-Age=".toList := rfl
  rw [cookiePair, buildSetCookie, List.append_assoc, List.append_assoc, List.append_assoc,
    List.append_assoc, List.takeWhile_append_of_pos hpair, hattrs, List.cons_append,
    List.takeWhile_cons_of_neg (by decide), List.append_nil]

/-- The value of the pair is read. -/
theorem splitOnce_cookiePair (hname : isCookieName name = true) :
    splitOnce '=' (name ++ '=' :: value) = some (name, value) :=
  splitOnce_append fun hmem => (isGraphic_of_isCookieName hname '=' hmem).2.2 rfl

/-- Each cookie is skipped or gives the value. -/
private theorem parseCookie_eq (hname : isCookieName name = true)
    (hvalue : ∀ c ∈ value, isWhitespace c = false) {cookie : List Char}
    (h : trim cookie = name ++ '=' :: value ∨ cookieName? cookie ≠ some name) :
    (do
      let (key, value) ← splitOnce '=' (trim cookie)
      if trim key = name then some (trim value) else none) =
      if trim cookie = name ++ '=' :: value then some value else none := by
  have htrim : trim name = name :=
    trim_eq_self fun c hc => (isGraphic_of_isCookieName hname c hc).1
  by_cases hpair : trim cookie = name ++ '=' :: value
  · rw [if_pos hpair, hpair, splitOnce_cookiePair hname]
    change (if trim name = name then some (trim value) else none) = _
    rw [if_pos htrim, trim_eq_self_of_not_isWhitespace hvalue]
  · have hother := h.resolve_left hpair
    rw [if_neg hpair]
    rw [cookieName?] at hother
    cases hsplit : splitOnce '=' (trim cookie) with
    | none => rfl
    | some kv =>
      rw [hsplit, Option.map_some, ne_eq, Option.some.injEq] at hother
      exact if_neg hother

/-- A client with no other cookie sends the pair back. -/
theorem sentBack_singleton (hname : isCookieName name = true)
    (hvalue : ∀ c ∈ value, c ≠ ';' ∧ isWhitespace c = false) :
    SentBack [⟨1, some (name ++ '=' :: value)⟩] name (name ++ '=' :: value) := by
  have hchars : ∀ c ∈ name ++ '=' :: value, c ≠ ';' ∧ isWhitespace c = false := by
    intro c hc
    rw [List.mem_append, List.mem_cons] at hc
    rcases hc with hc | rfl | hc
    · have hgraphic := isGraphic_of_isCookieName hname c hc
      exact ⟨hgraphic.2.1, hgraphic.1.isWhitespace⟩
    · decide
    · exact hvalue c hc
  have htext : (CookieLine.mk 1 (some (name ++ '=' :: value))).text? =
      some (name ++ '=' :: value) := by
    simp [CookieLine.text?]
  have hsplit : (name ++ '=' :: value).splitOn ';' = [name ++ '=' :: value] :=
    List.splitOn_eq_singleton fun hmem => (hchars ';' hmem).1 rfl
  have htrim : trim (name ++ '=' :: value) = name ++ '=' :: value :=
    trim_eq_self_of_not_isWhitespace fun c hc => (hchars c hc).2
  constructor
  · refine ⟨_, List.mem_singleton_self _, _, htext, _, ?_, htrim⟩
    rw [hsplit]
    exact List.mem_singleton_self _
  · intro line hline text hmem cookie hcookie
    obtain rfl := List.mem_singleton.mp hline
    obtain rfl := Option.some_injective _ (htext.symm.trans hmem)
    rw [hsplit, List.mem_singleton] at hcookie
    exact .inl (hcookie ▸ htrim)

/-- **A pair that is sent back is read.** -/
theorem getCookie_of_sentBack (hname : isCookieName name = true)
    (hvalue : ∀ c ∈ value, isWhitespace c = false)
    (h : SentBack lines name (name ++ '=' :: value)) : getCookie lines name = some value := by
  -- every cookie under the name has the value, so the first one has it too
  have hcookie {line : CookieLine} (hline : line ∈ lines) {text : List Char}
      (htext : text ∈ line.text?) {cookie : List Char} (hmem : cookie ∈ text.splitOn ';') :=
    parseCookie_eq hname hvalue (h.others line hline text htext cookie hmem)
  have hparse {line : CookieLine} (hline : line ∈ lines) {text : List Char}
      (htext : text ∈ line.text?) : parseCookieValue text name =
        if ∃ cookie ∈ text.splitOn ';', trim cookie = name ++ '=' :: value then some value
        else none := by
    split
    · next hex =>
      obtain ⟨cookie, hmem, hpair⟩ := hex
      refine findSome?_eq_some_of_forall (fun cookie' hmem' => ?_) ⟨cookie, hmem, ?_⟩
      · rw [hcookie hline htext hmem']
        split
        · exact .inr rfl
        · exact .inl rfl
      · rw [hcookie hline htext hmem, if_pos hpair]
    · next hnone =>
      refine List.findSome?_eq_none_iff.mpr fun cookie hmem => ?_
      rw [hcookie hline htext hmem, if_neg fun hpair => hnone ⟨cookie, hmem, hpair⟩]
  obtain ⟨line, hline, text, htext, hex⟩ := h.sent
  refine findSome?_eq_some_of_forall (fun line' hline' => ?_) ⟨line, hline, ?_⟩
  · cases htext' : line'.text? with
    | none => exact .inl rfl
    | some text' =>
      rw [Option.bind_some, hparse hline' htext']
      split
      · exact .inr rfl
      · exact .inl rfl
  · rw [Option.mem_def.mp htext, Option.bind_some, hparse hline htext, if_pos hex]

end CrowdSecBouncer
