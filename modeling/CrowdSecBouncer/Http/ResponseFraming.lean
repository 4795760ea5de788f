import CrowdSecBouncer.Http.ResponseContent
import CrowdSecBouncer.Settings.Directives

/-!
# Responses that keep their frame

Names and values of header fields come from templates, settings, the client's request, the token of
a session and from AppSec. None of them can put another field into the header, end it early or say
something about the length of the body: every field that any call appends stays in its line
(`IsPassable`), and the length of every response that is sent is that of its body (`WellFramed`).
`Http/Connection` has what a client makes of such responses.
-/

namespace CrowdSecBouncer

open Text HeaderBlock

/-- A field that stays in its line and says nothing about the connection. -/
structure IsPassable (field : Field) : Prop where
  isField : IsField field
  isHopByHop : isHopByHop field.1 = false

/-- Every field is passable, and every response that was sent has the length of its body. -/
structure ResponseState.WellFramed (s : ResponseState) : Prop where
  headers : ∀ field ∈ s.out.headers, IsPassable field
  sentHeaders : ∀ r ∈ s.sent, ∀ field ∈ r.1.headers, IsPassable field
  sentLength : ∀ r ∈ s.sent, r.1.contentLengthN = some (utf8Bytes r.2).length

/-- What the settings of a location put into header fields. -/
structure LocConfig.HeaderSafe (loc : LocConfig) : Prop where
  banRedirectUrl : ∀ url ∈ loc.banRedirectUrl, fitsLine url.toList = true
  banTemplate : ∀ template ∈ loc.banTemplate, fitsLine template.contentType.toList = true
  cookieName : isCookieName loc.captchaCookieNameOrDefault = true

variable {name value body : List Char} {field : Field} {s : ResponseState} {n : ℕ}

theorem fitsLine_iff : fitsLine value = true ↔ ∀ c ∈ value, c ≠ '\r' ∧ c ≠ '\n' := by
  simp [fitsLine]

theorem fitsLine_append {value value' : List Char} :
    fitsLine (value ++ value') = true ↔ fitsLine value = true ∧ fitsLine value' = true := by
  rw [fitsLine, List.all_append, Bool.and_eq_true]
  rfl

/-- A character of a header name is none that separates names, values and lines. -/
theorem isHeaderNameChar_spec {c : Char} (h : isHeaderNameChar c = true) :
    c ≠ ':' ∧ c ≠ '\r' ∧ c ≠ '\n' := by
  refine ⟨?_, ?_, ?_⟩
  all_goals
    rintro rfl
    exact absurd h (by decide)

theorem isField_of_isHeaderNameChar (hname : name.all isHeaderNameChar = true)
    (hvalue : fitsLine value = true) : IsField (name, value) where
  name := fun c hc => isHeaderNameChar_spec (List.all_eq_true.mp hname c hc)
  value := fitsLine_iff.mp hvalue

/-- A field under one of the fixed names. -/
theorem isPassable_of_fitsLine (hname : name.all isHeaderNameChar = true)
    (hhop : isHopByHop name = false) (hvalue : fitsLine value = true) : IsPassable (name, value) :=
  ⟨isField_of_isHeaderNameChar hname hvalue, hhop⟩

/-! ### One field, one response -/

theorem wellFramed_empty : ResponseState.WellFramed {} := ⟨nofun, nofun, nofun⟩

theorem ResponseState.WellFramed.disableKeepalive (h : s.WellFramed) :
    s.disableKeepalive.WellFramed :=
  { h with }

theorem ResponseState.WellFramed.setStatus (h : s.WellFramed) (status : ℕ) :
    (s.setStatus status).WellFramed :=
  { h with }

theorem ResponseState.WellFramed.setContentLengthN (h : s.WellFramed) (n : ℕ) :
    (s.setContentLengthN n).WellFramed :=
  { h with }

theorem ResponseState.WellFramed.addHeaderOut (h : s.WellFramed)
    (hfield : IsPassable (name, value)) : (s.addHeaderOut name value).WellFramed where
  headers := by
    intro field hfield'
    rcases List.mem_append.mp hfield' with hmem | hmem
    · exact h.headers field hmem
    · exact List.mem_singleton.mp hmem ▸ hfield
  sentHeaders := h.sentHeaders
  sentLength := h.sentLength

/-- The check of the callbacks lets only passable fields through, when the name is none of the
connection's. -/
theorem ResponseState.WellFramed.addHeader (h : s.WellFramed) (hhop : isHopByHop field.1 = false) :
    (s.addHeader field).WellFramed := by
  rw [ResponseState.addHeader]
  split
  · exact h
  · next hsafe =>
    simp only [Bool.or_eq_true, Bool.not_eq_true', not_or, Bool.not_eq_false,
      isSafeHeaderValue, Bool.and_eq_true] at hsafe
    exact h.addHeaderOut (isPassable_of_fitsLine hsafe.2 hhop hsafe.1.1.1.2)

theorem ResponseState.WellFramed.addHeaders {headers : List Field} (h : s.WellFramed)
    (hhop : ∀ field ∈ headers, isHopByHop field.1 = false) :
    (headers.foldl ResponseState.addHeader s).WellFramed := by
  induction headers generalizing s with
  | nil => exact h
  | cons field headers ih =>
    obtain ⟨hfield, hheaders⟩ := List.forall_mem_cons.mp hhop
    exact ih (h.addHeader hfield) hheaders

/-- The check drops fields, and changes nothing else. -/
theorem ResponseState.foldl_addHeader (headers : List Field) (s : ResponseState) :
    ∃ added, added ⊆ headers ∧ headers.foldl ResponseState.addHeader s =
      { s with out := { s.out with headers := s.out.headers ++ added } } := by
  induction headers generalizing s with
  | nil => exact ⟨[], List.Subset.refl _, by rw [List.append_nil]; rfl⟩
  | cons field headers ih =>
    obtain ⟨added, hsubset, heq⟩ := ih (s.addHeader field)
    rw [List.foldl_cons, heq, ResponseState.addHeader]
    split
    · exact ⟨added, List.subset_cons_of_subset _ hsubset, rfl⟩
    · refine ⟨field :: added, List.cons_subset_cons _ hsubset, ?_⟩
      rw [ResponseState.addHeaderOut, List.append_assoc, List.singleton_append]

theorem ResponseState.foldl_addHeaderOut (headers : List Field) (s : ResponseState) :
    headers.foldl (fun s field => s.addHeaderOut field.1 field.2) s =
      { s with out := { s.out with headers := s.out.headers ++ headers } } := by
  induction headers generalizing s with
  | nil => rw [List.foldl_nil, List.append_nil]
  | cons field headers ih =>
    rw [List.foldl_cons, ih, ResponseState.addHeaderOut, List.append_assoc, List.singleton_append]

/-- A body goes out under the length that was set for it. -/
theorem ResponseState.WellFramed.output (h : s.WellFramed)
    (hlength : s.out.contentLengthN = some (utf8Bytes body).length) :
    (s.output body).WellFramed where
  headers := h.headers
  sentHeaders := by
    intro r hr
    rcases List.mem_append.mp hr with hmem | hmem
    · exact h.sentHeaders r hmem
    · exact List.mem_singleton.mp hmem ▸ h.headers
  sentLength := by
    intro r hr
    rcases List.mem_append.mp hr with hmem | hmem
    · exact h.sentLength r hmem
    · exact List.mem_singleton.mp hmem ▸ hlength

/-- A body is passed on behind its header, or not at all. -/
theorem ResponseState.sendBody_cases (answer : SendAnswer) (headerFailure : HeaderFailureAction)
    (body : List Char) (s : ResponseState) :
    s.sendBody answer headerFailure body = (true, s.output body) ∨
      ∃ ok, s.sendBody answer headerFailure body = (ok, s) := by
  rw [ResponseState.sendBody]
  split
  · rw [ResponseState.sendChainAndFinalize.eq_def]
    split
    · exact .inl rfl
    · cases headerFailure with
      | finalize => exact .inr ⟨_, rfl⟩
      | headOrError => exact .inr ⟨_, rfl⟩
      | error => exact .inr ⟨_, rfl⟩
  · exact .inr ⟨_, rfl⟩

theorem ResponseState.WellFramed.sendBody {answer : SendAnswer}
    {headerFailure : HeaderFailureAction} (h : s.WellFramed)
    (hlength : s.out.contentLengthN = some (utf8Bytes body).length) :
    (s.sendBody answer headerFailure body).2.WellFramed := by
  obtain heq | ⟨ok, heq⟩ := s.sendBody_cases answer headerFailure body
  · rw [heq]
    exact h.output hlength
  · rw [heq]
    exact h

/-- Whether a response can be sent does not depend on what is in it. -/
theorem ResponseState.sendBody_fst (answer : SendAnswer) (headerFailure : HeaderFailureAction)
    (body : List Char) (s : ResponseState) :
    (s.sendBody answer headerFailure body).1 = answer.ok headerFailure := by
  rw [ResponseState.sendBody, SendAnswer.ok.eq_def]
  cases answer.buffer && answer.chainLink with
  | false => rfl
  | true =>
    rw [if_pos rfl, ResponseState.sendChainAndFinalize.eq_def]
    cases answer.header with
    | true => rfl
    | false => cases headerFailure <;> rfl

/-! ### The responses of phase handlers -/

theorem ResponseState.WellFramed.sendEmptyResponse (h : s.WellFramed) (answer : SendAnswer)
    (status : ℕ) : (s.sendEmptyResponse answer status).2.WellFramed :=
  (((h.disableKeepalive.setStatus status).setContentLengthN 1).addHeaderOut
    (isPassable_of_fitsLine (by decide) (by decide) (by decide))).sendBody rfl

theorem ResponseState.WellFramed.noStore (h : s.WellFramed) : s.noStore.WellFramed :=
  (h.addHeaderOut (isPassable_of_fitsLine (by decide) (by decide) (by decide))).addHeaderOut
    (isPassable_of_fitsLine (by decide) (by decide) (by decide))

theorem ResponseState.WellFramed.sendBanRedirect {location : List Char} (h : s.WellFramed)
    (hlocation : fitsLine location = true) (answer : SendAnswer) (status : ℕ) :
    (s.sendBanRedirect answer location status).2.WellFramed :=
  ((((h.disableKeepalive.setStatus status).setContentLengthN 1).addHeaderOut
    (isPassable_of_fitsLine (by decide) (by decide) hlocation)).addHeaderOut
    (isPassable_of_fitsLine (by decide) (by decide) (by decide))).noStore.sendBody rfl

theorem ResponseState.WellFramed.sendPage {contentType : List Char} (h : s.WellFramed)
    (htype : fitsLine contentType = true) (answer : SendAnswer) (body : List Char) (status : ℕ) :
    (s.sendPage answer body contentType status).2.WellFramed :=
  (((h.setStatus status).setContentLengthN _).addHeaderOut
    (isPassable_of_fitsLine (by decide) (by decide) htype)).noStore.sendBody rfl

theorem ResponseState.WellFramed.sendTextResponse {contentType : List Char} (h : s.WellFramed)
    (htype : fitsLine contentType = true) (answer : SendAnswer) (status : ℕ) (body : List Char) :
    (s.sendTextResponse answer status contentType body).2.WellFramed :=
  ((((h.disableKeepalive.setStatus status).setContentLengthN _).addHeaderOut
    (isPassable_of_fitsLine (by decide) (by decide) htype)).addHeaderOut
    (isPassable_of_fitsLine (by decide) (by decide) (by decide))).sendBody rfl

theorem ResponseState.WellFramed.sendRawResponse {headers : List Field} (h : s.WellFramed)
    (hheaders : ∀ field ∈ headers, IsField field) (answer : SendAnswer) (status : ℕ)
    (body : List Char) : (s.sendRawResponse answer status body headers).2.WellFramed := by
  have hpassed : ∀ field ∈ headers.filter fun field => !isHopByHop field.1, IsPassable field := by
    intro field hmem
    obtain ⟨hmem, hhop⟩ := List.mem_filter.mp hmem
    exact ⟨hheaders field hmem, by simpa using hhop⟩
  have hwell := List.foldlRecOn (headers.filter fun field => !isHopByHop field.1)
    (fun (t : ResponseState) field => t.addHeaderOut field.1 field.2)
    (motive := ResponseState.WellFramed)
    ((h.setStatus status).setContentLengthN (utf8Bytes body).length)
    fun t ht field hmem => ht.addHeaderOut (hpassed field hmem)
  refine hwell.sendBody ?_
  rw [ResponseState.foldl_addHeaderOut]
  rfl

/-- What AppSec asks for is checked, or dropped. -/
theorem isField_of_mem_challengeHeaders {page : ChallengePage} :
    ∀ field ∈ page.headers, IsField field := by
  intro field hmem
  rcases List.mem_append.mp hmem with hmem | hmem
  · obtain ⟨header, -, hmem⟩ := List.mem_flatMap.mp hmem
    obtain ⟨value, hvalue, rfl⟩ := List.mem_map.mp hmem
    obtain ⟨-, hsafe⟩ := List.mem_filter.mp hvalue
    simp only [safeHeader, Bool.and_eq_true] at hsafe
    exact isField_of_isHeaderNameChar hsafe.1.1.2 hsafe.1.2
  · obtain ⟨cookie, hcookie, rfl⟩ := List.mem_map.mp hmem
    exact isField_of_isHeaderNameChar (by decide) (List.mem_filter.mp hcookie).2

/-! ### Callbacks and cookies -/

theorem ResponseState.WellFramed.sendBufferedResponse {headers : List Field} (h : s.WellFramed)
    (hhop : ∀ field ∈ headers, isHopByHop field.1 = false) (answer : SendAnswer) (status : ℕ)
    (body : List Char) : (s.sendBufferedResponse answer status headers body).WellFramed := by
  have hheaders := ((h.disableKeepalive.setStatus status).setContentLengthN
    (utf8Bytes body).length).addHeaders hhop
  rw [ResponseState.sendBufferedResponse]
  split
  · refine hheaders.output ?_
    obtain ⟨added, -, heq⟩ := ResponseState.foldl_addHeader headers
      ((s.disableKeepalive.setStatus status).setContentLengthN (utf8Bytes body).length)
    rw [heq]
    rfl
  · exact hheaders

theorem fitsLine_of_isGraphic (h : ∀ c ∈ value, IsGraphic c) : fitsLine value = true := by
  rw [fitsLine_iff]
  intro c hc
  obtain ⟨hlow, -⟩ := h c hc
  constructor
  · rintro rfl
    exact absurd hlow (by decide)
  · rintro rfl
    exact absurd hlow (by decide)

theorem fitsLine_toDigits (n : ℕ) : fitsLine (Nat.toDigits 10 n) = true :=
  fitsLine_of_isGraphic fun c hc =>
    Reader.isGraphic_of_toDigit (isSome_toDigit_of_mem_toDigits (by decide) c hc)

theorem fitsLine_of_isCookieName (h : isCookieName name = true) : fitsLine name = true :=
  fitsLine_of_isGraphic fun c hc => (isGraphic_of_isCookieName h c hc).1

theorem fitsLine_cookieAttrSuffix (secure : Bool) :
    fitsLine (cookieAttrSuffix secure true .lax) = true := by
  cases secure <;> decide

theorem ResponseState.WellFramed.maybeClearStaleCaptchaCookie {loc : LocConfig} (h : s.WellFramed)
    (hname : isCookieName loc.captchaCookieNameOrDefault = true) (trusted : List TrustedCidr)
    (req : ResponseRequest) : (s.maybeClearStaleCaptchaCookie loc trusted req).WellFramed := by
  rw [ResponseState.maybeClearStaleCaptchaCookie]
  split
  · refine h.addHeaderOut (isPassable_of_fitsLine (by decide) (by decide) ?_)
    simp only [buildClearCookieWithAttrs, fitsLine_append, fitsLine_of_isCookieName hname,
      fitsLine_cookieAttrSuffix, and_true, true_and]
    decide
  · exact h

theorem ResponseState.WellFramed.sendCaptchaErrorPage (h : s.WellFramed) (answer : SendAnswer)
    (template : Template) (config : CaptchaConfig) (clientIp : IpAddr)
    (formAction errorMessage : List Char) : (s.sendCaptchaErrorPage answer template config clientIp
      formAction errorMessage).WellFramed :=
  h.sendBufferedResponse (by decide) answer _ _

theorem ResponseState.WellFramed.answerSolved (h : s.WellFramed) (lib : TokenLibraries)
    (trusted : List TrustedCidr) (req : ResponseRequest) (clientIp : IpAddr) (answer : SendAnswer)
    (config : CaptchaConfig) (template : Template) (now : ℤ) (random : Vector UInt8 16) :
    (s.answerSolved lib trusted req clientIp answer config template now random).WellFramed := by
  rw [ResponseState.answerSolved]
  split
  · refine h.sendBufferedResponse ?_ answer _ _
    simp only [List.forall_mem_cons, List.not_mem_nil, IsEmpty.forall_iff, implies_true]
    decide
  · exact h.sendCaptchaErrorPage ..

/-! ### Runs of calls -/

section Calls

variable {lib : TokenLibraries} {fromU16 : ℕ → Option ℕ} {loc : LocConfig}
  {trusted : List TrustedCidr} {req : ResponseRequest} {clientIp : IpAddr}

/-- Every call keeps the responses well framed. -/
theorem ResponseState.WellFramed.run (h : s.WellFramed) (hloc : loc.HeaderSafe)
    (answer : SendAnswer) (call : ResponseCall) :
    (call.run lib fromU16 loc trusted req clientIp answer s).WellFramed := by
  cases call with
  | empty status => exact h.sendEmptyResponse answer status
  | banRedirect =>
    rw [ResponseCall.run]
    split
    · next url hurl => exact h.sendBanRedirect (hloc.banRedirectUrl url hurl) answer _
    · exact h
  | banPage lookup scenarios =>
    rw [ResponseCall.run]
    split
    · next template htemplate => exact h.sendPage (hloc.banTemplate template htemplate) answer _ _
    · exact h
  | captchaPage errorMessage =>
    rw [ResponseCall.run]
    split
    · exact h.sendPage (by decide) answer _ _
    · exact h
  | captchaErrorPage errorMessage =>
    rw [ResponseCall.run]
    split
    · exact h.sendCaptchaErrorPage ..
    · exact h
  | captchaSolved now random =>
    rw [ResponseCall.run]
    split
    · exact h.answerSolved ..
    · exact h
  | challenge page =>
    exact h.sendRawResponse isField_of_mem_challengeHeaders answer _ _
  | metrics methodAllowed page =>
    cases methodAllowed with
    | true => exact h.sendTextResponse (by decide) answer _ _
    | false => exact h.sendTextResponse (by decide) answer _ _
  | clearStaleCookie => exact h.maybeClearStaleCaptchaCookie hloc.cookieName trusted req

theorem wellFramed_runAll (hloc : loc.HeaderSafe) (calls : List (ResponseCall × SendAnswer))
    (h : s.WellFramed) :
    (ResponseCall.runAll lib fromU16 loc trusted req clientIp calls s).WellFramed := by
  induction calls generalizing s with
  | nil => exact h
  | cons call calls ih => exact ih (h.run hloc call.2 call.1)

end Calls

/-- What a location has set, and the content types that files have, fits into header fields. -/
theorem headerSafe_of_configured {fromFile : List Char → Except (List Char) Template}
    {loc : LocConfig} (h : Configured fromFile loc)
    (htemplate : ∀ template ∈ loc.banTemplate, ∃ extension,
      template.contentType.toList = Pages.contentTypeFromExtension extension) : loc.HeaderSafe where
  banRedirectUrl := by
    intro url hurl
    obtain ⟨hvalid, htrimmed⟩ := (wellFormed_of_configured h).banRedirectUrl url hurl
    simp only [validateBanRedirectUrl, trim_eq_self_of_isTrimmed htrimmed,
      Bool.and_eq_true] at hvalid
    exact hvalid.1.2
  banTemplate := by
    intro template hmem
    obtain ⟨extension, hextension⟩ := htemplate template hmem
    rw [hextension, Pages.contentTypeFromExtension]
    split_ifs <;> decide
  cookieName := by
    rw [LocConfig.captchaCookieNameOrDefault]
    cases hname : loc.captchaCookieName with
    | none => decide
    | some name => exact (wellFormed_of_configured h).cookieName name hname

end CrowdSecBouncer
