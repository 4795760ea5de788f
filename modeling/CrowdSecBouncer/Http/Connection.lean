import CrowdSecBouncer.Http.ResponseFraming

/-!
# Responses on a connection

What nginx writes for the responses of the module is read by a client, answer by answer. Every call
appends fields under names of its own and sends at most one response (`ResponseCall.run_sends`), and
what is sent keeps its frame. So a client finds every answer where it starts, and reads it as it was
sent, whatever was called for the requests in between and whatever failed
(`readMessages_connectionMessages`).

That takes answers with a body. The body of a response is handed over to nginx in any case, for a
HEAD request too and under a status without a body, which AppSec may ask for; what nginx does with
it there is left open.
-/

namespace CrowdSecBouncer

open Text HeaderBlock

variable {name value body : List Char} {field : Field} {s : ResponseState}

/-! ### What a call can do -/

/-- The names of the fields that a call may append. -/
def ResponseCall.fieldNames : ResponseCall → List (List Char)
  | .empty _ => ["Content-Type".toList]
  | .banRedirect => ["Location".toList, "Content-Type".toList, "Cache-Control".toList,
      "Pragma".toList]
  | .banPage _ _ | .captchaPage _ | .captchaErrorPage _ =>
    ["Content-Type".toList, "Cache-Control".toList, "Pragma".toList]
  | .captchaSolved _ _ => ["Location".toList, "Set-Cookie".toList, "Content-Type".toList,
      "Cache-Control".toList, "Pragma".toList]
  | .challenge page => page.headers.map (·.1)
  | .metrics _ _ => ["Content-Type".toList, "Cache-Control".toList]
  | .clearStaleCookie => ["Set-Cookie".toList]

/-- The statuses that a call may send. -/
def ResponseCall.statuses (fromU16 : ℕ → Option ℕ) (loc : LocConfig) : ResponseCall → List ℕ
  | .empty status => [status]
  | .banRedirect => [(fromU16 (loc.banRedirectCode.getD 302)).getD 302]
  | .banPage _ _ => [(fromU16 loc.banStatusCode).getD 403]
  | .captchaPage _ | .captchaErrorPage _ => [200]
  | .captchaSolved _ _ => [303, 200]
  | .challenge page =>
    [(fromU16 (if page.httpStatus = 0 then 200 else page.httpStatus)).getD 403]
  | .metrics _ _ => [200, 405]
  | .clearStaleCookie => []

/-- Fields with these names are appended, and nothing is sent. -/
structure ResponseState.Appends (names : List (List Char)) (s t : ResponseState) : Prop where
  headers : ∃ added : List Field, t.out.headers = s.out.headers ++ added ∧
    ∀ field ∈ added, field.1 ∈ names
  sent : t.sent = s.sent

/-- Fields with these names are appended, and at most one response is sent, under such a status. -/
structure ResponseState.Sends (names : List (List Char)) (statuses : List ℕ)
    (s t : ResponseState) : Prop where
  headers : ∃ added : List Field, t.out.headers = s.out.headers ++ added ∧
    ∀ field ∈ added, field.1 ∈ names
  sent : t.sent = s.sent ∨
    ∃ r, t.sent = s.sent ++ [r] ∧ r.1.status ∈ statuses

section Inversion

variable {names : List (List Char)} {statuses : List ℕ} {t : ResponseState} {status : ℕ}
  {headers : List Field}

theorem ResponseState.Appends.refl (s : ResponseState) : ResponseState.Appends names s s :=
  ⟨⟨[], (List.append_nil _).symm, nofun⟩, rfl⟩

theorem ResponseState.Appends.disableKeepalive (h : ResponseState.Appends names s t) :
    ResponseState.Appends names s t.disableKeepalive :=
  { h with }

theorem ResponseState.Appends.setStatus (h : ResponseState.Appends names s t) (status : ℕ) :
    ResponseState.Appends names s (t.setStatus status) :=
  { h with }

theorem ResponseState.Appends.setContentLengthN (h : ResponseState.Appends names s t) (n : ℕ) :
    ResponseState.Appends names s (t.setContentLengthN n) :=
  { h with }

theorem ResponseState.Appends.addHeaderOut (h : ResponseState.Appends names s t)
    (hname : name ∈ names) : ResponseState.Appends names s (t.addHeaderOut name value) := by
  obtain ⟨added, heq, hnames⟩ := h.headers
  refine ⟨⟨added ++ [(name, value)], ?_, ?_⟩, h.sent⟩
  · rw [ResponseState.addHeaderOut, heq, List.append_assoc]
  · exact List.forall_mem_append.mpr ⟨hnames, List.forall_mem_singleton.mpr hname⟩

theorem ResponseState.Appends.noStore (h : ResponseState.Appends names s t)
    (hcache : "Cache-Control".toList ∈ names) (hpragma : "Pragma".toList ∈ names) :
    ResponseState.Appends names s t.noStore :=
  (h.addHeaderOut hcache).addHeaderOut hpragma

theorem ResponseState.Appends.addHeaders (h : ResponseState.Appends names s t)
    (hnames : ∀ field ∈ headers, field.1 ∈ names) :
    ResponseState.Appends names s (headers.foldl ResponseState.addHeader t) := by
  obtain ⟨added, heq, hadded⟩ := h.headers
  obtain ⟨passed, hsubset, hfold⟩ := ResponseState.foldl_addHeader headers t
  rw [hfold]
  refine ⟨⟨added ++ passed, ?_, ?_⟩, h.sent⟩
  · rw [heq, List.append_assoc]
  · exact List.forall_mem_append.mpr ⟨hadded, fun field hmem => hnames field (hsubset hmem)⟩

/-- What was appended to goes out, or stays where it is. -/
theorem ResponseState.Appends.sendBody (h : ResponseState.Appends names s t)
    (hstatus : t.out.status ∈ statuses) (answer : SendAnswer)
    (headerFailure : HeaderFailureAction) (body : List Char) :
    ResponseState.Sends names statuses s (t.sendBody answer headerFailure body).2 := by
  obtain heq | ⟨ok, heq⟩ := t.sendBody_cases answer headerFailure body
  · rw [heq]
    exact ⟨h.headers, .inr ⟨(t.out, body), congrArg (· ++ [_]) h.sent, hstatus⟩⟩
  · rw [heq]
    exact ⟨h.headers, .inl h.sent⟩

theorem ResponseState.sends_sendPage (hnames : ∀ name ∈ ["Content-Type".toList,
      "Cache-Control".toList, "Pragma".toList], name ∈ names) (hstatus : status ∈ statuses)
    (answer : SendAnswer) (body contentType : List Char) (s : ResponseState) :
    ResponseState.Sends names statuses s (s.sendPage answer body contentType status).2 := by
  obtain ⟨htype, hcache, hpragma⟩ : "Content-Type".toList ∈ names ∧
      "Cache-Control".toList ∈ names ∧ "Pragma".toList ∈ names := by
    simpa only [List.forall_mem_cons, List.not_mem_nil, IsEmpty.forall_iff, implies_true,
      and_true] using hnames
  exact (((((ResponseState.Appends.refl s).setStatus status).setContentLengthN _).addHeaderOut
    htype).noStore hcache hpragma).sendBody hstatus answer _ _

theorem ResponseState.sends_sendBufferedResponse (hnames : ∀ field ∈ headers, field.1 ∈ names)
    (hstatus : status ∈ statuses) (answer : SendAnswer) (body : List Char) (s : ResponseState) :
    ResponseState.Sends names statuses s (s.sendBufferedResponse answer status headers body) := by
  have happends : ResponseState.Appends names s (headers.foldl ResponseState.addHeader
      ((s.disableKeepalive.setStatus status).setContentLengthN (utf8Bytes body).length)) :=
    ((((ResponseState.Appends.refl s).disableKeepalive).setStatus status).setContentLengthN
      _).addHeaders hnames
  rw [ResponseState.sendBufferedResponse]
  split
  · refine ⟨happends.headers, .inr ⟨_, congrArg (· ++ [_]) happends.sent, ?_⟩⟩
    obtain ⟨added, -, heq⟩ := ResponseState.foldl_addHeader headers
      ((s.disableKeepalive.setStatus status).setContentLengthN (utf8Bytes body).length)
    rw [heq]
    exact hstatus
  · exact ⟨happends.headers, .inl happends.sent⟩

theorem ResponseState.sends_sendRawResponse (hnames : ∀ field ∈ headers, field.1 ∈ names)
    (hstatus : status ∈ statuses) (answer : SendAnswer) (body : List Char) (s : ResponseState) :
    ResponseState.Sends names statuses s (s.sendRawResponse answer status body headers).2 := by
  have happends := List.foldlRecOn (headers.filter fun field => !isHopByHop field.1)
    (fun (t : ResponseState) field => t.addHeaderOut field.1 field.2)
    (motive := ResponseState.Appends names s)
    (((ResponseState.Appends.refl s).setStatus status).setContentLengthN (utf8Bytes body).length)
    fun t ht field hmem => ht.addHeaderOut (hnames field (List.mem_filter.mp hmem).1)
  refine happends.sendBody ?_ answer _ _
  rw [ResponseState.foldl_addHeaderOut]
  exact hstatus

variable {lib : TokenLibraries} {fromU16 : ℕ → Option ℕ} {loc : LocConfig}
  {trusted : List TrustedCidr} {req : ResponseRequest} {clientIp : IpAddr}

theorem ResponseState.sends_sendCaptchaErrorPage (hnames : ∀ name ∈ ["Content-Type".toList,
      "Cache-Control".toList, "Pragma".toList], name ∈ names) (hstatus : 200 ∈ statuses)
    (answer : SendAnswer) (template : Template) (config : CaptchaConfig)
    (formAction errorMessage : List Char) (s : ResponseState) :
    ResponseState.Sends names statuses s
      (s.sendCaptchaErrorPage answer template config clientIp formAction errorMessage) :=
  ResponseState.sends_sendBufferedResponse
    (by simpa only [List.forall_mem_cons, List.not_mem_nil, IsEmpty.forall_iff, implies_true,
      and_true] using hnames) hstatus ..

/-- **One call** appends its fields, and sends at most one response. -/
theorem ResponseCall.run_sends (call : ResponseCall) (answer : SendAnswer) (s : ResponseState) :
    ResponseState.Sends call.fieldNames (call.statuses fromU16 loc) s
      (call.run lib fromU16 loc trusted req clientIp answer s) := by
  have hstays {names : List (List Char)} {statuses : List ℕ} :
      ResponseState.Sends names statuses s s :=
    ⟨⟨[], (List.append_nil _).symm, nofun⟩, .inl rfl⟩
  cases call with
  | empty status =>
    exact ((((ResponseState.Appends.refl s).disableKeepalive.setStatus status).setContentLengthN
      1).addHeaderOut (List.mem_singleton_self _)).sendBody (List.mem_singleton_self _) answer _ _
  | banRedirect =>
    rw [ResponseCall.run]
    split
    · exact ((((((ResponseState.Appends.refl s).disableKeepalive.setStatus _).setContentLengthN
        1).addHeaderOut (by simp [ResponseCall.fieldNames])).addHeaderOut
        (by simp [ResponseCall.fieldNames])).noStore (by simp [ResponseCall.fieldNames])
        (by simp [ResponseCall.fieldNames])).sendBody (List.mem_singleton_self _) answer _ _
    · exact hstays
  | banPage lookup scenarios =>
    rw [ResponseCall.run]
    split
    · exact ResponseState.sends_sendPage (fun _ => id) (List.mem_singleton_self _) ..
    · exact hstays
  | captchaPage errorMessage =>
    rw [ResponseCall.run]
    split
    · exact ResponseState.sends_sendPage (fun _ => id) (List.mem_singleton_self _) ..
    · exact hstays
  | captchaErrorPage errorMessage =>
    rw [ResponseCall.run]
    split
    · exact ResponseState.sends_sendCaptchaErrorPage (fun _ => id) (List.mem_singleton_self _) ..
    · exact hstays
  | captchaSolved now random =>
    rw [ResponseCall.run]
    split
    · rw [ResponseState.answerSolved]
      split
      · exact ResponseState.sends_sendBufferedResponse (by simp [ResponseCall.fieldNames])
          (by simp [ResponseCall.statuses]) ..
      · exact ResponseState.sends_sendCaptchaErrorPage (by simp [ResponseCall.fieldNames])
          (by simp [ResponseCall.statuses]) ..
    · exact hstays
  | challenge page =>
    exact ResponseState.sends_sendRawResponse (fun field hmem => List.mem_map_of_mem hmem)
      (List.mem_singleton_self _) ..
  | metrics methodAllowed page =>
    cases methodAllowed with
    | true =>
      exact (((((ResponseState.Appends.refl s).disableKeepalive.setStatus 200).setContentLengthN
        _).addHeaderOut (by simp [ResponseCall.fieldNames])).addHeaderOut
        (by simp [ResponseCall.fieldNames])).sendBody List.mem_cons_self answer _ _
    | false =>
      exact (((((ResponseState.Appends.refl s).disableKeepalive.setStatus 405).setContentLengthN
        _).addHeaderOut (by simp [ResponseCall.fieldNames])).addHeaderOut
        (by simp [ResponseCall.fieldNames])).sendBody
        (List.mem_cons_of_mem _ List.mem_cons_self) answer _ _
  | clearStaleCookie =>
    rw [ResponseCall.run, ResponseState.maybeClearStaleCaptchaCookie]
    split
    · exact ⟨⟨_, rfl, List.forall_mem_singleton.mpr (List.mem_singleton_self _)⟩, .inl rfl⟩
    · exact hstays

/-- What was sent, was sent by a call. -/
theorem ResponseCall.status_runAll {r : HeadersOut × List Char}
    (calls : List (ResponseCall × SendAnswer)) (s : ResponseState)
    (hr : r ∈ (ResponseCall.runAll lib fromU16 loc trusted req clientIp calls s).sent) :
    r ∈ s.sent ∨ ∃ call ∈ calls, r.1.status ∈ call.1.statuses fromU16 loc := by
  induction calls generalizing s with
  | nil => exact .inl hr
  | cons call calls ih =>
    rcases ih (call.1.run lib fromU16 loc trusted req clientIp call.2 s) hr with hmem | hsent
    · rcases (call.1.run_sends call.2 s).sent with heq | ⟨r', heq, hstatus⟩
      · exact .inl (heq ▸ hmem)
      · rcases List.mem_append.mp (heq ▸ hmem) with hmem | hmem
        · exact .inl hmem
        · exact .inr ⟨call, List.mem_cons_self, List.mem_singleton.mp hmem ▸ hstatus⟩
    · exact .inr (hsent.imp fun _ h => ⟨List.mem_cons_of_mem _ h.1, h.2⟩)

/-- What is in the header, was appended by a call. -/
theorem ResponseCall.name_runAll (calls : List (ResponseCall × SendAnswer)) (s : ResponseState)
    (hfield : field ∈
      (ResponseCall.runAll lib fromU16 loc trusted req clientIp calls s).out.headers) :
    field ∈ s.out.headers ∨ ∃ call ∈ calls, field.1 ∈ call.1.fieldNames := by
  induction calls generalizing s with
  | nil => exact .inl hfield
  | cons call calls ih =>
    rcases ih (call.1.run lib fromU16 loc trusted req clientIp call.2 s) hfield with hmem | hnames
    · obtain ⟨added, heq, hnames⟩ := (call.1.run_sends call.2 s).headers
      rcases List.mem_append.mp (heq ▸ hmem) with hmem | hmem
      · exact .inl hmem
      · exact .inr ⟨call, List.mem_cons_self, hnames field hmem⟩
    · exact .inr (hnames.imp fun _ h => ⟨List.mem_cons_of_mem _ h.1, h.2⟩)

end Inversion

/-! ### Statuses with a body -/

/-- The statuses of HTTP under which an answer has a body. -/
def goesWithBody (status : ℕ) : Bool := status < 600 && hasBody false status

/-- `from_u16` knows the codes of HTTP. -/
def KnowsCodes (fromU16 : ℕ → Option ℕ) : Prop :=
  ∀ code, 100 ≤ code → code < 600 → fromU16 code = some code

/-- Where a call does not take its status from the settings, the status goes with a body: AppSec may
ask for any. -/
def ResponseCall.AsksForBody (fromU16 : ℕ → Option ℕ) : ResponseCall → Prop
  | .empty status => goesWithBody status = true
  | .challenge page => goesWithBody
      ((fromU16 (if page.httpStatus = 0 then 200 else page.httpStatus)).getD 403) = true
  | _ => True

section Statuses

variable {fromU16 : ℕ → Option ℕ} {loc : LocConfig}

theorem banStatusCode_range (loc : LocConfig) :
    400 ≤ loc.banStatusCode ∧ loc.banStatusCode < 600 := by
  rw [LocConfig.banStatusCode]
  cases h : loc.banStatus.filter fun code => 400 ≤ code ∧ code < 600 with
  | none => decide
  | some code => exact of_decide_eq_true (Option.filter_eq_some_iff.mp h).2

/-- The code of a redirect is one that redirects. -/
theorem banRedirectCode_mem (hfrom : KnowsCodes fromU16) (hloc : loc.WellFormed) :
    (fromU16 (loc.banRedirectCode.getD 302)).getD 302 ∈ [301, 302, 303, 307, 308] := by
  have hmem : loc.banRedirectCode.getD 302 ∈ [301, 302, 303, 307, 308] := by
    cases hcode : loc.banRedirectCode with
    | none => decide
    | some code => exact hloc.banRedirectCode code hcode
  have hrange : ∀ code ∈ [301, 302, 303, 307, 308], 100 ≤ code ∧ code < 600 := by decide
  obtain ⟨hlow, hhigh⟩ := hrange _ hmem
  rwa [hfrom _ hlow hhigh]

/-- The settings of a location choose statuses that go with a body. -/
theorem goesWithBody_of_mem_statuses (hfrom : KnowsCodes fromU16) (hloc : loc.WellFormed)
    {call : ResponseCall} (hcall : call.AsksForBody fromU16) :
    ∀ status ∈ call.statuses fromU16 loc, goesWithBody status = true := by
  cases call with
  | empty status => exact List.forall_mem_singleton.mpr hcall
  | banRedirect =>
    have hcodes : ∀ code ∈ [301, 302, 303, 307, 308], goesWithBody code = true := by decide
    exact List.forall_mem_singleton.mpr (hcodes _ (banRedirectCode_mem hfrom hloc))
  | banPage lookup scenarios =>
    obtain ⟨hlow, hhigh⟩ := banStatusCode_range loc
    refine List.forall_mem_singleton.mpr ?_
    rw [hfrom _ (by omega) hhigh, Option.getD_some]
    simp only [goesWithBody, hasBody, Bool.not_false, Bool.true_and, Bool.and_eq_true,
      decide_eq_true_eq]
    omega
  | captchaPage errorMessage => exact List.forall_mem_singleton.mpr (by decide)
  | captchaErrorPage errorMessage => exact List.forall_mem_singleton.mpr (by decide)
  | captchaSolved now random =>
    exact List.forall_mem_cons.mpr ⟨by decide, List.forall_mem_singleton.mpr (by decide)⟩
  | challenge page => exact List.forall_mem_singleton.mpr hcall
  | metrics methodAllowed page =>
    exact List.forall_mem_cons.mpr ⟨by decide, List.forall_mem_singleton.mpr (by decide)⟩
  | clearStaleCookie => exact nofun

end Statuses

/-! ### On the connection -/

/-- What nginx itself puts into the header of a response: the line with the status, and fields
before and behind the content length. -/
structure OwnPart where
  start : List Char
  before : List Field
  behind : List Field

def OwnPart.fields (own : OwnPart) : List Field := own.before ++ own.behind

/-- A response with the part of nginx in its header. -/
def HeadersOut.message (own : OwnPart) (response : HeadersOut × List Char) : Message where
  start := own.start
  fields := own.before ++ (response.1.contentLengthN.map fun n =>
    ("Content-Length".toList, Nat.toDigits 10 n)).toList ++ own.behind ++ response.1.headers
  body := response.2

/-- What is documented of nginx, which is no part of the module: how it writes a response with a
body for another request than HEAD, as long as the connection stays up. Its own fields stay in their
lines, leave the length of the body to the content length that was set and lead nowhere; fields that
were set follow, and then the body as it was handed over. -/
structure WritesResponses (own : HeadersOut → OwnPart)
    (write : HeadersOut × List Char → List Char) : Prop where
  write : ∀ r, goesWithBody r.1.status = true →
    write r = writeMessage (HeadersOut.message (own r.1) r)
  start : ∀ out, fitsLine (own out).start = true
  status : ∀ out, goesWithBody out.status = true → statusOf (own out).start = some out.status
  isField : ∀ out, ∀ field ∈ (own out).fields, IsField field
  isFraming : ∀ out, ∀ field ∈ (own out).fields, isFraming field.1 = false
  location : ∀ out, ∀ field ∈ (own out).fields,
    eqIgnoreAsciiCase field.1 "Location".toList = false

/-- The fields of the connection are a part of what says where a body ends. -/
theorem isFraming_of_isPassable (h : IsPassable field) : isFraming field.1 = false := by
  have hhop := h.isHopByHop
  simp only [isHopByHop, List.contains_eq_mem, List.mem_cons, List.not_mem_nil, or_false,
    decide_eq_false_iff_not, not_or] at hhop
  rw [HeaderBlock.isFraming, Bool.or_eq_false_iff, eqIgnoreAsciiCase, eqIgnoreAsciiCase,
    beq_eq_false_iff_ne, beq_eq_false_iff_ne]
  exact ⟨hhop.2.1, hhop.2.2.1⟩

theorem ResponseState.WellFramed.isMessage {own : HeadersOut → OwnPart}
    {write : HeadersOut × List Char → List Char} (h : s.WellFramed)
    (hwrites : WritesResponses own write) {r : HeadersOut × List Char} (hr : r ∈ s.sent)
    (hstatus : goesWithBody r.1.status = true) :
    IsMessage false (HeadersOut.message (own r.1) r) := by
  have hheaders := h.sentHeaders r hr
  have hfields : (HeadersOut.message (own r.1) r).fields =
      (own r.1).before ++ contentLengthField r.2 :: ((own r.1).behind ++ r.1.headers) := by
    rw [HeadersOut.message, h.sentLength r hr, Option.map_some, Option.toList_some,
      List.append_assoc, List.append_assoc, List.singleton_append]
    rfl
  have hown := List.forall_mem_append.mp (hwrites.isField r.1)
  have hframing := List.forall_mem_append.mp (hwrites.isFraming r.1)
  refine ⟨fitsLine_iff.mp (hwrites.start _), ⟨_, hwrites.status _ hstatus, ?_⟩, ?_, ?_⟩
  · exact (Bool.and_eq_true_iff.mp hstatus).2
  · rw [hfields]
    refine List.forall_mem_append.mpr ⟨hown.1, List.forall_mem_cons.mpr ⟨?_,
      List.forall_mem_append.mpr ⟨hown.2, fun f hf => (hheaders f hf).isField⟩⟩⟩
    exact isField_of_isHeaderNameChar (by decide) (fitsLine_toDigits _)
  · rw [hfields]
    exact filter_isFraming_contentLengthField hframing.1 (List.forall_mem_append.mpr
      ⟨hframing.2, fun f hf => isFraming_of_isPassable (hheaders f hf)⟩) r.2

/-- A request on a connection: where it is served, and what is called for it. -/
structure Exchange where
  loc : LocConfig
  req : ResponseRequest
  clientIp : IpAddr
  calls : List (ResponseCall × SendAnswer)
  /-- When nginx answers, which its own fields may say. -/
  now : ℤ

/-- Its client expects no body. -/
def Exchange.headerOnly (e : Exchange) : Bool := e.req.method == "HEAD".toList

section Connection

variable (lib : TokenLibraries) (fromU16 : ℕ → Option ℕ) (trusted : List TrustedCidr)

/-- The responses that are sent for a request. -/
def Exchange.sent (e : Exchange) : List (HeadersOut × List Char) :=
  (ResponseCall.runAll lib fromU16 e.loc trusted e.req e.clientIp e.calls {}).sent

/-- What nginx writes on a connection, when it has not queued the header of a failed attempt. -/
def connectionText (write : Exchange → HeadersOut × List Char → List Char)
    (exchanges : List Exchange) : List Char :=
  exchanges.flatMap fun e => (e.sent lib fromU16 trusted).flatMap (write e)

/-- The responses on a connection, each with what its client expects. -/
def connectionMessages (own : Exchange → HeadersOut → OwnPart) (exchanges : List Exchange) :
    List (Bool × Message) :=
  exchanges.flatMap fun e =>
    (e.sent lib fromU16 trusted).map fun r => (e.headerOnly, HeadersOut.message (own e r.1) r)

/-- **A client reads the responses that were sent**, field by field and with their bodies, and
finds the next one where it starts: for all requests but HEAD on its connection, in locations
configured in whatever way, whatever is called for them and whichever attempts fail, whatever AppSec
answers, unless it asks for a status without a body. No field that was set is one of the
connection. -/
theorem readMessages_connectionMessages (hfrom : KnowsCodes fromU16)
    {own : Exchange → HeadersOut → OwnPart} {write : Exchange → HeadersOut × List Char → List Char}
    (exchanges : List Exchange) (hhead : ∀ e ∈ exchanges, e.req.method ≠ "HEAD".toList)
    (hwrites : ∀ e ∈ exchanges, WritesResponses (own e) (write e))
    (fromFile : List Char → Except (List Char) Template)
    (hloc : ∀ e ∈ exchanges, Configured fromFile e.loc)
    (htemplate : ∀ e ∈ exchanges, ∀ template ∈ e.loc.banTemplate, ∃ extension,
      template.contentType.toList = Pages.contentTypeFromExtension extension)
    (hbody : ∀ e ∈ exchanges, ∀ call ∈ e.calls, call.1.AsksForBody fromU16)
    (rest : List Char) :
    let messages := connectionMessages lib fromU16 trusted own exchanges
    readMessages (messages.map (·.1))
        (connectionText lib fromU16 trusted write exchanges ++ rest) =
      some (messages.map fun m => m.2.asRead, rest) ∧
    ∀ e ∈ exchanges, ∀ r ∈ e.sent lib fromU16 trusted, ∀ field ∈ r.1.headers,
      isHopByHop field.1 = false := by
  have hframed : ∀ e ∈ exchanges, (ResponseCall.runAll lib fromU16 e.loc trusted e.req e.clientIp
      e.calls {}).WellFramed := fun e he =>
    wellFramed_runAll (headerSafe_of_configured (hloc e he) (htemplate e he)) e.calls
      wellFramed_empty
  have hstatus : ∀ e ∈ exchanges, ∀ r ∈ e.sent lib fromU16 trusted,
      goesWithBody r.1.status = true := by
    intro e he r hr
    rcases ResponseCall.status_runAll e.calls {} hr with hmem | ⟨call, hcall, hmem⟩
    · exact absurd hmem List.not_mem_nil
    · exact goesWithBody_of_mem_statuses hfrom (wellFormed_of_configured (hloc e he))
        (hbody e he call hcall) _ hmem
  refine ⟨?_, fun e he r hr field hfield =>
    ((hframed e he).sentHeaders r hr field hfield).isHopByHop⟩
  have htext : connectionText lib fromU16 trusted write exchanges =
      (connectionMessages lib fromU16 trusted own exchanges).flatMap fun m => writeMessage m.2 := by
    rw [connectionText, connectionMessages, List.flatMap_assoc]
    refine List.flatMap_congr fun e he => ?_
    rw [List.flatMap_map]
    exact List.flatMap_congr fun r hr => (hwrites e he).write r (hstatus e he r hr)
  rw [htext]
  refine readMessages_writeMessages (fun m hm => ?_) rest
  obtain ⟨e, he, hm⟩ := List.mem_flatMap.mp hm
  obtain ⟨r, hr, rfl⟩ := List.mem_map.mp hm
  have hanswer : e.headerOnly = false := beq_eq_false_iff_ne.mpr (hhead e he)
  rw [hanswer]
  exact (hframed e he).isMessage (hwrites e he) hr (hstatus e he r hr)

end Connection

/-! ### Two requests on one connection -/

/-- `GET /` from 192.0.2.1, without TLS. -/
def exampleResponseRequest : ResponseRequest where
  method := "GET".toList
  path := some "/".toList
  unparsedUri := some "/".toList
  headersIn := []
  cookies := []
  ssl := false
  socketPeerIp := some (.v4 (u32ToBeBytes 0xC0000201))

def exampleFile : List Char → Except (List Char) Template :=
  fun _ => .ok ⟨"page", "text/html; charset=utf-8"⟩

/-- A challenge that tries to end the header early, and to say where its body ends. -/
def exampleChallenge : ChallengePage where
  httpStatus := 0
  userBodyContent := "ü".toList
  userHeaders := [("X-A".toList, ["1".toList, "1\r\nX-B: 2".toList]),
    ("Content-Length".toList, ["0".toList])]
  userCookies := ["a=b".toList, "c=d\n\n".toList]

def exampleExchange (calls : List (ResponseCall × SendAnswer)) : Exchange where
  loc := {}
  req := exampleResponseRequest
  clientIp := .v4 (u32ToBeBytes 0xC0000201)
  calls := calls
  now := 1700000000

/-- The line with the status, and the fields of a server. -/
def exampleOwnPart (out : HeadersOut) : OwnPart where
  start := "HTTP/1.1 ".toList ++ Nat.toDigits 10 out.status ++ [' ']
  before := [("Server".toList, "nginx".toList)]
  behind := [("Connection".toList, "keep-alive".toList)]

theorem writesResponses_exampleOwnPart : WritesResponses exampleOwnPart
    (fun r => writeMessage (HeadersOut.message (exampleOwnPart r.1) r)) where
  write := fun _ _ => rfl
  start := by
    intro out
    have hline : fitsLine "HTTP/1.1 ".toList = true ∧ fitsLine [' '] = true := by decide
    exact fitsLine_append.mpr ⟨fitsLine_append.mpr ⟨hline.1, fitsLine_toDigits _⟩, hline.2⟩
  status := by
    have hread : ∀ status < 600, goesWithBody status = true →
        statusOf ("HTTP/1.1 ".toList ++ Nat.toDigits 10 status ++ [' ']) = some status := by
      decide +kernel
    exact fun out hout => hread out.status (of_decide_eq_true (Bool.and_eq_true_iff.mp hout).1) hout
  isField := by
    intro out
    refine List.forall_mem_cons.mpr ⟨?_, List.forall_mem_singleton.mpr ?_⟩
    · exact isField_of_isHeaderNameChar (by decide) (by decide)
    · exact isField_of_isHeaderNameChar (by decide) (by decide)
  isFraming := by
    intro out
    change ∀ field ∈ [("Server".toList, "nginx".toList),
      ("Connection".toList, "keep-alive".toList)], isFraming field.1 = false
    decide
  location := by
    intro out
    change ∀ field ∈ [("Server".toList, "nginx".toList),
      ("Connection".toList, "keep-alive".toList)],
      eqIgnoreAsciiCase field.1 "Location".toList = false
    decide

/-- A challenge, then a ban whose first attempt failed. -/
theorem readMessages_connectionMessages_challenge :
    let answer : SendAnswer := ⟨true, true, true, false⟩
    let exchanges := [exampleExchange [(.challenge exampleChallenge, answer)],
       exampleExchange [(.empty 403, ⟨false, true, true, false⟩), (.empty 403, answer)]]
    let messages := connectionMessages exampleLibraries some [] (fun _ => exampleOwnPart) exchanges
    messages.map (fun m => (m.2.start, m.2.fields.map fun f => f.1, m.2.body)) =
        [("HTTP/1.1 200 ".toList,
          ["Server".toList, "Content-Length".toList, "Connection".toList, "X-A".toList,
            "Set-Cookie".toList],
          "ü".toList),
         ("HTTP/1.1 403 ".toList,
          ["Server".toList, "Content-Length".toList, "Connection".toList, "Content-Type".toList,
            "Content-Type".toList],
          ['\n'])] ∧
      readMessages (messages.map (·.1)) (connectionText exampleLibraries some []
          (fun _ r => writeMessage (HeadersOut.message (exampleOwnPart r.1) r)) exchanges ++ []) =
        some (messages.map fun m => m.2.asRead, []) := by
  refine ⟨by decide +kernel, ?_⟩
  have hboth {P : Exchange → Prop} (h : ∀ calls, P (exampleExchange calls)) :
      ∀ e ∈ [exampleExchange [(.challenge exampleChallenge, ⟨true, true, true, false⟩)],
        exampleExchange [(.empty 403, ⟨false, true, true, false⟩),
          (.empty 403, ⟨true, true, true, false⟩)]], P e :=
    List.forall_mem_cons.mpr ⟨h _, List.forall_mem_singleton.mpr (h _)⟩
  exact (readMessages_connectionMessages exampleLibraries some [] (fun _ _ _ => rfl) _
    (hboth fun _ => by change "GET".toList ≠ "HEAD".toList; decide)
    (hboth fun _ => writesResponses_exampleOwnPart)
    (fun _ => .error []) (hboth fun _ => .empty) (hboth fun _ => nofun)
    (List.forall_mem_cons.mpr ⟨List.forall_mem_singleton.mpr rfl, List.forall_mem_singleton.mpr
      (List.forall_mem_cons.mpr ⟨rfl, List.forall_mem_singleton.mpr rfl⟩)⟩) []).1

end CrowdSecBouncer
