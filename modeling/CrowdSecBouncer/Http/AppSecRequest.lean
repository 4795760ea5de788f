import CrowdSecBouncer.Foundations.Replacing
import CrowdSecBouncer.Net.RealIp

/-!
# The request that AppSec sees

The client's headers are copied line by line into the call to the AppSec component, but for those
that belong to the connection and those that CrowdSec sets itself. The copy goes through the HTTP
client's `set`, which replaces an earlier value of the same name unless the name starts with
`x-`: of several lines with one name the last one is left. The call carries every line that is
copied exactly when no such line is followed by another of its name (`seesEveryLine_iff`). No
line of the client's whose name starts with `x-crowdsec-` is ever carried.
-/

namespace CrowdSecBouncer

open Text

/-- A header name and value. -/
abbrev HeaderField := List Char × List Char

/-- `X-` headers may be repeated. -/
def startsWithX (name : List Char) : Bool :=
  "x-".toList.isPrefixOf name || "X-".toList.isPrefixOf name

/-- The header list of the HTTP client's request builder. Setting a header replaces earlier values
of the same name, but those of an `X-` header are kept. -/
structure RequestBuilder where
  sameName : List Char → List Char → Bool
  set : List HeaderField → List Char → List Char → List HeaderField
  sameName_refl : ∀ name, sameName name name = true
  eqIgnoreAsciiCase_of_sameName : ∀ name name', sameName name name' = true →
    eqIgnoreAsciiCase name name' = true
  set_eq : ∀ headers name value, set headers name value =
    Replacing.insert (fun earlier later => !startsWithX later.1 && sameName earlier.1 later.1)
      headers (name, value)

/-- What the call is made of, besides the headers. -/
structure AppSecEndpoint where
  url : List Char
  apiKey : List Char
  timeoutMs : ℕ
  deriving DecidableEq, Repr

/-- What is read of the request; `userAgent` is nginx's own parse of the header. -/
structure ForwardedRequest where
  lines : List HeaderLine
  unparsedUri : Option (List Char)
  userAgent : Option (List Char)
  method : List Char
  httpVersion : ℕ
  deriving DecidableEq, Repr

/-- The call that is built. -/
structure AppSecCall where
  post : Bool
  url : List Char
  timeoutMs : ℕ
  headers : List HeaderField
  deriving DecidableEq, Repr

def BOUNCER_USER_AGENT : List Char := "ngx_http_crowdsec_module/0.5.2".toList

/-- Two digits; nginx stores HTTP/x.y as `x * 1000 + y`, except HTTP/0.9 which is `9`. -/
def appsecHttpVersionHeader (httpVersion : ℕ) : List Char :=
  match httpVersion with
  | 9 => "09".toList
  | 1000 => "10".toList
  | 1001 => "11".toList
  | 2000 => "20".toList
  | 3000 => "30".toList
  | _ => "11".toList

def skippedHeaderNames : List (List Char) :=
  ["connection", "keep-alive", "proxy-connection", "transfer-encoding", "te", "trailer", "upgrade",
    "host", "content-length", "user-agent"].map String.toList

def skipForwardedAppsecHeader (name : List Char) : Bool :=
  let lower := name.map Char.toLower
  skippedHeaderNames.contains lower || "x-crowdsec-".toList.isPrefixOf lower

/-- The lines that are copied: those with a name and a value that are text, and not skipped. -/
def forwardedLines (lines : List HeaderLine) : List HeaderField :=
  lines.filterMap fun line => do
    let name ← line.name
    let value ← line.value
    if skipForwardedAppsecHeader name then none else some (name, value)

/-- The first `Host` line whose name and value are text. -/
def hostOf (lines : List HeaderLine) : List Char :=
  (lines.findSome? fun line => do
    let name ← line.name
    let value ← line.value
    if eqIgnoreAsciiCase name "host".toList then some value else none).getD []

/-- The headers that CrowdSec sets, in order. -/
def metadataHeaders (request : ForwardedRequest) (ip : IpAddr) (config : AppSecEndpoint) :
    List HeaderField :=
  [("User-Agent".toList, BOUNCER_USER_AGENT),
    ("X-Crowdsec-Appsec-Ip".toList, ip.toText),
    ("X-Crowdsec-Appsec-Uri".toList, request.unparsedUri.getD "/".toList),
    ("X-Crowdsec-Appsec-Host".toList, hostOf request.lines),
    ("X-Crowdsec-Appsec-Verb".toList, request.method),
    ("X-Crowdsec-Appsec-Api-Key".toList, config.apiKey),
    ("X-Crowdsec-Appsec-User-Agent".toList, request.userAgent.getD []),
    ("X-Crowdsec-Appsec-Http-Version".toList, appsecHttpVersionHeader request.httpVersion)]

/-- Copy client headers first, then the metadata. -/
def prepareAppsecRequest (builder : RequestBuilder) (request : ForwardedRequest) (ip : IpAddr)
    (config : AppSecEndpoint) (hasBody : Bool) : AppSecCall :=
  let set := fun headers (field : HeaderField) => builder.set headers field.1 field.2
  let copied := (forwardedLines request.lines).foldl set []
  { post := hasBody, url := config.url, timeoutMs := config.timeoutMs
    headers := (metadataHeaders request ip config).foldl set copied }

/-! ### What the call carries -/

/-- A name of CrowdSec's own headers, in any case. -/
def isCrowdsecName (name : List Char) : Bool :=
  "x-crowdsec-".toList.isPrefixOf (name.map Char.toLower)

/-- The later field replaces the earlier one. -/
def RequestBuilder.replaces (builder : RequestBuilder) (earlier later : HeaderField) : Bool :=
  !startsWithX later.1 && builder.sameName earlier.1 later.1

/-- Every line that is copied has its own place in the call, and the only headers with one of
CrowdSec's names are those that CrowdSec sets. -/
structure SeesEveryLine (builder : RequestBuilder) (request : ForwardedRequest) (ip : IpAddr)
    (config : AppSecEndpoint) (hasBody : Bool) : Prop where
  carries : (forwardedLines request.lines).Subperm
    (prepareAppsecRequest builder request ip config hasBody).headers
  crowdsec : (prepareAppsecRequest builder request ip config hasBody).headers.filter
      (fun field => isCrowdsecName field.1) =
    (metadataHeaders request ip config).filter fun field => isCrowdsecName field.1

variable {builder : RequestBuilder} {request : ForwardedRequest} {ip : IpAddr}
  {config : AppSecEndpoint} {hasBody : Bool} {field : HeaderField}

theorem skip_of_mem_forwardedLines {lines : List HeaderLine} (h : field ∈ forwardedLines lines) :
    skipForwardedAppsecHeader field.1 = false := by
  obtain ⟨line, -, hline⟩ := List.mem_filterMap.mp h
  obtain ⟨name, -, hline⟩ := Option.bind_eq_some_iff.mp hline
  obtain ⟨value, -, hline⟩ := Option.bind_eq_some_iff.mp hline
  obtain ⟨hskip, heq⟩ := Option.ite_none_left_eq_some.mp hline
  rw [← Option.some_injective _ heq]
  exact Bool.eq_false_iff.mpr hskip

/-- A line that is copied has none of the names that CrowdSec sets. -/
theorem not_metadata_of_mem_forwardedLines {lines : List HeaderLine}
    (h : field ∈ forwardedLines lines) :
    isCrowdsecName field.1 = false ∧ eqIgnoreAsciiCase field.1 "User-Agent".toList = false := by
  have hskip := skip_of_mem_forwardedLines h
  rw [skipForwardedAppsecHeader, Bool.or_eq_false_iff] at hskip
  refine ⟨hskip.2, Bool.eq_false_iff.mpr fun heq => ?_⟩
  have hlower : field.1.map Char.toLower = "user-agent".toList := eq_of_beq heq
  rw [hlower] at hskip
  exact absurd hskip.1 (by decide)

/-- Setting headers adds them to a list in which later ones replace earlier ones. -/
theorem foldl_set_eq (builder : RequestBuilder) (acc fields : List HeaderField) :
    fields.foldl (fun headers field => builder.set headers field.1 field.2) acc =
      acc.filter (fun earlier => !fields.any (builder.replaces earlier)) ++
        Replacing.survivors builder.replaces fields := by
  have hset : (fun headers (field : HeaderField) => builder.set headers field.1 field.2) =
      Replacing.insert builder.replaces :=
    funext fun headers => funext fun field => builder.set_eq headers field.1 field.2
  rw [hset, Replacing.foldl_insert]

theorem replaces_of_startsWithX {earlier later : HeaderField} (h : startsWithX later.1 = true) :
    builder.replaces earlier later = false := by
  rw [RequestBuilder.replaces, h]
  rfl

/-- All but the first header that CrowdSec sets start with `X-`. -/
theorem startsWithX_of_mem_metadataHeaders_tail
    (h : field ∈ (metadataHeaders request ip config).tail) :
    startsWithX field.1 = true := by
  have hnames : ∀ name ∈ (metadataHeaders request ip config).tail.map Prod.fst,
      startsWithX name = true := by
    change ∀ name ∈ ["X-Crowdsec-Appsec-Ip".toList, "X-Crowdsec-Appsec-Uri".toList,
      "X-Crowdsec-Appsec-Host".toList, "X-Crowdsec-Appsec-Verb".toList,
      "X-Crowdsec-Appsec-Api-Key".toList, "X-Crowdsec-Appsec-User-Agent".toList,
      "X-Crowdsec-Appsec-Http-Version".toList], startsWithX name = true
    decide
  exact hnames field.1 (List.mem_map_of_mem h)

/-- No header of CrowdSec's replaces another. -/
theorem survivors_metadataHeaders :
    Replacing.survivors builder.replaces (metadataHeaders request ip config) =
      metadataHeaders request ip config := by
  refine Replacing.survivors_eq_self_iff.mpr (List.pairwise_cons.mpr ⟨?_, ?_⟩)
  · intro later hlater
    exact replaces_of_startsWithX (startsWithX_of_mem_metadataHeaders_tail hlater)
  · refine List.pairwise_of_forall_mem_list fun earlier _ later hlater => ?_
    exact replaces_of_startsWithX (startsWithX_of_mem_metadataHeaders_tail hlater)

/-- A line that is copied is not replaced by a header of CrowdSec's. -/
theorem any_replaces_metadataHeaders {lines : List HeaderLine} (h : field ∈ forwardedLines lines) :
    (metadataHeaders request ip config).any (builder.replaces field) = false := by
  refine List.any_eq_false.mpr fun later hlater => ?_
  rcases List.mem_cons.mp hlater with rfl | hlater
  · rw [RequestBuilder.replaces, Bool.and_eq_true]
    rintro ⟨-, hsame⟩
    have heq := builder.eqIgnoreAsciiCase_of_sameName _ _ hsame
    rw [(not_metadata_of_mem_forwardedLines h).2] at heq
    exact absurd heq (by simp)
  · rw [replaces_of_startsWithX (startsWithX_of_mem_metadataHeaders_tail hlater)]
    simp

/-- **The headers of the call**: the lines that no later one replaces, then the metadata. -/
theorem headers_prepareAppsecRequest :
    (prepareAppsecRequest builder request ip config hasBody).headers =
      Replacing.survivors builder.replaces (forwardedLines request.lines) ++
        metadataHeaders request ip config := by
  rw [prepareAppsecRequest]
  dsimp only
  rw [foldl_set_eq, foldl_set_eq, List.filter_nil, List.nil_append, survivors_metadataHeaders]
  refine congrArg (· ++ _) (List.filter_eq_self.mpr fun earlier hearlier => ?_)
  rw [any_replaces_metadataHeaders ((Replacing.survivors_sublist _ _).subset hearlier)]
  rfl

/-- No line of the client's has one of CrowdSec's names in the call. -/
theorem filter_isCrowdsecName_headers :
    (prepareAppsecRequest builder request ip config hasBody).headers.filter
        (fun field => isCrowdsecName field.1) =
      (metadataHeaders request ip config).filter fun field => isCrowdsecName field.1 := by
  have hnone : (Replacing.survivors builder.replaces (forwardedLines request.lines)).filter
      (fun field => isCrowdsecName field.1) = [] := by
    refine List.filter_eq_nil_iff.mpr fun field hfield => ?_
    rw [(not_metadata_of_mem_forwardedLines ((Replacing.survivors_sublist _ _).subset hfield)).1]
    simp
  rw [headers_prepareAppsecRequest, List.filter_append, hnone, List.nil_append]

/-- Neither `User-Agent` nor a header of CrowdSec's. -/
private def isClientField (field : HeaderField) : Bool :=
  !isCrowdsecName field.1 && !eqIgnoreAsciiCase field.1 "User-Agent".toList

/-- **Every line is carried** when no line is followed by another that replaces it. -/
theorem subperm_headers_iff :
    (forwardedLines request.lines).Subperm
        (prepareAppsecRequest builder request ip config hasBody).headers ↔
      (forwardedLines request.lines).Pairwise fun earlier later =>
        builder.replaces earlier later = false := by
  rw [← Replacing.subperm_survivors_iff, headers_prepareAppsecRequest]
  constructor
  · intro h
    -- the metadata has none of the names that are copied
    have hclient (fields : List HeaderField) (hsub : fields ⊆ forwardedLines request.lines) :
        fields.filter isClientField = fields := by
      refine List.filter_eq_self.mpr fun field hfield => ?_
      have hnot := not_metadata_of_mem_forwardedLines (hsub hfield)
      rw [isClientField, hnot.1, hnot.2]
      rfl
    have hmetadata : (metadataHeaders request ip config).filter isClientField = [] := by
      have hnames : ∀ name ∈ (metadataHeaders request ip config).map Prod.fst,
          (!isCrowdsecName name && !eqIgnoreAsciiCase name "User-Agent".toList) = false := by
        change ∀ name ∈ ["User-Agent".toList, "X-Crowdsec-Appsec-Ip".toList,
          "X-Crowdsec-Appsec-Uri".toList, "X-Crowdsec-Appsec-Host".toList,
          "X-Crowdsec-Appsec-Verb".toList, "X-Crowdsec-Appsec-Api-Key".toList,
          "X-Crowdsec-Appsec-User-Agent".toList, "X-Crowdsec-Appsec-Http-Version".toList],
          (!isCrowdsecName name && !eqIgnoreAsciiCase name "User-Agent".toList) = false
        decide
      refine List.filter_eq_nil_iff.mpr fun field hfield => ?_
      rw [isClientField, hnames field.1 (List.mem_map_of_mem hfield)]
      simp
    have hfilter := h.filter isClientField
    rw [List.filter_append, hmetadata, List.append_nil, hclient _ (List.Subset.refl _),
      hclient _ (Replacing.survivors_sublist _ _).subset] at hfilter
    exact hfilter
  · intro h
    exact h.trans (List.sublist_append_left _ _).subperm

/-- **AppSec sees every line** exactly when no line that is copied is followed by another of the
same name, but for names that start with `x-` or `X-`. -/
theorem seesEveryLine_iff (builder : RequestBuilder) (request : ForwardedRequest) (ip : IpAddr)
    (config : AppSecEndpoint) (hasBody : Bool) :
    SeesEveryLine builder request ip config hasBody ↔
      (forwardedLines request.lines).Pairwise fun earlier later =>
        builder.sameName earlier.1 later.1 = true → startsWithX later.1 = true := by
  have hreplaces (earlier later : HeaderField) : builder.replaces earlier later = false ↔
      (builder.sameName earlier.1 later.1 = true → startsWithX later.1 = true) := by
    rw [RequestBuilder.replaces]
    cases startsWithX later.1 <;> simp
  simp only [← hreplaces]
  constructor
  · intro h
    exact subperm_headers_iff.mp h.carries
  · intro h
    exact ⟨subperm_headers_iff.mpr h, filter_isCrowdsecName_headers⟩

/-- A builder that takes names for the same when they are equal. -/
def exampleBuilder : RequestBuilder where
  sameName := fun name name' => name == name'
  set := fun headers name value => Replacing.insert
    (fun earlier later => !startsWithX later.1 && earlier.1 == later.1) headers (name, value)
  sameName_refl := fun _ => beq_self_eq_true _
  eqIgnoreAsciiCase_of_sameName := fun name _ h => eq_of_beq h ▸ eqIgnoreAsciiCase_refl name
  set_eq := fun _ _ _ => rfl

/-- Two cookie lines. -/
def exampleForwardedRequest : ForwardedRequest where
  lines := [⟨some "Cookie".toList, some "a=1".toList⟩,
    ⟨some "Cookie".toList, some "b=2".toList⟩]
  unparsedUri := some "/".toList
  userAgent := none
  method := "GET".toList
  httpVersion := 2000

/-- **AppSec does not see the first cookie line.** -/
theorem not_seesEveryLine :
    ¬ SeesEveryLine exampleBuilder exampleForwardedRequest (.v4 (u32ToBeBytes 0xC0000201))
      ⟨"http://127.0.0.1:7422".toList, "key".toList, 200⟩ false := by
  intro h
  have hmissing : ("Cookie".toList, "a=1".toList) ∉ (prepareAppsecRequest exampleBuilder
      exampleForwardedRequest (.v4 (u32ToBeBytes 0xC0000201))
      ⟨"http://127.0.0.1:7422".toList, "key".toList, 200⟩ false).headers := by
    decide +kernel
  exact hmissing (h.carries.subset (by decide +kernel))

end CrowdSecBouncer
