import CrowdSecBouncer.Captcha.ReturnUri
import CrowdSecBouncer.Captcha.Session
import CrowdSecBouncer.Foundations.HeaderBlock
import CrowdSecBouncer.Http.Request
import CrowdSecBouncer.Net.RealIp
import CrowdSecBouncer.Pages.Template
import CrowdSecBouncer.Shm.Provenance

/-!
# What a response holds

Status, header fields and body of the responses that the handlers send. The header fields of a
request accumulate: an attempt that fails leaves its fields behind, for the next attempt or for the
upstream response when the request is let through. What is passed on to the output filters is
`sent`.

Two ways lead into the header fields. Phase handlers append a field as it is; the callbacks check
name and value first and drop what does not fit. Headers and cookies that AppSec asks for are
checked before they are appended.
-/

namespace CrowdSecBouncer

open Text HeaderBlock

/-- What a response depends on in its request. Texts that are not UTF-8 are `none`. -/
structure ResponseRequest where
  method : List Char
  path : Option (List Char)
  unparsedUri : Option (List Char)
  headersIn : List HeaderLine
  cookies : List CookieLine
  ssl : Bool
  socketPeerIp : Option IpAddr
  deriving DecidableEq, Repr

/-- What AppSec asks to answer a challenge with. The headers are a map: its pairs come in no
particular order. -/
structure ChallengePage where
  httpStatus : ℕ
  userBodyContent : List Char
  userHeaders : List (List Char × List (List Char))
  userCookies : List (List Char)
  deriving DecidableEq, Repr

/-! ### Checks -/

/-- `!value.contains(['\r', '\n'])`. -/
def fitsLine (value : List Char) : Bool := value.all fun c => c ≠ '\r' && c ≠ '\n'

def isSafeHeaderValue (value : List Char) : Bool := value ≠ [] && fitsLine value

def isHeaderNameChar (c : Char) : Bool := c.isAlphanum || c == '-'

/-- Headers of the connection, in any case. -/
def isHopByHop (name : List Char) : Bool :=
  ["connection".toList, "content-length".toList, "transfer-encoding".toList,
    "upgrade".toList].contains (name.map Char.toLower)

def safeHeader (name value : List Char) : Bool :=
  name ≠ [] && name.all isHeaderNameChar && fitsLine value && !isHopByHop name

/-! ### Cookies -/

/-- Build a `Set-Cookie` header value that clears the cookie. -/
def buildClearCookieWithAttrs (name path : List Char) (secure httpOnly : Bool)
    (sameSite : SameSite) : List Char :=
  name ++ "=; Max-Age=0; Path=".toList ++ path ++
    "; Expires=Thu, 01 Jan 1970 00:00:00 GMT".toList ++ cookieAttrSuffix secure httpOnly sameSite

def peerIsTrustedProxy (socketPeerIp : Option IpAddr) (trusted : List TrustedCidr) : Bool :=
  if trusted.isEmpty then false
  else (socketPeerIp.map canonicalizeIp).any fun ip => peerInTrustedList ip trusted

/-- The value of the first line with this name that is UTF-8 and not empty. -/
def getHeader (name : List Char) (lines : List HeaderLine) : Option (List Char) :=
  lines.findSome? fun line => do
    let key ← line.name
    if eqIgnoreAsciiCase key name then line.value.filter (· ≠ []) else none

/-- The request came over TLS, to this server or to a trusted proxy that says so. -/
def isHttps (trusted : List TrustedCidr) (req : ResponseRequest) : Bool :=
  req.ssl || peerIsTrustedProxy req.socketPeerIp trusted &&
    ((getHeader "X-Forwarded-Proto".toList req.headersIn).any
        (eqIgnoreAsciiCase · "https".toList) ||
      (getHeader "X-Forwarded-Ssl".toList req.headersIn).any (eqIgnoreAsciiCase · "on".toList))

def shouldCookieBeSecure (trusted : List TrustedCidr) (req : ResponseRequest) :
    CookieSecure → Bool
  | .auto => isHttps trusted req
  | .on => true
  | .off => false

/-! ### The response of a request -/

/-- `headers_out`; the content length is `none` until it is set. -/
structure HeadersOut where
  status : ℕ := 0
  contentLengthN : Option ℕ := none
  headers : List Field := []
  deriving DecidableEq, Repr

/-- The response side of a request. `sent` has every header that was accepted with `NGX_OK`, and the
body that was passed on behind it; a header that nginx has only queued, with `NGX_AGAIN`, is not
among them. -/
structure ResponseState where
  out : HeadersOut := {}
  keepalive : Bool := true
  sent : List (HeadersOut × List Char) := []
  deriving DecidableEq, Repr

namespace ResponseState

def disableKeepalive (s : ResponseState) : ResponseState := { s with keepalive := false }

def setStatus (status : ℕ) (s : ResponseState) : ResponseState :=
  { s with out := { s.out with status } }

def setContentLengthN (n : ℕ) (s : ResponseState) : ResponseState :=
  { s with out := { s.out with contentLengthN := some n } }

/-- `add_header_out`: no check. -/
def addHeaderOut (name value : List Char) (s : ResponseState) : ResponseState :=
  { s with out := { s.out with headers := s.out.headers ++ [(name, value)] } }

/-- `add_header` of the callbacks: a field that does not fit is dropped. -/
def addHeader (s : ResponseState) (field : Field) : ResponseState :=
  if !isSafeHeaderValue field.2 || field.1 = [] || !(fitsLine field.1 && field.1.all (· ≠ ':')) ||
      !field.1.all isHeaderNameChar
  then s
  else s.addHeaderOut field.1 field.2

/-- The header is accepted, and the body is passed on, whether the request or the status has one or
not. -/
def output (body : List Char) (s : ResponseState) : ResponseState :=
  { s with sent := s.sent ++ [(s.out, body)] }

def sendChainAndFinalize (answer : SendAnswer) (headerFailure : HeaderFailureAction)
    (body : List Char) (s : ResponseState) : Bool × ResponseState :=
  if answer.header then (true, s.output body)
  else
    match headerFailure with
    | .finalize => (true, s)
    | .headOrError => (answer.headerOnly, s)
    | .error => (false, s)

/-- `body_chain`, and what follows it when the buffer and its link can be allocated. -/
def sendBody (answer : SendAnswer) (headerFailure : HeaderFailureAction) (body : List Char)
    (s : ResponseState) : Bool × ResponseState :=
  if answer.buffer && answer.chainLink then sendChainAndFinalize answer headerFailure body s
  else (false, s)

/-! ### The phase handlers -/

section Handlers

variable (answer : SendAnswer)

/-- Minimal response for block-mode bans. -/
def sendEmptyResponse (status : ℕ) (s : ResponseState) : Bool × ResponseState :=
  (((s.disableKeepalive.setStatus status).setContentLengthN 1).addHeaderOut
    "Content-Type".toList "text/plain".toList).sendBody answer .finalize ['\n']

def noStore (s : ResponseState) : ResponseState :=
  (s.addHeaderOut "Cache-Control".toList
    "no-store, no-cache, must-revalidate, max-age=0".toList).addHeaderOut
    "Pragma".toList "no-cache".toList

/-- Redirect response for ban remediation. -/
def sendBanRedirect (location : List Char) (status : ℕ) (s : ResponseState) :
    Bool × ResponseState :=
  ((((s.disableKeepalive.setStatus status).setContentLengthN 1).addHeaderOut
    "Location".toList location).addHeaderOut
    "Content-Type".toList "text/plain".toList).noStore.sendBody answer .finalize ['\n']

/-- A rendered page. -/
def sendPage (body contentType : List Char) (status : ℕ) (s : ResponseState) :
    Bool × ResponseState :=
  (((s.setStatus status).setContentLengthN (utf8Bytes body).length).addHeaderOut
    "Content-Type".toList contentType).noStore.sendBody answer .headOrError body

/-- The variables of a ban page. -/
def banTemplateVars (req : ResponseRequest) (clientIp : IpAddr) (lookup : LookupResult)
    (scenarios : List (List UInt8)) : Pages.TemplateVariables where
  clientIp := some clientIp.toText
  scenario := getScenario scenarios lookup.scenarioId
  origin := some lookup.origin.asStr
  host := ((headerValueCi "Host".toList req.headersIn).map trim).filter (· ≠ [])
  requestUri := req.path
  requestMethod := some req.method

/-- Send a ban response with rendered template. -/
def sendBanResponse (template : Template) (status : ℕ) (req : ResponseRequest)
    (clientIp : IpAddr) (lookup : LookupResult) (scenarios : List (List UInt8))
    (s : ResponseState) : Bool × ResponseState :=
  s.sendPage answer
    ((Pages.Template.ofConfig template).render (banTemplateVars req clientIp lookup scenarios))
    template.contentType.toList status

/-- `send_raw_response`: fields of the connection are left out. -/
def sendRawResponse (status : ℕ) (body : List Char) (headers : List Field) (s : ResponseState) :
    Bool × ResponseState :=
  ((headers.filter fun field => !isHopByHop field.1).foldl
    (fun s field => s.addHeaderOut field.1 field.2)
    ((s.setStatus status).setContentLengthN (utf8Bytes body).length)).sendBody answer .error body

/-- The response of the metrics location. -/
def sendTextResponse (status : ℕ) (contentType body : List Char) (s : ResponseState) :
    Bool × ResponseState :=
  ((((s.disableKeepalive.setStatus status).setContentLengthN (utf8Bytes body).length).addHeaderOut
    "Content-Type".toList contentType).addHeaderOut
    "Cache-Control".toList "no-store".toList).sendBody answer .finalize body

end Handlers

/-! ### Captcha pages -/

end ResponseState

/-- The script that shows a provider's captcha. -/
def CaptchaProvider.scriptUrl : CaptchaProvider → List Char
  | .hCaptcha => "https://js.hcaptcha.com/1/api.js".toList
  | .turnstile => "https://challenges.cloudflare.com/turnstile/v0/api.js".toList
  | .reCaptcha => "https://www.google.com/recaptcha/api.js".toList

def CaptchaProvider.divClass : CaptchaProvider → List Char
  | .hCaptcha => "h-captcha".toList
  | .turnstile => "cf-turnstile".toList
  | .reCaptcha => "g-recaptcha".toList

def captchaTemplateVars (config : CaptchaConfig) (clientIp : IpAddr) (formAction : List Char)
    (errorMessage : Option (List Char)) : Pages.TemplateVariables where
  clientIp := some clientIp.toText
  captchaSiteKey := some config.siteKey.toList
  captchaScriptUrl := some config.provider.scriptUrl
  captchaDivClass := some config.provider.divClass
  captchaError := errorMessage
  formAction := some formAction

def captchaReturnUri (req : ResponseRequest) : List Char :=
  sanitizeReturnUri (req.unparsedUri.getD "/".toList)

/-- Every captcha page is sent as HTML, whatever the file of its template is called. -/
def captchaContentType : List Char := "text/html; charset=utf-8".toList

namespace ResponseState

/-- The captcha page of a phase handler. -/
def sendCaptchaPage (answer : SendAnswer) (config : CaptchaConfig) (template : Template)
    (req : ResponseRequest) (clientIp : IpAddr) (errorMessage : Option (List Char))
    (s : ResponseState) : Bool × ResponseState :=
  s.sendPage answer
    ((Pages.Template.ofConfig template).render
      { captchaTemplateVars config clientIp (captchaReturnUri req) errorMessage with
        requestUri := req.path, requestMethod := some req.method })
    captchaContentType 200

/-- `send_buffered_response`: the response of a callback. -/
def sendBufferedResponse (answer : SendAnswer) (status : ℕ) (headers : List Field)
    (body : List Char) (s : ResponseState) : ResponseState :=
  let s := headers.foldl addHeader
    ((s.disableKeepalive.setStatus status).setContentLengthN (utf8Bytes body).length)
  if answer.buffer && answer.chainLink && answer.header then s.output body else s

/-- The redirect after a solved captcha, with the session in a cookie. -/
def sendSuccessRedirect (answer : SendAnswer) (config : CaptchaConfig) (trusted : List TrustedCidr)
    (req : ResponseRequest) (token redirectUri : List Char) (s : ResponseState) : ResponseState :=
  s.sendBufferedResponse answer 303
    [("Location".toList, redirectUri),
     ("Set-Cookie".toList, buildSetCookie config.cookieName.toList token config.expirySecs
        "/".toList (shouldCookieBeSecure trusted req config.cookieSecure) true .lax),
     ("Content-Type".toList, "text/plain".toList),
     ("Cache-Control".toList, "no-store, no-cache, must-revalidate".toList)]
    "Redirecting...".toList

def sendCaptchaErrorPage (answer : SendAnswer) (template : Template) (config : CaptchaConfig)
    (clientIp : IpAddr) (formAction errorMessage : List Char) (s : ResponseState) :
    ResponseState :=
  s.sendBufferedResponse answer 200
    [("Content-Type".toList, captchaContentType),
     ("Cache-Control".toList, "no-store, no-cache, must-revalidate, max-age=0".toList),
     ("Pragma".toList, "no-cache".toList)]
    ((Pages.Template.ofConfig template).render
      (captchaTemplateVars config clientIp formAction (some errorMessage)))

/-- The response already sets this cookie. -/
def responseHasSetCookie (name : List Char) (s : ResponseState) : Bool :=
  s.out.headers.any fun field =>
    eqIgnoreAsciiCase field.1 "Set-Cookie".toList && (name ++ ['=']).isPrefixOf field.2

end ResponseState

/-- True when captcha keys are present. -/
def LocConfig.captchaIsConfigured (loc : LocConfig) : Bool :=
  loc.captchaProvider.isSome && loc.captchaSiteKey.isSome && loc.captchaSecretKey.isSome &&
    loc.captchaSigningKey.any fun key => key ≠ Vector.replicate 32 0

def LocConfig.captchaCookieNameOrDefault (loc : LocConfig) : List Char :=
  (loc.captchaCookieName.getD "crowdsec_captcha").toList

namespace ResponseState

/-- Clear a stale captcha cookie when the address is no longer under remediation. -/
def maybeClearStaleCaptchaCookie (loc : LocConfig) (trusted : List TrustedCidr)
    (req : ResponseRequest) (s : ResponseState) : ResponseState :=
  let cookieName := loc.captchaCookieNameOrDefault
  if loc.captchaIsConfigured && (getCookie req.cookies cookieName).isSome &&
      !s.responseHasSetCookie cookieName
  then s.addHeaderOut "Set-Cookie".toList
    (buildClearCookieWithAttrs cookieName "/".toList
      (shouldCookieBeSecure trusted req (loc.captchaCookieSecure.getD .auto)) true .lax)
  else s

end ResponseState

/-! ### Challenges of AppSec -/

/-- The headers of a challenge that may be passed on, then its cookies. -/
def ChallengePage.headers (page : ChallengePage) : List Field :=
  (page.userHeaders.flatMap fun (name, values) =>
    (values.filter (safeHeader name)).map fun value => (name, value)) ++
  (page.userCookies.filter fitsLine).map fun value => ("Set-Cookie".toList, value)

/-! ### The calls -/

/-- The places of the source that write to the response of a request, with the data that are not
those of the location and the request. -/
inductive ResponseCall
  /-- An empty ban response, and the answer to a static asset under a captcha. -/
  | empty (status : ℕ)
  | banRedirect
  | banPage (lookup : LookupResult) (scenarios : List (List UInt8))
  | captchaPage (errorMessage : Option (List Char))
  | captchaErrorPage (errorMessage : List Char)
  /-- A captcha was solved. -/
  | captchaSolved (now : ℤ) (random : Vector UInt8 16)
  | challenge (page : ChallengePage)
  /-- The metrics page, to a request with another method than GET and HEAD a refusal. -/
  | metrics (methodAllowed : Bool) (page : List Char)
  | clearStaleCookie

section Calls

variable (lib : TokenLibraries) (fromU16 : ℕ → Option ℕ) (loc : LocConfig)
  (trusted : List TrustedCidr) (req : ResponseRequest) (clientIp : IpAddr)

/-- A solved captcha is answered with a session, or with an error if none can be issued. -/
def ResponseState.answerSolved (answer : SendAnswer) (config : CaptchaConfig) (template : Template)
    (now : ℤ) (random : Vector UInt8 16) (s : ResponseState) : ResponseState :=
  let uri := captchaReturnUri req
  match createToken lib config.signingKey (sessionClaims config clientIp now random uri) with
  | .ok token => s.sendSuccessRedirect answer config trusted req token uri
  | .error _ => s.sendCaptchaErrorPage answer template config clientIp uri
      "Internal error. Please try again.".toList

/-- One call for a request of a location; the status of a response is what `from_u16` makes of a
code, or the default of the call. -/
def ResponseCall.run (answer : SendAnswer) (s : ResponseState) : ResponseCall → ResponseState
  | .empty status => (s.sendEmptyResponse answer status).2
  | .banRedirect =>
    match loc.banRedirectUrl with
    | some url =>
      (s.sendBanRedirect answer url.toList
        ((fromU16 (loc.banRedirectCode.getD 302)).getD 302)).2
    | none => s
  | .banPage lookup scenarios =>
    match loc.banTemplate with
    | some template =>
      (s.sendBanResponse answer template ((fromU16 loc.banStatusCode).getD 403) req clientIp lookup
        scenarios).2
    | none => s
  | .captchaPage errorMessage =>
    match loc.captchaConfig, loc.captchaTemplate with
    | some config, some template =>
      (s.sendCaptchaPage answer config template req clientIp errorMessage).2
    | _, _ => s
  | .captchaErrorPage errorMessage =>
    match loc.captchaConfig, loc.captchaTemplate with
    | some config, some template =>
      s.sendCaptchaErrorPage answer template config clientIp (captchaReturnUri req) errorMessage
    | _, _ => s
  | .captchaSolved now random =>
    match loc.captchaConfig, loc.captchaTemplate with
    | some config, some template =>
      s.answerSolved lib trusted req clientIp answer config template now random
    | _, _ => s
  | .challenge page =>
    (s.sendRawResponse answer
      ((fromU16 (if page.httpStatus = 0 then 200 else page.httpStatus)).getD 403)
      page.userBodyContent page.headers).2
  | .metrics true page =>
    (s.sendTextResponse answer 200 "text/plain; version=0.0.4; charset=utf-8".toList page).2
  | .metrics false _ =>
    (s.sendTextResponse answer 405 "text/plain".toList "method not allowed\n".toList).2
  | .clearStaleCookie => s.maybeClearStaleCaptchaCookie loc trusted req

/-- The calls for one request, in any order. -/
def ResponseCall.runAll (calls : List (ResponseCall × SendAnswer)) (s : ResponseState) :
    ResponseState :=
  calls.foldl (fun s call => call.1.run lib fromU16 loc trusted req clientIp call.2 s) s

end Calls

end CrowdSecBouncer
