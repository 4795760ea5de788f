import CrowdSecBouncer.Http.Config
import CrowdSecBouncer.Shm.Table

/-!
# Requests, and what the world answers

A main request suspends and is re-entered: the phase handlers may start an asynchronous body
read or queue a task on the thread pool, and what is known about the request in between lives
in its module context (`ModuleCtx`). `RequestState` is that context together with the
outstanding read and task. Everything a handler asks the outside for while it runs (the
decision cache, the request pool, the output filters, the thread pool) is one record of
`Answers`, so that a handler is a function of configuration, request, answers and state.
-/

namespace CrowdSecBouncer

/-- Access phase handler result. -/
inductive HandlerResult
  /-- Allow the request to proceed. -/
  | declined
  /-- Block the request with 403 Forbidden. -/
  | forbidden
  /-- An error occurred, fail-open. -/
  | error
  /-- Request has been fully handled (response sent and finalized). -/
  | done
  /-- Captcha/AppSec is waiting for an async request-body read. -/
  | bodyReadPending
  deriving DecidableEq, Repr

/-- The status codes a phase handler returns to nginx. -/
inductive Status
  | ngxDeclined
  | httpForbidden
  | ngxDone
  deriving DecidableEq, Repr

/-- `Status::from(HandlerResult)`. -/
def Status.ofHandlerResult : HandlerResult → Status
  | .declined => .ngxDeclined
  | .forbidden => .httpForbidden
  | .error => .ngxDeclined -- fail-open
  | .done => .ngxDone
  | .bodyReadPending => .ngxDone

/-- The phase engine goes on to the next handler. -/
def HandlerResult.Continues (result : HandlerResult) : Prop :=
  Status.ofHandlerResult result = .ngxDeclined

instance (result : HandlerResult) : Decidable result.Continues :=
  inferInstanceAs (Decidable (_ = _))

theorem HandlerResult.continues_iff {result : HandlerResult} :
    result.Continues ↔ result = .declined ∨ result = .error := by
  cases result <;> decide

/-- Packed into AppSec/captcha request ctx while a body read is in flight. -/
inductive StoredPhaseResult
  | unset
  | declined
  | forbidden
  | done
  | error
  deriving DecidableEq, Repr

namespace StoredPhaseResult

def encode : HandlerResult → StoredPhaseResult
  | .declined => .declined
  | .forbidden => .forbidden
  | .done => .done
  | .error | .bodyReadPending => .error

def decode : StoredPhaseResult → Option HandlerResult
  | .declined => some .declined
  | .forbidden => some .forbidden
  | .done => some .done
  | .error => some .error
  | .unset => none

/-- What is stored is read back, unless the handler was still waiting. -/
theorem decode_encode {result : HandlerResult} (h : result ≠ .bodyReadPending) :
    (encode result).decode = some result := by
  cases result <;> first | rfl | exact absurd rfl h

end StoredPhaseResult

/-! ### The request -/

inductive Method
  | get
  | head
  | post
  | other
  deriving DecidableEq, Repr

/-- A request body that nginx holds: memory buffers, or a temporary file. -/
structure RequestBody where
  bufs : List (List UInt8)
  tempFile : Bool
  deriving DecidableEq, Repr

/-- What a request is from the first phase on. Texts that may fail to be UTF-8 are `none`
then; `clientIp` is what the client address resolves to behind the trusted proxies. -/
structure HttpRequest where
  method : Method
  path : Option String
  unparsedUri : Option String
  clientIp : Option IpAddr
  contentType : Option String
  contentLength : ℤ
  chunked : Bool
  subrequest : Bool
  deriving DecidableEq, Repr

namespace HttpRequest

/-- `has_request_body`. -/
def hasRequestBody (req : HttpRequest) : Bool := 0 < req.contentLength || req.chunked

/-- Check if the Content-Type is application/x-www-form-urlencoded. -/
def isFormUrlencoded (req : HttpRequest) : Bool :=
  match req.contentType with
  | none => false
  | some ct =>
    "application/x-www-form-urlencoded".toList.isPrefixOf (ct.toList.map Char.toLower)

/-- Internal challenge paths of the bot challenge. -/
def internalChallenge (req : HttpRequest) : Bool :=
  "/crowdsec-internal/challenge/".toList.isPrefixOf (req.unparsedUri.getD "/").toList

end HttpRequest

/-- `GET /` from 192.0.2.1. -/
def plainRequest : HttpRequest :=
  { method := .get, path := some "/", unparsedUri := some "/"
    clientIp := some (.v4 #v[192, 0, 2, 1]), contentType := none, contentLength := -1
    chunked := false, subrequest := false }

/-- Maximum body size we'll accept for captcha verification. -/
def MAX_CAPTCHA_BODY_SIZE : ℕ := 64 * 1024

/-- Check if the request body size is acceptable for captcha verification; chunked uploads
have no length. -/
def HttpRequest.isBodySizeAcceptable (req : HttpRequest) : Bool :=
  0 ≤ req.contentLength ∧ req.contentLength ≤ MAX_CAPTCHA_BODY_SIZE

/-! ### Body extraction -/

/-- Result of extracting a request body after NGINX has read it. -/
inductive BodyExtractResult
  | ok (body : List UInt8)
  | unreadable
  | tooLarge
  deriving DecidableEq, Repr

/-- Append the buffers to what was read so far, up to `maxBytes`. -/
def appendBufs (maxBytes : ℕ) (result : List UInt8) : List (List UInt8) → BodyExtractResult
  | [] => .ok result
  | buf :: rest =>
    if result.length + buf.length > maxBytes then .tooLarge
    else appendBufs maxBytes (result ++ buf) rest

/-- Read the buffered request body; a temp file is never read on the event loop. -/
def extractRequestBodyLimited (body : Option RequestBody) (maxBytes : ℕ) : BodyExtractResult :=
  match body with
  | none => .ok []
  | some body => if body.tempFile then .unreadable else appendBufs maxBytes [] body.bufs

def requestBodyBuffered (body : Option RequestBody) : Bool :=
  match body with
  | none => false
  | some body => !body.bufs.isEmpty || body.tempFile

/-! ### The module context -/

/-- Stored in the module request context while AppSec waits for the body. The address is kept
as such, not as text. -/
structure AppSecBodyContext where
  clientIp : IpAddr
  failureAction : AppSecFailureAction
  internalChallenge : Bool
  storedResult : StoredPhaseResult
  shmBan : Bool
  deriving DecidableEq, Repr

/-- Context stored in the request for captcha POST handling; the configuration and the
address are kept as such, not as byte arrays. -/
structure CaptchaPostContext where
  clientIp : IpAddr
  config : CaptchaConfig
  storedResult : StoredPhaseResult
  deriving DecidableEq, Repr

/-- The module request-context slot, told apart by its magic word. -/
inductive ModuleCtx
  | empty
  | appsec (ctx : AppSecBodyContext)
  | captcha (ctx : CaptchaPostContext)
  deriving DecidableEq, Repr

namespace ModuleCtx

/-- `resume_body_read` of the captcha: the stored result, or still waiting. -/
def resumeCaptcha : ModuleCtx → Option HandlerResult
  | .captcha ctx => some (ctx.storedResult.decode.getD .bodyReadPending)
  | _ => none

/-- `resume_body_read` of AppSec. -/
def resumeAppSec : ModuleCtx → Option HandlerResult
  | .appsec ctx => some (ctx.storedResult.decode.getD .bodyReadPending)
  | _ => none

/-- `store_result`, in whichever context the slot holds. -/
def storeResult (result : HandlerResult) : ModuleCtx → ModuleCtx
  | .empty => .empty
  | .appsec ctx => .appsec { ctx with storedResult := .encode result }
  | .captcha ctx => .captcha { ctx with storedResult := .encode result }

end ModuleCtx

/-- Who is waiting for the request body. -/
inductive BodyCallback
  | appsec
  | captcha
  deriving DecidableEq, Repr

/-- A task on the thread pool, with what its completion has captured. -/
inductive PendingTask
  | appsec (clientIp : IpAddr) (failureAction : AppSecFailureAction) (shmBan : Bool)
      (body : Option (List UInt8))
  | verifyCaptcha
  deriving DecidableEq, Repr

/-- The state of a request between and during handler runs. -/
structure RequestState where
  ctx : ModuleCtx
  body : Option RequestBody
  reading : Option BodyCallback
  task : Option PendingTask
  /-- How many responses the module has tried to send. -/
  sends : ℕ
  /-- The request was finalized with a response. -/
  finalized : Bool
  /-- Usage metrics recorded for this request. -/
  processed : ℕ
  dropped : ℕ
  appsecDropped : ℕ
  /-- No data of the source: whether `inspect` has been run for the request, and whether
  `apply_lookup_remediation` has. -/
  inspected : Bool
  remediated : Bool
  deriving DecidableEq, Repr

namespace RequestState

/-- A request that enters ACCESS; its body may have been read by then. -/
def initial (body : Option RequestBody) : RequestState :=
  { ctx := .empty, body, reading := none, task := none, sends := 0, finalized := false
    processed := 0, dropped := 0, appsecDropped := 0, inspected := false, remediated := false }

def recordProcessed (s : RequestState) : RequestState := { s with processed := s.processed + 1 }

def recordDropped (s : RequestState) : RequestState := { s with dropped := s.dropped + 1 }

def recordAppsecDropped (s : RequestState) : RequestState :=
  { s with appsecDropped := s.appsecDropped + 1 }

end RequestState

/-! ### What the world answers -/

/-- How the attempt to send one response goes: the two allocations of `body_chain`, whether
`send_header` returns `NGX_OK`, and whether only the header is wanted. A header for which it returns
`NGX_AGAIN` counts as failed, although nginx has queued it. -/
structure SendAnswer where
  buffer : Bool
  chainLink : Bool
  header : Bool
  headerOnly : Bool
  deriving DecidableEq, Repr

/-- What `ngx_http_read_client_request_body` returns: `NGX_OK` or `NGX_AGAIN`, a special
response, or an error below that. -/
inductive ReadAnswer
  | started
  | special
  | failed
  deriving DecidableEq, Repr

/-- The answers during one run of a handler or a callback. The AppSec and the captcha branch
of one run allocate and read separately. -/
structure Answers where
  lookup : LookupResult
  send : ℕ → SendAnswer
  sessionValid : Bool
  appsecAlloc : Bool
  captchaAlloc : Bool
  appsecRead : ReadAnswer
  captchaRead : ReadAnswer
  /-- The pool is there, the task can be allocated and the queue takes it. -/
  posts : Bool
  /-- The form names the provider's response field. -/
  captchaResponse : Bool

/-- `thread_task::post`: refused while the request has a task, and when the pool refuses. -/
def postTask (a : Answers) (s : RequestState) (task : PendingTask) : Bool × RequestState :=
  if a.posts ∧ s.task = none then (true, { s with task := some task }) else (false, s)

/-! ### Sending a response -/

/-- How to handle a non-OK result from `send_header`. -/
inductive HeaderFailureAction
  /-- Finalize with the header status and return `Ok(())`. -/
  | finalize
  /-- For HEAD requests, finalize and return `Ok(())`; otherwise return `Err(())`. -/
  | headOrError
  /-- Return `Err(())` (`send_raw_response`). -/
  | error
  deriving DecidableEq, Repr

/-- The attempt succeeds: `body_chain`, then `send_chain_and_finalize`. -/
def SendAnswer.ok (answer : SendAnswer) (headerFailure : HeaderFailureAction) : Bool :=
  answer.buffer && answer.chainLink &&
    (answer.header ||
      match headerFailure with
      | .finalize => true
      | .headOrError => answer.headerOnly
      | .error => false)

/-- One attempt to send a response; a success finalizes the request. Status, headers and body
are left out. -/
def sendResponse (a : Answers) (s : RequestState) (headerFailure : HeaderFailureAction) :
    Bool × RequestState :=
  let ok := (a.send s.sends).ok headerFailure
  (ok, { s with sends := s.sends + 1, finalized := s.finalized || ok })

namespace Answers

/-- Every response that is tried can be sent. -/
def SendsSucceed (a : Answers) : Prop := ∀ i headerFailure, (a.send i).ok headerFailure = true

end Answers

theorem sendResponse_of_ok {a : Answers} {s : RequestState} {headerFailure : HeaderFailureAction}
    (h : (a.send s.sends).ok headerFailure = true) :
    sendResponse a s headerFailure =
      (true, { s with sends := s.sends + 1, finalized := true }) := by
  simp [sendResponse, h]

theorem sendResponse_of_fails {a : Answers} {s : RequestState}
    {headerFailure : HeaderFailureAction} (h : (a.send s.sends).ok headerFailure = false) :
    sendResponse a s headerFailure = (false, { s with sends := s.sends + 1 }) := by
  simp [sendResponse, h]

end CrowdSecBouncer
