import CrowdSecBouncer.Foundations.ByteBuffer
import CrowdSecBouncer.Http.AppSec
import CrowdSecBouncer.Net.AddrPrint
import CrowdSecBouncer.Settings.Directives

/-!
# The contexts of a body read

What waits for a request body lies in the request pool as a `repr(C)` record: texts in buffers of
fixed capacity with their lengths, small enumerations as bytes, a magic word in front that tells
the two records apart. The handlers are modelled on contexts that hold the configuration and the
address as such; a record represents such a context when everything that is read from it agrees
(`Represents`). The buffers hold all that the directives let through
(`bodyContexts_lossless`), so that every record that is written represents its context.
-/

namespace CrowdSecBouncer

open Text

/-- Magic stored in the record of AppSec. -/
def APPSEC_BODY_CTX_MAGIC : UInt32 := 0xA9905EC1

/-- Magic stored in the record of the captcha. -/
def CAPTCHA_POST_CTX_MAGIC : UInt32 := 0x43504F53

namespace StoredPhaseResult

/-- The discriminant, as `repr(u8)` has it. -/
def toByte : StoredPhaseResult → UInt8
  | unset => 0
  | declined => 1
  | forbidden => 2
  | done => 3
  | error => 4

/-- `StoredPhaseResult::decode`. -/
def decodeByte (value : UInt8) : Option HandlerResult :=
  if value = declined.toByte then some .declined
  else if value = forbidden.toByte then some .forbidden
  else if value = done.toByte then some .done
  else if value = error.toByte then some .error
  else none

theorem decodeByte_toByte (stored : StoredPhaseResult) :
    decodeByte stored.toByte = stored.decode := by
  cases stored <;> decide

end StoredPhaseResult

namespace ReprC

/-! ### The captcha record -/

/-- Context stored in the request for captcha POST handling. -/
structure CaptchaPostContext where
  magic : UInt32
  clientIp : Vector UInt8 64
  clientIpLen : ℕ
  provider : CaptchaProvider
  secretKey : Vector UInt8 256
  secretKeyLen : ℕ
  siteKey : Vector UInt8 256
  siteKeyLen : ℕ
  signingKey : Vector UInt8 32
  cookieName : Vector UInt8 64
  cookieNameLen : ℕ
  expirySecs : ℕ
  bindIp : Bool
  failOpen : Bool
  cookieSecure : CookieSecure
  storedResult : UInt8
  deriving DecidableEq, Repr

namespace CaptchaPostContext

/-- Create context from captcha config. -/
def fromConfig (config : CaptchaConfig) (clientIp : IpAddr) : CaptchaPostContext :=
  let ipBytes := utf8Bytes clientIp.toText
  let ipLen := min ipBytes.length 64
  let secretBytes := utf8Bytes config.secretKey.toList
  let secretLen := min secretBytes.length 256
  let siteBytes := utf8Bytes config.siteKey.toList
  let siteLen := min siteBytes.length 256
  let cookieBytes := utf8Bytes config.cookieName.toList
  let cookieLen := min cookieBytes.length 64
  { magic := CAPTCHA_POST_CTX_MAGIC
    clientIp := copyFront 64 (ipBytes.take ipLen)
    clientIpLen := ipLen
    provider := config.provider
    secretKey := copyFront 256 (secretBytes.take secretLen)
    secretKeyLen := secretLen
    siteKey := copyFront 256 (siteBytes.take siteLen)
    siteKeyLen := siteLen
    signingKey := config.signingKey
    cookieName := copyFront 64 (cookieBytes.take cookieLen)
    cookieNameLen := cookieLen
    expirySecs := config.expirySecs
    bindIp := config.bindIp
    failOpen := config.failOpen
    cookieSecure := config.cookieSecure
    storedResult := StoredPhaseResult.unset.toByte }

def boundedStr {cap : ℕ} (buf : Vector UInt8 cap) (len : ℕ) (fallback : List Char) : List Char :=
  (fromUtf8 (front buf (min len cap))).getD fallback

variable (ctx : CaptchaPostContext)

def clientIpStr : List Char := boundedStr ctx.clientIp ctx.clientIpLen "unknown".toList

def secretKeyStr : List Char := boundedStr ctx.secretKey ctx.secretKeyLen []

def siteKeyStr : List Char := boundedStr ctx.siteKey ctx.siteKeyLen []

def cookieNameStr : List Char :=
  boundedStr ctx.cookieName ctx.cookieNameLen "crowdsec_captcha".toList

def toConfig : CaptchaConfig where
  provider := ctx.provider
  siteKey := String.ofList ctx.siteKeyStr
  secretKey := String.ofList ctx.secretKeyStr
  signingKey := ctx.signingKey
  cookieName := String.ofList ctx.cookieNameStr
  expirySecs := ctx.expirySecs
  failOpen := ctx.failOpen
  bindIp := ctx.bindIp
  cookieSecure := ctx.cookieSecure

def storeResult (result : HandlerResult) : CaptchaPostContext :=
  { ctx with storedResult := (StoredPhaseResult.encode result).toByte }

def takeResult : Option HandlerResult := StoredPhaseResult.decodeByte ctx.storedResult

end CaptchaPostContext

/-! ### The AppSec record -/

/-- Stored in the module request context while AppSec waits for the body. -/
structure AppSecBodyContext where
  magic : UInt32
  clientIpBytes : Vector UInt8 64
  clientIpLen : ℕ
  failureActionByte : UInt8
  internalChallenge : UInt8
  botChallenge : UInt8
  storedResult : UInt8
  shmBan : UInt8
  /-- The slice of the address does not panic. -/
  clientIpLen_le : clientIpLen ≤ 64
  deriving DecidableEq, Repr

namespace AppSecBodyContext

/-- `AppSecBodyContext::new`; the address has one byte less than the buffer. -/
def new (ip : IpAddr) (failureAction : AppSecFailureAction)
    (internalChallenge botChallenge shmBan : Bool) : AppSecBodyContext :=
  let ipBytes := utf8Bytes ip.toText
  let ipLen := min ipBytes.length 63
  { magic := APPSEC_BODY_CTX_MAGIC
    clientIpBytes := copyFront 64 (ipBytes.take ipLen)
    clientIpLen := ipLen
    failureActionByte := match failureAction with
      | .passthrough => 0
      | .deny => 1
    internalChallenge := internalChallenge.toUInt8
    botChallenge := botChallenge.toUInt8
    shmBan := shmBan.toUInt8
    storedResult := StoredPhaseResult.unset.toByte
    clientIpLen_le := (Nat.min_le_right ..).trans (by decide) }

variable (ctx : AppSecBodyContext)

def failureAction : AppSecFailureAction :=
  if ctx.failureActionByte = 1 then .deny else .passthrough

def clientIp : Option IpAddr := do
  let text ← fromUtf8 (front ctx.clientIpBytes ctx.clientIpLen)
  parseIpAddr text

def storeResult (result : HandlerResult) : AppSecBodyContext :=
  { ctx with storedResult := (StoredPhaseResult.encode result).toByte }

def takeResult : Option HandlerResult := StoredPhaseResult.decodeByte ctx.storedResult

end AppSecBodyContext

/-! ### The slot -/

/-- What the module request-context slot points to. -/
inductive ModuleCtxSlot
  | null
  | appsec (ctx : AppSecBodyContext)
  | captcha (ctx : CaptchaPostContext)
  deriving DecidableEq, Repr

namespace ModuleCtxSlot

/-- First word of the module request ctx, if set. -/
def requestCtxMagic : ModuleCtxSlot → Option UInt32
  | null => none
  | appsec ctx => some ctx.magic
  | captcha ctx => some ctx.magic

/-- `resume_body_read` of the captcha. -/
def resumeCaptcha (slot : ModuleCtxSlot) : Option HandlerResult :=
  if slot.requestCtxMagic ≠ some CAPTCHA_POST_CTX_MAGIC then none
  else
    match slot with
    | captcha ctx => some (ctx.takeResult.getD .bodyReadPending)
    -- the magic word of the other record
    | null | appsec _ => none

/-- `resume_body_read` of AppSec. -/
def resumeAppSec (slot : ModuleCtxSlot) : Option HandlerResult :=
  if slot.requestCtxMagic ≠ some APPSEC_BODY_CTX_MAGIC then none
  else
    match slot with
    | appsec ctx => some (ctx.takeResult.getD .bodyReadPending)
    | null | captcha _ => none

/-- `store_result`, in whichever record the slot points to. -/
def storeResult (result : HandlerResult) : ModuleCtxSlot → ModuleCtxSlot
  | null => null
  | appsec ctx => appsec (ctx.storeResult result)
  | captcha ctx => captcha (ctx.storeResult result)

end ModuleCtxSlot

/-! ### What the buffers hold -/

namespace CaptchaPostContext

variable {cap : ℕ} {fallback : List Char}

/-- A text is read back when its bytes fit the buffer. The fallback fits as well, so that it is
never what a longer text would have to be read as. -/
theorem boundedStr_copyFront_eq_iff (hfallback : (utf8Bytes fallback).length ≤ cap)
    (cs : List Char) :
    boundedStr (copyFront cap ((utf8Bytes cs).take (min (utf8Bytes cs).length cap)))
      (min (utf8Bytes cs).length cap) fallback = cs ↔ (utf8Bytes cs).length ≤ cap := by
  rw [boundedStr, Nat.min_eq_left (Nat.min_le_right ..), front_copyFront_take _ le_rfl]
  refine ⟨fun h => ?_, fun h => by rw [fromUtf8_take_eq_some_iff.mpr h, Option.getD_some]⟩
  cases hread : fromUtf8 ((utf8Bytes cs).take cap) with
  | none =>
    rw [hread, Option.getD_none] at h
    exact h ▸ hfallback
  | some read =>
    rw [hread, Option.getD_some] at h
    exact h ▸ length_utf8Bytes_le_of_fromUtf8_take hread

variable {config : CaptchaConfig} {ip : IpAddr}

theorem siteKeyStr_fromConfig_eq_iff :
    (fromConfig config ip).siteKeyStr = config.siteKey.toList ↔
      (utf8Bytes config.siteKey.toList).length ≤ 256 :=
  boundedStr_copyFront_eq_iff (by decide) _

theorem secretKeyStr_fromConfig_eq_iff :
    (fromConfig config ip).secretKeyStr = config.secretKey.toList ↔
      (utf8Bytes config.secretKey.toList).length ≤ 256 :=
  boundedStr_copyFront_eq_iff (by decide) _

theorem cookieNameStr_fromConfig_eq_iff :
    (fromConfig config ip).cookieNameStr = config.cookieName.toList ↔
      (utf8Bytes config.cookieName.toList).length ≤ 64 :=
  boundedStr_copyFront_eq_iff (by decide) _

/-- Only the texts of a configuration can change on the way. -/
theorem toConfig_fromConfig :
    (fromConfig config ip).toConfig =
      { config with
        siteKey := String.ofList (fromConfig config ip).siteKeyStr
        secretKey := String.ofList (fromConfig config ip).secretKeyStr
        cookieName := String.ofList (fromConfig config ip).cookieNameStr } := rfl

/-- The texts of a configuration fit the buffers. -/
structure Fits (config : CaptchaConfig) : Prop where
  siteKey : (utf8Bytes config.siteKey.toList).length ≤ 256
  secretKey : (utf8Bytes config.secretKey.toList).length ≤ 256
  cookieName : (utf8Bytes config.cookieName.toList).length ≤ 64

theorem with_texts_eq_iff {siteKey secretKey cookieName : String} :
    { config with siteKey, secretKey, cookieName } = config ↔
      siteKey = config.siteKey ∧ secretKey = config.secretKey ∧ cookieName = config.cookieName := by
  cases config
  simp

/-- **The configuration is read back** exactly when its texts fit. -/
theorem toConfig_fromConfig_eq_iff :
    (fromConfig config ip).toConfig = config ↔ Fits config := by
  have hread (cs : List Char) (s : String) : String.ofList cs = s ↔ cs = s.toList := by
    rw [← String.toList_inj, String.toList_ofList]
  rw [toConfig_fromConfig, with_texts_eq_iff, hread, hread, hread, siteKeyStr_fromConfig_eq_iff,
    secretKeyStr_fromConfig_eq_iff, cookieNameStr_fromConfig_eq_iff]
  exact ⟨fun ⟨hsite, hsecret, hcookie⟩ => ⟨hsite, hsecret, hcookie⟩,
    fun h => ⟨h.siteKey, h.secretKey, h.cookieName⟩⟩

/-- Any address is read back. -/
theorem parseIpAddr_clientIpStr_fromConfig :
    parseIpAddr (fromConfig config ip).clientIpStr = some ip := by
  have hfits : (utf8Bytes ip.toText).length ≤ 64 := (length_utf8Bytes_toText ip).trans (by decide)
  have hread : (fromConfig config ip).clientIpStr = ip.toText :=
    (boundedStr_copyFront_eq_iff
      (show (utf8Bytes "unknown".toList).length ≤ 64 by decide) ip.toText).mpr hfits
  rw [hread, parseIpAddr_toText]

end CaptchaPostContext

/-- Any address is read back, also where the buffer is used up to its last byte but one. -/
theorem AppSecBodyContext.clientIp_new (ip : IpAddr) (failureAction : AppSecFailureAction)
    (internalChallenge botChallenge shmBan : Bool) :
    (AppSecBodyContext.new ip failureAction internalChallenge botChallenge shmBan).clientIp =
      some ip := by
  have hfits : (utf8Bytes ip.toText).length ≤ 63 := (length_utf8Bytes_toText ip).trans (by decide)
  refine Option.bind_eq_some_iff.mpr ⟨ip.toText, ?_, parseIpAddr_toText ip⟩
  exact (fromUtf8_front_copyFront_eq_some_iff (by decide)).mpr hfits

theorem AppSecBodyContext.failureAction_new (ip : IpAddr) (action : AppSecFailureAction)
    (internalChallenge botChallenge shmBan : Bool) :
    (AppSecBodyContext.new ip action internalChallenge botChallenge shmBan).failureAction =
      action := by
  cases action <;> rfl

/-! ### Records and the contexts that the handlers work on -/

/-- All that the captcha handlers read from the record is in the context. -/
structure CaptchaPostContext.Represents (ctx : CaptchaPostContext)
    (abs : CrowdSecBouncer.CaptchaPostContext) : Prop where
  magic : ctx.magic = CAPTCHA_POST_CTX_MAGIC
  config : ctx.toConfig = abs.config
  clientIp : parseIpAddr ctx.clientIpStr = some abs.clientIp
  storedResult : ctx.storedResult = abs.storedResult.toByte

/-- All that the AppSec handlers read from the record is in the context. -/
structure AppSecBodyContext.Represents (ctx : AppSecBodyContext)
    (abs : CrowdSecBouncer.AppSecBodyContext) : Prop where
  magic : ctx.magic = APPSEC_BODY_CTX_MAGIC
  clientIp : ctx.clientIp = some abs.clientIp
  failureAction : ctx.failureAction = abs.failureAction
  internalChallenge : (ctx.internalChallenge != 0) = abs.internalChallenge
  shmBan : (ctx.shmBan != 0) = abs.shmBan
  storedResult : ctx.storedResult = abs.storedResult.toByte

/-- The slot points to nothing, or to a record of what the context holds. -/
inductive ModuleCtxSlot.Represents : ModuleCtxSlot → ModuleCtx → Prop
  | null : Represents .null .empty
  | appsec {ctx : AppSecBodyContext} {abs : CrowdSecBouncer.AppSecBodyContext}
      (h : ctx.Represents abs) : Represents (.appsec ctx) (.appsec abs)
  | captcha {ctx : CaptchaPostContext} {abs : CrowdSecBouncer.CaptchaPostContext}
      (h : ctx.Represents abs) : Represents (.captcha ctx) (.captcha abs)

theorem CaptchaPostContext.represents_fromConfig (h : Fits config) (ip : IpAddr) :
    (fromConfig config ip).Represents { clientIp := ip, config, storedResult := .unset } :=
  ⟨rfl, toConfig_fromConfig_eq_iff.mpr h, parseIpAddr_clientIpStr_fromConfig, rfl⟩

theorem toUInt8_ne_zero (b : Bool) : (b.toUInt8 != 0) = b := by
  cases b <;> rfl

theorem AppSecBodyContext.represents_new (ip : IpAddr) (failureAction : AppSecFailureAction)
    (internalChallenge botChallenge shmBan : Bool) :
    (new ip failureAction internalChallenge botChallenge shmBan).Represents
      { clientIp := ip, failureAction, internalChallenge, storedResult := .unset, shmBan } :=
  ⟨rfl, clientIp_new .., failureAction_new .., toUInt8_ne_zero _, toUInt8_ne_zero _, rfl⟩

namespace ModuleCtxSlot.Represents

variable {slot : ModuleCtxSlot} {ctx : ModuleCtx}

/-- The magic word tells the records apart as the handlers tell their contexts apart. -/
theorem resumeCaptcha (h : slot.Represents ctx) : slot.resumeCaptcha = ctx.resumeCaptcha := by
  cases h with
  | null => rfl
  | appsec h =>
    rw [ModuleCtxSlot.resumeCaptcha, requestCtxMagic, h.magic]
    rfl
  | captcha h =>
    rw [ModuleCtxSlot.resumeCaptcha, requestCtxMagic, h.magic, if_neg (fun hne => hne rfl)]
    rw [CaptchaPostContext.takeResult, h.storedResult, StoredPhaseResult.decodeByte_toByte,
      ModuleCtx.resumeCaptcha]

theorem resumeAppSec (h : slot.Represents ctx) : slot.resumeAppSec = ctx.resumeAppSec := by
  cases h with
  | null => rfl
  | appsec h =>
    rw [ModuleCtxSlot.resumeAppSec, requestCtxMagic, h.magic, if_neg (fun hne => hne rfl)]
    rw [AppSecBodyContext.takeResult, h.storedResult, StoredPhaseResult.decodeByte_toByte,
      ModuleCtx.resumeAppSec]
  | captcha h =>
    rw [ModuleCtxSlot.resumeAppSec, requestCtxMagic, h.magic]
    rfl

theorem storeResult (h : slot.Represents ctx) (result : HandlerResult) :
    (slot.storeResult result).Represents (ctx.storeResult result) := by
  cases h with
  | null => exact .null
  | appsec h => exact .appsec { h with storedResult := rfl }
  | captcha h => exact .captcha { h with storedResult := rfl }

end ModuleCtxSlot.Represents

/-! ### What the directives let through -/

/-- A cookie name is ASCII: its bytes are its characters. -/
theorem length_utf8Bytes_le_of_isCookieName {name : List Char} (h : isCookieName name = true) :
    (utf8Bytes name).length ≤ 64 := by
  have hascii : IsAscii name := fun c hc => by
    have hgraphic := (isGraphic_of_isCookieName h c hc).1
    exact hgraphic.2.trans_lt (by decide)
  simp only [isCookieName, Bool.and_eq_true, decide_eq_true_eq] at h
  rw [length_utf8Bytes_eq_iff.mpr hascii]
  exact h.1.2

variable {loc : LocConfig}

/-- The limits of the directives are those of the buffers. -/
theorem CaptchaPostContext.fits_of_accepted (h : loc.Accepted)
    (hconfig : loc.captchaConfig = some config) : Fits config :=
  have ⟨hsite, hsecret, hcookie⟩ := h.captchaConfig hconfig
  ⟨hsite.2, hsecret.2, length_utf8Bytes_le_of_isCookieName hcookie⟩

/-- The context that a captcha read starts with has its record. -/
theorem ModuleCtxSlot.represents_initiateCaptchaRead {a : Answers} {s : RequestState}
    (h : loc.Accepted) (hconfig : loc.captchaConfig = some config)
    (halloc : a.captchaAlloc = true) :
    (captcha (.fromConfig config ip)).Represents (initiateCaptchaRead a config ip s).2.ctx := by
  rw [initiateCaptchaRead, if_pos halloc]
  have hrepr := CaptchaPostContext.represents_fromConfig
    (CaptchaPostContext.fits_of_accepted h hconfig) ip
  split
  · exact .captcha hrepr
  · exact .captcha hrepr

/-- So has the context of an inspection. -/
theorem ModuleCtxSlot.represents_newContext (call : AppSec.Inspection)
    (botChallenge shmBan : Bool) :
    (appsec (.new call.ip call.failureAction call.internalChallenge botChallenge shmBan)).Represents
      (AppSec.newContext call shmBan) :=
  .appsec (AppSecBodyContext.represents_new ..)

/-- **Body-read contexts lose nothing.** What the directive handlers let through, read back from
a captcha record, is the configuration that was written, and every address is read back from
either record. -/
theorem bodyContexts_lossless :
    (∀ fromFile loc, Configured fromFile loc → loc.Accepted) ∧
    (∀ (loc : LocConfig) (config : CaptchaConfig), loc.Accepted → loc.captchaConfig = some config →
      ∀ ip, (CaptchaPostContext.fromConfig config ip).toConfig = config ∧
        parseIpAddr (CaptchaPostContext.fromConfig config ip).clientIpStr = some ip) ∧
    ∀ ip action internalChallenge botChallenge shmBan,
      (AppSecBodyContext.new ip action internalChallenge botChallenge shmBan).clientIp = some ip ∧
      (AppSecBodyContext.new ip action internalChallenge botChallenge shmBan).failureAction =
        action := by
  refine ⟨fun _ _ h => (wellFormed_of_configured h).toAccepted, fun _ _ h hconfig ip => ⟨?_, ?_⟩,
    fun ip action internalChallenge botChallenge shmBan => ⟨?_, ?_⟩⟩
  · exact CaptchaPostContext.toConfig_fromConfig_eq_iff.mpr
      (CaptchaPostContext.fits_of_accepted h hconfig)
  · exact CaptchaPostContext.parseIpAddr_clientIpStr_fromConfig
  · exact AppSecBodyContext.clientIp_new ..
  · exact AppSecBodyContext.failureAction_new ..

/-- A location whose site key has all the 256 bytes that a key may have. -/
def longKeyConf : LocConfig :=
  { captchaProvider := some .turnstile
    captchaSiteKey := some (String.ofList (List.replicate 128 'é'))
    captchaSecretKey := some "secret"
    captchaSigningKey := some (Vector.replicate 32 7) }

theorem accepted_longKeyConf : longKeyConf.Accepted where
  siteKey := forall_mem_some (by rw [String.toList_ofList]; decide +kernel)
  secretKey := forall_mem_some (by decide)
  cookieName := fun _ h => absurd h (Option.not_mem_none _)

/-- The key is read back whole, and so is the address of the client 2001:db8::1. -/
theorem bodyContexts_lossless_longKey :
    ∃ config, longKeyConf.captchaConfig = some config ∧
      let ctx := CaptchaPostContext.fromConfig config
        (.v6 #v[32, 1, 13, 184, 0, 0, 0, 0, 0, 0, 0, 0, 0, 0, 0, 1])
      ctx.toConfig = config ∧ parseIpAddr ctx.clientIpStr =
        some (.v6 #v[32, 1, 13, 184, 0, 0, 0, 0, 0, 0, 0, 0, 0, 0, 0, 1]) :=
  ⟨_, rfl, bodyContexts_lossless.2.1 longKeyConf _ accepted_longKeyConf rfl _⟩

end ReprC

end CrowdSecBouncer
