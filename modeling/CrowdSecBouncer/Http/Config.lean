import CrowdSecBouncer.Net.TrustedCidr

/-!
# Location and main configuration

The merged settings that the request handlers read. A field is `none` when no context sets
it; the defaults are applied where a setting is read, as in the source.
-/

namespace CrowdSecBouncer

/-- Ban remediation: a response, or a redirect to `banRedirectUrl`. -/
inductive BanActionMode
  | block
  | redirect
  deriving DecidableEq, Repr

/-- When a known remediation cannot be applied (missing config/template, send failure). -/
inductive UnenforceableAction
  | allow
  | block
  deriving DecidableEq, Repr

/-- Policy for unknown LAPI remediation types. -/
inductive FallbackRemediation
  | allow
  | ban
  | captcha
  deriving DecidableEq, Repr

/-- What to do when AppSec gives no verdict. -/
inductive AppSecFailureAction
  | passthrough
  /-- Fail closed: same ban page / redirect as an AppSec `ban` verdict. -/
  | deny
  deriving DecidableEq, Repr

/-- Supported captcha providers. -/
inductive CaptchaProvider
  | hCaptcha
  | turnstile
  | reCaptcha
  deriving DecidableEq, Repr

/-- Cookie secure flag setting. -/
inductive CookieSecure
  | auto
  | on
  | off
  deriving DecidableEq, Repr

/-- A response template; what it renders to does not matter to the handlers. -/
structure Template where
  source : String
  contentType : String
  deriving DecidableEq, Repr

/-- The captcha settings of a location, once they are complete. -/
structure CaptchaConfig where
  provider : CaptchaProvider
  siteKey : String
  secretKey : String
  signingKey : Vector UInt8 32
  cookieName : String
  expirySecs : ℕ
  failOpen : Bool
  bindIp : Bool
  cookieSecure : CookieSecure
  deriving DecidableEq, Repr

/-- Location configuration for CrowdSec module. -/
structure LocConfig where
  enabled : Option Bool := none
  banTemplate : Option Template := none
  banAction : Option BanActionMode := none
  banRedirectUrl : Option String := none
  banRedirectCode : Option ℕ := none
  banStatus : Option ℕ := none
  metricsEnabled : Option Bool := none
  captchaTemplate : Option Template := none
  captchaProvider : Option CaptchaProvider := none
  captchaSiteKey : Option String := none
  captchaSecretKey : Option String := none
  captchaSigningKey : Option (Vector UInt8 32) := none
  captchaCookieName : Option String := none
  captchaExpirySecs : Option ℕ := none
  captchaFailOpen : Option Bool := none
  unenforceableAction : Option UnenforceableAction := none
  captchaBindIp : Option Bool := none
  captchaCookieSecure : Option CookieSecure := none
  appsecEnabled : Option Bool := none
  appsecAlways : Option Bool := none
  appsecFailureAction : Option AppSecFailureAction := none
  botChallengeEnabled : Option Bool := none
  staticAssetExtensions : Option (List String) := none
  deriving DecidableEq, Repr

namespace LocConfig

/-- The captcha settings, `none` if captcha is not fully configured. -/
def captchaConfig (loc : LocConfig) : Option CaptchaConfig := do
  let provider ← loc.captchaProvider
  let siteKey ← loc.captchaSiteKey
  let secretKey ← loc.captchaSecretKey
  let signingKey ← loc.captchaSigningKey
  -- signing_key must not be all zeros
  if signingKey = Vector.replicate 32 0 then none
  else some {
    provider, siteKey, secretKey, signingKey
    cookieName := loc.captchaCookieName.getD "crowdsec_captcha"
    expirySecs := loc.captchaExpirySecs.getD 3600
    failOpen := loc.captchaFailOpen.getD true
    bindIp := loc.captchaBindIp.getD true
    cookieSecure := loc.captchaCookieSecure.getD .auto }

def unenforceableActionOrDefault (loc : LocConfig) : UnenforceableAction :=
  loc.unenforceableAction.getD .allow

/-- Validate location config when `crowdsec on`. Called after merge inheritance. -/
def validateEnforcement (loc : LocConfig) : Except String Unit :=
  if loc.enabled ≠ some true then .ok ()
  else if loc.banAction = some .redirect ∧ loc.banRedirectUrl.isNone then
    .error "crowdsec_ban_action redirect requires crowdsec_ban_redirect_url"
  else if loc.captchaConfig.isSome ∧ loc.captchaTemplate.isNone ∧
      loc.unenforceableActionOrDefault = .block then
    .error ("captcha settings with crowdsec_unenforceable_action block require " ++
      "crowdsec_captcha_template")
  else .ok ()

/-- Block-mode ban HTTP status (400–599). Defaults to 403. -/
def banStatusCode (loc : LocConfig) : ℕ :=
  (loc.banStatus.filter fun code => 400 ≤ code ∧ code < 600).getD 403

/-- The path ends with one of the extensions, in any ASCII case. -/
def pathHasStaticSuffix (path : String) (exts : List String) : Bool :=
  exts.any fun ext =>
    (ext.toList.map Char.toLower).isSuffixOf (path.toList.map Char.toLower)

/-- Whether the request path should use minimal ban/captcha responses (no HTML body). -/
def isStaticAssetPath (loc : LocConfig) (path : String) : Bool :=
  match loc.staticAssetExtensions with
  | some exts => pathHasStaticSuffix path exts
  | none => pathHasStaticSuffix path [".ico"]

end LocConfig

/-- What the handlers read of the main configuration. -/
structure MainConfig where
  bypassCidrs : List TrustedCidr := []
  fallbackRemediation : Option FallbackRemediation := none
  deriving DecidableEq, Repr

def MainConfig.fallbackRemediationOrDefault (main : MainConfig) : FallbackRemediation :=
  main.fallbackRemediation.getD .allow

/-- The AppSec component's settings that decide what is inspected; address, key and timeout
of the exchange are left out. -/
structure AppSecConfig where
  maxBodySize : ℕ
  dropUnreadableBody : Bool
  deriving DecidableEq, Repr

end CrowdSecBouncer
