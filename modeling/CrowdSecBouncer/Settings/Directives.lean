import CrowdSecBouncer.Captcha.Cookie
import CrowdSecBouncer.Foundations.Lowercase
import CrowdSecBouncer.Settings.HexKey
import CrowdSecBouncer.Settings.Inheritance

/-!
# The directives of a location

Every field of a location configuration is set by a directive, whose handler reads the first
argument, checks it and stores what it means. Most handlers are one pattern (`setParsed`), with
the field, the check and the message of the directive. What has passed the checks keeps on
satisfying them through any sequence of directives and merges (`wellFormed_of_configured`): the
readers of the configuration may rely on it.
-/

namespace CrowdSecBouncer

open Text

/-- Why a directive fails. -/
inductive ConfFailure
  /-- nginx knows no such directive, or not with as many arguments. -/
  | notTaken
  /-- `NGX_CONF_ERROR`, and the module says nothing. -/
  | silent
  /-- The value is not UTF-8, and the decoder's message is reported for the directive. -/
  | notUtf8 (directive : List Char)
  | refused (message : List Char)
  | panicked
  deriving DecidableEq, Repr

/-- `cf.error(dir, &ConfValueError(msg))`. -/
def confError (dir msg : String) : ConfFailure := .refused (dir.toList ++ ": ".toList ++ msg.toList)

/-- Longest site or secret key. -/
def CAPTCHA_PROVIDER_KEY_MAX : ℕ := 256

/-! ### Values -/

def parseOnOff (s : List Char) : Option Bool :=
  if eqIgnoreAsciiCase s "on".toList then some true
  else if eqIgnoreAsciiCase s "off".toList then some false
  else none

/-- `CaptchaProvider::from_str`. -/
def CaptchaProvider.fromStr (s : List Char) : Option CaptchaProvider :=
  let s := toLowercase s
  if s = "hcaptcha".toList then some .hCaptcha
  else if s = "turnstile".toList then some .turnstile
  else if s = "recaptcha".toList then some .reCaptcha
  else none

/-- `CookieSecure::from_str`. -/
def CookieSecure.fromStr (s : List Char) : Option CookieSecure :=
  let s := toLowercase s
  if s = "auto".toList then some .auto
  else if s ∈ ["on".toList, "true".toList, "yes".toList] then some .on
  else if s ∈ ["off".toList, "false".toList, "no".toList] then some .off
  else none

def parseBanAction (s : List Char) : Option BanActionMode :=
  if eqIgnoreAsciiCase s "block".toList then some .block
  else if eqIgnoreAsciiCase s "redirect".toList then some .redirect
  else none

def parseUnenforceableAction (s : List Char) : Option UnenforceableAction :=
  let s := (trim s).map Char.toLower
  if s = "allow".toList then some .allow
  else if s = "block".toList then some .block
  else none

def parseAppSecFailure (s : List Char) : Option AppSecFailureAction :=
  if eqIgnoreAsciiCase s "passthrough".toList then some .passthrough
  else if eqIgnoreAsciiCase s "deny".toList then some .deny
  else none

/-- `crowdsec_ban_redirect_url` must use `http://` or `https://` and fit in a single line. -/
def validateBanRedirectUrl (s : List Char) : Bool :=
  let t := trim s
  t ≠ [] && (utf8Bytes t).length ≤ 2048 && (t.all fun c => c ≠ '\r' && c ≠ '\n') &&
    (eqIgnoreAsciiCase (t.take 7) "http://".toList ||
      eqIgnoreAsciiCase (t.take 8) "https://".toList)

/-- Allowed values for `crowdsec_ban_redirect_code`. -/
def parseBanRedirectCode (s : List Char) : Option ℕ :=
  let t := trim s
  if t = "301".toList then some 301
  else if t = "302".toList then some 302
  else if t = "303".toList then some 303
  else if t = "307".toList then some 307
  else if t = "308".toList then some 308
  else none

def parseBanStatusCode (s : List Char) : Option ℕ :=
  (parseUnsigned 65535 (trim s)).filter fun code => 400 ≤ code ∧ code < 600

/-- Max 30 days. -/
def parseCaptchaExpiry (s : List Char) : Option ℕ :=
  (parseUnsigned (2 ^ 64 - 1) s).filter fun n => 0 < n ∧ n ≤ 86400 * 30

def normalizeStaticExtension (s : List Char) : Option (List Char) :=
  let s := trim s
  if s = [] then none
  else
    let normalized :=
      if s.head? = some '.' then s.map Char.toLower else '.' :: s.map Char.toLower
    if (utf8Bytes normalized).length < 2 then none else some normalized

/-! ### Handlers -/

/-- The handler of a directive, which gets the arguments with the name in front. -/
abbrev Handler := List (List UInt8) → LocConfig → Except ConfFailure LocConfig

/-- The first argument behind the name, as text. -/
def directiveValue (args : List (List UInt8)) : Option (List Char) := args[1]?.bind fromUtf8

/-- The handlers that read one value, check it and store what it means. -/
def setParsed {α : Type} (parse : List Char → Option α) (slot : α → LocConfig → LocConfig)
    (failure : List Char → ConfFailure) : Handler := fun args conf =>
  match directiveValue args with
  | none => .error .silent
  | some value =>
    match parse value with
    | none => .error (failure value)
    | some parsed => .ok (slot parsed conf)

/-- The handlers that check a text and store it as it is. -/
def setChecked (dir : String) (check : List Char → Bool) (msg : String)
    (slot : String → LocConfig → LocConfig) : Handler := fun args conf =>
  match args[1]? with
  | none => .error (confError dir "missing argument")
  | some arg =>
    match fromUtf8 arg with
    | none => .error (.notUtf8 dir.toList)
    | some value =>
      if check value then .ok (slot (String.ofList value) conf) else .error (confError dir msg)

namespace Directives

def setFlagOnOff (dir : String) (slot : Bool → LocConfig → LocConfig) : Handler :=
  setParsed parseOnOff slot fun _ => confError dir "must be on or off"

/-- `appsec_setter!` of the directives with on or off. -/
def appsecFlag (slot : Bool → LocConfig → LocConfig) : Handler :=
  setParsed parseOnOff slot fun _ => .silent

def setCaptchaProviderKey (dir : String) (slot : String → LocConfig → LocConfig) : Handler :=
  setChecked dir
    (fun value => value ≠ [] ∧ (utf8Bytes value).length ≤ CAPTCHA_PROVIDER_KEY_MAX)
    "must be 1-256 bytes (fits the captcha POST context)" slot

/-- Directive handler for `crowdsec on|off;` -/
def setEnable : Handler := setFlagOnOff "crowdsec" fun v conf => { conf with enabled := some v }

/-- Directive handler for `crowdsec_metrics on|off;` -/
def setMetrics : Handler :=
  setFlagOnOff "crowdsec_metrics" fun v conf => { conf with metricsEnabled := some v }

/-- Directive handler for `crowdsec_ban_action block|redirect;` -/
def setBanAction : Handler :=
  setParsed parseBanAction (fun mode conf => { conf with banAction := some mode }) fun _ =>
    .refused "crowdsec: ban_action must be block or redirect".toList

/-- Directive handler for `crowdsec_ban_redirect_url <url>;` -/
def setBanRedirectUrl : Handler :=
  setParsed (fun value => if validateBanRedirectUrl value then some (trim value) else none)
    (fun url conf => { conf with banRedirectUrl := some (String.ofList url) }) fun _ =>
    .refused ("crowdsec: ban_redirect_url must be http:// or https:// and at most 2048 " ++
      "characters").toList

/-- Directive handler for `crowdsec_ban_redirect_code <code>;` -/
def setBanRedirectCode : Handler :=
  setParsed parseBanRedirectCode (fun code conf => { conf with banRedirectCode := some code })
    fun value => .refused
      ("crowdsec: ban_redirect_code must be 301, 302, 303, 307, or 308 (got '".toList ++
        trim value ++ "')".toList)

/-- Directive handler for `crowdsec_ban_status <code>;` (block mode). -/
def setBanStatus : Handler :=
  setParsed parseBanStatusCode (fun code conf => { conf with banStatus := some code })
    fun value => .refused
      ("crowdsec: ban_status must be an HTTP error status 400-599 (got '".toList ++
        trim value ++ "')".toList)

/-- Directive handler for `crowdsec_captcha_provider hcaptcha|turnstile|recaptcha;` -/
def setCaptchaProvider : Handler :=
  setParsed CaptchaProvider.fromStr
    (fun provider conf => { conf with captchaProvider := some provider }) fun value => .refused
      ("crowdsec: invalid captcha provider '".toList ++ value ++
        "' (expected: hcaptcha, turnstile, recaptcha)".toList)

/-- Directive handler for `crowdsec_captcha_site_key <key>;` -/
def setCaptchaSiteKey : Handler :=
  setCaptchaProviderKey "crowdsec_captcha_site_key"
    fun key conf => { conf with captchaSiteKey := some key }

/-- Directive handler for `crowdsec_captcha_secret_key <key>;` -/
def setCaptchaSecretKey : Handler :=
  setCaptchaProviderKey "crowdsec_captcha_secret_key"
    fun key conf => { conf with captchaSecretKey := some key }

/-- Directive handler for `crowdsec_captcha_signing_key <hex-key>;` -/
def setCaptchaSigningKey : Handler := fun args conf =>
  match directiveValue args with
  | none => .error .silent
  | some value =>
    match CrowdSecBouncer.setCaptchaSigningKey value conf with
    | .ok conf => .ok conf
    | .error (.refused message) => .error (.refused message)
    | .error .panicked => .error .panicked

/-- Directive handler for `crowdsec_captcha_cookie_name <name>;` -/
def setCaptchaCookieName : Handler :=
  setChecked "crowdsec_captcha_cookie_name" isCookieName
    "must be 1-64 ASCII letters, digits, '-' or '_'"
    fun name conf => { conf with captchaCookieName := some name }

/-- Directive handler for `crowdsec_captcha_expiry <seconds>;` -/
def setCaptchaExpiry : Handler :=
  setParsed parseCaptchaExpiry (fun n conf => { conf with captchaExpirySecs := some n }) fun _ =>
    .refused "crowdsec: invalid captcha expiry (1-2592000 seconds)".toList

/-- Directive handler for `crowdsec_captcha_fail_open on|off;` -/
def setCaptchaFailOpen : Handler :=
  setFlagOnOff "crowdsec_captcha_fail_open"
    fun v conf => { conf with captchaFailOpen := some v }

/-- Directive handler for `crowdsec_unenforceable_action allow|block;` -/
def setUnenforceableAction : Handler :=
  setParsed parseUnenforceableAction
    (fun action conf => { conf with unenforceableAction := some action }) fun value => .refused
      ("crowdsec: unenforceable_action must be allow or block (got '".toList ++ trim value ++
        "')".toList)

/-- Directive handler for `crowdsec_captcha_bind_ip on|off;` -/
def setCaptchaBindIp : Handler :=
  setFlagOnOff "crowdsec_captcha_bind_ip" fun v conf => { conf with captchaBindIp := some v }

/-- Directive handler for `crowdsec_captcha_cookie_secure auto|on|off;` -/
def setCaptchaCookieSecure : Handler :=
  setParsed CookieSecure.fromStr
    (fun secure conf => { conf with captchaCookieSecure := some secure }) fun value => .refused
      ("crowdsec: invalid cookie_secure value '".toList ++ value ++
        "', expected auto|on|off".toList)

def setAppsecEnabled : Handler := appsecFlag fun v conf => { conf with appsecEnabled := some v }

def setAppsecAlways : Handler := appsecFlag fun v conf => { conf with appsecAlways := some v }

def setBotChallenge : Handler :=
  appsecFlag fun v conf => { conf with botChallengeEnabled := some v }

def setAppsecFailure : Handler :=
  setParsed parseAppSecFailure
    (fun action conf => { conf with appsecFailureAction := some action }) fun _ => .silent

/-- The loop over the extensions: one that is there already is not added again. -/
def addStaticExtensions (list : List String) :
    List (List UInt8) → Except ConfFailure (List String)
  | [] => .ok list
  | token :: tokens =>
    match fromUtf8 token with
    | none => .error .silent
    | some s =>
      if eqIgnoreAsciiCase s "off".toList then
        .error (.refused ("crowdsec: 'off' cannot be combined with other static_extensions " ++
          "arguments").toList)
      else
        match normalizeStaticExtension s with
        | none =>
          .error (.refused
            ("crowdsec: invalid static extension '".toList ++ s ++ "'".toList))
        | some ext =>
          if list.any fun e => eqIgnoreAsciiCase e.toList ext then addStaticExtensions list tokens
          else addStaticExtensions (list ++ [String.ofList ext]) tokens

/-- Directive handler for `crowdsec_static_extensions <ext> ... | off;` -/
def setStaticExtensions : Handler := fun args conf =>
  let more := (addStaticExtensions (conf.staticAssetExtensions.getD []) args.tail).map
    fun list => { conf with staticAssetExtensions := some list }
  if args.length < 2 then .error .silent
  else if args.length = 2 then
    match directiveValue args with
    | none => .error .silent
    | some value =>
      if eqIgnoreAsciiCase value "off".toList then
        .ok { conf with staticAssetExtensions := some [] }
      else more
  else more

end Directives

/-! ### The commands -/

/-- The configuration of a context, and the templates read so far for any context. -/
structure LocState where
  conf : LocConfig
  templateCache : List (List Char × Template)

/-- A directive of a context: its name, whether it takes more than one argument, and what it
does. -/
structure Command where
  name : String
  oneMore : Bool
  set : List (List UInt8) → LocState → Except ConfFailure LocState

/-- A handler that has no use for the template cache. -/
def Command.ofHandler (name : String) (handler : Handler) (oneMore : Bool) : Command :=
  { name, oneMore, set := fun args s => (handler args s.conf).map fun conf => { s with conf } }

section Templates

variable (fromFile : List Char → Except (List Char) Template)

/-- A template by its path. A file is read once: locations with the same file share it. -/
def cachedTemplate (path : List Char) (cache : List (List Char × Template)) :
    Except (List Char) (Template × List (List Char × Template)) :=
  match cache.lookup path with
  | some template => .ok (template, cache)
  | none => (fromFile path).map fun template => (template, (path, template) :: cache)

/-- Directive handlers for `crowdsec_ban_template <path>;` and
`crowdsec_captcha_template <path>;` -/
def Command.template (name kind : String) (slot : Template → LocConfig → LocConfig) : Command where
  name := name
  oneMore := false
  set := fun args s =>
    match directiveValue args with
    | none => .error .silent
    | some path =>
      match cachedTemplate fromFile path s.templateCache with
      | .ok (template, templateCache) => .ok { conf := slot template s.conf, templateCache }
      | .error e =>
        .error (.refused ("crowdsec: failed to load ".toList ++ kind.toList ++
          " template from ".toList ++ path ++ ": ".toList ++ e))

/-- The commands that nginx registers for the configuration of a location. -/
def locCommands : List Command :=
  [.ofHandler "crowdsec" Directives.setEnable false,
   .ofHandler "crowdsec_metrics" Directives.setMetrics false,
   .template fromFile "crowdsec_ban_template" "ban"
     fun template conf => { conf with banTemplate := some template },
   .ofHandler "crowdsec_ban_action" Directives.setBanAction false,
   .ofHandler "crowdsec_ban_redirect_url" Directives.setBanRedirectUrl false,
   .ofHandler "crowdsec_ban_redirect_code" Directives.setBanRedirectCode false,
   .ofHandler "crowdsec_ban_status" Directives.setBanStatus false,
   .ofHandler "crowdsec_captcha_provider" Directives.setCaptchaProvider false,
   .ofHandler "crowdsec_captcha_site_key" Directives.setCaptchaSiteKey false,
   .ofHandler "crowdsec_captcha_secret_key" Directives.setCaptchaSecretKey false,
   .ofHandler "crowdsec_captcha_signing_key" Directives.setCaptchaSigningKey false,
   .ofHandler "crowdsec_captcha_cookie_name" Directives.setCaptchaCookieName false,
   .ofHandler "crowdsec_captcha_expiry" Directives.setCaptchaExpiry false,
   .ofHandler "crowdsec_captcha_fail_open" Directives.setCaptchaFailOpen false,
   .ofHandler "crowdsec_unenforceable_action" Directives.setUnenforceableAction false,
   .ofHandler "crowdsec_captcha_bind_ip" Directives.setCaptchaBindIp false,
   .ofHandler "crowdsec_captcha_cookie_secure" Directives.setCaptchaCookieSecure false,
   .template fromFile "crowdsec_captcha_template" "captcha"
     fun template conf => { conf with captchaTemplate := some template },
   .ofHandler "crowdsec_appsec" Directives.setAppsecEnabled false,
   .ofHandler "crowdsec_appsec_always" Directives.setAppsecAlways false,
   .ofHandler "crowdsec_static_extensions" Directives.setStaticExtensions true,
   .ofHandler "crowdsec_appsec_failure_action" Directives.setAppsecFailure false,
   .ofHandler "crowdsec_bot_challenge" Directives.setBotChallenge false]

/-- One directive: nginx finds the command by the name and checks the number of arguments. -/
def applyDirective (args : List (List UInt8)) (s : LocState) : Except ConfFailure LocState :=
  match (locCommands fromFile).find? fun c => args.head? == some (utf8Bytes c.name.toList) with
  | none => .error .notTaken
  | some c =>
    if args.length = 2 ∨ c.oneMore = true ∧ 2 < args.length then c.set args s
    else .error .notTaken

/-- The configurations that directives and merges lead to, in any order. -/
inductive Configured : LocConfig → Prop
  | empty : Configured {}
  | directive {s s' : LocState} {args : List (List UInt8)} (h : Configured s.conf)
      (hset : applyDirective fromFile args s = .ok s') : Configured s'.conf
  | merged {self prev conf : LocConfig} (hself : Configured self) (hprev : Configured prev)
      (hmerge : self.mergeFrom prev = .ok conf) : Configured conf

end Templates

/-! ### What has passed the checks -/

/-- A site or secret key: it fits the captcha POST context. -/
def IsProviderKey (key : List Char) : Prop :=
  0 < (utf8Bytes key).length ∧ (utf8Bytes key).length ≤ CAPTCHA_PROVIDER_KEY_MAX

instance (key : List Char) : Decidable (IsProviderKey key) := inferInstanceAs (Decidable (_ ∧ _))

/-- An extension as it is stored: with a dot in front, in lower case. -/
structure IsStaticExtension (ext : List Char) : Prop where
  dot : ext.head? = some '.'
  length : 2 ≤ (utf8Bytes ext).length
  lower : ext.map Char.toLower = ext

/-- The captcha texts of a location have passed the checks of their directives. -/
structure LocConfig.Accepted (loc : LocConfig) : Prop where
  siteKey : ∀ key ∈ loc.captchaSiteKey, IsProviderKey key.toList
  secretKey : ∀ key ∈ loc.captchaSecretKey, IsProviderKey key.toList
  cookieName : ∀ name ∈ loc.captchaCookieName, isCookieName name.toList = true

/-- What a location has set has passed the checks of the directives. -/
structure LocConfig.WellFormed (loc : LocConfig) : Prop extends loc.Accepted where
  banRedirectUrl : ∀ url ∈ loc.banRedirectUrl,
    validateBanRedirectUrl url.toList = true ∧ IsTrimmed url.toList
  banRedirectCode : ∀ code ∈ loc.banRedirectCode, code ∈ [301, 302, 303, 307, 308]
  banStatus : ∀ code ∈ loc.banStatus, 400 ≤ code ∧ code < 600
  captchaExpirySecs : ∀ n ∈ loc.captchaExpirySecs, 0 < n ∧ n ≤ 86400 * 30
  staticAssetExtensions : ∀ exts ∈ loc.staticAssetExtensions,
    (∀ ext ∈ exts, IsStaticExtension ext.toList) ∧
      exts.Pairwise fun ext ext' => eqIgnoreAsciiCase ext.toList ext'.toList = false

variable {α : Type} {args : List (List UInt8)} {conf conf' : LocConfig} {value : List Char}

theorem setParsed_eq_ok {parse : List Char → Option α} {slot : α → LocConfig → LocConfig}
    {failure : List Char → ConfFailure} (h : setParsed parse slot failure args conf = .ok conf') :
    ∃ value parsed, directiveValue args = some value ∧ parse value = some parsed ∧
      conf' = slot parsed conf := by
  rw [setParsed] at h
  split at h
  · exact absurd h (by simp)
  · next value hvalue =>
    split at h
    · exact absurd h (by simp)
    · next parsed hparsed => exact ⟨value, parsed, hvalue, hparsed, (Except.ok.inj h).symm⟩

theorem setChecked_eq_ok {dir msg : String} {check : List Char → Bool}
    {slot : String → LocConfig → LocConfig}
    (h : setChecked dir check msg slot args conf = .ok conf') :
    ∃ value, directiveValue args = some value ∧ check value = true ∧
      conf' = slot (String.ofList value) conf := by
  rw [setChecked] at h
  split at h
  · exact absurd h (by simp)
  · next arg harg =>
    split at h
    · exact absurd h (by simp)
    · next value hvalue =>
      split at h
      · next hcheck =>
        refine ⟨value, ?_, hcheck, (Except.ok.inj h).symm⟩
        rw [directiveValue, harg]
        exact hvalue
      · exact absurd h (by simp)

/-- **A key is stored** exactly when it is UTF-8 of 1 to 256 bytes. -/
theorem setCaptchaProviderKey_eq_ok_iff {dir : String} {slot : String → LocConfig → LocConfig} :
    Directives.setCaptchaProviderKey dir slot args conf = .ok conf' ↔
      ∃ value, directiveValue args = some value ∧ IsProviderKey value ∧
        conf' = slot (String.ofList value) conf := by
  constructor
  · intro h
    obtain ⟨value, hvalue, hcheck, heq⟩ := setChecked_eq_ok h
    obtain ⟨hne, hlen⟩ := of_decide_eq_true hcheck
    have hpos := List.length_pos_iff.mpr hne
    exact ⟨value, hvalue, ⟨hpos.trans_le (length_le_length_utf8Bytes value), hlen⟩, heq⟩
  · rintro ⟨value, hvalue, ⟨hpos, hlen⟩, rfl⟩
    obtain ⟨arg, harg, hutf8⟩ := Option.bind_eq_some_iff.mp hvalue
    have hne : value ≠ [] := by
      rintro rfl
      exact absurd hpos (by decide)
    simp only [Directives.setCaptchaProviderKey, setChecked, harg, hutf8]
    exact if_pos (decide_eq_true ⟨hne, hlen⟩)

/-! ### Parsed values -/

theorem mem_of_parseBanRedirectCode {code : ℕ} (h : parseBanRedirectCode value = some code) :
    code ∈ [301, 302, 303, 307, 308] := by
  simp only [parseBanRedirectCode] at h
  grind

theorem range_of_parseBanStatusCode {code : ℕ} (h : parseBanStatusCode value = some code) :
    400 ≤ code ∧ code < 600 := by
  rw [parseBanStatusCode, Option.filter_eq_some_iff] at h
  exact of_decide_eq_true h.2

theorem range_of_parseCaptchaExpiry {n : ℕ} (h : parseCaptchaExpiry value = some n) :
    0 < n ∧ n ≤ 86400 * 30 := by
  rw [parseCaptchaExpiry, Option.filter_eq_some_iff] at h
  exact of_decide_eq_true h.2

theorem validateBanRedirectUrl_trim (value : List Char) :
    validateBanRedirectUrl (trim value) = validateBanRedirectUrl value := by
  rw [validateBanRedirectUrl, trim_trim]
  rfl

theorem redirectUrl_of_validated {url : List Char}
    (h : (if validateBanRedirectUrl value then some (trim value) else none) = some url) :
    validateBanRedirectUrl (String.ofList url).toList = true ∧
      IsTrimmed (String.ofList url).toList := by
  obtain ⟨hvalid, heq⟩ := Option.ite_none_right_eq_some.mp h
  obtain rfl := Option.some_injective _ heq
  rw [String.toList_ofList, validateBanRedirectUrl_trim]
  exact ⟨hvalid, isTrimmed_trim value⟩

theorem toLower_toLower (c : Char) : c.toLower.toLower = c.toLower := by
  by_cases hascii : c.toNat < 128
  · exact forall_ascii (P := fun c => c.toLower.toLower = c.toLower) (by decide) hascii
  · have hsame : c.toLower = c := dif_neg fun h => by
      have hle : c.toNat ≤ 90 := h.2
      omega
    rw [hsame, hsame]

theorem map_toLower_map_toLower (cs : List Char) :
    (cs.map Char.toLower).map Char.toLower = cs.map Char.toLower := by
  rw [List.map_map]
  exact List.map_congr_left fun c _ => toLower_toLower c

theorem isStaticExtension_of_normalize {ext : List Char}
    (h : normalizeStaticExtension value = some ext) : IsStaticExtension ext := by
  have hlower : ('.' :: (trim value).map Char.toLower).map Char.toLower =
      '.' :: (trim value).map Char.toLower := by
    rw [List.map_cons, map_toLower_map_toLower]
    rfl
  have hext (normalized : List Char) (hdot : normalized.head? = some '.')
      (hmap : normalized.map Char.toLower = normalized)
      (h : (if (utf8Bytes normalized).length < 2 then none else some normalized) = some ext) :
      IsStaticExtension ext := by
    obtain ⟨hlen, heq⟩ := Option.ite_none_left_eq_some.mp h
    obtain rfl := Option.some_injective _ heq
    exact ⟨hdot, Nat.not_lt.mp hlen, hmap⟩
  rw [normalizeStaticExtension, Option.ite_none_left_eq_some] at h
  obtain ⟨-, h⟩ := h
  split at h
  · next hdot =>
    refine hext _ ?_ (map_toLower_map_toLower _) h
    rw [List.head?_map, hdot]
    rfl
  · exact hext _ rfl hlower h

/-- The loop keeps extensions of the right form, and different ones. -/
theorem addStaticExtensions_spec {list list' : List String} {tokens : List (List UInt8)}
    (h : Directives.addStaticExtensions list tokens = .ok list')
    (hforms : ∀ ext ∈ list, IsStaticExtension ext.toList)
    (hpairs : list.Pairwise fun ext ext' => eqIgnoreAsciiCase ext.toList ext'.toList = false) :
    (∀ ext ∈ list', IsStaticExtension ext.toList) ∧
      list'.Pairwise fun ext ext' => eqIgnoreAsciiCase ext.toList ext'.toList = false := by
  induction tokens generalizing list with
  | nil =>
    obtain rfl := Except.ok.inj h
    exact ⟨hforms, hpairs⟩
  | cons token tokens ih =>
    rw [Directives.addStaticExtensions] at h
    split at h
    · exact absurd h (by simp)
    · next s hs =>
      split at h
      · exact absurd h (by simp)
      · split at h
        · exact absurd h (by simp)
        · next ext hnormalize =>
          split at h
          · exact ih h hforms hpairs
          · next hnew =>
            have hext := isStaticExtension_of_normalize hnormalize
            refine ih h ?_ ?_
            · intro e he
              rcases List.mem_append.mp he with he | he
              · exact hforms e he
              · rw [List.mem_singleton.mp he, String.toList_ofList]
                exact hext
            · refine List.pairwise_append.mpr ⟨hpairs, List.pairwise_singleton .., ?_⟩
              intro e he e' he'
              rw [List.mem_singleton.mp he', String.toList_ofList]
              simp only [List.any_eq_true, not_exists, not_and, Bool.not_eq_true] at hnew
              exact hnew e he

/-! ### Every directive keeps what has passed the checks -/

/-- Where the handler succeeds the configuration stays well formed. -/
def Handler.KeepsWellFormed (handler : Handler) : Prop :=
  ∀ args conf conf', handler args conf = .ok conf' → conf.WellFormed → conf'.WellFormed

theorem keepsWellFormed_setParsed {parse : List Char → Option α} {slot : α → LocConfig → LocConfig}
    {failure : List Char → ConfFailure}
    (hslot : ∀ value parsed conf, parse value = some parsed → conf.WellFormed →
      (slot parsed conf).WellFormed) :
    Handler.KeepsWellFormed (setParsed parse slot failure) := by
  intro args conf conf' h hconf
  obtain ⟨value, parsed, -, hparsed, rfl⟩ := setParsed_eq_ok h
  exact hslot value parsed conf hparsed hconf

theorem keepsWellFormed_setChecked {dir msg : String} {check : List Char → Bool}
    {slot : String → LocConfig → LocConfig}
    (hslot : ∀ value conf, check value.toList = true → conf.WellFormed →
      (slot value conf).WellFormed) :
    Handler.KeepsWellFormed (setChecked dir check msg slot) := by
  intro args conf conf' h hconf
  obtain ⟨value, -, hcheck, rfl⟩ := setChecked_eq_ok h
  exact hslot (String.ofList value) conf (by rwa [String.toList_ofList]) hconf

theorem keepsWellFormed_setCaptchaProviderKey {dir : String}
    {slot : String → LocConfig → LocConfig}
    (hslot : ∀ key conf, IsProviderKey key.toList → conf.WellFormed → (slot key conf).WellFormed) :
    Handler.KeepsWellFormed (Directives.setCaptchaProviderKey dir slot) := by
  intro args conf conf' h hconf
  obtain ⟨value, -, hkey, rfl⟩ := setCaptchaProviderKey_eq_ok_iff.mp h
  exact hslot (String.ofList value) conf (by rwa [String.toList_ofList]) hconf

theorem forall_mem_some {P : α → Prop} {a : α} (h : P a) : ∀ b ∈ some a, P b :=
  fun _ hb => Option.mem_some_iff.mp hb ▸ h

theorem keepsWellFormed_setStaticExtensions :
    Handler.KeepsWellFormed Directives.setStaticExtensions := by
  intro args conf conf' h hconf
  have hold : (∀ ext ∈ conf.staticAssetExtensions.getD [], IsStaticExtension ext.toList) ∧
      (conf.staticAssetExtensions.getD []).Pairwise fun ext ext' =>
        eqIgnoreAsciiCase ext.toList ext'.toList = false := by
    cases hexts : conf.staticAssetExtensions with
    | none => exact ⟨by simp, .nil⟩
    | some exts => exact hconf.staticAssetExtensions exts hexts
  have hmore
      (h : (Directives.addStaticExtensions (conf.staticAssetExtensions.getD []) args.tail).map
        (fun list => { conf with staticAssetExtensions := some list }) = .ok conf') :
      conf'.WellFormed := by
    obtain ⟨list, hadd, rfl⟩ := Layers.map_eq_ok_iff.mp h
    have hnew := addStaticExtensions_spec hadd hold.1 hold.2
    exact { hconf with staticAssetExtensions := forall_mem_some hnew }
  rw [Directives.setStaticExtensions] at h
  split at h
  · exact absurd h (by simp)
  · split at h
    · split at h
      · exact absurd h (by simp)
      · split at h
        · obtain rfl := Except.ok.inj h
          exact { hconf with staticAssetExtensions := forall_mem_some ⟨by simp, .nil⟩ }
        · exact hmore h
    · exact hmore h

theorem keepsWellFormed_setCaptchaSigningKey :
    Handler.KeepsWellFormed Directives.setCaptchaSigningKey := by
  intro args conf conf' h hconf
  rw [Directives.setCaptchaSigningKey] at h
  split at h
  · exact absurd h (by simp)
  · split at h
    · next value hvalue conf'' hset =>
      obtain rfl := Except.ok.inj h
      rw [CrowdSecBouncer.setCaptchaSigningKey] at hset
      split at hset
      · obtain rfl := Except.ok.inj hset
        exact { hconf with }
      · exact absurd hset (by simp)
      · exact absurd hset (by simp)
    · exact absurd h (by simp)
    · exact absurd h (by simp)

/-- A flag of either family. -/
theorem keepsWellFormed_flag {slot : Bool → LocConfig → LocConfig}
    {failure : List Char → ConfFailure}
    (hslot : ∀ v conf, conf.WellFormed → (slot v conf).WellFormed) :
    Handler.KeepsWellFormed (setParsed parseOnOff slot failure) :=
  keepsWellFormed_setParsed fun _ v conf _ hconf => hslot v conf hconf

theorem Command.set_ofHandler {name : String} {handler : Handler} {oneMore : Bool} {s s' : LocState}
    (h : (Command.ofHandler name handler oneMore).set args s = .ok s') :
    handler args s.conf = .ok s'.conf ∧ s'.templateCache = s.templateCache := by
  obtain ⟨conf, hconf, rfl⟩ := Layers.map_eq_ok_iff.mp h
  exact ⟨hconf, rfl⟩

/-- Where the command succeeds the configuration stays well formed. -/
def Command.KeepsWellFormed (c : Command) : Prop :=
  ∀ args s s', c.set args s = .ok s' → s.conf.WellFormed → s'.conf.WellFormed

theorem Command.KeepsWellFormed.ofHandler {handler : Handler} {name : String} {oneMore : Bool}
    (h : handler.KeepsWellFormed) :
    (Command.ofHandler name handler oneMore).KeepsWellFormed :=
  fun args s _ hset hs => h args s.conf _ (Command.set_ofHandler hset).1 hs

section Commands

variable (fromFile : List Char → Except (List Char) Template)

theorem Command.set_template {name kind : String} {slot : Template → LocConfig → LocConfig}
    {s s' : LocState} (h : (Command.template fromFile name kind slot).set args s = .ok s') :
    ∃ path template, directiveValue args = some path ∧
      cachedTemplate fromFile path s.templateCache = .ok (template, s'.templateCache) ∧
      s'.conf = slot template s.conf := by
  simp only [Command.template] at h
  split at h
  · exact absurd h (by simp)
  · next path hpath =>
    split at h
    · next template cache hcached =>
      obtain rfl := Except.ok.inj h
      exact ⟨path, template, hpath, hcached, rfl⟩
    · exact absurd h (by simp)

theorem Command.KeepsWellFormed.template {name kind : String}
    {slot : Template → LocConfig → LocConfig}
    (hslot : ∀ template conf, conf.WellFormed → (slot template conf).WellFormed) :
    (Command.template fromFile name kind slot).KeepsWellFormed := by
  intro args s s' h hs
  obtain ⟨path, template, -, -, hconf⟩ := Command.set_template fromFile h
  exact hconf ▸ hslot template s.conf hs

/-- Every command of the table keeps what has passed the checks. -/
theorem keepsWellFormed_locCommands : ∀ c ∈ locCommands fromFile, c.KeepsWellFormed := by
  simp only [locCommands, List.forall_mem_cons]
  exact ⟨.ofHandler (keepsWellFormed_flag fun _ _ h => { h with }),
    .ofHandler (keepsWellFormed_flag fun _ _ h => { h with }),
    .template fromFile fun _ _ h => { h with },
    .ofHandler (keepsWellFormed_setParsed fun _ _ _ _ h => { h with }),
    .ofHandler (keepsWellFormed_setParsed fun value url conf hurl h =>
      { h with banRedirectUrl := forall_mem_some (redirectUrl_of_validated hurl) }),
    .ofHandler (keepsWellFormed_setParsed fun value code conf hcode h =>
      { h with banRedirectCode := forall_mem_some (mem_of_parseBanRedirectCode hcode) }),
    .ofHandler (keepsWellFormed_setParsed fun value code conf hcode h =>
      { h with banStatus := forall_mem_some (range_of_parseBanStatusCode hcode) }),
    .ofHandler (keepsWellFormed_setParsed fun _ _ _ _ h => { h with }),
    .ofHandler (keepsWellFormed_setCaptchaProviderKey fun key conf hkey h =>
      { h with siteKey := forall_mem_some hkey }),
    .ofHandler (keepsWellFormed_setCaptchaProviderKey fun key conf hkey h =>
      { h with secretKey := forall_mem_some hkey }),
    .ofHandler keepsWellFormed_setCaptchaSigningKey,
    .ofHandler (keepsWellFormed_setChecked fun name conf hname h =>
      { h with cookieName := forall_mem_some hname }),
    .ofHandler (keepsWellFormed_setParsed fun value n conf hn h =>
      { h with captchaExpirySecs := forall_mem_some (range_of_parseCaptchaExpiry hn) }),
    .ofHandler (keepsWellFormed_flag fun _ _ h => { h with }),
    .ofHandler (keepsWellFormed_setParsed fun _ _ _ _ h => { h with }),
    .ofHandler (keepsWellFormed_flag fun _ _ h => { h with }),
    .ofHandler (keepsWellFormed_setParsed fun _ _ _ _ h => { h with }),
    .template fromFile fun _ _ h => { h with },
    .ofHandler (keepsWellFormed_flag fun _ _ h => { h with }),
    .ofHandler (keepsWellFormed_flag fun _ _ h => { h with }),
    .ofHandler keepsWellFormed_setStaticExtensions,
    .ofHandler (keepsWellFormed_setParsed fun _ _ _ _ h => { h with }),
    .ofHandler (keepsWellFormed_flag fun _ _ h => { h with }),
    fun _ h => absurd h List.not_mem_nil⟩

variable {fromFile} {s s' : LocState} {cache cache' : List (List Char × Template)}

theorem applyDirective_eq_ok (h : applyDirective fromFile args s = .ok s') :
    ∃ c ∈ locCommands fromFile, c.set args s = .ok s' := by
  rw [applyDirective] at h
  split at h
  · exact absurd h (by simp)
  · next c hc =>
    split at h
    · exact ⟨c, List.mem_of_find?_eq_some hc, h⟩
    · exact absurd h (by simp)

/-- What a context inherits has passed the checks where it was set. -/
theorem wellFormed_inheritFrom {self prev : LocConfig} (hself : self.WellFormed)
    (hprev : prev.WellFormed) : (self.inheritFrom prev).WellFormed := by
  have hor {β : Type} {P : β → Prop} {o o' : Option β} (h : ∀ b ∈ o, P b) (h' : ∀ b ∈ o', P b) :
      ∀ b ∈ o.or o', P b := by
    cases o with
    | none => exact h'
    | some b => exact h
  exact {
    siteKey := hor hself.siteKey hprev.siteKey
    secretKey := hor hself.secretKey hprev.secretKey
    cookieName := hor hself.cookieName hprev.cookieName
    banRedirectUrl := hor hself.banRedirectUrl hprev.banRedirectUrl
    banRedirectCode := hor hself.banRedirectCode hprev.banRedirectCode
    banStatus := hor hself.banStatus hprev.banStatus
    captchaExpirySecs := hor hself.captchaExpirySecs hprev.captchaExpirySecs
    staticAssetExtensions := hor hself.staticAssetExtensions hprev.staticAssetExtensions }

/-- **What is configured has passed the checks**, whatever directives stand in whatever contexts
and in whatever order they are merged. -/
theorem wellFormed_of_configured (h : Configured fromFile conf) : conf.WellFormed := by
  induction h with
  | empty => exact ⟨⟨nofun, nofun, nofun⟩, nofun, nofun, nofun, nofun, nofun⟩
  | directive _ hset ih =>
    obtain ⟨c, hc, hset⟩ := applyDirective_eq_ok hset
    exact keepsWellFormed_locCommands fromFile c hc _ _ _ hset ih
  | merged _ _ hmerge ihself ihprev =>
    obtain ⟨-, rfl⟩ := Layers.merge_eq_ok_iff.mp hmerge
    exact wellFormed_inheritFrom ihself ihprev

/-- So has the merged context of a chain. -/
theorem configured_mergeChain {outermost merged : LocConfig} {inner : List LocConfig}
    (houtermost : Configured fromFile outermost) (hinner : ∀ c ∈ inner, Configured fromFile c)
    (h : outermost.mergeChain inner = .ok merged) : Configured fromFile merged :=
  Layers.mergeAll_induction houtermost
    (fun _ c hc _ hprev hmerge => .merged (hinner c hc) hprev hmerge) h

/-! ### A block of directives -/

/-- The configuration that directives lead to, one after the other. -/
def configure (fromFile : List Char → Except (List Char) Template)
    (directives : List (List String)) : Option LocConfig :=
  (directives.foldlM (fun s args =>
    applyDirective fromFile (args.map fun arg => utf8Bytes arg.toList) s)
    ⟨{}, []⟩).toOption.map LocState.conf

theorem configured_of_configure {fromFile : List Char → Except (List Char) Template}
    {directives : List (List String)} {conf : LocConfig}
    (h : configure fromFile directives = some conf) : Configured fromFile conf := by
  obtain ⟨s, hs, rfl⟩ := Option.map_eq_some_iff.mp h
  exact Layers.foldlM_induction (P := fun s => Configured fromFile s.conf) .empty
    (fun _ _ _ _ hs hset => .directive hs hset) (Layers.toOption_eq_some_iff.mp hs)

end Commands

/-! ### What the readers get -/

/-- The filter of `banStatusCode` has nothing to do. -/
theorem LocConfig.WellFormed.banStatusCode (h : conf.WellFormed) :
    conf.banStatusCode = conf.banStatus.getD 403 := by
  rw [LocConfig.banStatusCode]
  cases hstatus : conf.banStatus with
  | none => rfl
  | some code => rw [Option.filter_some, if_pos (decide_eq_true (h.banStatus code hstatus))]

/-- The texts of the captcha settings have passed the checks, and so does the name that a cookie
has when none is set. -/
theorem LocConfig.Accepted.captchaConfig {config : CaptchaConfig} (h : conf.Accepted)
    (hconfig : conf.captchaConfig = some config) :
    IsProviderKey config.siteKey.toList ∧ IsProviderKey config.secretKey.toList ∧
      isCookieName config.cookieName.toList = true := by
  simp only [LocConfig.captchaConfig, bind, Option.bind_eq_some_iff] at hconfig
  obtain ⟨provider, -, siteKey, hsite, secretKey, hsecret, signingKey, -, hconfig⟩ := hconfig
  obtain ⟨-, heq⟩ := Option.ite_none_left_eq_some.mp hconfig
  obtain rfl := Option.some_injective _ heq
  refine ⟨h.siteKey siteKey hsite, h.secretKey secretKey hsecret, ?_⟩
  have hdefault : isCookieName "crowdsec_captcha".toList = true := by decide
  cases hcookie : conf.captchaCookieName with
  | none => exact hdefault
  | some name => exact h.cookieName name hcookie

end CrowdSecBouncer
