import CrowdSecBouncer.Foundations.Layers
import CrowdSecBouncer.Http.Config
import Mathlib.Data.List.Forall2

/-!
# Inherited settings

Every `http`, `server` and `location` context has a configuration of its own, in which a field is
`none` when the context does not set it. Contexts are merged from the outside in: each takes what
it does not set from the merged context around it, and the result is validated. Merging is a
checked overlay of layers, so that a nested context has the innermost setting of its chain
(`mergeChain_innermost`), whatever the depth; only `crowdsec_metrics` is never inherited. The merges
that nginx asks for, context by context, are those of the chains (`forall₂_mergeContexts`).
-/

namespace CrowdSecBouncer

open Layers

namespace LocConfig

/-- What is not set is taken from `prev`. `crowdsec_metrics` is location-only: it is not inherited
to every child. -/
def inheritFrom (self prev : LocConfig) : LocConfig :=
  { self with
    enabled := self.enabled.or prev.enabled
    banTemplate := self.banTemplate.or prev.banTemplate
    banAction := self.banAction.or prev.banAction
    banRedirectUrl := self.banRedirectUrl.or prev.banRedirectUrl
    banRedirectCode := self.banRedirectCode.or prev.banRedirectCode
    banStatus := self.banStatus.or prev.banStatus
    captchaTemplate := self.captchaTemplate.or prev.captchaTemplate
    captchaProvider := self.captchaProvider.or prev.captchaProvider
    captchaSiteKey := self.captchaSiteKey.or prev.captchaSiteKey
    captchaSecretKey := self.captchaSecretKey.or prev.captchaSecretKey
    captchaSigningKey := self.captchaSigningKey.or prev.captchaSigningKey
    captchaCookieName := self.captchaCookieName.or prev.captchaCookieName
    captchaExpirySecs := self.captchaExpirySecs.or prev.captchaExpirySecs
    captchaFailOpen := self.captchaFailOpen.or prev.captchaFailOpen
    unenforceableAction := self.unenforceableAction.or prev.unenforceableAction
    captchaBindIp := self.captchaBindIp.or prev.captchaBindIp
    captchaCookieSecure := self.captchaCookieSecure.or prev.captchaCookieSecure
    appsecEnabled := self.appsecEnabled.or prev.appsecEnabled
    appsecAlways := self.appsecAlways.or prev.appsecAlways
    staticAssetExtensions := self.staticAssetExtensions.or prev.staticAssetExtensions
    appsecFailureAction := self.appsecFailureAction.or prev.appsecFailureAction
    botChallengeEnabled := self.botChallengeEnabled.or prev.botChallengeEnabled }

/-- Merge inherited fields from `prev`, then validate enforcement settings. -/
def mergeFrom (self prev : LocConfig) : Except String LocConfig :=
  let self := self.inheritFrom prev
  self.validateEnforcement.map fun _ => self

/-- The configuration of the innermost of nested contexts, once they are merged from the
outside in. -/
def mergeChain (outermost : LocConfig) (inner : List LocConfig) : Except String LocConfig :=
  inner.foldlM (fun prev conf => conf.mergeFrom prev) outermost

end LocConfig

/-- What merging notes in the main configuration. -/
structure RequestedFeatures where
  /-- Set when any merged location has `crowdsec on` (including inherited). -/
  enforcementRequested : Bool := false
  /-- Set when any merged location has `crowdsec_appsec on` (including inherited). -/
  appsecRequested : Bool := false
  deriving DecidableEq, Repr

/-- `merge_loc_conf`: one merge that nginx asks for, with the message of a failure. -/
def mergeLocConf (main : RequestedFeatures) (prev conf : LocConfig) :
    Except (List Char) (LocConfig × RequestedFeatures) :=
  match conf.mergeFrom prev with
  | .ok conf => .ok (conf, {
      enforcementRequested := main.enforcementRequested || conf.enabled == some true
      appsecRequested := main.appsecRequested || conf.appsecEnabled == some true })
  | .error msg => .error ("crowdsec: ".toList ++ msg.toList)

/-- Contexts side by side: the first of them, those inside it, and those behind it. -/
inductive Contexts (α : Type)
  | nil
  | cons (context : α) (inner behind : Contexts α)

/-- Every context behind those around it, from the outside in. -/
def Contexts.chains {α : Type} : Contexts α → List (List α)
  | nil => []
  | cons context inner behind =>
    [context] :: (inner.chains.map (context :: ·) ++ behind.chains)

def Contexts.map {α β : Type} (f : α → β) : Contexts α → Contexts β
  | nil => nil
  | cons context inner behind => cons (f context) (inner.map f) (behind.map f)

/-- The merges of all contexts inside one that is merged to `prev`, in the order nginx asks for
them: a context before those inside it. -/
def mergeContexts (main : RequestedFeatures) (prev : LocConfig) :
    Contexts LocConfig → Except (List Char) (List LocConfig × RequestedFeatures)
  | .nil => .ok ([], main)
  | .cons conf inner behind => do
    let (conf, main) ← mergeLocConf main prev conf
    let (inside, main) ← mergeContexts main conf inner
    let (others, main) ← mergeContexts main prev behind
    .ok (conf :: (inside ++ others), main)

/-- The fields of a location that its nested contexts inherit, with the types of their values. -/
inductive Inherited : Type → Type
  | enabled : Inherited Bool
  | banTemplate : Inherited Template
  | banAction : Inherited BanActionMode
  | banRedirectUrl : Inherited String
  | banRedirectCode : Inherited ℕ
  | banStatus : Inherited ℕ
  | captchaTemplate : Inherited Template
  | captchaProvider : Inherited CaptchaProvider
  | captchaSiteKey : Inherited String
  | captchaSecretKey : Inherited String
  | captchaSigningKey : Inherited (Vector UInt8 32)
  | captchaCookieName : Inherited String
  | captchaExpirySecs : Inherited ℕ
  | captchaFailOpen : Inherited Bool
  | unenforceableAction : Inherited UnenforceableAction
  | captchaBindIp : Inherited Bool
  | captchaCookieSecure : Inherited CookieSecure
  | appsecEnabled : Inherited Bool
  | appsecAlways : Inherited Bool
  | staticAssetExtensions : Inherited (List String)
  | appsecFailureAction : Inherited AppSecFailureAction
  | botChallengeEnabled : Inherited Bool

namespace Inherited

/-- The value of the field, `none` if the context does not set it. -/
def get {α : Type} : Inherited α → LocConfig → Option α
  | enabled => LocConfig.enabled
  | banTemplate => LocConfig.banTemplate
  | banAction => LocConfig.banAction
  | banRedirectUrl => LocConfig.banRedirectUrl
  | banRedirectCode => LocConfig.banRedirectCode
  | banStatus => LocConfig.banStatus
  | captchaTemplate => LocConfig.captchaTemplate
  | captchaProvider => LocConfig.captchaProvider
  | captchaSiteKey => LocConfig.captchaSiteKey
  | captchaSecretKey => LocConfig.captchaSecretKey
  | captchaSigningKey => LocConfig.captchaSigningKey
  | captchaCookieName => LocConfig.captchaCookieName
  | captchaExpirySecs => LocConfig.captchaExpirySecs
  | captchaFailOpen => LocConfig.captchaFailOpen
  | unenforceableAction => LocConfig.unenforceableAction
  | captchaBindIp => LocConfig.captchaBindIp
  | captchaCookieSecure => LocConfig.captchaCookieSecure
  | appsecEnabled => LocConfig.appsecEnabled
  | appsecAlways => LocConfig.appsecAlways
  | staticAssetExtensions => LocConfig.staticAssetExtensions
  | appsecFailureAction => LocConfig.appsecFailureAction
  | botChallengeEnabled => LocConfig.botChallengeEnabled

end Inherited

namespace LocConfig

/-- The settings of a context inside others: each is that of the innermost context that has it, but
for `crowdsec_metrics`, which is the context's own, and together they can be enforced. -/
structure SettingsOf (outermost : LocConfig) (inner : List LocConfig)
    (conf : LocConfig) : Prop where
  inherited : ∀ (α : Type) (field : Inherited α),
    field.get conf = innermost field.get (outermost :: inner)
  metricsEnabled : conf.metricsEnabled =
    ((outermost :: inner).getLast (List.cons_ne_nil outermost inner)).metricsEnabled
  enforceable : conf.validateEnforcement = .ok ()

variable {α : Type} {self prev conf outermost merged : LocConfig} {inner : List LocConfig}

/-- A field of the merged context is its own where it sets it, and is inherited otherwise. -/
theorem get_inheritFrom (field : Inherited α) (self prev : LocConfig) :
    field.get (self.inheritFrom prev) = (field.get self).or (field.get prev) := by
  cases field <;> rfl

theorem metricsEnabled_inheritFrom (self prev : LocConfig) :
    (self.inheritFrom prev).metricsEnabled = self.metricsEnabled := rfl

/-- There are no fields but the inherited ones and `metricsEnabled`. -/
theorem ext_inherited
    (hfields : ∀ (α : Type) (field : Inherited α), field.get self = field.get prev)
    (hmetrics : self.metricsEnabled = prev.metricsEnabled) : self = prev := by
  cases self
  cases prev
  rw [mk.injEq]
  exact ⟨hfields _ .enabled, hfields _ .banTemplate, hfields _ .banAction,
    hfields _ .banRedirectUrl, hfields _ .banRedirectCode, hfields _ .banStatus, hmetrics,
    hfields _ .captchaTemplate, hfields _ .captchaProvider, hfields _ .captchaSiteKey,
    hfields _ .captchaSecretKey, hfields _ .captchaSigningKey, hfields _ .captchaCookieName,
    hfields _ .captchaExpirySecs, hfields _ .captchaFailOpen, hfields _ .unenforceableAction,
    hfields _ .captchaBindIp, hfields _ .captchaCookieSecure, hfields _ .appsecEnabled,
    hfields _ .appsecAlways, hfields _ .appsecFailureAction, hfields _ .botChallengeEnabled,
    hfields _ .staticAssetExtensions⟩

theorem inheritFrom_assoc (a b c : LocConfig) :
    c.inheritFrom (b.inheritFrom a) = (c.inheritFrom b).inheritFrom a := by
  refine ext_inherited (fun α field => ?_) rfl
  rw [get_inheritFrom, get_inheritFrom, get_inheritFrom, get_inheritFrom, Option.or_assoc]

/-! ### Chains of contexts -/

theorem mergeChain_eq (outermost : LocConfig) (inner : List LocConfig) :
    mergeChain outermost inner = mergeAll inheritFrom validateEnforcement outermost inner := rfl

theorem settingsOf_mergeChain (hinner : inner ≠ []) (h : mergeChain outermost inner = .ok merged) :
    SettingsOf outermost inner merged where
  inherited := fun _ field => get_mergeAll (get_inheritFrom field) h
  metricsEnabled := own_mergeAll metricsEnabled_inheritFrom h
  enforceable := (mergeAll_eq_ok h).2 hinner

/-- **Inheritance picks the innermost setting**: however deep the contexts are nested, every field
of the innermost one has the value of the innermost context that sets it, but for
`metricsEnabled`, which is its own. So contexts may be merged in groups, and what a context sets
to off or to the empty list stays so in those inside it that do not set it. -/
theorem mergeChain_innermost (h : mergeChain outermost inner = .ok merged) :
    (∀ (α : Type) (field : Inherited α),
      field.get merged = innermost field.get (outermost :: inner)) ∧
    merged.metricsEnabled =
      ((outermost :: inner).getLast (List.cons_ne_nil outermost inner)).metricsEnabled ∧
    (∀ front conf back x y, inner = front ++ conf :: back →
      mergeChain outermost front = .ok x → mergeChain conf back = .ok y →
      y.mergeFrom x = .ok merged) ∧
    ∀ (α : Type) (field : Inherited α) (value : α) (outer : List LocConfig) (conf : LocConfig)
      (back : List LocConfig), outermost :: inner = outer ++ conf :: back →
      field.get conf = some value → (∀ nested ∈ back, field.get nested = none) →
      field.get merged = some value := by
  rw [mergeChain_eq] at h
  have hfields (α : Type) (field : Inherited α) :
      field.get merged = innermost field.get (outermost :: inner) :=
    get_mergeAll (get_inheritFrom field) h
  refine ⟨hfields, own_mergeAll metricsEnabled_inheritFrom h, ?_, ?_⟩
  · rintro front conf back x y rfl hfront hback
    exact mergeAll_grouped inheritFrom_assoc h hfront hback
  · intro α field value outer conf back hchain hvalue hback
    rw [hfields]
    exact innermost_eq_some_iff.mpr ⟨outer, conf, back, hchain, hvalue, hback⟩

/-- A server that sets `crowdsec` to off and no extensions inside a context with both, and a
location in it. -/
theorem mergeChain_innermost_off :
    ∃ merged, mergeChain
        { enabled := some true, metricsEnabled := some true
          staticAssetExtensions := some [".css"] }
        [{ enabled := some false, staticAssetExtensions := some [] },
          { appsecEnabled := some true }] = .ok merged ∧
      merged.enabled = some false ∧ merged.staticAssetExtensions = some [] ∧
      merged.appsecEnabled = some true ∧ merged.metricsEnabled = none := by
  have h : mergeChain
      { enabled := some true, metricsEnabled := some true, staticAssetExtensions := some [".css"] }
      [{ enabled := some false, staticAssetExtensions := some [] },
        { appsecEnabled := some true }] =
      .ok { enabled := some false, staticAssetExtensions := some [], appsecEnabled := some true } :=
    rfl
  obtain ⟨hfields, hmetrics, -, -⟩ := mergeChain_innermost h
  exact ⟨_, h, hfields _ .enabled, hfields _ .staticAssetExtensions, hfields _ .appsecEnabled,
    hmetrics⟩

end LocConfig

/-! ### All contexts -/

section MergeContexts

variable {α β : Type} {main main' : RequestedFeatures} {prev conf merged : LocConfig}
  {confs : List LocConfig} {inner behind : Contexts LocConfig}

theorem Contexts.chains_map (f : α → β) (cs : Contexts α) :
    (cs.map f).chains = cs.chains.map (List.map f) := by
  induction cs with
  | nil => rfl
  | cons context inner behind ihinner ihbehind =>
    simp only [Contexts.map, Contexts.chains, ihinner, ihbehind, List.map_cons, List.map_nil,
      List.map_append, List.map_map, Function.comp_def]

theorem Contexts.ne_nil_of_mem_chains {cs : Contexts α} {chain : List α} (h : chain ∈ cs.chains) :
    chain ≠ [] := by
  induction cs generalizing chain with
  | nil => exact absurd h List.not_mem_nil
  | cons context inner behind _ ihbehind =>
    simp only [Contexts.chains, List.mem_cons, List.mem_append, List.mem_map] at h
    obtain rfl | ⟨chain, -, rfl⟩ | h := h
    · exact List.cons_ne_nil context []
    · exact List.cons_ne_nil context chain
    · exact ihbehind h

theorem mergeLocConf_eq_ok (h : mergeLocConf main prev conf = .ok (merged, main')) :
    conf.mergeFrom prev = .ok merged ∧
      main' = ⟨main.enforcementRequested || merged.enabled == some true,
        main.appsecRequested || merged.appsecEnabled == some true⟩ := by
  rw [mergeLocConf] at h
  split at h
  · next hmerge =>
    obtain ⟨rfl, rfl⟩ := Prod.mk.inj (Except.ok.inj h)
    exact ⟨hmerge, rfl⟩
  · exact absurd h (by simp)

theorem mergeContexts_cons_eq_ok
    (h : mergeContexts main prev (.cons conf inner behind) = .ok (confs, main')) :
    ∃ merged main₁ inside main₂ others, mergeLocConf main prev conf = .ok (merged, main₁) ∧
      mergeContexts main₁ merged inner = .ok (inside, main₂) ∧
      mergeContexts main₂ prev behind = .ok (others, main') ∧
      confs = merged :: (inside ++ others) := by
  rw [mergeContexts] at h
  obtain ⟨⟨merged, main₁⟩, hfirst, h⟩ := bind_eq_ok_iff.mp h
  obtain ⟨⟨inside, main₂⟩, hinner, h⟩ := bind_eq_ok_iff.mp h
  obtain ⟨⟨others, main₃⟩, hbehind, h⟩ := bind_eq_ok_iff.mp h
  obtain ⟨rfl, rfl⟩ := Prod.mk.inj (Except.ok.inj h)
  exact ⟨merged, main₁, inside, main₂, others, hfirst, hinner, hbehind, rfl⟩

/-- Every context is merged with those around it. -/
theorem forall₂_mergeContexts {cs : Contexts LocConfig}
    (h : mergeContexts main prev cs = .ok (confs, main')) :
    List.Forall₂ (fun chain conf => LocConfig.mergeChain prev chain = .ok conf)
      cs.chains confs := by
  induction cs generalizing main main' prev confs with
  | nil =>
    obtain ⟨rfl, -⟩ := Prod.mk.inj (Except.ok.inj h)
    exact .nil
  | cons conf inner behind ihinner ihbehind =>
    obtain ⟨merged, main₁, inside, main₂, others, hfirst, hinner, hbehind, rfl⟩ :=
      mergeContexts_cons_eq_ok h
    have hmerged := (mergeLocConf_eq_ok hfirst).1
    refine .cons (mergeAll_cons_eq_ok_iff.mpr ⟨merged, hmerged, rfl⟩) (List.rel_append ?_ ?_)
    · refine List.forall₂_map_left_iff.mpr ((ihinner hinner).imp fun chain conf' hchain => ?_)
      exact mergeAll_cons_eq_ok_iff.mpr ⟨merged, hmerged, hchain⟩
    · exact ihbehind hbehind

/-- **What is requested** is what some merged context has on, its own or inherited. -/
theorem requested_mergeContexts {cs : Contexts LocConfig}
    (h : mergeContexts main prev cs = .ok (confs, main')) :
    (main'.enforcementRequested = true ↔
      main.enforcementRequested = true ∨ ∃ conf ∈ confs, conf.enabled = some true) ∧
    (main'.appsecRequested = true ↔
      main.appsecRequested = true ∨ ∃ conf ∈ confs, conf.appsecEnabled = some true) := by
  induction cs generalizing main main' prev confs with
  | nil =>
    obtain ⟨rfl, rfl⟩ := Prod.mk.inj (Except.ok.inj h)
    simp
  | cons conf inner behind ihinner ihbehind =>
    obtain ⟨merged, main₁, inside, main₂, others, hfirst, hinner, hbehind, rfl⟩ :=
      mergeContexts_cons_eq_ok h
    obtain ⟨-, rfl⟩ := mergeLocConf_eq_ok hfirst
    obtain ⟨henforcement, happsec⟩ := ihbehind hbehind
    rw [henforcement, happsec, (ihinner hinner).1, (ihinner hinner).2]
    simp [or_assoc, or_and_right, exists_or]

end MergeContexts

end CrowdSecBouncer
