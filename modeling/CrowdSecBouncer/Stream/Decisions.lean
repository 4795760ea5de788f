import CrowdSecBouncer.Http.Config
import CrowdSecBouncer.Shm.Calls
import CrowdSecBouncer.Shm.NetworkText

/-!
# Decisions of a poll

LAPI describes a change as two lists of decisions, new and deleted ones. A decision is a text
value with a text type; `apply_to_shm` resolves both and turns each decision into at most one
call on the decision table, removals first. The type is resolved in the same way for both
lists, so that an unknown type stands for the fallback remediation wherever it appears.

Here the calls of a poll are computed from its lists (`applyCalls`), and what they mean for the
deadlines of the table is one batch: erase the pairs that the deleted list names, then join the
deadlines that the new list names (`updates_applyCalls`).
-/

namespace CrowdSecBouncer

open Text DeadlineMap

/-! ### Fields of a decision -/

def DecisionType.fromStr (s : List Char) : DecisionType :=
  if eqIgnoreAsciiCase s "ban".toList then .ban
  else if eqIgnoreAsciiCase s "captcha".toList then .captcha
  else .unknown

def Origin.fromStr (s : List Char) : Origin :=
  if eqIgnoreAsciiCase s "crowdsec".toList then .crowdsec
  else if eqIgnoreAsciiCase s "cscli".toList || eqIgnoreAsciiCase s "cscli-import".toList then
    .cscli
  else if eqIgnoreAsciiCase s "capi".toList then .capi
  else if eqIgnoreAsciiCase s "console".toList then .console
  else if eqIgnoreAsciiCase s "lists".toList then .lists
  else if eqIgnoreAsciiCase s "appsec".toList then .appsec
  else .unknown

/-- Map an unknown stream decision type, or return `none` to skip storing. -/
def FallbackRemediation.resolveUnknownType (fallback : FallbackRemediation) (rawType : List Char) :
    Option DecisionType :=
  if DecisionType.fromStr rawType ≠ .unknown then some (DecisionType.fromStr rawType)
  else
    match fallback with
    | .allow => none
    | .ban => some .ban
    | .captcha => some .captcha

/-- A decision from the LAPI. The scenario is given as its UTF-8 bytes; the fields that only
appear in log lines, or nowhere, are left out. -/
structure Decision where
  origin : Option (List Char)
  decisionType : List Char
  value : Option (List Char)
  duration : Option (List Char)
  scenario : Option (List UInt8)
  simulated : Option Bool
  deriving DecidableEq, Repr

/-- The result of checked arithmetic on 64-bit signed integers. -/
def checkI64 (x : ℤ) : Option ℤ := if -2 ^ 63 ≤ x ∧ x < 2 ^ 63 then some x else none

/-- The seconds of a unit. -/
def durationMultiplier (unit : Char) : Option ℤ :=
  if unit = 'h' then some 3600
  else if unit = 'm' then some 60
  else if unit = 's' then some 1
  else none

/-- The loop of `parse_duration`: the seconds so far, the number being read, and whether it has
a digit. -/
def parseDurationLoop (totalSecs number : ℤ) (hasNumber : Bool) : List Char → Option ℤ
  | [] =>
    -- just a number: assume seconds
    if hasNumber then checkI64 (totalSecs + number) else some totalSecs
  | c :: cs =>
    if c.isDigit then do
      let number ← checkI64 (number * 10)
      let number ← checkI64 (number + digitVal c)
      parseDurationLoop totalSecs number true cs
    else if hasNumber then do
      let multiplier ← durationMultiplier c
      let secs ← checkI64 (number * multiplier)
      let totalSecs ← checkI64 (totalSecs + secs)
      parseDurationLoop totalSecs 0 false cs
    else none

/-- Parse a duration string like "1h", "30m", "3600s" to seconds. -/
def parseDuration (s : List Char) : Option ℤ :=
  let s := trim s
  if s = [] then none
  else (parseDurationLoop 0 0 false s).filter (0 < ·)

theorem parseDuration_pos {s : List Char} {d : ℤ} (h : parseDuration s = some d) : 0 < d := by
  rw [parseDuration, Option.ite_none_left_eq_some, Option.filter_eq_some_iff] at h
  exact of_decide_eq_true h.2.2

example : parseDuration "1h30m30s".toList = some 5430 ∧ parseDuration " 90 ".toList = some 90 ∧
    parseDuration "h".toList = none := by decide +kernel

/-! ### The calls of a poll -/

/-- What the value of a decision names. -/
inductive DecisionTarget
  | ip (ip : IpAddr)
  | cidr (network : Vector UInt8 16) (family prefixLen : UInt8)
  deriving DecidableEq, Repr

/-- Try to parse as a single IP first, then as a CIDR range. -/
def parseValue (value : List Char) : Option DecisionTarget :=
  match parseIpAddr value with
  | some ip => some (.ip (canonicalizeIp ip))
  | none =>
    (parseCidrText value).map fun (network, family, prefixLen) => .cidr network family prefixLen

/-- The call for a deleted decision. -/
def removalCall (fallback : FallbackRemediation) (d : Decision) (now : ℤ) : Option TableOp :=
  if d.simulated = some true then none
  else do
    let value ← d.value
    let dt ← fallback.resolveUnknownType d.decisionType
    match ← parseValue value with
    | .ip ip => some (.removeDecisionType ip dt now)
    | .cidr network family prefixLen =>
      some (.removeCidrDecisionType family prefixLen network.toList dt now)

/-- The call for a new decision. -/
def additionCall (fallback : FallbackRemediation) (d : Decision) (clock : CallClock) :
    Option TableOp :=
  if d.simulated = some true then none
  else do
    let value ← d.value
    let durationSecs := d.duration.bind parseDuration
    let dt ← fallback.resolveUnknownType d.decisionType
    let origin := (d.origin.map Origin.fromStr).getD .unknown
    match ← parseValue value with
    | .ip ip => some (.addDecision ⟨ip, dt, origin, d.scenario, durationSecs⟩ clock)
    | .cidr network family prefixLen =>
      some (.addCidrDecision
        ⟨network.toList, family, prefixLen, dt, origin, d.scenario, durationSecs⟩ clock)

/-- The two lists of a poll, each decision with the clock readings of its call. -/
structure StreamResponse where
  new : List (Decision × CallClock)
  deleted : List (Decision × ℤ)

/-- The calls of `apply_to_shm`: remove deleted decisions, then add new decisions. -/
def StreamResponse.applyCalls (fallback : FallbackRemediation) (r : StreamResponse) :
    List TableOp :=
  r.deleted.filterMap (fun d => removalCall fallback d.1 d.2) ++
    r.new.filterMap fun d => additionCall fallback d.1 d.2

/-- Apply decisions to shared memory. -/
def applyToShm (fallback : FallbackRemediation) (s : ShmData) (r : StreamResponse) : ShmData :=
  TableOp.run s (r.applyCalls fallback)

/-! ### What a decision is about -/

/-- The key that a value names. -/
def DecisionTarget.key : DecisionTarget → Key
  | ip addr => .ip addr
  | cidr network family prefixLen => .ofCidr family prefixLen network.toList

/-- The key and type that a decision is about; none if it is simulated, its type does not
resolve or its value does not parse. -/
def Decision.pair? (fallback : FallbackRemediation) (d : Decision) :
    Option (Key × DecisionType) :=
  if d.simulated = some true then none
  else do
    let value ← d.value
    let dt ← fallback.resolveUnknownType d.decisionType
    let target ← parseValue value
    some (target.key, dt)

/-- The deadline that a new decision is listed with, at the clock reading of its call: without
a duration, or without a clock, there is no limit. -/
def Decision.listedDeadline (d : Decision) (clock : CallClock) : Deadline ℤ :=
  match d.duration.bind parseDuration, clock.deadline with
  | some secs, some t => Deadline.at' (t + secs)
  | _, _ => ⊤

/-- The reading of the call plus the duration is a 64-bit integer; readings are not negative. -/
def Decision.Fits (d : Decision) (clock : CallClock) : Prop :=
  ∀ secs t, d.duration.bind parseDuration = some secs → clock.deadline = some t →
    0 ≤ t ∧ t + secs < 2 ^ 63

namespace StreamResponse

/-- The pairs of the deleted list. -/
def erased (fallback : FallbackRemediation) (r : StreamResponse) : List (Key × DecisionType) :=
  r.deleted.filterMap fun d => d.1.pair? fallback

/-- The pairs of the new list, with the deadlines they are listed with. -/
def joined (fallback : FallbackRemediation) (r : StreamResponse) :
    List ((Key × DecisionType) × Deadline ℤ) :=
  r.new.filterMap fun d => (d.1.pair? fallback).map fun p => (p, d.1.listedDeadline d.2)

end StreamResponse

variable {fallback : FallbackRemediation} {d : Decision} {clock : CallClock} {s : ShmData}
  {r : StreamResponse} {k : Key} {p : Key × DecisionType} {now : ℤ}

theorem normal_key (target : DecisionTarget) : target.key.Normal := by
  cases target with
  | ip ip => trivial
  | cidr network family prefixLen => exact Key.normal_ofCidr _ _ _

/-- A resolved type is a known one. -/
theorem ne_unknown_of_resolveUnknownType {rawType : List Char} {dt : DecisionType}
    (h : fallback.resolveUnknownType rawType = some dt) : dt ≠ .unknown := by
  rw [FallbackRemediation.resolveUnknownType.eq_def] at h
  split at h
  · next hknown =>
    rw [← Option.some_injective _ h]
    exact hknown
  · cases fallback with
    | allow => exact absurd h (by simp)
    | ban => rw [← Option.some_injective _ h]; decide
    | captcha => rw [← Option.some_injective _ h]; decide

/-- The parts of a decision that is about something. -/
theorem Decision.pair?_eq_some_iff {dt : DecisionType} :
    d.pair? fallback = some (k, dt) ↔ d.simulated ≠ some true ∧ ∃ value target,
      d.value = some value ∧ fallback.resolveUnknownType d.decisionType = some dt ∧
        parseValue value = some target ∧ target.key = k := by
  rw [pair?, Option.ite_none_left_eq_some]
  simp only [bind, Option.bind_eq_some_iff, Option.some.injEq, Prod.mk.injEq]
  refine and_congr_right fun _ => ?_
  constructor
  · rintro ⟨value, hvalue, _, hdt, target, htarget, rfl, rfl⟩
    exact ⟨value, target, hvalue, hdt, htarget, rfl⟩
  · rintro ⟨value, target, hvalue, hdt, htarget, rfl⟩
    exact ⟨value, hvalue, dt, hdt, target, htarget, rfl, rfl⟩

/-- Networks that a value names pass the check of the parameters. -/
theorem cidrParamsValid_of_parseValue {value : List Char} {network : Vector UInt8 16}
    {family prefixLen : UInt8} (h : parseValue value = some (.cidr network family prefixLen)) :
    cidrParamsValid family prefixLen network.toList = true := by
  rw [parseValue] at h
  split at h
  · exact absurd h (by simp)
  · obtain ⟨⟨network', family', prefixLen'⟩, htext, heq⟩ := Option.map_eq_some_iff.mp h
    obtain ⟨rfl, rfl, rfl⟩ := DecisionTarget.cidr.inj heq
    obtain ⟨addr, -, hparse⟩ := isNetworkText_of_parseCidrText htext
    exact cidrParamsValid_of_parseCidr hparse

/-- The deadline that a call asks for is the listed one, when it fits. -/
theorem requested_eq_listedDeadline {dt : DecisionType} (hdt : dt ≠ .unknown)
    (hfits : d.Fits clock) :
    DecisionExpiry.requested dt (expiresOf (d.duration.bind parseDuration) clock) =
      d.listedDeadline clock := by
  rw [DecisionExpiry.requested, if_neg hdt, Decision.listedDeadline]
  cases hsecs : d.duration.bind parseDuration with
  | none => rfl
  | some secs =>
    cases hclock : clock.deadline with
    | none =>
      rw [expiresOf.eq_def, hclock]
      rfl
    | some t =>
      obtain ⟨ht, hlt⟩ := hfits secs t hsecs hclock
      obtain ⟨text, -, htext⟩ := Option.bind_eq_some_iff.mp hsecs
      have hpos := parseDuration_pos htext
      have hbmod : (t + secs).bmod (2 ^ 64) = t + secs := by
        refine Int.bmod_eq_of_le ?_ ?_
        · norm_num
          omega
        · norm_num
          omega
      rw [expiresOf.eq_def, hclock]
      dsimp only
      rw [hbmod, DecisionExpiry.ofStored, if_neg (by omega)]

/-- What a call is made from: a type and a parsed value, which are the pair of the decision. -/
theorem Decision.exists_target {call : DecisionType → DecisionTarget → Option TableOp}
    {op : TableOp} (d : Decision)
    (h : (if d.simulated = some true then none
      else do
        let value ← d.value
        let dt ← fallback.resolveUnknownType d.decisionType
        call dt (← parseValue value)) = some op) :
    ∃ dt target, fallback.resolveUnknownType d.decisionType = some dt ∧
      (∃ value, parseValue value = some target) ∧ d.pair? fallback = some (target.key, dt) ∧
      call dt target = some op := by
  rw [Option.ite_none_left_eq_some] at h
  obtain ⟨hsimulated, h⟩ := h
  obtain ⟨value, hvalue, h⟩ := Option.bind_eq_some_iff.mp h
  obtain ⟨dt, hdt, h⟩ := Option.bind_eq_some_iff.mp h
  obtain ⟨target, htarget, h⟩ := Option.bind_eq_some_iff.mp h
  exact ⟨dt, target, hdt, ⟨value, htarget⟩,
    Decision.pair?_eq_some_iff.mpr ⟨hsimulated, value, target, hvalue, hdt, htarget, rfl⟩, h⟩

/-- The call for a deleted decision, read off its pair. -/
theorem removalCall_spec {op : TableOp} (h : removalCall fallback d now = some op) :
    ∃ k dt, d.pair? fallback = some (k, dt) ∧ op ≠ .clearAll ∧ op.key? = some k ∧
      op.time? = some now := by
  obtain ⟨dt, target, -, -, hpair, h⟩ := d.exists_target h
  refine ⟨target.key, dt, hpair, ?_⟩
  cases target with
  | ip addr =>
    obtain rfl := Option.some_injective _ h
    exact ⟨by simp, rfl, rfl⟩
  | cidr network family prefixLen =>
    obtain rfl := Option.some_injective _ h
    exact ⟨by simp, rfl, rfl⟩

/-- The call for a new decision, read off its pair. -/
theorem additionCall_spec {op : TableOp} (h : additionCall fallback d clock = some op) :
    ∃ k dt, d.pair? fallback = some (k, dt) ∧ op ≠ .clearAll ∧ op.key? = some k ∧
      op.time? = some clock.now := by
  obtain ⟨dt, target, -, -, hpair, h⟩ := d.exists_target h
  refine ⟨target.key, dt, hpair, ?_⟩
  cases target with
  | ip addr =>
    obtain rfl := Option.some_injective _ h
    exact ⟨by simp, rfl, rfl⟩
  | cidr network family prefixLen =>
    obtain rfl := Option.some_injective _ h
    exact ⟨by simp, rfl, rfl⟩

/-! ### The calls as updates -/

/-- A deleted decision erases its pair. -/
theorem update?_removalCall (fallback : FallbackRemediation) (d : Decision) (now : ℤ) :
    (removalCall fallback d now).bind TableOp.update? = (d.pair? fallback).map .erase := by
  rw [removalCall, Decision.pair?]
  split
  · rfl
  · cases d.value with
    | none => rfl
    | some value =>
      cases fallback.resolveUnknownType d.decisionType with
      | none => rfl
      | some dt =>
        simp only [bind, Option.bind_some]
        cases parseValue value with
        | none => rfl
        | some target => cases target <;> rfl

/-- A new decision joins the deadline that its call computes to its pair. -/
theorem update?_additionCall (fallback : FallbackRemediation) (d : Decision) (clock : CallClock) :
    (additionCall fallback d clock).bind TableOp.update? =
      (d.pair? fallback).map fun p => .join p
        (DecisionExpiry.requested p.2 (expiresOf (d.duration.bind parseDuration) clock)) := by
  rw [additionCall, Decision.pair?]
  split
  · rfl
  · cases d.value with
    | none => rfl
    | some value =>
      cases fallback.resolveUnknownType d.decisionType with
      | none => rfl
      | some dt =>
        simp only [bind, Option.bind_some]
        cases htarget : parseValue value with
        | none => rfl
        | some target =>
          cases target with
          | ip ip => rfl
          | cidr network family prefixLen => exact if_pos (cidrParamsValid_of_parseValue htarget)

/-- **A poll is a batch**: it erases the deleted pairs, then joins the new ones. -/
theorem updates_applyCalls (hfits : ∀ dc ∈ r.new, dc.1.Fits dc.2) :
    TableOp.updates (r.applyCalls fallback) =
      (r.erased fallback).map .erase ++
        (r.joined fallback).map fun j => .join j.1 j.2 := by
  rw [TableOp.updates, StreamResponse.applyCalls, List.filterMap_append, List.filterMap_filterMap,
    List.filterMap_filterMap, StreamResponse.erased, StreamResponse.joined, List.map_filterMap,
    List.map_filterMap]
  refine congrArg₂ (· ++ ·) (List.filterMap_congr fun dn _ => update?_removalCall ..) ?_
  refine List.filterMap_congr fun dc hdc => (update?_additionCall ..).trans ?_
  cases hpair : dc.1.pair? fallback with
  | none => rfl
  | some p =>
    obtain ⟨-, value, target, -, hdt, -, -⟩ := Decision.pair?_eq_some_iff.mp hpair
    have hdeadline :=
      requested_eq_listedDeadline (ne_unknown_of_resolveUnknownType hdt) (hfits dc hdc)
    exact congrArg (fun x => some (Update.join p x)) hdeadline

end CrowdSecBouncer
