import CrowdSecBouncer.Captcha.Session
import CrowdSecBouncer.Foundations.Interleaving
import CrowdSecBouncer.Http.Phases
import CrowdSecBouncer.Stream.Batch

/-!
# A node: requests around the decision table

The worker processes of one server share the decision table; the polling worker writes it, and
every request that is handled, in whatever worker, reads it. A `Node` is that table with the
clock and the captcha sessions that were handed out, and any number of requests, each on its
way through the phases. Calls on the table, the passing of time and the steps of the requests
interleave in any order; each call and each lookup holds the zone's lock for its whole length,
so it is one step.

In `RequestRun.step` the lookup of the client and the check of its session cookie are answers of
the world. Here they are computed (`Visit.answers`): a handler looks the client up in the table
as it stands when the handler runs, and verifies the cookie that the request carries. The other
answers remain the world's.
-/

namespace CrowdSecBouncer

open LabelledRun

/-! ### What the requests share -/

/-- A captcha session that was handed out: for which client, under which settings, and when. -/
structure SessionGrant where
  config : CaptchaConfig
  clientIp : IpAddr
  issuedAt : ℤ
  deriving DecidableEq, Repr

/-- The decision table, the time in seconds since the epoch, and the sessions handed out. -/
structure Shared where
  table : ShmData
  clock : ℤ
  sessions : List SessionGrant

/-- What happens to the table and the clock. -/
inductive SharedAction
  /-- The polling worker makes a call. -/
  | call (op : TableOp)
  /-- Seconds pass; the clock is not set back. -/
  | tick (secs : ℕ)

namespace Shared

/-- One step. A call has read the clock before it takes effect. -/
def step : SharedAction → Shared → Option Shared
  | .call op, c =>
    if ∀ t ∈ op.time?, t ≤ c.clock then some { c with table := op.apply c.table } else none
  | .tick secs, c => some { c with clock := c.clock + secs }

variable {c c' : Shared} {op : TableOp} {secs : ℕ}

theorem step_call (h : step (.call op) c = some c') :
    (∀ t ∈ op.time?, t ≤ c.clock) ∧ c' = { c with table := op.apply c.table } := by
  obtain ⟨htime, heq⟩ := Option.ite_none_right_eq_some.mp h
  exact ⟨htime, (Option.some_injective _ heq).symm⟩

theorem step_tick (h : step (.tick secs) c = some c') :
    c' = { c with clock := c.clock + secs } :=
  (Option.some_injective _ h).symm

/-- A step keeps the table reachable and the sessions, and the clock does not run backwards. -/
theorem step_spec {action : SharedAction} (h : step action c = some c') :
    (c.table.Reachable → c'.table.Reachable) ∧ c'.sessions = c.sessions ∧ c.clock ≤ c'.clock := by
  rcases action with op | secs
  · obtain ⟨-, rfl⟩ := step_call h
    exact ⟨fun hreachable => hreachable.run [op], rfl, le_rfl⟩
  · obtain rfl := step_tick h
    exact ⟨id, rfl, Int.le_add_of_nonneg_right (Int.natCast_nonneg secs)⟩

end Shared

/-! ### Requests -/

/-- A request at a site, with the `Cookie` lines it carries. -/
structure Visit extends Site where
  cookies : List CookieLine

/-- An answer of the world for every label. -/
def RequestAction.mapAnswers (f : Answers → Answers) : RequestAction → RequestAction
  | .run a => .run (f a)
  | .bodyRead body a => .bodyRead body (f a)
  | .appsecDone exchange a => .appsecDone exchange (f a)
  | .verifyDone result a => .verifyDone result (f a)

theorem RequestAction.answers_mapAnswers (f : Answers → Answers) (action : RequestAction) :
    (action.mapAnswers f).answers = f action.answers := by
  cases action <;> rfl

namespace Visit

variable (lib : TokenLibraries) (visit : Visit) (find : IpAddr → LookupResult) (clock : ℤ)
  (c : Shared)

/-- The lookup that the handlers make; without a client address they make none. -/
def lookup : LookupResult :=
  match visit.req.clientIp with
  | some ip => find ip
  | none => .notFound

/-- The check of the session cookie; without captcha settings there is none. -/
def sessionValid : Bool :=
  match visit.loc.captchaConfig, visit.req.clientIp with
  | some config, some ip => captchaSessionValid lib config visit.cookies ip clock
  | _, _ => false

/-- The answers of a label, with those that lookup and cookie give. -/
def answersBy (a : Answers) : Answers :=
  { a with lookup := visit.lookup find, sessionValid := visit.sessionValid lib clock }

/-- The answers of a label; the lookup is that of the table. -/
def answers : Answers → Answers :=
  visit.answersBy lib (fun ip => lookupIp c.table ip c.clock) c.clock

/-- The session that the end of a verification hands out. -/
def granted (action : RequestAction) (r : RequestRun) : List SessionGrant :=
  match action, r.state.ctx with
  | .verifyDone .success _, .captcha ctx =>
    if visit.loc.captchaTemplate.isSome then [⟨ctx.config, ctx.clientIp, clock⟩] else []
  | _, _ => []

/-- One step of a request. -/
def step (action : RequestAction) (r : RequestRun) : Option (Shared × RequestRun) :=
  (RequestRun.step visit.toSite (action.mapAnswers (visit.answers lib c)) r).map fun r' =>
    ({ c with sessions := visit.granted c.clock action r ++ c.sessions }, r')

variable {lib visit c} {action : RequestAction} {r r' : RequestRun} {c' : Shared} {ip : IpAddr}

theorem step_eq_some_iff :
    visit.step lib c action r = some (c', r') ↔
      RequestRun.step visit.toSite (action.mapAnswers (visit.answers lib c)) r = some r' ∧
        c' = { c with sessions := visit.granted c.clock action r ++ c.sessions } := by
  simp only [step, Option.map_eq_some_iff, Prod.mk.injEq]
  constructor
  · rintro ⟨r'', hstep, rfl, rfl⟩
    exact ⟨hstep, rfl⟩
  · rintro ⟨hstep, rfl⟩
    exact ⟨r', hstep, rfl, rfl⟩

/-- A request leaves the table and the clock alone. -/
theorem table_clock_of_step (h : visit.step lib c action r = some (c', r')) :
    c'.table = c.table ∧ c'.clock = c.clock := by
  obtain ⟨-, rfl⟩ := step_eq_some_iff.mp h
  exact ⟨rfl, rfl⟩

theorem lookup_of_clientIp {find : IpAddr → LookupResult} (h : visit.req.clientIp = some ip) :
    visit.lookup find = find ip := by
  rw [lookup, h]

/-- Table and cookie have no part in sending responses. -/
theorem sendsSucceed_answers (h : action.answers.SendsSucceed) :
    (action.mapAnswers (visit.answers lib c)).answers.SendsSucceed := by
  rw [RequestAction.answers_mapAnswers]
  exact h

theorem lookup_answers :
    (action.mapAnswers (visit.answers lib c)).answers.lookup =
      visit.lookup fun ip => lookupIp c.table ip c.clock := by
  rw [RequestAction.answers_mapAnswers]
  rfl

end Visit

/-! ### The node -/

/-- What is shared with the requests, those that are still to come included. -/
abbrev Node (ι : Type*) := Interleaving.World ι Shared RequestRun

abbrev NodeLabel (ι : Type*) := Interleaving.Label ι RequestAction SharedAction

namespace Node

variable {ι : Type*}

/-- A server that has just started; no request has come in yet. -/
def fresh (capacity : ℕ) (clock : ℤ) (bodies : ι → Option RequestBody) : Node ι :=
  ⟨⟨.fresh capacity, clock, []⟩, fun i => .initial (bodies i)⟩

variable [DecidableEq ι]

/-- One step of a node. -/
def step (lib : TokenLibraries) (visits : ι → Visit) : NodeLabel ι → Node ι → Option (Node ι) :=
  Interleaving.step Shared.step fun c i => (visits i).step lib c

variable {lib : TokenLibraries} {visits : ι → Visit} {l : List (NodeLabel ι)} {n n' : Node ι}

/-- What a request keeps while what is shared satisfies `R` it keeps in the node. -/
theorem everyState_request {i : ι} {R : Shared → Prop} {Q : RequestRun → Prop}
    {okPart : RequestAction → Prop}
    (hstep : ∀ c action r r', R c → okPart action → Q r →
      RequestRun.step (visits i).toSite (action.mapAnswers ((visits i).answers lib c)) r = some r' →
      Q r')
    (hrely : EveryState (step lib visits) (fun n => R n.env) l n)
    (hok : ∀ action, .part i action ∈ l → okPart action) (h₀ : Q (n.part i)) :
    EveryState (step lib visits) (fun n => Q (n.part i)) l n := by
  have hpart (c : Shared) (action : RequestAction) (r : RequestRun) (c' : Shared) (r' : RequestRun)
      (hc : R c) (haction : okPart action) (hr : Q r)
      (hr' : (visits i).step lib c action r = some (c', r')) : Q r' :=
    hstep c action r r' hc haction hr (Visit.step_eq_some_iff.mp hr').1
  exact Interleaving.everyState_part hpart hrely hok h₀

/-- What calls, time and new sessions keep holds throughout. -/
theorem everyState_shared {R : Shared → Prop} {okEnv : SharedAction → Shared → Prop}
    (hstep : ∀ action c c', okEnv action c → R c → Shared.step action c = some c' → R c')
    (hgrant : ∀ c sessions, R c → R { c with sessions })
    (hok : EveryStep (step lib visits)
      (fun label n => ∀ action, label = .env action → okEnv action n.env) l n)
    (h₀ : R n.env) : EveryState (step lib visits) (fun n => R n.env) l n := by
  have hpart (c : Shared) (i : ι) (action : RequestAction) (r : RequestRun) (c' : Shared)
      (r' : RequestRun) (hc : R c) (hr' : (visits i).step lib c action r = some (c', r')) :
      R c' := by
    obtain ⟨-, rfl⟩ := Visit.step_eq_some_iff.mp hr'
    exact hgrant c _ hc
  exact Interleaving.everyState_env hstep hpart hok h₀

/-- **The table of a node** is one that calls on a fresh table lead to, in every state. -/
theorem everyState_reachable (h : n.env.table.Reachable) (l : List (NodeLabel ι)) :
    EveryState (step lib visits) (fun n => n.env.table.Reachable) l n := by
  have hstep (action : SharedAction) (c c' : Shared) (_ : True) (hc : c.table.Reachable)
      (h : Shared.step action c = some c') : c'.table.Reachable :=
    (Shared.step_spec h).1 hc
  exact everyState_shared hstep (fun _ _ hc => hc) (everyStep_of_mem fun _ _ _ _ _ => trivial) h

theorem reachable_of_exec {capacity : ℕ} (hpos : 0 < capacity) {clock : ℤ}
    {bodies : ι → Option RequestBody}
    (h : exec (step lib visits) l (fresh capacity clock bodies) = some n) :
    n.env.table.Reachable :=
  (everyState_reachable ⟨capacity, [], hpos, rfl⟩ l).last h

end Node

end CrowdSecBouncer
