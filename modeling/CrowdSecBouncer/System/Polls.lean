import CrowdSecBouncer.Stream.PollHistory
import CrowdSecBouncer.Stream.Resync
import CrowdSecBouncer.System.Enforcement

/-!
# From LAPI to the request

The table changes by the calls of polls. When the calls of one poll have been made, in between
the steps of any number of requests, what LAPI has listed is what happens to the requests that
come in from then on: a client with a ban that the poll has listed, or left standing, is kept from
the content handler until the deadline (`polled_ban_enforced`), and a client whose decisions the
poll has deleted, or never listed, is let on (`polled_let_on`).
-/

namespace CrowdSecBouncer

open LabelledRun

variable {ι : Type*} [DecidableEq ι] {lib : TokenLibraries} {visits : ι → Visit}
  {l mid post : List (NodeLabel ι)} {n n' n₁ : Node ι} {ip : IpAddr} {before after : List Key}
  {k : Key} {T : ℤ} {fallback : FallbackRemediation} {r : StreamResponse} {startup : Bool}

/-! ### The calls of a run -/

/-- The call that a label makes on the table. -/
def NodeLabel.call? : NodeLabel ι → Option TableOp
  | .env (.call op) => some op
  | .env (.tick _) | .part .. => none

/-- The calls on the table, in order. -/
def Node.calls (l : List (NodeLabel ι)) : List TableOp := l.filterMap NodeLabel.call?

/-- The table after a run is that of its calls. -/
theorem Node.table_of_exec (h : exec (Node.step lib visits) l n = some n') :
    n'.env.table = TableOp.run n.env.table (Node.calls l) := by
  induction l generalizing n with
  | nil =>
    obtain rfl : n = n' := Option.some_injective _ h
    rfl
  | cons label l ih =>
    obtain ⟨m, hm, hrest⟩ := exec_cons.mp h
    rw [ih hrest]
    rcases label with (op | secs) | ⟨i, action⟩
    · obtain ⟨c, hc, rfl⟩ := Interleaving.step_env.mp hm
      obtain ⟨-, rfl⟩ := Shared.step_call hc
      rfl
    · obtain ⟨c, hc, rfl⟩ := Interleaving.step_env.mp hm
      obtain rfl := Shared.step_tick hc
      rfl
    · obtain ⟨out, hout, rfl⟩ := Interleaving.step_part.mp hm
      have htable : out.1.table = n.env.table := (Visit.table_clock_of_step hout).1
      change TableOp.run out.1.table _ = _
      rw [htable]
      rfl

omit [DecidableEq ι] in
theorem Node.not_call_of_calls_eq_nil (hquiet : Node.calls l = []) (op : TableOp) :
    .env (.call op) ∉ l := by
  intro hmem
  have hcall : op ∈ Node.calls l := List.mem_filterMap.mpr ⟨_, hmem, rfl⟩
  rw [hquiet] at hcall
  exact List.not_mem_nil hcall

/-- Without calls, the table stays and time goes on. -/
theorem Node.everyState_quiet (hquiet : Node.calls l = []) :
    EveryState (Node.step lib visits)
      (fun n' => n'.env.table = n.env.table ∧ n.env.clock ≤ n'.env.clock) l n := by
  have hstep (action : SharedAction) (c c' : Shared) (hok : ∀ op, action ≠ .call op)
      (h : c.table = n.env.table ∧ n.env.clock ≤ c.clock) (hc : Shared.step action c = some c') :
      c'.table = n.env.table ∧ n.env.clock ≤ c'.clock := by
    refine ⟨?_, h.2.trans (Shared.step_spec hc).2.2⟩
    rcases action with op | secs
    · exact absurd rfl (hok op)
    · obtain rfl := Shared.step_tick hc
      exact h.1
  have hok : EveryStep (Node.step lib visits)
      (fun label _ => ∀ action, label = .env action → ∀ op, action ≠ .call op) l n := by
    refine everyStep_of_mem fun label hmem _ action heq op hcall => ?_
    subst heq hcall
    exact Node.not_call_of_calls_eq_nil hquiet op hmem
  exact Node.everyState_shared hstep (fun _ _ h => h) hok ⟨rfl, le_rfl⟩

/-! ### Polls -/

/-- The deadline that a decision has when the poll is over. -/
noncomputable def polledDeadline (fallback : FallbackRemediation) (startup : Bool)
    (r : StreamResponse) (s : ShmData) (p : Key × DecisionType) : Deadline ℤ :=
  r.requestedDeadline fallback p ((s.base startup).deadlineAt p)

/-- One poll is applied between `n` and `n₁`, in a run with any steps of requests, and nothing is
evicted. -/
structure Polled (lib : TokenLibraries) (visits : ι → Visit) (fallback : FallbackRemediation)
    (startup : Bool) (r : StreamResponse) (mid : List (NodeLabel ι)) (n n₁ : Node ι) : Prop where
  exec : exec (Node.step lib visits) mid n = some n₁
  calls : Node.calls mid = r.pollCalls startup fallback
  evict : NeverEvicts (r.applyCalls fallback) (n.env.table.base startup)
  fits : r.Fits
  read : r.ReadBy n₁.env.clock

namespace Polled

variable (h : Polled lib visits fallback startup r mid n n₁)

include h

theorem table_eq : n₁.env.table = applyToShm fallback (n.env.table.base startup) r := by
  rw [Node.table_of_exec h.exec, h.calls]
  cases startup with
  | true => rfl
  | false => rfl

theorem reachable (hn : n.env.table.Reachable) : n₁.env.table.Reachable := by
  rw [Node.table_of_exec h.exec]
  exact hn.run _

/-- **In force after a poll** is what the poll asks for. -/
theorem inForce_iff (hn : TableOk n.env.table) {t : ℤ} (ht : n₁.env.clock ≤ t) {dt : DecisionType}
    (hk : k.Normal) :
    n₁.env.table.InForce t k dt ↔
      Deadline.Active t (polledDeadline fallback startup r n.env.table (k, dt)) := by
  have hbase : TableOk (n.env.table.base startup) := by
    rw [ShmData.base]
    split
    · exact tableOk_clearAll hn.capacity_pos
    · exact hn
  rw [ShmData.InForce, h.table_eq]
  exact eqFrom_applyToShm (p := (k, dt)) hbase h.evict h.fits h.read hk t ht

end Polled

/-- **A ban that LAPI has listed is enforced.** When a poll is over, a ban is to be in force up to
`T` for a key that covers a client, and no captcha for a more specific one. Until the next poll no
request of the client that comes in reaches the content handler while the clock has not passed
`T`. -/
theorem polled_ban_enforced {capacity : ℕ} {clock : ℤ} {bodies : ι → Option RequestBody}
    {pre : List (NodeLabel ι)} {i : ι} {body : Option RequestBody} (hpos : 0 < capacity)
    (hpre : exec (Node.step lib visits) pre (Node.fresh capacity clock bodies) = some n)
    (hpoll : Polled lib visits fallback startup r mid n n₁)
    (hkeys : ip.coveringKeys = before ++ k :: after)
    (hban : Deadline.Active T (polledDeadline fallback startup r n.env.table (k, .ban)))
    (hcaptcha : ∀ k' ∈ before, ¬ Deadline.Active n₁.env.clock
      (polledDeadline fallback startup r n.env.table (k', .captcha)))
    (hquiet : Node.calls post = [])
    (hclock : EveryState (Node.step lib visits) (fun n => n.env.clock ≤ T) post n₁)
    (hsite : (visits i).toSite.Enforces ip) (hnew : n₁.part i = .initial body)
    (hsends : ∀ action, .part i action ∈ post → action.answers.SendsSucceed) :
    EveryState (Node.step lib visits) (fun n => (n.part i).phase ≠ .content) post n₁ := by
  have hreachable : n.env.table.Reachable := Node.reachable_of_exec hpos hpre
  have hnormal := normal_of_coveringKeys hkeys
  have hstands : BanStands before k T n₁.env := by
    refine ⟨⟨(hpoll.reachable hreachable).tableOk, hclock.head, ?_⟩, fun k' hk' => ?_⟩
    · exact (hpoll.inForce_iff hreachable.tableOk hclock.head (hnormal k (by simp))).mpr hban
    · rw [hpoll.inForce_iff hreachable.tableOk le_rfl (hnormal k' (List.mem_append_left _ hk'))]
      exact hcaptcha k' hk'
  have hticks : EveryStep (Node.step lib visits)
      (fun label n => ∀ action, label = .env action → ∀ secs, action = .tick secs →
        n.env.clock + secs ≤ T) post n₁ := by
    refine everyStep_of_everyState (fun label m _ hnext action heq secs htick => ?_) hclock
    subst heq htick
    exact hnext _ (Interleaving.step_env.mpr ⟨_, rfl, rfl⟩)
  refine hstands.enforced hkeys (((everyStep_of_mem fun label hmem _ => hmem).and hticks).mono ?_)
    hsite hnew hsends
  rintro label m ⟨hmem, htick⟩ action rfl
  rcases action with op | secs
  · exact absurd hmem (Node.not_call_of_calls_eq_nil hquiet op)
  · exact ⟨htick _ rfl secs rfl, by simp⟩

/-- A node after a startup poll at 20 that lists a ban of 192.0.2.1. -/
def polledNode : Node Unit :=
  ⟨⟨TableOp.run (.fresh 8) (exampleBan.pollCalls true .ban), 20, []⟩, fun _ => .initial none⟩

theorem polled_polledNode (visits : Unit → Visit) :
    Polled exampleLibraries visits .ban true exampleBan
      ((exampleBan.pollCalls true .ban).map fun op => .env (.call op))
      (Node.fresh 8 20 fun _ => none) polledNode where
  exec := rfl
  calls := by decide +kernel
  evict := by decide +kernel
  fits := by
    intro dc hdc secs t hsecs
    obtain rfl := List.mem_singleton.mp hdc
    exact absurd hsecs (by simp)
  read := ⟨by decide, by decide⟩

/-- While AppSec inspects a request of the client and gives no verdict, seconds pass. -/
theorem polled_ban_enforced_exampleBan :
    EveryState (Node.step exampleLibraries fun _ => ⟨inspectingSite, []⟩)
      (fun n => (n.part ()).phase ≠ .content)
      [.part () (.run banAnswers), .env (.tick 5), .part () (.run banAnswers),
        .part () (.appsecDone .failed banAnswers), .part () (.run banAnswers)] polledNode := by
  have hkeys : (IpAddr.v4 #v[192, 0, 2, 1]).coveringKeys =
      [] ++ .ip (.v4 #v[192, 0, 2, 1]) :: _ := rfl
  have hban : Deadline.Active 1000 (polledDeadline .ban true exampleBan
      (Node.fresh 8 20 fun _ : Unit => none).env.table (.ip (.v4 #v[192, 0, 2, 1]), .ban)) :=
    active_requestedDeadline.mpr
      (.inl ⟨_, List.mem_cons_self, by decide +kernel, Deadline.active_top⟩)
  have hpre : exec (Node.step exampleLibraries fun _ : Unit => ⟨inspectingSite, []⟩) []
      (Node.fresh 8 20 fun _ => none) = some _ := rfl
  refine polled_ban_enforced (by decide) hpre (polled_polledNode _) hkeys hban (by simp) rfl
    (by decide +kernel) ⟨rfl, rfl, rfl, rfl⟩ rfl fun action hmem => ?_
  have hanswers : action.answers = banAnswers := by
    have hcases : action = .run banAnswers ∨ action = .run banAnswers ∨
        action = .appsecDone .failed banAnswers ∨ action = .run banAnswers := by simpa using hmem
    rcases hcases with rfl | rfl | rfl | rfl
    · rfl
    · rfl
    · rfl
    · rfl
  rw [hanswers]
  intro i headerFailure
  cases headerFailure <;> rfl

/-- **A client without a decision is let on.** When a poll is over, no decision is to be in force
for any key that covers a client. Until the next poll every handler that runs for a request that
comes in, and that only the table could stop, lets it on to the next phase. -/
theorem polled_let_on {capacity : ℕ} {clock : ℤ} {bodies : ι → Option RequestBody}
    {pre : List (NodeLabel ι)} {i : ι} {body : Option RequestBody} (hpos : 0 < capacity)
    (hpre : exec (Node.step lib visits) pre (Node.fresh capacity clock bodies) = some n)
    (hpoll : Polled lib visits fallback startup r mid n n₁)
    (hnone : ∀ k ∈ ip.coveringKeys, ∀ dt, ¬ Deadline.Active n₁.env.clock
      (polledDeadline fallback startup r n.env.table (k, dt)))
    (hquiet : Node.calls post = []) (hsite : (visits i).toSite.TableOnly ip)
    (hnew : n₁.part i = .initial body) :
    EveryState (Node.step lib visits) (fun n => (n.part i).state.LetOn) post n₁ ∧
      EveryStep (Node.step lib visits)
        (fun label n => ∀ a, label = .part i (.run a) → (n.part i).phase ≠ .content →
          ∃ n', Node.step lib visits label n = some n' ∧
            (n'.part i).phase = (n.part i).phase.next) post n₁ := by
  have hreachable : n.env.table.Reachable := Node.reachable_of_exec hpos hpre
  have hunlisted : n₁.env.Unlisted ip := fun k hk dt hforce =>
    hnone k hk dt ((hpoll.inForce_iff hreachable.tableOk le_rfl
      (IpAddr.normal_of_mem_coveringKeys hk)).mp hforce)
  refine letOn_of_unlisted (hpoll.reachable hreachable)
    ((Node.everyState_quiet hquiet).mono fun m hm k hk dt hforce => ?_) hsite hnew
  rw [hm.1] at hforce
  exact hunlisted k hk dt (hforce.of_le hm.2)

/-- Another client is let on by both handlers. -/
theorem polled_let_on_exampleBan :
    let step := Node.step exampleLibraries fun _ => ⟨tableSite, []⟩
    let l : List (NodeLabel Unit) :=
      [.part () (.run banAnswers), .env (.tick 5), .part () (.run banAnswers)]
    EveryState step (fun n => (n.part ()).state.LetOn) l polledNode ∧
      EveryStep step
        (fun label n => ∀ a, label = .part () (.run a) → (n.part ()).phase ≠ .content →
          ∃ n', step label n = some n' ∧ (n'.part ()).phase = (n.part ()).phase.next) l
        polledNode := by
  intro step l
  have hpoll := polled_polledNode fun _ => ⟨tableSite, []⟩
  have hfresh : (Node.fresh 8 20 fun _ : Unit => none).env.table.Reachable :=
    ⟨8, [], by decide, rfl⟩
  have hunlisted : polledNode.env.Unlisted (.v4 #v[192, 0, 2, 3]) :=
    (unlisted_iff (hpoll.reachable hfresh).tableOk).mpr (by decide +kernel)
  have hpre : exec step [] (Node.fresh 8 20 fun _ : Unit => none) = some _ := rfl
  refine polled_let_on (by decide) hpre hpoll (fun k hk dt hact => ?_) rfl
    ⟨by decide, by decide, by decide, rfl⟩ rfl
  exact hunlisted k hk dt ((hpoll.inForce_iff hfresh.tableOk le_rfl
    (IpAddr.normal_of_mem_coveringKeys hk)).mpr hact)

end CrowdSecBouncer
