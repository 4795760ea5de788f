import CrowdSecBouncer.Stream.Batch
import CrowdSecBouncer.Stream.FallbackTypes
import CrowdSecBouncer.Stream.PollingLoop

/-!
# What a history of polls leaves in force

The polling loop applies one answer of LAPI after the other, a full list at its start and changes
from then on, with failed polls in between. What the table says in the end is what LAPI said last:
a decision is in force when some answer listed it, with a deadline that is still ahead, and no later
answer deleted it or started afresh (`inForce_iff_standing`). Once a startup poll has succeeded
nothing is left of what the zone held before, so that every lookup is answered from the history
alone (`lookup_tracks_lapi`).
-/

namespace CrowdSecBouncer

open LabelledRun

/-- The table that the decisions of a poll are applied to. -/
def ShmData.base (s : ShmData) (startup : Bool) : ShmData := if startup then clearAll s else s

theorem ShmData.Reachable.base {s : ShmData} (h : s.Reachable) (startup : Bool) :
    (s.base startup).Reachable := by
  cases startup with
  | true => exact h.run [.clearAll]
  | false => exact h

/-- The response lists the pair, with a deadline after `now`. -/
def StreamResponse.ListsAhead (fallback : FallbackRemediation) (r : StreamResponse) (now : ℤ)
    (p : Key × DecisionType) : Prop :=
  ∃ dc ∈ r.new, dc.1.pair? fallback = some p ∧ Deadline.Active now (dc.1.listedDeadline dc.2)

/-- A poll that has returned: which kind it was, and what LAPI answered, if it did. -/
structure FinishedPoll where
  startup : Bool
  answer : Option StreamResponse

namespace FinishedPoll

variable (fallback : FallbackRemediation) (now : ℤ) (p : Key × DecisionType)

def event (q : FinishedPoll) : PollEvent := ⟨q.startup, q.answer.isSome⟩

/-- What the poll makes of the table. -/
def step (q : FinishedPoll) (s : ShmData) : Option ShmData :=
  some (poll q.startup (q.answer.map fun r => r.applyCalls fallback) s)

/-- Nothing is evicted, and the clock readings are those of a clock that has not passed `now`. -/
def Clean (q : FinishedPoll) (s : ShmData) : Prop :=
  ∀ r ∈ q.answer, NeverEvicts (r.applyCalls fallback) (s.base q.startup) ∧ r.Fits ∧ r.ReadBy now

def Lists (q : FinishedPoll) : Prop := ∃ r ∈ q.answer, r.ListsAhead fallback now p

def Drops (q : FinishedPoll) : Prop :=
  ∃ r ∈ q.answer, q.startup = true ∨ r.ListsDeleted fallback p

end FinishedPoll

/-- LAPI's last word on the pair, in a history of polls, is that it is in force. -/
def LapiStanding (fallback : FallbackRemediation) (now : ℤ) (polls : List FinishedPoll)
    (p : Key × DecisionType) : Prop :=
  Standing (FinishedPoll.Lists fallback now p) (FinishedPoll.Drops fallback p) polls

variable {fallback : FallbackRemediation} {now : ℤ} {polls : List FinishedPoll} {s s' : ShmData}
  {q : FinishedPoll} {k : Key} {dt : DecisionType}

theorem FinishedPoll.reachable_of_step (h : s.Reachable) (hstep : q.step fallback s = some s') :
    s'.Reachable := by
  obtain rfl := Option.some_injective _ hstep
  rcases hanswer : q.answer with _ | r
  · exact h
  · exact (h.base q.startup).run _

theorem not_inForce_clearAll (h : TableOk s) (hk : k.Normal) :
    ¬ (clearAll s).InForce now k dt := by
  rw [ShmData.InForce, ShmData.deadlineAt, TableOk.find_clearAll h.capacity_pos hk]
  exact Deadline.not_active_bot

/-- **Step lemma.** -/
theorem FinishedPoll.inForce_step (h : s.Reachable) (hclean : q.Clean fallback now s)
    (hk : k.Normal) (hstep : q.step fallback s = some s') :
    s'.InForce now k dt ↔
      q.Lists fallback now (k, dt) ∨ s.InForce now k dt ∧ ¬ q.Drops fallback (k, dt) := by
  obtain rfl := Option.some_injective _ hstep
  obtain ⟨startup, _ | r⟩ := q
  · simp [FinishedPoll.Lists, FinishedPoll.Drops, poll]
  · obtain ⟨hevict, hfits, hread⟩ := hclean r rfl
    have hpoll : (applyToShm fallback (s.base startup) r).InForce now k dt ↔
        r.ListsAhead fallback now (k, dt) ∨
          (s.base startup).InForce now k dt ∧ ¬ r.ListsDeleted fallback (k, dt) :=
      (eqFrom_applyToShm (p := (k, dt)) (h.base startup).tableOk hevict hfits hread hk now
        le_rfl).trans active_requestedDeadline
    have hlists : (⟨startup, some r⟩ : FinishedPoll).Lists fallback now (k, dt) ↔
        r.ListsAhead fallback now (k, dt) := by
      simp [FinishedPoll.Lists]
    refine hpoll.trans (or_congr hlists.symm ?_)
    cases startup with
    | true =>
      -- a startup poll drops everything
      refine iff_of_false (fun hforce => not_inForce_clearAll h.tableOk hk hforce.1)
        fun hforce => hforce.2 ⟨r, rfl, .inl rfl⟩
    | false => simp [FinishedPoll.Drops, ShmData.base]

/-- **A history of polls.** -/
theorem inForce_iff_standing (h : s.Reachable)
    (hclean : EveryStep (FinishedPoll.step fallback) (FinishedPoll.Clean fallback now) polls s)
    (hk : k.Normal) (hexec : exec (FinishedPoll.step fallback) polls s = some s') :
    s'.InForce now k dt ↔ LapiStanding fallback now polls (k, dt) ∨
      s.InForce now k dt ∧ ∀ q ∈ polls, ¬ q.Drops fallback (k, dt) := by
  have hreachable : EveryState (FinishedPoll.step fallback) ShmData.Reachable polls s :=
    everyState_of_step (fun q _ _ _ hs hstep => q.reachable_of_step hs hstep) hclean h
  have hok := hclean.and (everyStep_of_everyState (fun _ _ hs _ => hs) hreachable :
    EveryStep _ (fun _ s => s.Reachable) polls s)
  exact holds_iff_standing (fun q s s' hq hstep => q.inForce_step hq.2 hq.1 hk hstep) hok hexec

/-! ### The polls of the loop -/

/-- What the loop learns, where each reply is an answer of LAPI. -/
inductive LapiInput
  | stop
  | go
  | elected (won : Bool)
  | answer (reply : Option StreamResponse)

/-- The calls of the answer are what the loop sees of it. -/
def LapiInput.toInput (fallback : FallbackRemediation) : LapiInput → LoopInput
  | stop => .stop
  | go => .go
  | elected won => .elected won
  | answer reply => .reply (reply.map fun r => r.applyCalls fallback)

namespace PollingLoop

/-- The poll that an input ends. -/
def finishes : LoopPc → LapiInput → Option FinishedPoll
  | .startupPoll _, .answer reply => some ⟨true, reply⟩
  | .deltaPoll, .answer reply => some ⟨false, reply⟩
  | _, _ => none

variable (config : StreamClientConfig) (fallback : FallbackRemediation)

/-- The polls that return in a run, in order. -/
def finishedPolls : List LapiInput → PollingLoop → List FinishedPoll
  | [], _ => []
  | input :: l, loop =>
    match step config (input.toInput fallback) loop with
    | none => []
    | some loop' => (finishes loop.pc input).toList ++ finishedPolls l loop'

variable {config fallback} {input : LapiInput} {l : List LapiInput} {loop loop' : PollingLoop}

/-- What a step does to table and history is what the poll does that it ends. -/
theorem step_finishes (hstep : step config (input.toInput fallback) loop = some loop') :
    loop'.history = loop.history ++ (finishes loop.pc input).toList.map FinishedPoll.event ∧
      exec (FinishedPoll.step fallback) (finishes loop.pc input).toList loop.table =
        some loop'.table := by
  obtain ⟨pc, running, table, history⟩ := loop
  cases input with
  | stop =>
    obtain rfl := Option.some_injective _ hstep
    cases pc <;> exact ⟨(List.append_nil _).symm, rfl⟩
  | go | elected _ =>
    cases pc
    all_goals first
      | obtain rfl := Option.some_injective _ hstep
        exact ⟨(List.append_nil _).symm, rfl⟩
      | exact absurd hstep (by simp [LapiInput.toInput, step])
  | answer reply =>
    cases pc with
    | startupPoll attempt =>
      obtain rfl := Option.some_injective _ hstep
      exact ⟨by simp [finishes, finishPoll, FinishedPoll.event], rfl⟩
    | deltaPoll =>
      obtain rfl := Option.some_injective _ hstep
      exact ⟨by simp [finishes, finishPoll, FinishedPoll.event], rfl⟩
    | _ => exact absurd hstep (by simp [LapiInput.toInput, step])

/-- **The loop is its polls.** -/
theorem exec_finishedPolls
    (hexec : exec (step config) (l.map (LapiInput.toInput fallback)) loop = some loop') :
    loop'.history =
        loop.history ++ (finishedPolls config fallback l loop).map FinishedPoll.event ∧
      exec (FinishedPoll.step fallback) (finishedPolls config fallback l loop) loop.table =
        some loop'.table := by
  induction l generalizing loop with
  | nil =>
    obtain rfl := Option.some_injective _ hexec
    exact ⟨(List.append_nil _).symm, rfl⟩
  | cons input l ih =>
    obtain ⟨loop₁, hstep, hrest⟩ := exec_cons.mp hexec
    obtain ⟨hhistory, htable⟩ := step_finishes hstep
    obtain ⟨hhistory', htable'⟩ := ih hrest
    rw [finishedPolls, hstep]
    refine ⟨?_, exec_append.mpr ⟨loop₁.table, htable, htable'⟩⟩
    rw [hhistory', hhistory, List.map_append, List.append_assoc]

/-- A startup poll that was answered drops every pair. -/
theorem exists_drops_of_fullSync (h : FullSync (polls.map FinishedPoll.event))
    (p : Key × DecisionType) : ∃ q ∈ polls, q.Drops fallback p := by
  obtain ⟨q, hq, hevent⟩ := List.mem_map.mp h
  obtain ⟨hstartup, hanswered⟩ := PollEvent.mk.inj hevent
  obtain ⟨r, hr⟩ := Option.isSome_iff_exists.mp hanswered
  exact ⟨q, hq, r, hr, .inl hstartup⟩

/-- **The cache tracks LAPI.** In every run of the loop, on whatever the zone held when it started,
in which a startup poll has succeeded and nothing was evicted: a lookup finds a decision exactly
when LAPI's last word is that one is in force for a key that covers the address, and it reports a
ban exactly when such a ban stands and no captcha for a more specific key. -/
theorem lookup_tracks_lapi {table : ShmData} {ip : IpAddr} (h : table.Reachable)
    (hexec : exec (step config) (l.map (LapiInput.toInput fallback)) (initial table) = some loop)
    (hsync : FullSync loop.history)
    (hclean : EveryStep (FinishedPoll.step fallback) (FinishedPoll.Clean fallback now)
      (finishedPolls config fallback l (initial table)) table) :
    let standing := LapiStanding fallback now (finishedPolls config fallback l (initial table))
    ((lookupIp loop.table ip now).found = true ↔
        ∃ k ∈ ip.coveringKeys, ∃ dt, standing (k, dt)) ∧
      (loop.table.ReportsBan ip now ↔
        ∃ before k after, ip.coveringKeys = before ++ k :: after ∧ standing (k, .ban) ∧
          ∀ k' ∈ before, ¬ standing (k', .captcha)) := by
  intro standing
  obtain ⟨hhistory, htable⟩ := exec_finishedPolls hexec
  rw [hhistory] at hsync
  have hreachable : loop.table.Reachable :=
    exec_of_step (fun q _ _ hs hstep => q.reachable_of_step hs hstep) h htable
  have hforce {k : Key} (hk : k ∈ ip.coveringKeys) (dt : DecisionType) :
      loop.table.InForce now k dt ↔ standing (k, dt) := by
    refine (inForce_iff_standing h hclean (IpAddr.normal_of_mem_coveringKeys hk) htable).trans
      (or_iff_left fun hkept => ?_)
    obtain ⟨q, hq, hdrops⟩ := exists_drops_of_fullSync hsync (k, dt)
    exact hkept.2 q hq hdrops
  constructor
  · rw [hreachable.tableOk.found_lookupIp_iff]
    exact exists_congr fun k => and_congr_right fun hk => exists_congr fun dt => hforce hk dt
  · rw [hreachable.tableOk.reportsBan_iff]
    refine exists_congr fun before => exists_congr fun k => exists_congr fun after =>
      and_congr_right fun hkeys => ?_
    have hmem {k' : Key} (hk' : k' ∈ before ++ k :: after) : k' ∈ ip.coveringKeys := hkeys ▸ hk'
    exact and_congr (hforce (hmem (by simp)) .ban) (forall₂_congr fun k' hk' =>
      not_congr (hforce (hmem (List.mem_append_left _ hk')) .captcha))

/-- The first startup poll fails, the second lists a ban, and a delta deletes another type. -/
def trackedRun : List LapiInput :=
  [.go, .elected true, .go, .answer none, .go, .answer (some exampleBan), .go, .go,
    .answer (some exampleUnknownDeletion)]

theorem lookup_tracks_lapi_trackedRun :
    ∃ loop, exec (step ⟨3⟩) (trackedRun.map (LapiInput.toInput .captcha)) (initial (.fresh 8)) =
      some loop ∧
    let ip := IpAddr.v4 (u32ToBeBytes 0xC0000201)
    let standing := LapiStanding .captcha 30
      (finishedPolls ⟨3⟩ .captcha trackedRun (initial (.fresh 8)))
    ((lookupIp loop.table ip 30).found = true ↔
        ∃ k ∈ ip.coveringKeys, ∃ dt, standing (k, dt)) ∧
      (loop.table.ReportsBan ip 30 ↔
        ∃ before k after, ip.coveringKeys = before ++ k :: after ∧ standing (k, .ban) ∧
          ∀ k' ∈ before, ¬ standing (k', .captcha)) := by
  refine ⟨_, rfl, lookup_tracks_lapi ⟨8, [], by decide, rfl⟩ rfl
    (List.mem_of_getElem? (i := 1) rfl) ?_⟩
  refine ⟨fun r hr => absurd hr (by simp), fun s₁ hs₁ => ⟨fun r hr => ?_, fun s₂ hs₂ =>
    ⟨fun r hr => ?_, fun _ _ => trivial⟩⟩⟩
  · obtain rfl := Option.some_injective _ hs₁
    obtain rfl := Option.some_injective _ hr
    refine ⟨by decide +kernel, fun dc hdc secs t hsecs => ?_, by decide, by decide⟩
    obtain rfl := List.mem_singleton.mp hdc
    exact absurd hsecs (by simp)
  · obtain rfl := Option.some_injective _ hs₁
    obtain rfl := Option.some_injective _ hs₂
    obtain rfl := Option.some_injective _ hr
    exact ⟨by decide +kernel, fun dc hdc => absurd hdc List.not_mem_nil, by decide, by decide⟩

end PollingLoop

end CrowdSecBouncer
