import CrowdSecBouncer.Foundations.LabelledRun
import CrowdSecBouncer.Shm.Calls

/-!
# The polling loop

`run_polling_loop` waits for the poller role, synchronises with a `startup=true` poll that
is retried, and then applies deltas until it is told to stop. Here it is a transition system
whose labels are what the loop learns from outside: that it was told to stop, whether it was
elected, how a poll ended. A reply of LAPI is represented by the calls on the decision table
that its decisions resolve to, removals first.

The loop does not give up when the initial sync fails: after the last attempt it warns and
goes on with deltas (`not_deltasAfterFullSync`). What holds is that a delta is applied only
after a startup poll has succeeded or every startup attempt has failed
(`deltasAfterStartupPhase`). Sleeps, logging and metrics uploads do not touch the decision
table and are left out.
-/

namespace CrowdSecBouncer

/-- The setting of the stream client that the order of polls depends on. -/
structure StreamClientConfig where
  maxRetries : ℕ
  deriving DecidableEq, Repr

instance : Inhabited StreamClientConfig := ⟨⟨3⟩⟩

/-- A finished poll. -/
structure PollEvent where
  startup : Bool
  /-- The reply was applied to shared memory; otherwise the request or its JSON failed. -/
  applied : Bool
  deriving DecidableEq, Repr

/-- The effect of `StreamClient::poll`: a startup reply replaces the decisions, a delta
updates them, a failure changes nothing. -/
def poll (startup : Bool) (reply : Option (List TableOp)) (table : ShmData) : ShmData :=
  match reply with
  | some calls => TableOp.run (if startup then clearAll table else table) calls
  | none => table

/-- Where the polling thread stands. -/
inductive LoopPc
  /-- At the head of the election loop. -/
  | waiting
  /-- In `try_become_poller`. -/
  | electing
  /-- After the election loop, before its `running` check. -/
  | elected
  /-- In `poll_with_retry(true)`, in the attempt with this index. -/
  | startupPoll (attempt : ℕ)
  /-- Sleeping after the failed attempt with this index. -/
  | retrySleep (attempt : ℕ)
  /-- At the head of the main loop. -/
  | mainLoop
  /-- In the main loop, after the sleep. -/
  | slept
  /-- In `poll(false)`. -/
  | deltaPoll
  | stopped
  deriving DecidableEq, Repr

/-- The state of a run of the loop. `history` is the list of finished polls, in order. -/
structure PollingLoop where
  pc : LoopPc
  running : Bool
  table : ShmData
  history : List PollEvent

/-- What the loop learns, and what it does on its own. -/
inductive LoopInput
  /-- `running` is set to `false`. -/
  | stop
  /-- The thread reads `running` and goes on. -/
  | go
  /-- `try_become_poller` returns. -/
  | elected (won : Bool)
  /-- A poll returns. -/
  | reply (reply : Option (List TableOp))
  deriving DecidableEq, Repr

namespace PollingLoop

/-- A polling thread that was just spawned. -/
def initial (table : ShmData) : PollingLoop := ⟨.waiting, true, table, []⟩

/-- A poll returns and the thread goes to `pc`. -/
def finishPoll (s : PollingLoop) (startup : Bool) (reply : Option (List TableOp)) (pc : LoopPc) :
    PollingLoop :=
  { s with
    pc, table := poll startup reply s.table, history := s.history ++ [⟨startup, reply.isSome⟩] }

/-- One step of the loop. -/
def step (config : StreamClientConfig) (input : LoopInput) (s : PollingLoop) :
    Option PollingLoop :=
  match input, s.pc with
  | .stop, _ => some { s with running := false }
  | .go, .waiting => some { s with pc := if s.running then .electing else .elected }
  | .elected won, .electing => some { s with pc := if won then .elected else .waiting }
  | .go, .elected => some { s with pc := if s.running then .startupPoll 0 else .stopped }
  | .reply reply, .startupPoll attempt =>
    -- the last failed attempt ends the initial sync, and the main loop starts all the same
    some (s.finishPoll true reply
      (if reply.isSome then .mainLoop
      else if attempt < config.maxRetries then .retrySleep attempt else .mainLoop))
  | .go, .retrySleep attempt =>
    some { s with pc := if s.running then .startupPoll (attempt + 1) else .mainLoop }
  | .go, .mainLoop => some { s with pc := if s.running then .slept else .stopped }
  | .go, .slept => some { s with pc := if s.running then .deltaPoll else .stopped }
  | .reply reply, .deltaPoll => some (s.finishPoll false reply .mainLoop)
  | _, _ => none

/-! ### The order of polls -/

/-- Every delta that was applied comes after a part of the history that satisfies `P`. -/
def DeltasAfter (P : List PollEvent → Prop) (history : List PollEvent) : Prop :=
  ∀ i, history[i]? = some ⟨false, true⟩ → P (history.take i)

/-- A startup poll has succeeded. -/
def FullSync (history : List PollEvent) : Prop := ⟨true, true⟩ ∈ history

/-- A startup poll has succeeded, or all `max_retries + 1` of them have failed. -/
def StartupPhaseOver (config : StreamClientConfig) (history : List PollEvent) : Prop :=
  FullSync history ∨ history.take (config.maxRetries + 1) =
    List.replicate (config.maxRetries + 1) ⟨true, false⟩

theorem DeltasAfter.append {P : List PollEvent → Prop} {history : List PollEvent} {e : PollEvent}
    (h : DeltasAfter P history) (he : e = ⟨false, true⟩ → P history) :
    DeltasAfter P (history ++ [e]) := by
  intro i hi
  rcases Nat.lt_trichotomy i history.length with hlt | rfl | hlt
  · rw [List.getElem?_append_left hlt] at hi
    rw [List.take_append_of_le_length hlt.le]
    exact h i hi
  · rw [List.getElem?_concat_length] at hi
    rw [List.take_left]
    exact he (Option.some_injective _ hi)
  · rw [List.getElem?_eq_none (by rw [List.length_append, List.length_singleton]; omega)] at hi
    exact absurd hi (by simp)

/-- Once over, the startup phase stays over. -/
theorem StartupPhaseOver.append {config : StreamClientConfig} {history : List PollEvent}
    (h : StartupPhaseOver config history) (e : PollEvent) :
    StartupPhaseOver config (history ++ [e]) := by
  rcases h with hsync | htake
  · exact .inl (List.mem_append_left _ hsync)
  · refine .inr ?_
    have hlen : config.maxRetries + 1 ≤ history.length := by
      have hlen := congrArg List.length htake
      rw [List.length_take, List.length_replicate] at hlen
      omega
    rwa [List.take_append_of_le_length hlen]

/-- The history that a place in the code goes with. -/
def HistoryAt (config : StreamClientConfig) (running : Bool) (history : List PollEvent) :
    LoopPc → Prop
  | .waiting | .electing | .elected => history = []
  | .startupPoll attempt =>
    attempt ≤ config.maxRetries ∧ history = List.replicate attempt ⟨true, false⟩
  | .retrySleep attempt =>
    attempt < config.maxRetries ∧ history = List.replicate (attempt + 1) ⟨true, false⟩
  | .mainLoop | .slept => running = true → StartupPhaseOver config history
  | .deltaPoll => StartupPhaseOver config history
  | .stopped => True

/-- The invariant of the loop. -/
structure Ok (config : StreamClientConfig) (s : PollingLoop) : Prop where
  deltas : DeltasAfter (StartupPhaseOver config) s.history
  here : HistoryAt config s.running s.history s.pc

theorem ok_initial (config : StreamClientConfig) (table : ShmData) : Ok config (initial table) :=
  ⟨fun i hi => absurd hi (by simp [initial]), rfl⟩

/-- Being told to stop only weakens what the places promise. -/
private theorem historyAt_stop {config : StreamClientConfig} {history : List PollEvent}
    {running : Bool} {pc : LoopPc} (h : HistoryAt config running history pc) :
    HistoryAt config false history pc := by
  cases pc with
  | mainLoop => exact fun hrun => absurd hrun (by simp)
  | slept => exact fun hrun => absurd hrun (by simp)
  | _ => exact h

/-- **The step lemma.** -/
theorem Ok.step {config : StreamClientConfig} {input : LoopInput} {s s' : PollingLoop}
    (h : Ok config s) (hstep : step config input s = some s') : Ok config s' := by
  obtain ⟨pc, running, table, history⟩ := s
  obtain ⟨hdeltas, hhere⟩ := h
  cases input with
  | stop =>
    obtain rfl := Option.some_injective _ hstep
    exact ⟨hdeltas, historyAt_stop hhere⟩
  | go =>
    cases pc with
    | waiting =>
      obtain rfl := Option.some_injective _ hstep
      refine ⟨hdeltas, ?_⟩
      cases running <;> exact hhere
    | elected =>
      obtain rfl := Option.some_injective _ hstep
      refine ⟨hdeltas, ?_⟩
      cases running
      · trivial
      · exact ⟨Nat.zero_le _, hhere⟩
    | retrySleep attempt =>
      obtain rfl := Option.some_injective _ hstep
      refine ⟨hdeltas, ?_⟩
      cases running
      · exact fun hrun => absurd hrun (by simp)
      · exact ⟨hhere.1, hhere.2⟩
    | mainLoop =>
      obtain rfl := Option.some_injective _ hstep
      refine ⟨hdeltas, ?_⟩
      cases running
      · trivial
      · exact hhere
    | slept =>
      obtain rfl := Option.some_injective _ hstep
      refine ⟨hdeltas, ?_⟩
      cases running
      · trivial
      · exact hhere rfl
    | _ => exact absurd hstep (by simp [PollingLoop.step])
  | elected won =>
    cases pc with
    | electing =>
      obtain rfl := Option.some_injective _ hstep
      refine ⟨hdeltas, ?_⟩
      cases won <;> exact hhere
    | _ => exact absurd hstep (by simp [PollingLoop.step])
  | reply reply =>
    cases pc with
    | startupPoll attempt =>
      obtain rfl := Option.some_injective _ hstep
      refine ⟨hdeltas.append (fun he => absurd he (by simp)), ?_⟩
      obtain ⟨hle, rfl⟩ := hhere
      cases reply with
      | some calls => exact fun _ => .inl (List.mem_append_right _ (List.mem_singleton.mpr rfl))
      | none =>
        -- one more failure; the last one ends the startup phase
        have hhistory : List.replicate attempt (⟨true, false⟩ : PollEvent) ++ [⟨true, false⟩] =
            List.replicate (attempt + 1) ⟨true, false⟩ :=
          List.replicate_succ'.symm
        simp only [finishPoll, Option.isSome_none, Bool.false_eq_true, if_false]
        rw [hhistory]
        split
        · next hlt => exact ⟨hlt, rfl⟩
        · next hge =>
          obtain rfl : attempt = config.maxRetries := by omega
          refine fun _ => .inr ?_
          rw [List.take_of_length_le (by simp)]
    | deltaPoll =>
      obtain rfl := Option.some_injective _ hstep
      exact ⟨hdeltas.append fun _ => hhere, fun _ => StartupPhaseOver.append hhere _⟩
    | _ => exact absurd hstep (by simp [PollingLoop.step])

open LabelledRun

/-- **Deltas come after the startup phase.** In every run, a delta is applied only after a
startup poll of the run has succeeded or all of its startup attempts have failed. -/
theorem deltasAfterStartupPhase (config : StreamClientConfig) (table : ShmData)
    (l : List LoopInput) :
    EveryState (step config) (fun s => DeltasAfter (StartupPhaseOver config) s.history) l
      (initial table) :=
  (everyState_of_step (fun _ _ _ _ h hstep => h.step hstep)
    (everyStep_of_mem fun _ _ _ => trivial : EveryStep _ (fun _ _ => True) l _)
    (ok_initial config table)).mono fun _ h => h.deltas

/-- LAPI is down at boot for all four attempts and comes back before the first delta. -/
def bootOrderRun : List LoopInput :=
  [.go, .elected true, .go, .reply none, .go, .reply none, .go, .reply none, .go, .reply none,
    .go, .go, .reply (some [])]

/-- A delta can be applied without a full sync. -/
theorem not_deltasAfterFullSync :
    ¬ ∀ (config : StreamClientConfig) (table : ShmData) (l : List LoopInput),
      EveryState (step config) (fun s => DeltasAfter FullSync s.history) l (initial table) := by
  intro h
  have hrun := h ⟨3⟩ (ShmData.fresh 1) bootOrderRun
  have hlast : exec (step ⟨3⟩) bootOrderRun (initial (ShmData.fresh 1)) =
      some ⟨.mainLoop, true, ShmData.fresh 1,
        List.replicate 4 ⟨true, false⟩ ++ [⟨false, true⟩]⟩ := rfl
  have hsync : FullSync (List.replicate 4 ⟨true, false⟩) := (hrun.last hlast) 4 rfl
  exact absurd hsync (by simp [FullSync])

/-! ### The decision table under the loop -/

/-- A poll keeps the invariant of the table. -/
theorem tableOk_poll {table : ShmData} (h : TableOk table) (startup : Bool)
    (reply : Option (List TableOp)) : TableOk (poll startup reply table) := by
  cases reply with
  | none => exact h
  | some calls =>
    refine TableOk.run ?_ calls
    cases startup
    · exact h
    · exact tableOk_clearAll h.capacity_pos

/-- A step leaves the table as one poll does, at most. -/
theorem table_step {config : StreamClientConfig} {input : LoopInput} {s s' : PollingLoop}
    (hstep : step config input s = some s') :
    ∃ startup reply, s'.table = poll startup reply s.table := by
  unfold step at hstep
  split at hstep
  case h_5 =>
    obtain rfl := Option.some_injective _ hstep
    exact ⟨true, _, rfl⟩
  case h_9 =>
    obtain rfl := Option.some_injective _ hstep
    exact ⟨false, _, rfl⟩
  case h_10 => exact absurd hstep (by simp)
  all_goals
    obtain rfl := Option.some_injective _ hstep
    exact ⟨true, none, rfl⟩

/-- **The table under the loop.** The representation invariant holds in every state of every
run of the loop that starts with it. -/
theorem representationInvariant_everyState (config : StreamClientConfig) {table : ShmData}
    (h : TableOk table) (l : List LoopInput) :
    EveryState (step config) (fun s => RepresentationInvariant s.table) l (initial table) := by
  have htable : EveryState (step config) (fun s => TableOk s.table) l (initial table) := by
    refine everyState_of_step (fun _ s s' _ hok hstep => ?_)
      (everyStep_of_mem fun _ _ _ => trivial : EveryStep _ (fun _ _ => True) l _) h
    obtain ⟨startup, reply, heq⟩ := table_step hstep
    rw [heq]
    exact tableOk_poll hok startup reply
  exact htable.mono fun _ hok => hok.representationInvariant

end PollingLoop

end CrowdSecBouncer
