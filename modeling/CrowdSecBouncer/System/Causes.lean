import CrowdSecBouncer.System.Enforcement

/-!
# What stops a request

Whenever a request that only the table could stop is not let on, there is a cause: a handler ran
for it, and a call before that had listed a decision for its client which was in force from then
on until the handler ran (`stopped_has_cause`). Evictions and clears in between only take
decisions away, so they have no part in it.
-/

namespace CrowdSecBouncer

open LabelledRun

variable {ι : Type*} [DecidableEq ι] {lib : TokenLibraries} {visits : ι → Visit}
  {l : List (NodeLabel ι)} {n n' : Node ι} {label : NodeLabel ι} {ip : IpAddr} {k : Key}
  {dt : DecisionType} {T : ℤ}

/-- The clock is not set back. -/
theorem Node.clock_le_of_exec (h : exec (Node.step lib visits) l n = some n') :
    n.env.clock ≤ n'.env.clock := by
  have hstep (action : SharedAction) (c c' : Shared) (_ : True) (hc : n.env.clock ≤ c.clock)
      (h : Shared.step action c = some c') : n.env.clock ≤ c'.clock :=
    hc.trans (Shared.step_spec h).2.2
  exact (Node.everyState_shared hstep (fun _ _ hc => hc)
    (everyStep_of_mem fun _ _ _ _ _ => trivial) le_rfl).last h

/-- A decision comes into force by a call that lists it. -/
theorem Node.starts_of_step (h : TableOk n.env.table) (hk : k.Normal)
    (hstep : Node.step lib visits label n = some n') (hclock : n'.env.clock ≤ T)
    (hbefore : ¬ n.env.table.InForce T k dt) (hafter : n'.env.table.InForce T k dt) :
    ∃ op, label = .env (.call op) ∧ op.Starts T k dt := by
  rcases label with (op | secs) | ⟨i, action⟩
  · obtain ⟨c', hc', rfl⟩ := Interleaving.step_env.mp hstep
    obtain ⟨htime, rfl⟩ := Shared.step_call hc'
    have hleaves : op.Leaves n.env.table T k dt :=
      (h.inForce_apply_iff (fun t ht => (htime t ht).trans hclock) hk).mp hafter
    exact ⟨op, rfl, hleaves.resolve_left fun hstays => hbefore hstays.1⟩
  · obtain ⟨c', hc', rfl⟩ := Interleaving.step_env.mp hstep
    obtain rfl := Shared.step_tick hc'
    exact absurd hafter hbefore
  · obtain ⟨out, hout, rfl⟩ := Interleaving.step_part.mp hstep
    have htable : out.1.table = n.env.table := (Visit.table_clock_of_step hout).1
    exact absurd (htable ▸ hafter) hbefore

theorem not_inForce_fresh {capacity : ℕ} (hpos : 0 < capacity) (hk : k.Normal) :
    ¬ (ShmData.fresh capacity).InForce T k dt := by
  have hfind : (ShmData.fresh capacity).find k = none := by
    refine Option.eq_none_iff_forall_ne_some.mpr fun e he => ?_
    obtain ⟨i, -, hocc, -⟩ := ((tableOk_fresh hpos).find_eq_some_iff hk).mp he
    have hvacant : ((ShmData.fresh capacity).entries i).isVacant = true := rfl
    exact absurd (hvacant.symm.trans hocc) (by decide)
  rw [ShmData.InForce, ShmData.deadlineAt, hfind]
  exact Deadline.not_active_bot

/-- **A decision in force has been listed**, and was in force ever since. -/
theorem Node.exists_starts_of_inForce {capacity : ℕ} {clock : ℤ}
    {bodies : ι → Option RequestBody} (hpos : 0 < capacity) (hk : k.Normal)
    (hexec : exec (Node.step lib visits) l (Node.fresh capacity clock bodies) = some n)
    (hforce : n.env.table.InForce n.env.clock k dt) :
    ∃ l₁ op l₂ m, l = l₁ ++ .env (.call op) :: l₂ ∧ op.Starts n.env.clock k dt ∧
      exec (Node.step lib visits) (l₁ ++ [.env (.call op)]) (Node.fresh capacity clock bodies) =
        some m ∧ exec (Node.step lib visits) l₂ m = some n ∧
      EveryState (Node.step lib visits)
        (fun n' => n'.env.table.InForce n.env.clock k dt) l₂ m := by
  rcases everyState_or_exists_last_step (P := fun n' => n'.env.table.InForce n.env.clock k dt)
    hexec hforce with hall | ⟨l₁, label, l₂, t, m, rfl, ht, hstep, hbefore, hafter, hrest⟩
  · exact absurd hall.head (not_inForce_fresh hpos hk)
  · obtain ⟨op, rfl, hstarts⟩ := Node.starts_of_step (Node.reachable_of_exec hpos ht).tableOk hk
      hstep (Node.clock_le_of_exec hrest) hbefore hafter.head
    exact ⟨l₁, op, l₂, m, rfl, hstarts,
      exec_append.mpr ⟨t, ht, exec_cons.mpr ⟨m, hstep, rfl⟩⟩, hrest, hafter⟩

/-- **Nobody is stopped without a cause.** In any interleaving from a fresh start, when a request
that only the table could stop has been answered, suspended or counted as dropped, this was done
by the run of a handler (between `m'` and `m''`), and a call before it had listed a decision for a
key that covers the client, which was in force from then on until the handler ran. -/
theorem stopped_has_cause {capacity : ℕ} {clock : ℤ} {bodies : ι → Option RequestBody} {i : ι}
    (hpos : 0 < capacity)
    (hexec : exec (Node.step lib visits) l (Node.fresh capacity clock bodies) = some n)
    (hsite : (visits i).toSite.TableOnly ip) (hstopped : ¬ (n.part i).state.LetOn) :
    ∃ l₁ op l₂ a l₃ m m' m'', l = l₁ ++ .env (.call op) :: l₂ ++ .part i (.run a) :: l₃ ∧
      exec (Node.step lib visits) (l₁ ++ [.env (.call op)]) (Node.fresh capacity clock bodies) =
        some m ∧ exec (Node.step lib visits) l₂ m = some m' ∧
      Node.step lib visits (.part i (.run a)) m' = some m'' ∧ (m'.part i).state.LetOn ∧
      ¬ (m''.part i).state.LetOn ∧
      ∃ k ∈ ip.coveringKeys, ∃ dt, op.Starts m'.env.clock k dt ∧
        EveryState (Node.step lib visits)
          (fun n => n.env.table.InForce m'.env.clock k dt) l₂ m := by
  have hnew : ((Node.fresh capacity clock bodies).part i).state.LetOn :=
    ⟨rfl, rfl, rfl, rfl, rfl, rfl, rfl⟩
  obtain ⟨l', label, l₃, m', m'', rfl, hm', hstep, hlet, hnot⟩ :=
    exists_step_of_exec (P := fun n => ¬ (n.part i).state.LetOn) hexec (not_not.mpr hnew) hstopped
  rw [not_not] at hlet
  rcases Interleaving.part_or_other i label with ⟨action, rfl⟩ | hother
  · have hpart := (Visit.step_eq_some_iff.mp (Interleaving.partStep_of_step hstep)).1
    obtain ⟨b, hrun⟩ := hlet.exists_run hpart
    obtain ⟨a, rfl⟩ : ∃ a, action = .run a := by
      cases action with
      | run a => exact ⟨a, rfl⟩
      | _ => exact absurd hrun (by simp [RequestAction.mapAnswers])
    have hfound : (lookupIp m'.env.table ip m'.env.clock).found = true := by
      refine Bool.not_eq_false _ ▸ fun hnone => hnot (letOn_step hsite ?_ hlet hpart).1
      rw [Visit.lookup_answers, Visit.lookup_of_clientIp hsite.client]
      exact hnone
    have hok := (Node.reachable_of_exec hpos hm').tableOk
    obtain ⟨k, hk, dt, hforce⟩ := hok.found_lookupIp_iff.mp hfound
    obtain ⟨l₁, op, l₂, m, rfl, hstarts, hm, hrest, hsince⟩ :=
      Node.exists_starts_of_inForce hpos (IpAddr.normal_of_mem_coveringKeys hk) hm' hforce
    exact ⟨l₁, op, l₂, a, l₃, m, m', m'', by simp, hm, hrest, hstep, hlet, hnot, k, hk, dt,
      hstarts, hsince⟩
  · exact absurd (Interleaving.part_eq_of_step hother hstep ▸ hlet) hnot

/-- The ban of the client is listed, a second passes, and ACCESS answers the request. -/
theorem stopped_has_cause_exampleBanCall :
    let site : Visit := ⟨{ tableSite with req := plainRequest }, []⟩
    let step := Node.step exampleLibraries fun _ : Unit => site
    let l : List (NodeLabel Unit) :=
      [.env (.call exampleBanCall), .env (.tick 1), .part () (.run banAnswers)]
    ∃ l₁ op l₂ a l₃ m m' m'', l = l₁ ++ .env (.call op) :: l₂ ++ .part () (.run a) :: l₃ ∧
      exec step (l₁ ++ [.env (.call op)]) (Node.fresh 8 100 fun _ => none) = some m ∧
      exec step l₂ m = some m' ∧ step (.part () (.run a)) m' = some m'' ∧
      (m'.part ()).state.LetOn ∧ ¬ (m''.part ()).state.LetOn ∧
      ∃ k ∈ (IpAddr.v4 #v[192, 0, 2, 1]).coveringKeys, ∃ dt, op.Starts m'.env.clock k dt ∧
        EveryState step (fun n => n.env.table.InForce m'.env.clock k dt) l₂ m := by
  intro site step l
  have hexec : exec step l (Node.fresh 8 100 fun _ => none) = some _ := rfl
  refine stopped_has_cause (by decide) hexec ⟨by decide, by decide, by decide, rfl⟩ fun h => ?_
  exact absurd h.dropped (by decide +kernel)

end CrowdSecBouncer
