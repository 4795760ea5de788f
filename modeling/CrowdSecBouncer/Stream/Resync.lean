import CrowdSecBouncer.Shm.Eviction
import CrowdSecBouncer.Stream.FallbackTypes
import CrowdSecBouncer.Stream.PollingLoop

/-!
# Lookups between the calls of a poll

A poll is not one transaction. The write lock is taken for each call, so a lookup can run after
any of them: it sees the table between the `clear_all` of a startup poll and the additions that
follow, or between a deletion and the addition that lists the same ban again. An address that
is banned before a poll is reported as banned at every point of it exactly when each call leaves
a ban standing (`reportsBan_throughout_iff`). A startup poll always opens a gap, since it clears
the table first.
-/

namespace CrowdSecBouncer

open LabelledRun

variable {fallback : FallbackRemediation} {s : ShmData} {r : StreamResponse} {ip : IpAddr}
  {now : ℤ}

/-- The calls of one poll: a startup poll clears the table before the decisions are applied. -/
def StreamResponse.pollCalls (startup : Bool) (fallback : FallbackRemediation)
    (r : StreamResponse) : List TableOp :=
  (if startup then [.clearAll] else []) ++ r.applyCalls fallback

/-- The calls of a poll, one after the other, are the poll. -/
theorem poll_eq_run_pollCalls (startup : Bool) (fallback : FallbackRemediation) (s : ShmData)
    (r : StreamResponse) :
    poll startup (some (r.applyCalls fallback)) s =
      TableOp.run s (r.pollCalls startup fallback) := by
  cases startup with
  | true => rfl
  | false => rfl

/-- The address is reported as banned before the calls, after them and between any two. -/
def ReportsBanThroughout (ops : List TableOp) (s : ShmData) (ip : IpAddr) (now : ℤ) : Prop :=
  EveryState TableOp.step (fun s' => s'.ReportsBan ip now) ops s

instance (ops : List TableOp) (s : ShmData) (ip : IpAddr) (now : ℤ) :
    Decidable (ReportsBanThroughout ops s ip now) :=
  decidableEveryState TableOp.step ops s

/-- Each of the calls leaves a ban standing for the address, in the state it finds. -/
def EachLeavesBan (ops : List TableOp) (s : ShmData) (ip : IpAddr) (now : ℤ) : Prop :=
  EveryStep TableOp.step (fun op s' => op.LeavesBan s' ip now) ops s

theorem eachLeavesBan_cons {op : TableOp} {ops : List TableOp} :
    EachLeavesBan (op :: ops) s ip now ↔
      op.LeavesBan s ip now ∧ EachLeavesBan ops (op.apply s) ip now := by
  refine and_congr_right fun _ => ⟨fun h => h _ rfl, fun h s' hs' => ?_⟩
  rwa [← Option.some_injective _ hs']

theorem reportsBanThroughout_cons {op : TableOp} {ops : List TableOp} :
    ReportsBanThroughout (op :: ops) s ip now ↔
      s.ReportsBan ip now ∧ ReportsBanThroughout ops (op.apply s) ip now := by
  refine and_congr_right fun _ => ⟨fun h => h _ rfl, fun h s' hs' => ?_⟩
  rwa [← Option.some_injective _ hs']

/-- **Banned throughout** a sequence of calls: each of them leaves a ban standing. -/
theorem TableOk.reportsBanThroughout_iff (h : TableOk s) {ops : List TableOp}
    (htimes : ∀ op ∈ ops, ∀ t ∈ op.time?, t ≤ now) (hbefore : s.ReportsBan ip now) :
    ReportsBanThroughout ops s ip now ↔ EachLeavesBan ops s ip now := by
  induction ops generalizing s with
  | nil => exact iff_of_true hbefore trivial
  | cons op ops ih =>
    have hcall : (op.apply s).ReportsBan ip now ↔ op.LeavesBan s ip now :=
      h.reportsBan_apply_iff (htimes op List.mem_cons_self)
    have htail : ∀ op' ∈ ops, ∀ t ∈ op'.time?, t ≤ now := fun op' hop' =>
      htimes op' (List.mem_cons_of_mem op hop')
    rw [reportsBanThroughout_cons, eachLeavesBan_cons]
    constructor
    · rintro ⟨-, hrest⟩
      -- the state after the call is the first one of the rest
      have hafter : (op.apply s).ReportsBan ip now := hrest.head
      exact ⟨hcall.mp hafter, (ih (h.apply op) htail hafter).mp hrest⟩
    · rintro ⟨hleaves, hrest⟩
      exact ⟨hbefore, (ih (h.apply op) htail (hcall.mpr hleaves)).mpr hrest⟩

/-- A ban that no call ends stays in force, and with no captcha before its key the address is
reported as banned throughout. -/
theorem TableOk.reportsBanThroughout_of_kept (h : TableOk s) {ops : List TableOp}
    (htimes : ∀ op ∈ ops, ∀ t ∈ op.time?, t ≤ now) {before after : List Key} {k : Key}
    (hkeys : ip.coveringKeys = before ++ k :: after) (hban : s.InForce now k .ban)
    (hcaptcha : ∀ k' ∈ before, ¬ s.InForce now k' .captcha) (hevict : NeverEvicts ops s)
    (hkept : ∀ op ∈ ops, op.update? ≠ some (.erase (k, .ban)) ∧ op.update? ≠ some .clear)
    (hstarts : ∀ op ∈ ops, ∀ k' ∈ before, ¬ op.Starts now k' .captcha) :
    ReportsBanThroughout ops s ip now := by
  induction ops generalizing s with
  | nil => exact h.reportsBan_iff.mpr ⟨before, k, after, hkeys, hban, hcaptcha⟩
  | cons op ops ih =>
    obtain ⟨hcall, hrest⟩ := neverEvicts_cons.mp hevict
    have hnone : op.evictedKey? s = none := if_neg (by simp [hcall])
    have hmem {k' : Key} (hk' : k' ∈ before ++ k :: after) : k'.Normal :=
      IpAddr.normal_of_mem_coveringKeys (hkeys ▸ hk')
    have htime := htimes op List.mem_cons_self
    have htail {op' : TableOp} (hop' : op' ∈ ops) : op' ∈ op :: ops := List.mem_cons_of_mem op hop'
    refine reportsBanThroughout_cons.mpr
      ⟨h.reportsBan_iff.mpr ⟨before, k, after, hkeys, hban, hcaptcha⟩,
        ih (h.apply op) (fun op' hop' => htimes op' (htail hop')) ?_ (fun k' hk' => ?_) hrest
          (fun op' hop' => hkept op' (htail hop')) (fun op' hop' => hstarts op' (htail hop'))⟩
    · refine (h.inForce_apply_iff htime (hmem (by simp))).mpr (.inl ⟨hban, ?_⟩)
      rintro (hevicted | herase | hclear)
      · exact absurd (hnone.symm.trans hevicted) (by simp)
      · exact (hkept op List.mem_cons_self).1 herase
      · exact (hkept op List.mem_cons_self).2 hclear
    · rw [h.inForce_apply_iff htime (hmem (List.mem_append_left _ hk'))]
      rintro (⟨hforce, -⟩ | hstart)
      · exact hcaptcha k' hk' hforce
      · exact hstarts op List.mem_cons_self k' hk' hstart

/-- Nothing is left standing by a clear. -/
theorem not_leavesBan_clearAll : ¬ TableOp.clearAll.LeavesBan s ip now := by
  rintro ⟨before, k, after, -, hleaves, -⟩
  rcases hleaves with ⟨-, hends⟩ | ⟨x, hstarts, -⟩
  · exact hends (.inr (.inr rfl))
  · exact absurd hstarts (by simp [TableOp.update?])

/-- The readings of a poll's calls are those of its lists. -/
theorem time?_pollCalls_le (startup : Bool) (hread : r.ReadBy now) :
    ∀ op ∈ r.pollCalls startup fallback, ∀ t ∈ op.time?, t ≤ now := by
  intro op hop t ht
  rcases List.mem_append.mp hop with hclear | happly
  · cases startup with
    | true =>
      obtain rfl := List.mem_singleton.mp hclear
      exact absurd ht (by simp [TableOp.time?])
    | false => exact absurd hclear (by simp)
  · exact times_applyCalls_le hread t (List.mem_filterMap.mpr ⟨op, happly, ht⟩)

/-- **Banned at every point of a poll**: for an address that is reported as banned before it,
this is so when each call of the poll leaves a ban standing. In a startup poll the first call
does not. -/
theorem reportsBan_throughout_iff (startup : Bool) (fallback : FallbackRemediation)
    (h : s.Reachable) (hread : r.ReadBy now) (hbefore : s.ReportsBan ip now) :
    (ReportsBanThroughout (r.pollCalls startup fallback) s ip now ↔
      EachLeavesBan (r.pollCalls startup fallback) s ip now) ∧
    (startup = true → ¬ (clearAll s).ReportsBan ip now) := by
  refine ⟨h.tableOk.reportsBanThroughout_iff (time?_pollCalls_le startup hread) hbefore,
    fun _ hafter => ?_⟩
  have htime : ∀ t ∈ TableOp.clearAll.time?, t ≤ now := by simp [TableOp.time?]
  exact not_leavesBan_clearAll ((h.tableOk.reportsBan_apply_iff htime).mp hafter)

/-- **A delta poll keeps the ban** of a key that its deleted list does not name, when it evicts
nothing and its new list has no captcha for a more specific key. -/
theorem reportsBanThroughout_applyCalls (h : s.Reachable) (hread : r.ReadBy now)
    {before after : List Key} {k : Key} (hkeys : ip.coveringKeys = before ++ k :: after)
    (hban : s.InForce now k .ban) (hcaptcha : ∀ k' ∈ before, ¬ s.InForce now k' .captcha)
    (hevict : NeverEvicts (r.applyCalls fallback) s)
    (hdeleted : ¬ r.ListsDeleted fallback (k, .ban))
    (hnew : ∀ k' ∈ before, ¬ r.ListsNew fallback (k', .captcha)) :
    ReportsBanThroughout (r.applyCalls fallback) s ip now := by
  refine h.tableOk.reportsBanThroughout_of_kept (time?_pollCalls_le false hread) hkeys
    hban hcaptcha hevict (fun op hop => ⟨fun herase => ?_, fun hclear => ?_⟩) ?_
  · exact hdeleted (erase_mem_updates_applyCalls (mem_updates_iff.mpr ⟨op, hop, herase⟩))
  · exact clear_not_mem_updates_applyCalls (mem_updates_iff.mpr ⟨op, hop, hclear⟩)
  · rintro op hop k' hk' ⟨x, hjoin, -⟩
    exact hnew k' hk' (join_mem_updates_applyCalls (mem_updates_iff.mpr ⟨op, hop, hjoin⟩))

/-- **A gap in every resynchronisation.** The address is banned before and after each of the two
polls, a startup poll that lists the same ban again and a delta poll that deletes it and adds it
again, and at some point of each poll it is not. -/
theorem not_reportsBan_throughout :
    let s := applyToShm .ban (.fresh 8) exampleBan
    let ip := IpAddr.v4 (u32ToBeBytes 0xC0000201)
    let delta : StreamResponse := { exampleBan with
      deleted := [(⟨none, "ban".toList, some "192.0.2.1".toList, none, none, none⟩, 5)] }
    s.ReportsBan ip 20 ∧
      (poll true (some (exampleBan.applyCalls .ban)) s).ReportsBan ip 20 ∧
      ¬ ReportsBanThroughout (exampleBan.pollCalls true .ban) s ip 20 ∧
      (poll false (some (delta.applyCalls .ban)) s).ReportsBan ip 20 ∧
      ¬ ReportsBanThroughout (delta.pollCalls false .ban) s ip 20 := by
  decide +kernel

theorem reportsBan_throughout_iff_exampleBan :
    EachLeavesBan (exampleBan.pollCalls false .ban) (applyToShm .ban (.fresh 8) exampleBan)
      (.v4 (u32ToBeBytes 0xC0000201)) 20 ∧
    ¬ (clearAll (applyToShm .ban (.fresh 8) exampleBan)).ReportsBan
      (.v4 (u32ToBeBytes 0xC0000201)) 20 := by
  have hreachable : (applyToShm .ban (.fresh 8) exampleBan).Reachable :=
    ⟨8, exampleBan.applyCalls .ban, by decide, rfl⟩
  have hread : exampleBan.ReadBy 20 := ⟨by decide, by decide⟩
  have hbefore : (applyToShm .ban (.fresh 8) exampleBan).ReportsBan
      (.v4 (u32ToBeBytes 0xC0000201)) 20 := by decide +kernel
  constructor
  · exact (reportsBan_throughout_iff false .ban hreachable hread hbefore).1.mp (by decide +kernel)
  · exact (reportsBan_throughout_iff true .ban hreachable hread hbefore).2 rfl

end CrowdSecBouncer
