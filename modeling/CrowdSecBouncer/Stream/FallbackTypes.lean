import CrowdSecBouncer.Stream.Batch

/-!
# Deletions under a fallback remediation

A type that the bouncer does not know stands for the fallback remediation in both lists of a
poll. With `ban` or `captcha` as fallback, deleting a decision of an unknown type therefore
lifts a real ban or captcha of the same key (`unknown_deletion_lifts_ban`). Apart from that a
decision stays in force: until its deadline passes, or until a poll lists as deleted a decision
for its key whose type stands for the same remediation (`inForce_until_lifted`). With `allow` as
fallback, that is a decision of the very type.
-/

namespace CrowdSecBouncer

open DeadlineMap

/-- The remediation that unknown types stand for. -/
def FallbackRemediation.decisionType? : FallbackRemediation → Option DecisionType
  | allow => none
  | ban => some .ban
  | captcha => some .captcha

/-- The deleted decision is for the key, and its type stands for `dt`: by its own type string,
or as an unknown type by the fallback. -/
structure Decision.Lifts (fallback : FallbackRemediation) (d : Decision) (k : Key)
    (dt : DecisionType) : Prop where
  not_simulated : d.simulated ≠ some true
  names_key : ∃ value target, d.value = some value ∧ parseValue value = some target ∧
    target.key = k
  stands_for : DecisionType.fromStr d.decisionType = dt ∨
    DecisionType.fromStr d.decisionType = .unknown ∧ fallback.decisionType? = some dt

variable {fallback : FallbackRemediation} {d : Decision} {clock : CallClock} {k : Key}
  {dt : DecisionType} {rawType : List Char} {s : ShmData} {now : ℤ}

theorem resolveUnknownType_eq_some_iff (hdt : dt ≠ .unknown) :
    fallback.resolveUnknownType rawType = some dt ↔ DecisionType.fromStr rawType = dt ∨
      DecisionType.fromStr rawType = .unknown ∧ fallback.decisionType? = some dt := by
  rw [FallbackRemediation.resolveUnknownType.eq_def]
  split
  · next hknown =>
    rw [Option.some.injEq]
    exact (or_iff_left fun h => hknown h.1).symm
  · next hunknown =>
    rw [not_not] at hunknown
    rw [hunknown, or_iff_right (Ne.symm hdt), and_iff_right rfl]
    cases fallback <;> rfl

/-- A decision is about a pair when it lifts it. -/
theorem pair?_eq_some_iff_lifts (hdt : dt ≠ .unknown) :
    d.pair? fallback = some (k, dt) ↔ d.Lifts fallback k dt := by
  rw [Decision.pair?_eq_some_iff]
  constructor
  · rintro ⟨hsimulated, value, target, hvalue, htype, htarget, hkey⟩
    exact ⟨hsimulated, ⟨value, target, hvalue, htarget, hkey⟩,
      (resolveUnknownType_eq_some_iff hdt).mp htype⟩
  · rintro ⟨hsimulated, ⟨value, target, hvalue, htarget, hkey⟩, htype⟩
    exact ⟨hsimulated, value, target, hvalue, (resolveUnknownType_eq_some_iff hdt).mpr htype,
      htarget, hkey⟩

/-! ### Erasing calls -/

theorem mem_updates_iff {ops : List TableOp} {u : Update (Key × DecisionType) ℤ} :
    u ∈ TableOp.updates ops ↔ ∃ op ∈ ops, op.update? = some u :=
  List.mem_filterMap

/-- The call for a new decision erases nothing. -/
theorem update?_of_additionCall {op : TableOp} (h : additionCall fallback d clock = some op) :
    ∃ p x, op.update? = some (.join p x) := by
  have hupdate := update?_additionCall fallback d clock
  obtain ⟨k, dt, hpair, -⟩ := additionCall_spec h
  rw [h, hpair] at hupdate
  exact ⟨_, _, hupdate⟩

/-- An erasing call of a poll comes from its deleted list. -/
theorem erase_mem_updates_applyCalls {r : StreamResponse} {p : Key × DecisionType}
    (h : .erase p ∈ TableOp.updates (r.applyCalls fallback)) : r.ListsDeleted fallback p := by
  obtain ⟨op, hop, hupdate⟩ := mem_updates_iff.mp h
  rcases List.mem_append.mp hop with hop | hop
  · obtain ⟨dn, hdn, hcall⟩ := List.mem_filterMap.mp hop
    have herase := update?_removalCall fallback dn.1 dn.2
    rw [hcall, Option.bind_some, hupdate] at herase
    obtain ⟨p', hp', heq⟩ := Option.map_eq_some_iff.mp herase.symm
    exact ⟨dn, hdn, (Update.erase.inj heq) ▸ hp'⟩
  · obtain ⟨dc, -, hcall⟩ := List.mem_filterMap.mp hop
    obtain ⟨p', x, hjoin⟩ := update?_of_additionCall hcall
    exact absurd (hjoin.symm.trans hupdate) (by simp)

/-- A joining call of a poll comes from its new list. -/
theorem join_mem_updates_applyCalls {r : StreamResponse} {p : Key × DecisionType}
    {x : Deadline ℤ} (h : .join p x ∈ TableOp.updates (r.applyCalls fallback)) :
    r.ListsNew fallback p := by
  obtain ⟨op, hop, hupdate⟩ := mem_updates_iff.mp h
  rcases List.mem_append.mp hop with hop | hop
  · obtain ⟨dn, -, hcall⟩ := List.mem_filterMap.mp hop
    have herase := update?_removalCall fallback dn.1 dn.2
    rw [hcall, Option.bind_some, hupdate] at herase
    obtain ⟨p', -, heq⟩ := Option.map_eq_some_iff.mp herase.symm
    exact absurd heq (by simp)
  · obtain ⟨dc, hdc, hcall⟩ := List.mem_filterMap.mp hop
    have hjoin := update?_additionCall fallback dc.1 dc.2
    rw [hcall, Option.bind_some, hupdate] at hjoin
    obtain ⟨p', hp', heq⟩ := Option.map_eq_some_iff.mp hjoin.symm
    exact ⟨dc, hdc, (Update.join.inj heq).1 ▸ hp'⟩

/-- The calls of polls clear nothing. -/
theorem clear_not_mem_updates_applyCalls {r : StreamResponse} :
    .clear ∉ TableOp.updates (r.applyCalls fallback) := by
  intro h
  obtain ⟨op, hop, hupdate⟩ := mem_updates_iff.mp h
  rcases List.mem_append.mp hop with hop | hop
  · obtain ⟨dn, -, hcall⟩ := List.mem_filterMap.mp hop
    have herase := update?_removalCall fallback dn.1 dn.2
    rw [hcall, Option.bind_some, hupdate] at herase
    obtain ⟨p', -, heq⟩ := Option.map_eq_some_iff.mp herase.symm
    exact absurd heq (by simp)
  · obtain ⟨dc, -, hcall⟩ := List.mem_filterMap.mp hop
    obtain ⟨p', x, hjoin⟩ := update?_of_additionCall hcall
    exact absurd (hjoin.symm.trans hupdate) (by simp)

theorem updates_append (ops ops' : List TableOp) :
    TableOp.updates (ops ++ ops') = TableOp.updates ops ++ TableOp.updates ops' :=
  List.filterMap_append

/-! ### Runs of delta polls -/

/-- The calls of a sequence of delta polls. -/
def deltaCalls (fallback : FallbackRemediation) (polls : List StreamResponse) : List TableOp :=
  polls.flatMap (·.applyCalls fallback)

/-- What the calls after the one for a decision can do to its pair: nothing that ends it. -/
private theorem not_mem_updates_rest {p : Key × DecisionType} {later : List StreamResponse}
    {new₂ : List (Decision × CallClock)} {rest : List TableOp}
    (hrest : rest <+: new₂.filterMap (fun dc => additionCall fallback dc.1 dc.2) ++
      deltaCalls fallback later)
    (hlater : ∀ r ∈ later, ¬ r.ListsDeleted fallback p) :
    .erase p ∉ TableOp.updates rest ∧ .clear ∉ TableOp.updates rest := by
  have hcases {u : Update (Key × DecisionType) ℤ} (hu : u ∈ TableOp.updates rest) :
      (∃ p x, u = .join p x) ∨ ∃ r ∈ later, u ∈ TableOp.updates (r.applyCalls fallback) := by
    obtain ⟨op, hop, hupdate⟩ := mem_updates_iff.mp hu
    rcases List.mem_append.mp (hrest.subset hop) with hop | hop
    · obtain ⟨dc, -, hcall⟩ := List.mem_filterMap.mp hop
      obtain ⟨p', x, hjoin⟩ := update?_of_additionCall hcall
      exact .inl ⟨p', x, Option.some_injective _ (hupdate.symm.trans hjoin)⟩
    · obtain ⟨r, hr, hop⟩ := List.mem_flatMap.mp hop
      exact .inr ⟨r, hr, mem_updates_iff.mpr ⟨op, hop, hupdate⟩⟩
  constructor
  · intro hmem
    rcases hcases hmem with ⟨p', x, heq⟩ | ⟨r, hr, herase⟩
    · exact absurd heq (by simp)
    · exact hlater r hr (erase_mem_updates_applyCalls herase)
  · intro hmem
    rcases hcases hmem with ⟨p', x, heq⟩ | ⟨r, -, hclear⟩
    · exact absurd heq (by simp)
    · exact clear_not_mem_updates_applyCalls hclear

/-- The call for a decision joins its deadline to the pair that the decision names. -/
theorem updates_additionCall {p : Key × DecisionType} (hpair : d.pair? fallback = some p) :
    TableOp.updates ([(d, clock)].filterMap fun dc => additionCall fallback dc.1 dc.2) =
      [.join p
        (DecisionExpiry.requested p.2 (expiresOf (d.duration.bind parseDuration) clock))] := by
  have hupdate := update?_additionCall fallback d clock
  rw [hpair] at hupdate
  cases hadd : additionCall fallback d clock with
  | none =>
    rw [hadd] at hupdate
    exact absurd hupdate (by simp)
  | some op =>
    rw [hadd, Option.bind_some] at hupdate
    simp [TableOp.updates, hadd, hupdate]

/-- **A decision stays in force** at every point of a sequence of delta polls after it was
applied, until the deadline that its call computed passes or a deleted decision lifts it. -/
theorem inForce_until_lifted (h : s.Reachable) {first : StreamResponse}
    {new₁ new₂ : List (Decision × CallClock)} (hnew : first.new = new₁ ++ (d, clock) :: new₂)
    (hsimulated : d.simulated ≠ some true) {value : List Char} {target : DecisionTarget}
    (hvalue : d.value = some value) (htarget : parseValue value = some target)
    (hdt : dt = .ban ∨ dt = .captcha) (htype : DecisionType.fromStr d.decisionType = dt)
    {later : List StreamResponse}
    (hlifts : ∀ r ∈ later, ∀ dn ∈ r.deleted, ¬ dn.1.Lifts fallback target.key dt)
    {done : List TableOp}
    (hdone : done <+: deltaCalls fallback (first :: later))
    (happlied : (first.deleted.filterMap fun dn => removalCall fallback dn.1 dn.2) ++
      (new₁ ++ [(d, clock)]).filterMap (fun dc => additionCall fallback dc.1 dc.2) <+: done)
    (hevict : NeverEvicts done s) (htimes : ∀ t ∈ TableOp.times done, t ≤ now)
    (hdeadline : Deadline.Active now
      (DecisionExpiry.requested dt (expiresOf (d.duration.bind parseDuration) clock))) :
    (TableOp.run s done).InForce now target.key dt := by
  have hknown : dt ≠ .unknown := by
    rcases hdt with rfl | rfl <;> decide
  have hpair : d.pair? fallback = some (target.key, dt) :=
    (pair?_eq_some_iff_lifts hknown).mpr ⟨hsimulated, ⟨value, target, hvalue, htarget, rfl⟩,
      .inl htype⟩
  obtain ⟨rest, rfl⟩ := happlied
  have hrest : rest <+: new₂.filterMap (fun dc => additionCall fallback dc.1 dc.2) ++
      deltaCalls fallback later := by
    have hsplit : deltaCalls fallback (first :: later) =
        (first.deleted.filterMap (fun dn => removalCall fallback dn.1 dn.2) ++
          (new₁ ++ [(d, clock)]).filterMap fun dc => additionCall fallback dc.1 dc.2) ++
        (new₂.filterMap (fun dc => additionCall fallback dc.1 dc.2) ++
          deltaCalls fallback later) := by
      rw [deltaCalls, List.flatMap_cons, StreamResponse.applyCalls, hnew, List.append_cons new₁,
        @List.filterMap_append _ _ _ new₂, List.append_assoc, List.append_assoc, List.append_assoc]
      rfl
    rw [hsplit, List.prefix_append_right_inj] at hdone
    exact hdone
  obtain ⟨herase, hclear⟩ := not_mem_updates_rest (p := (target.key, dt)) hrest fun r hr => by
    rintro ⟨dn, hdn, hlisted⟩
    exact hlifts r hr dn hdn ((pair?_eq_some_iff_lifts hknown).mp hlisted)
  -- the call for the decision joins its deadline, and nothing after it ends it
  have hcall := @updates_additionCall _ _ clock _ hpair
  refine (h.tableOk.eqFrom_run (p := (target.key, dt)) _ hevict htimes (normal_key target) now
    le_rfl).mpr ?_
  rw [List.filterMap_append, updates_append, updates_append, updates_append, hcall, runAt_append,
    runAt_append, runAt_append]
  refine active_runAt ?_ herase hclear
  rw [runAt_cons, runAt_nil, Update.effectAt, if_pos rfl]
  exact Deadline.active_sup.mpr (.inr hdeadline)

/-- A ban for an address, without a limit. -/
def exampleBan : StreamResponse where
  new := [(⟨none, "ban".toList, some "192.0.2.1".toList, none, none, none⟩, ⟨some 5, 5, 5⟩)]
  deleted := []

/-- A decision of an unknown type for the address is deleted. -/
def exampleUnknownDeletion : StreamResponse where
  new := []
  deleted := [(⟨none, "mfa".toList, some "192.0.2.1".toList, none, none, none⟩, 20)]

/-- **Deleting an unknown type lifts a real ban** when `ban` is the fallback. -/
theorem unknown_deletion_lifts_ban :
    (∀ dn ∈ exampleUnknownDeletion.deleted,
      DecisionType.fromStr dn.1.decisionType = .unknown) ∧
    (applyToShm .ban (.fresh 8) exampleBan).ReportsBan (.v4 (u32ToBeBytes 0xC0000201)) 20 ∧
    ¬ (applyToShm .ban (applyToShm .ban (.fresh 8) exampleBan) exampleUnknownDeletion).ReportsBan
      (.v4 (u32ToBeBytes 0xC0000201)) 20 := by
  decide +kernel

/-- A captcha listed as deleted leaves the ban in force. -/
theorem inForce_until_lifted_exampleBan :
    (TableOp.run (.fresh 8) (deltaCalls .ban [exampleBan,
      ⟨[], [(⟨none, "captcha".toList, some "192.0.2.1".toList, none, none, none⟩, 20)]⟩])).InForce
      30 (.ip (.v4 (u32ToBeBytes 0xC0000201))) .ban := by
  have htarget : parseValue "192.0.2.1".toList = some (.ip (.v4 (u32ToBeBytes 0xC0000201))) := by
    decide +kernel
  have hnew : exampleBan.new = [] ++
      (⟨none, "ban".toList, some "192.0.2.1".toList, none, none, none⟩, ⟨some 5, 5, 5⟩) :: [] := rfl
  refine inForce_until_lifted ⟨8, [], by decide, rfl⟩ hnew (by decide) rfl htarget (.inl rfl)
    (by decide) ?_ (List.prefix_refl _) (by decide +kernel) (by decide +kernel)
    (by decide +kernel) Deadline.active_top
  intro r hr dn hdn hlifts
  obtain rfl := List.mem_singleton.mp hr
  obtain rfl := List.mem_singleton.mp hdn
  rcases hlifts.stands_for with htype | ⟨htype, -⟩
  · exact absurd htype (by decide)
  · exact absurd htype (by decide)

end CrowdSecBouncer
