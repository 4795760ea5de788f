import CrowdSecBouncer.Foundations.LabelledRun
import CrowdSecBouncer.Shm.DecisionMap
import CrowdSecBouncer.Shm.Calls

/-!
# The table refines the plain map

`ShmData.find` reads the table as a map from keys to entries, and each operation has one
equation in these terms (`TableOk.find_upsertEntry`, `TableOk.find_removeFromSlot`): the
probing, the tombstones and the bitmap are gone.

An entry *agrees* with a record from a time on when no later observation tells them apart
(`Agrees`). The table may have forgotten deadlines that the plain map still remembers, but
only deadlines that have passed. Every call keeps agreement as long as the clock does not
run backwards and nothing is evicted, and agreement gives equal answers
(`lookupIp_run_eq_iff`).
-/

namespace CrowdSecBouncer

open CircularProbe DecisionMap PrefixMatch

/-- The table as a map. -/
def ShmData.find (s : ShmData) (k : Key) : Option ShmHashEntry :=
  if (findKey s.entries s.capacity k).2 then some (s.entries (findKey s.entries s.capacity k).1)
  else none

theorem ShmData.find_of_findKey {s : ShmData} {k : Key}
    (hfound : (findKey s.entries s.capacity k).2 = true) :
    s.find k = some (s.entries (findKey s.entries s.capacity k).1) := by
  rw [find, if_pos hfound]

theorem ShmData.find_of_findKey_eq_false {s : ShmData} {k : Key}
    (hnone : (findKey s.entries s.capacity k).2 = false) : s.find k = none := by
  rw [find, hnone]
  rfl

@[simp] theorem ShmData.find_bumpVersion (s : ShmData) (k : Key) :
    (bumpVersion s).find k = s.find k := rfl

/-! ### The operations on the table as a map -/

namespace TableOk

variable {s : ShmData} {k k' : Key} {e : ShmHashEntry} {i : ℕ} (h : TableOk s)

include h

theorem find_eq_some_iff (hk : k.Normal) :
    s.find k = some e ↔ Holds s.capacity s.entries k e := by
  rw [ShmData.find]
  constructor
  · intro hfind
    split at hfind
    · next hfound =>
      obtain ⟨hlt, hocc, hkey⟩ := h.slots.of_findKey h.capacity_pos hk hfound
      obtain rfl := Option.some_injective _ hfind
      exact ⟨_, hlt, hocc, rfl, hkey⟩
    · exact absurd hfind (by simp)
  · rintro ⟨i, hi, hocc, rfl, hkey⟩
    rw [h.slots.findKey_eq hk hi hocc hkey]
    rfl

theorem find_eq_of_slot (hk : k.Normal) (hi : i < s.capacity)
    (hocc : (s.entries i).isVacant = false) (hkey : (s.entries i).key = k) :
    s.find k = some (s.entries i) :=
  (h.find_eq_some_iff hk).mpr ⟨i, hi, hocc, rfl, hkey⟩

/-- Overwriting a slot leaves the keys alone that neither entry has. -/
theorem find_update_of_ne {s' : ShmData} (h' : TableOk s') (hcapacity : s'.capacity = s.capacity)
    (hentries : s'.entries = Function.update s.entries i e) (hk : k.Normal)
    (hold : (s.entries i).isVacant = false → (s.entries i).key ≠ k)
    (hnew : e.isVacant = false → e.key ≠ k) : s'.find k = s.find k := by
  refine Option.ext fun x => ?_
  rw [h'.find_eq_some_iff hk, h.find_eq_some_iff hk, hcapacity, hentries]
  refine exists_congr fun j => and_congr_right fun _ => ?_
  rcases eq_or_ne j i with rfl | hne
  · rw [Function.update_self]
    refine iff_of_false ?_ ?_
    · rintro ⟨hocc, rfl, hkey⟩
      exact hnew hocc hkey
    · rintro ⟨hocc, rfl, hkey⟩
      exact hold hocc hkey
  · rw [Function.update_of_ne hne]

/-- Rewriting the decisions of an occupied slot. -/
theorem find_writeEntry {s' : ShmData} (h' : TableOk s') (hcapacity : s'.capacity = s.capacity)
    (hentries : s'.entries = Function.update s.entries i e) (hk : k.Normal) (hi : i < s.capacity)
    (hocc : (s.entries i).isVacant = false) (hkey : (s.entries i).key = k)
    (hsame : (s.entries i).SameKeyFields e) (hk' : k'.Normal) :
    s'.find k' = if k' = k then some e else s.find k' := by
  split
  · next heq =>
    subst heq
    rw [h'.find_eq_some_iff hk]
    refine ⟨i, hcapacity ▸ hi, ?_, ?_, hsame.key.trans hkey⟩
    · rw [hentries, Function.update_self, hsame.isVacant, hocc]
    · rw [hentries, Function.update_self]
  · next hne =>
    exact h.find_update_of_ne h' hcapacity hentries hk' (fun _ heq => hne (heq.symm.trans hkey))
      (fun _ heq => hne (heq.symm.trans (hsame.key.trans hkey)))

/-- Burying an occupied slot. -/
theorem find_buryEntry (hi : i < s.capacity) (hocc : (s.entries i).isVacant = false)
    (hkey : (s.entries i).key = k) (hk' : k'.Normal) :
    (buryEntry s i).find k' = if k' = k then none else s.find k' := by
  have h' := h.bury hi hocc
  split
  · next heq =>
    subst heq
    refine Option.eq_none_iff_forall_ne_some.mpr fun x hx => ?_
    obtain ⟨j, hj, hj', rfl, hjkey⟩ := (h'.find_eq_some_iff hk').mp hx
    exact h.bury_absent hi hocc j hj hj' (hjkey.trans hkey.symm)
  · next hne =>
    exact h.find_update_of_ne h' rfl rfl hk' (fun _ heq => hne (heq.symm.trans hkey))
      (fun hvac => by simp at hvac)

/-- Inserting an entry without evicting another. -/
theorem find_insertEntry (hnew : e.WellKeyed) (hkey : e.key = k) (hk : k.Normal)
    (habsent : s.find k = none) (hmarked : e.isCidr = true → prefixIsPresent s e.prefixLen = true)
    (clock : CallClock) (hevict : insertReachesEvictClock s e.hash = false) (hk' : k'.Normal) :
    (CrowdSecBouncer.insertEntry s e clock).find k' = if k' = k then some e else s.find k' := by
  have hslots (j : ℕ) (hj : j < s.capacity) (hj' : (s.entries j).isVacant = false) :
      (s.entries j).key ≠ e.key := by
    intro heq
    rw [h.find_eq_of_slot hk hj hj' (heq.trans hkey)] at habsent
    exact absurd habsent (by simp)
  have h' := h.insertEntry hnew hslots hmarked clock
  unfold insertReachesEvictClock at hevict
  unfold CrowdSecBouncer.insertEntry at h' ⊢
  cases hvac : findVacantSlot s.entries s.capacity e.hash with
  | none =>
    rw [hvac] at hevict
    exact absurd hevict (by simp)
  | some slot =>
    rw [hvac] at h'
    obtain ⟨hlt, hvacant, -⟩ := findVacantSlot_spec h.capacity_pos hvac
    dsimp only at h' ⊢
    split
    · next heq =>
      subst heq
      refine (h'.find_eq_some_iff hk).mpr ⟨slot, hlt, ?_, ?_, hkey⟩
      · simpa using hnew.occupied
      · simp
    · next hne =>
      exact h.find_update_of_ne h' rfl rfl hk' (fun hocc => by simp [hvacant] at hocc)
        (fun _ heq => hne (heq.symm.trans hkey))

end TableOk

/-- What adding makes of the entry found under the key. -/
def upserted (old : Option ShmHashEntry) (dt : DecisionType) (origin : Origin)
    (scenarioId : UInt16) (expires : ℤ) (newEntry : ShmHashEntry) (now : ℤ) : ShmHashEntry :=
  match old with
  | some e =>
    if (e.pruneExpired now).hasDecisions then
      (e.pruneExpired now).mergeDecision dt origin scenarioId expires
    else newEntry
  | none => newEntry

/-- What removing leaves of the entry found under the key. -/
def remaining (old : Option ShmHashEntry) (dt : DecisionType) (now : ℤ) : Option ShmHashEntry :=
  old.bind fun e =>
    let e := (e.pruneExpired now).removeDecisionType dt
    if e.hasDecisions then some e else none

namespace TableOk

variable {s : ShmData} {k k' : Key} (h : TableOk s)

include h

/-- **Adding**, on the table as a map. -/
theorem find_upsertEntry (hk : k.Normal) {newEntry : ShmHashEntry} (hnew : newEntry.WellKeyed)
    (hkey : newEntry.key = k)
    (hmarked : newEntry.isCidr = true → prefixIsPresent s newEntry.prefixLen = true)
    (dt : DecisionType) (origin : Origin) (scenarioId : UInt16) (expires : ℤ)
    (clock : CallClock)
    (hevict : upsertReachesEvictClock s (findKey s.entries s.capacity k) newEntry.hash clock.now
      = false) (hk' : k'.Normal) :
    (CrowdSecBouncer.upsertEntry s (findKey s.entries s.capacity k) dt origin scenarioId expires
      newEntry clock).find k' =
      if k' = k then
        some (upserted (s.find k) dt origin scenarioId expires newEntry clock.now)
      else s.find k' := by
  unfold upsertReachesEvictClock at hevict
  rw [CrowdSecBouncer.upsertEntry]
  cases hfound : (findKey s.entries s.capacity k).2 with
  | false =>
    have habsent := ShmData.find_of_findKey_eq_false hfound
    rw [hfound] at hevict
    rw [if_neg Bool.false_ne_true, habsent]
    exact h.find_insertEntry hnew hkey hk habsent hmarked clock hevict hk'
  | true =>
    obtain ⟨hlt, hocc, hkey'⟩ := h.slots.of_findKey h.capacity_pos hk hfound
    have hfind := ShmData.find_of_findKey hfound
    rw [hfound] at hevict
    generalize (findKey s.entries s.capacity k).1 = i at hlt hocc hkey' hfind hevict ⊢
    have hsame : (s.entries i).SameKeyFields ((s.entries i).pruneExpired clock.now) :=
      ShmHashEntry.sameKeyFields_pruneExpired clock.now
    have hmask : ((s.entries i).pruneExpired clock.now).decisionTypes < 4 :=
      DecisionExpiry.activeMask_lt (h.slots.wellKeyed i hlt hocc).mask_lt
    rw [if_pos rfl, hfind, upserted]
    dsimp only at hevict ⊢
    cases hlive : ((s.entries i).pruneExpired clock.now).hasDecisions with
    | true =>
      have hmerge := hsame.trans
        (ShmHashEntry.sameKeyFields_mergeDecision dt origin scenarioId expires)
      rw [if_pos rfl, if_pos rfl, ShmData.find_bumpVersion]
      exact h.find_writeEntry (h.rewrite hlt hocc hmerge (mask_or_toBit_lt hmask dt)) rfl rfl hk
        hlt hocc hkey' hmerge hk'
    | false =>
      rw [hlive] at hevict
      rw [if_neg Bool.false_ne_true, if_neg Bool.false_ne_true]
      -- the dead entry is rewritten, buried, and the new entry goes to a vacant slot
      have hprune := h.rewrite hlt hocc hsame hmask
      have hocc' : ((writeEntry s i ((s.entries i).pruneExpired clock.now)).entries i).isVacant
          = false := by
        rwa [writeEntry_entries, Function.update_self, hsame.isVacant]
      have hkey'' :
          ((writeEntry s i ((s.entries i).pruneExpired clock.now)).entries i).key = k := by
        rwa [writeEntry_entries, Function.update_self, hsame.key]
      have hbury := hprune.bury hlt hocc'
      have hfind_bury {q : Key} (hq : q.Normal) :=
        hprune.find_buryEntry hlt hocc' hkey'' hq
      rw [hbury.find_insertEntry hnew hkey hk (by rw [hfind_bury hk, if_pos rfl]) hmarked clock
        hevict hk']
      split
      · rfl
      · next hne =>
        rw [hfind_bury hk', if_neg hne,
          h.find_writeEntry hprune rfl rfl hk hlt hocc hkey' hsame hk', if_neg hne]

/-- **Removing**, on the table as a map. -/
theorem find_removeFromSlot (hk : k.Normal) (dt : DecisionType) (now : ℤ) (hk' : k'.Normal) :
    (CrowdSecBouncer.removeFromSlot s (findKey s.entries s.capacity k) dt now).find k' =
      if k' = k then remaining (s.find k) dt now else s.find k' := by
  rw [CrowdSecBouncer.removeFromSlot]
  cases hfound : (findKey s.entries s.capacity k).2 with
  | false =>
    have habsent := ShmData.find_of_findKey_eq_false hfound
    rw [if_neg Bool.false_ne_true, habsent]
    split
    · next heq =>
      rw [heq, habsent]
      rfl
    · rfl
  | true =>
    obtain ⟨hlt, hocc, hkey'⟩ := h.slots.of_findKey h.capacity_pos hk hfound
    have hfind := ShmData.find_of_findKey hfound
    generalize (findKey s.entries s.capacity k).1 = i at hlt hocc hkey' hfind ⊢
    have hsame : (s.entries i).SameKeyFields
        (((s.entries i).pruneExpired now).removeDecisionType dt) :=
      (ShmHashEntry.sameKeyFields_pruneExpired now).trans
        (ShmHashEntry.sameKeyFields_removeDecisionType dt)
    have hmask : (((s.entries i).pruneExpired now).removeDecisionType dt).decisionTypes < 4 :=
      mask_and_not_toBit_lt (DecisionExpiry.activeMask_lt (h.slots.wellKeyed i hlt hocc).mask_lt) dt
    have hremove := h.rewrite hlt hocc hsame hmask
    rw [if_pos rfl, hfind, remaining, Option.bind_some, ShmData.find_bumpVersion]
    dsimp only
    cases hlive : (((s.entries i).pruneExpired now).removeDecisionType dt).hasDecisions with
    | true =>
      rw [if_pos rfl, if_pos rfl]
      exact h.find_writeEntry hremove rfl rfl hk hlt hocc hkey' hsame hk'
    | false =>
      -- the last decision went, and the slot is buried
      rw [if_neg Bool.false_ne_true, if_neg Bool.false_ne_true]
      have hocc' : ((writeEntry s i
          (((s.entries i).pruneExpired now).removeDecisionType dt)).entries i).isVacant =
            false := by
        rwa [writeEntry_entries, Function.update_self, hsame.isVacant]
      have hkey'' : ((writeEntry s i
          (((s.entries i).pruneExpired now).removeDecisionType dt)).entries i).key = k := by
        rwa [writeEntry_entries, Function.update_self, hsame.key]
      rw [hremove.find_buryEntry hlt hocc' hkey'' hk']
      split
      · rfl
      · next hne =>
        rw [h.find_writeEntry hremove rfl rfl hk hlt hocc hkey' hsame hk', if_neg hne]

end TableOk

/-! ### Agreement of an entry and a record -/

/-- The deadlines of what was found. -/
def viewOf (e : Option ShmHashEntry) (dt : DecisionType) : Deadline ℤ :=
  match e with
  | some e => e.expires.view e.decisionTypes dt
  | none => ⊥

/-- The deadlines of what the map has. -/
def deadlineOf (r : Option (DecisionRecord ℤ)) (dt : DecisionType) : Deadline ℤ :=
  match r with
  | some r => r.deadline dt
  | none => ⊥

/-- An entry without decisions has no deadlines. -/
theorem viewOf_of_not_hasDecisions {e : ShmHashEntry} (h : e.hasDecisions = false)
    (dt : DecisionType) : viewOf (some e) dt = ⊥ := by
  have hzero : e.decisionTypes = 0 := by simpa [ShmHashEntry.hasDecisions] using h
  rw [viewOf, hzero, DecisionExpiry.view, UInt8.zero_and, if_pos rfl]

/-- From `t` on an entry and a record have the same decisions in force, and while they have
any, the same origin and scenario. -/
structure Agrees (t : ℤ) (e : Option ShmHashEntry) (r : Option (DecisionRecord ℤ)) : Prop where
  deadlines : ∀ dt, Deadline.EqFrom t (viewOf e dt) (deadlineOf r dt)
  labels : ∀ x y, e = some x → r = some y → y.Alive t →
    x.originOf = y.origin ∧ x.scenarioId = y.scenarioId

namespace Agrees

variable {t now : ℤ} {e : Option ShmHashEntry} {r : Option (DecisionRecord ℤ)}

theorem mono (h : Agrees t e r) (ht : t ≤ now) : Agrees now e r where
  deadlines dt := (h.deadlines dt).mono ht
  labels x y hx hy := fun ⟨dt, hdt⟩ => h.labels x y hx hy ⟨dt, hdt.of_le ht⟩

/-- The pruned entry is not empty exactly when the record is alive. -/
theorem hasDecisions_iff (h : Agrees t e r) (ht : t ≤ now) {x : ShmHashEntry} (hx : e = some x)
    (hmask : x.decisionTypes < 4) :
    (x.pruneExpired now).hasDecisions = true ↔ ∃ y, r = some y ∧ y.Alive now := by
  subst hx
  have hmask' : (x.pruneExpired now).decisionTypes = x.expires.activeMask x.decisionTypes now := rfl
  rw [ShmHashEntry.hasDecisions, bne_iff_ne, hmask', ne_eq,
    DecisionExpiry.activeMask_eq_zero_iff hmask, not_forall]
  simp only [not_not]
  have hiff (dt : DecisionType) :
      Deadline.Active now (x.expires.view x.decisionTypes dt) ↔
        Deadline.Active now (deadlineOf r dt) :=
    h.deadlines dt now ht
  simp only [hiff]
  cases r with
  | none => exact iff_of_false (fun ⟨_, hdt⟩ => Deadline.not_active_bot hdt) (by simp)
  | some y => exact ⟨fun hdt => ⟨y, rfl, hdt⟩, fun ⟨_, hy, hdt⟩ => Option.some_injective _ hy ▸ hdt⟩

/-- Pruning is not observable from the time it happens. -/
theorem eqFrom_pruneExpired (x : ShmHashEntry) (now : ℤ) (dt : DecisionType) :
    Deadline.EqFrom now (viewOf (some (x.pruneExpired now)) dt) (viewOf (some x) dt) := by
  have hview : viewOf (some (x.pruneExpired now)) dt =
      (x.expires.pruneInactive x.decisionTypes now).1.view
        (x.expires.pruneInactive x.decisionTypes now).2 dt := rfl
  rw [hview, DecisionExpiry.view_pruneInactive]
  split_ifs with hactive
  · exact Deadline.EqFrom.refl _ _
  · exact (Deadline.eqFrom_bot_of_not_active hactive).symm

/-- **Removing** leaves no deadline of the removed type, and the others as they were. -/
theorem eqFrom_remaining (e : Option ShmHashEntry) (dt dt' : DecisionType) :
    Deadline.EqFrom now (viewOf (remaining e dt now) dt')
      (if dt' = dt then ⊥ else viewOf e dt') := by
  cases e with
  | none =>
    change Deadline.EqFrom now ⊥ (if dt' = dt then ⊥ else ⊥)
    rw [ite_self]
  | some z =>
    have hview : viewOf (some ((z.pruneExpired now).removeDecisionType dt)) dt' =
        if dt' = dt then ⊥ else viewOf (some (z.pruneExpired now)) dt' :=
      DecisionExpiry.view_clearBit
    have heq : Deadline.EqFrom now
        (viewOf (some ((z.pruneExpired now).removeDecisionType dt)) dt')
        (if dt' = dt then ⊥ else viewOf (some z) dt') := by
      rw [hview]
      split_ifs
      · exact Deadline.EqFrom.refl _ _
      · exact eqFrom_pruneExpired z now dt'
    rw [remaining, Option.bind_some]
    dsimp only
    split
    · exact heq
    · next hdead =>
      -- an entry without decisions has no deadline to lose
      have hbot := viewOf_of_not_hasDecisions (by simpa using hdead) dt'
      rw [hbot] at heq
      exact heq

/-- **Adding** joins the deadline of the added type, and leaves the others as they were. -/
theorem eqFrom_upserted (e : Option ShmHashEntry) {dt : DecisionType} {o : Origin} {sid : UInt16}
    {x : ℤ} {newEntry : ShmHashEntry} (hview : ∀ dt', viewOf (some newEntry) dt' =
      if dt' = dt then DecisionExpiry.requested dt x else ⊥) (dt' : DecisionType) :
    Deadline.EqFrom now (viewOf (some (upserted e dt o sid x newEntry now)) dt')
      (if dt' = dt then viewOf e dt ⊔ DecisionExpiry.requested dt x else viewOf e dt') := by
  cases e with
  | none =>
    rw [upserted, hview]
    change Deadline.EqFrom now _ (if dt' = dt then ⊥ ⊔ _ else ⊥)
    rw [bot_sup_eq]
  | some z =>
    have hprune := eqFrom_pruneExpired z now
    rw [upserted]
    split
    · have hmerge : viewOf (some ((z.pruneExpired now).mergeDecision dt o sid x)) dt' =
          if dt' = dt then viewOf (some (z.pruneExpired now)) dt ⊔ DecisionExpiry.requested dt x
          else viewOf (some (z.pruneExpired now)) dt' :=
        DecisionExpiry.view_merge
      rw [hmerge]
      split_ifs
      · exact (hprune dt).sup (Deadline.EqFrom.refl _ _)
      · exact hprune dt'
    · next hdead =>
      -- the dead entry had no deadline that is still ahead
      have hbot (dt₀ : DecisionType) : Deadline.EqFrom now (viewOf (some z) dt₀) ⊥ := by
        have hdead' := viewOf_of_not_hasDecisions (by simpa using hdead) dt₀
        rw [← hdead']
        exact (hprune dt₀).symm
      rw [hview]
      split_ifs
      · have hsup := (hbot dt).sup (Deadline.EqFrom.refl now (DecisionExpiry.requested dt x))
        rw [bot_sup_eq] at hsup
        exact hsup.symm
      · exact (hbot dt').symm

/-- A living record has an entry. -/
theorem exists_entry (h : Agrees t e r) (ht : t ≤ now) {y : DecisionRecord ℤ} (hy : r = some y)
    (halive : y.Alive now) : ∃ x, e = some x := by
  cases e with
  | some x => exact ⟨x, rfl⟩
  | none =>
    obtain ⟨dt, hdt⟩ := halive
    have hiff := h.deadlines dt now ht
    subst hy
    exact absurd (hiff.mpr hdt) Deadline.not_active_bot

/-- **Adding keeps agreement.** -/
theorem added (h : Agrees t e r) (ht : t ≤ now) (hmask : ∀ x, e = some x → x.decisionTypes < 4)
    {dt : DecisionType} {o : Origin} {sid : UInt16} {x : ℤ} {newEntry : ShmHashEntry}
    (hview : ∀ dt', viewOf (some newEntry) dt' =
      if dt' = dt then DecisionExpiry.requested dt x else ⊥)
    (horigin : newEntry.originOf = o) (hsid : newEntry.scenarioId = sid) :
    Agrees now (some (upserted e dt o sid x newEntry now))
      (some (DecisionRecord.added r now dt (DecisionExpiry.requested dt x) o sid)) := by
  by_cases halive : ∃ y, r = some y ∧ y.Alive now
  · obtain ⟨y, rfl, hy⟩ := halive
    obtain ⟨z, rfl⟩ := h.exists_entry ht rfl hy
    have hlive := (h.hasDecisions_iff ht rfl (hmask z rfl)).mpr ⟨y, rfl, hy⟩
    -- both sides merge into what is alive
    rw [upserted, if_pos hlive, DecisionRecord.added, if_pos hy]
    obtain ⟨-, hsame⟩ := (h.mono ht).labels z y rfl rfl hy
    refine ⟨fun dt' => ?_, ?_⟩
    · have hprune (dt' : DecisionType) :=
        (eqFrom_pruneExpired z now dt').trans ((h.deadlines dt').mono ht)
      change Deadline.EqFrom now (((z.pruneExpired now).expires.merge
        (z.pruneExpired now).decisionTypes dt.toBit x).view
          ((z.pruneExpired now).decisionTypes ||| dt.toBit) dt')
        ((y.merge dt _ o sid).deadline dt')
      rw [DecisionExpiry.view_merge, DecisionRecord.merge_deadline]
      split_ifs
      · exact (hprune dt).sup (Deadline.EqFrom.refl _ _)
      · exact hprune dt'
    · rintro _ _ ⟨⟩ ⟨⟩ -
      refine ⟨Origin.fromU8_toU8 o, ?_⟩
      change (if sid = 0 then z.scenarioId else sid) = if sid = 0 then y.scenarioId else sid
      rw [hsame]
  · -- nothing is alive, and both sides start over
    have hentry : upserted e dt o sid x newEntry now = newEntry := by
      cases e with
      | none => rfl
      | some z =>
        have hdead : ¬ (z.pruneExpired now).hasDecisions = true := fun hlive =>
          halive ((h.hasDecisions_iff ht rfl (hmask z rfl)).mp hlive)
        rw [upserted, if_neg hdead]
    have hrecord : DecisionRecord.added r now dt (DecisionExpiry.requested dt x) o sid =
        .single dt (DecisionExpiry.requested dt x) o sid := by
      cases r with
      | none => rfl
      | some y => rw [DecisionRecord.added, if_neg fun hy => halive ⟨y, rfl, hy⟩]
    rw [hentry, hrecord]
    refine ⟨fun dt' => ?_, ?_⟩
    · rw [hview]
      change Deadline.EqFrom now _ ((DecisionRecord.single dt _ o sid).deadline dt')
      rw [DecisionRecord.single_deadline]
    · rintro _ _ ⟨⟩ ⟨⟩ -
      exact ⟨horigin, hsid⟩

/-- **Removing keeps agreement.** -/
theorem removed (h : Agrees t e r) (ht : t ≤ now) (hmask : ∀ x, e = some x → x.decisionTypes < 4)
    (dt : DecisionType) :
    Agrees now (remaining e dt now) (r.map fun y => y.forget dt) := by
  have hforget (dt' : DecisionType) : deadlineOf (r.map fun y => y.forget dt) dt' =
      if dt' = dt then ⊥ else deadlineOf r dt' := by
    cases r with
    | none => simp [deadlineOf]
    | some y => exact y.forget_deadline dt dt'
  refine ⟨fun dt' => ?_, ?_⟩
  · rw [hforget]
    refine (eqFrom_remaining e dt dt').trans ?_
    split_ifs
    · exact Deadline.EqFrom.refl _ _
    · exact (h.deadlines dt').mono ht
  · intro x y hx hy halive
    obtain ⟨y₀, rfl, rfl⟩ := Option.map_eq_some_iff.mp hy
    obtain ⟨dt', hdt'⟩ := halive
    -- what is alive afterwards is of the other type, so it was alive before
    rw [DecisionRecord.forget_deadline] at hdt'
    split at hdt'
    · exact absurd hdt' Deadline.not_active_bot
    cases e with
    | none => simp [remaining] at hx
    | some z =>
      rw [remaining, Option.bind_some] at hx
      dsimp only at hx
      split at hx
      · obtain rfl := Option.some_injective _ hx
        exact (h.mono ht).labels z y₀ rfl rfl ⟨dt', hdt'⟩
      · exact absurd hx (by simp)

end Agrees

/-! ### The refinement relation and its step lemma -/

/-- The table at a time from which on it answers like the plain map. -/
structure Refines (t : ℤ) (s : ShmData) (m : MapState) : Prop where
  ok : TableOk s
  scenarios : m.scenarios = s.scenarios
  agrees : ∀ k : Key, k.Normal → Agrees t (s.find k) (m.map k)
  /-- Only masked networks of the two families are keys of the plain map. -/
  networks : ∀ family prefixLen network, m.map (.cidr family prefixLen network) ≠ none →
    (Key.cidr family prefixLen network).Valid ∧
      octetBits network = maskBits prefixLen.toNat (octetBits network)

variable {s s₁ : ShmData} {m : MapState} {t now : ℤ} {k : Key} {op : TableOp} {a : Addition}

theorem TableOk.mask_lt_of_find (h : TableOk s) (hk : k.Normal) {e : ShmHashEntry}
    (hfind : s.find k = some e) : e.decisionTypes < 4 := by
  obtain ⟨i, hi, hocc, rfl, -⟩ := (h.find_eq_some_iff hk).mp hfind
  exact (h.slots.wellKeyed i hi hocc).mask_lt

theorem insertEntry_scenarios (hhand : s.clockHand < s.capacity) (e : ShmHashEntry)
    (clock : CallClock) : (insertEntry s e clock).scenarios = s.scenarios := by
  rw [insertEntry]
  split
  · rfl
  · split
    · next hevict =>
      obtain ⟨-, -, rfl⟩ := evictClock_spec hhand hevict
      rfl
    · rfl

theorem upsertEntry_scenarios (hhand : s.clockHand < s.capacity) (slot : ℕ × Bool)
    (dt : DecisionType) (o : Origin) (sid : UInt16) (x : ℤ) (newEntry : ShmHashEntry)
    (clock : CallClock) :
    (upsertEntry s slot dt o sid x newEntry clock).scenarios = s.scenarios := by
  rw [upsertEntry]
  split
  · dsimp only
    split
    · rfl
    · exact insertEntry_scenarios (s := buryEntry (writeEntry s _ _) _) hhand newEntry clock
  · exact insertEntry_scenarios hhand newEntry clock

theorem removeFromSlot_scenarios (s : ShmData) (slot : ℕ × Bool) (dt : DecisionType) (now : ℤ) :
    (removeFromSlot s slot dt now).scenarios = s.scenarios := by
  rw [removeFromSlot]
  split
  · dsimp only
    split <;> rfl
  · rfl

/-- A cleared table has no entries. -/
theorem TableOk.find_clearAll (hC : 0 < s.capacity) (hk : k.Normal) :
    (clearAll s).find k = none := by
  refine Option.eq_none_iff_forall_ne_some.mpr fun e he => ?_
  obtain ⟨i, -, hocc, -⟩ := ((tableOk_clearAll hC).find_eq_some_iff hk).mp he
  simp at hocc

/-- A cleared table refines a cleared map. -/
theorem refines_clearAll (t : ℤ) (hC : 0 < s.capacity) :
    Refines t (clearAll s) (.cleared s.scenarios) where
  ok := tableOk_clearAll hC
  scenarios := rfl
  agrees k hk := by
    rw [TableOk.find_clearAll hC hk]
    exact ⟨fun _ => Deadline.EqFrom.refl _ _, fun _ _ hx => by simp at hx⟩
  networks _ _ _ h := absurd rfl h

/-! ### What an addition files -/

/-- The slots are searched as before. -/
theorem Prepared.find_eq (hprep : Prepared a s s₁) (k : Key) : s₁.find k = s.find k := by
  rw [ShmData.find, ShmData.find, hprep.entries, hprep.capacity]

theorem viewOf_newEntry (k : Key) (dt dt' : DecisionType) (o : Origin) (sid : UInt16) (x : ℤ) :
    viewOf (some (k.newEntry dt o sid x)) dt' =
      if dt' = dt then DecisionExpiry.requested dt x else ⊥ := by
  cases k with
  | ip addr => exact DecisionExpiry.view_merge_empty
  | cidr family prefixLen network => exact DecisionExpiry.view_merge_empty

theorem originOf_newEntry (k : Key) (dt : DecisionType) (o : Origin) (sid : UInt16) (x : ℤ) :
    (k.newEntry dt o sid x).originOf = o := by
  cases k with
  | ip addr => exact Origin.fromU8_toU8 o
  | cidr family prefixLen network => exact Origin.fromU8_toU8 o

theorem scenarioId_newEntry (k : Key) (dt : DecisionType) (o : Origin) (sid : UInt16) (x : ℤ) :
    (k.newEntry dt o sid x).scenarioId = sid := by
  cases k with
  | ip addr => rfl
  | cidr family prefixLen network => rfl

/-- An addition on the plain map. -/
theorem MapState.apply_of_addition (m : MapState) (ha : op.addition? = some a) :
    m.apply op = ⟨m.map.add a.key a.clock.now a.decisionType
      (DecisionExpiry.requested a.decisionType a.expires) a.origin
      (scenarioIdOf m.scenarios a.scenario).1, (scenarioIdOf m.scenarios a.scenario).2⟩ := by
  rcases TableOp.cases_of_addition ha with
    ⟨info, clock, rfl, rfl⟩ | ⟨info, clock, rfl, hparams, rfl⟩
  · rfl
  · exact if_pos hparams

/-- What is added under a network is masked. -/
theorem TableOp.Masked.network (hmasked : op.Masked) (ha : op.addition? = some a)
    {family prefixLen : UInt8} {network : List UInt8}
    (hk : a.key = .cidr family prefixLen network) :
    octetBits network = maskBits prefixLen.toNat (octetBits network) := by
  rcases TableOp.cases_of_addition ha with ⟨info, clock, rfl, rfl⟩ | ⟨info, clock, rfl, -, rfl⟩
  · exact absurd hk (by simp)
  · obtain ⟨rfl, rfl, rfl⟩ := Key.cidr.inj hk
    exact hmasked

namespace Refines

/-- Updating the table and the map at one key. -/
theorem update (h : Refines t s m) (ht : t ≤ now) {s' : ShmData} {m' : MapState}
    {e : Option ShmHashEntry} {r : Option (DecisionRecord ℤ)} (hok : TableOk s')
    (hscenarios : m'.scenarios = s'.scenarios)
    (hfind : ∀ k' : Key, k'.Normal → s'.find k' = if k' = k then e else s.find k')
    (hmap : m'.map = Function.update m.map k r) (hagree : Agrees now e r)
    (hnetwork : ∀ family prefixLen network, k = .cidr family prefixLen network → r ≠ none →
      (Key.cidr family prefixLen network).Valid ∧
        octetBits network = maskBits prefixLen.toNat (octetBits network)) :
    Refines now s' m' where
  ok := hok
  scenarios := hscenarios
  agrees k' hk' := by
    rw [hfind k' hk', hmap, Function.update_apply]
    split
    · exact hagree
    · exact (h.agrees k' hk').mono ht
  networks family prefixLen network hne := by
    rw [hmap, Function.update_apply] at hne
    split at hne
    · next heq => exact hnetwork family prefixLen network heq.symm hne
    · exact h.networks family prefixLen network hne

/-- Scenarios and prefix marks are outside the map from keys to entries. -/
theorem prepared (h : Refines t s m) (hprep : Prepared a s s₁) :
    Refines t s₁ ⟨m.map, s₁.scenarios⟩ where
  ok := hprep.ok
  scenarios := rfl
  agrees k hk := by
    rw [hprep.find_eq]
    exact h.agrees k hk
  networks := h.networks

/-- The common body of the adding functions, against adding to the map. -/
theorem upsert (h : Refines t s m) (hk : k.Normal) {newEntry : ShmHashEntry}
    (hnew : newEntry.WellKeyed) (hkey : newEntry.key = k)
    (hmarked : newEntry.isCidr = true → prefixIsPresent s newEntry.prefixLen = true)
    {dt : DecisionType} {o : Origin} {sid : UInt16} {x : ℤ} {clock : CallClock}
    (hview : ∀ dt', viewOf (some newEntry) dt' =
      if dt' = dt then DecisionExpiry.requested dt x else ⊥)
    (horigin : newEntry.originOf = o) (hsid : newEntry.scenarioId = sid) (ht : t ≤ clock.now)
    (hevict : upsertReachesEvictClock s (findKey s.entries s.capacity k) newEntry.hash clock.now
      = false)
    (hnetwork : ∀ family prefixLen network, k = .cidr family prefixLen network →
      octetBits network = maskBits prefixLen.toNat (octetBits network)) :
    Refines clock.now
      (upsertEntry s (findKey s.entries s.capacity k) dt o sid x newEntry clock)
      ⟨m.map.add k clock.now dt (DecisionExpiry.requested dt x) o sid, m.scenarios⟩ := by
  refine h.update ht (h.ok.upsertEntry hk hnew hkey hmarked dt o sid x clock)
    (h.scenarios.trans (upsertEntry_scenarios h.ok.hand_lt ..).symm)
    (fun k' hk' => h.ok.find_upsertEntry hk hnew hkey hmarked dt o sid x clock hevict hk') rfl
    ((h.agrees k hk).added ht (fun e he => h.ok.mask_lt_of_find hk he) hview horigin hsid) ?_
  rintro family prefixLen network rfl -
  exact ⟨hkey ▸ hnew.valid, hnetwork family prefixLen network rfl⟩

/-- The common body of the removing functions, against removing from the map. -/
theorem remove (h : Refines t s m) (hk : k.Normal) (dt : DecisionType) (ht : t ≤ now) :
    Refines now (removeFromSlot s (findKey s.entries s.capacity k) dt now)
      { m with map := m.map.remove k dt } := by
  refine h.update ht (h.ok.removeFromSlot hk dt now)
    (h.scenarios.trans (removeFromSlot_scenarios ..).symm)
    (fun k' hk' => h.ok.find_removeFromSlot hk dt now hk') rfl
    ((h.agrees k hk).removed ht (fun e he => h.ok.mask_lt_of_find hk he) dt) ?_
  rintro family prefixLen network rfl hne
  refine h.networks family prefixLen network fun hnone => ?_
  rw [hnone] at hne
  exact hne rfl

/-- **The step lemma.** A call that does not evict, no earlier than the ones before, keeps
the refinement. -/
theorem apply (h : Refines t s m) (op : TableOp) (hmasked : op.Masked)
    (hevict : op.reachesEvictClock s = false) (ht : ∀ t' ∈ op.time?, t ≤ t') :
    Refines (op.time?.getD t) (op.apply s) (m.apply op) := by
  cases hadd : op.addition? with
  | some a =>
    obtain ⟨s₁, hprep, happly, hreaches⟩ := h.ok.exists_prepared hadd
    have htime : op.time? = some a.clock.now := TableOp.time?_of_addition hadd
    have hstep := (h.prepared hprep).upsert hprep.normal hprep.wellKeyed hprep.key_eq hprep.marked
      (fun dt' => viewOf_newEntry ..) (originOf_newEntry ..) (scenarioId_newEntry ..)
      (ht _ htime) (hreaches ▸ hevict) fun family prefixLen network hk => hmasked.network hadd hk
    rw [htime, happly, m.apply_of_addition hadd, h.scenarios, ← hprep.scenarios]
    exact hstep
  | none =>
    cases op with
    | addDecision info clock => exact absurd hadd (by simp [TableOp.addition?])
    | addCidrDecision info clock =>
      have hparams : cidrParamsValid info.family info.prefixLen info.network ≠ true :=
        fun hvalid => absurd (hadd.symm.trans (if_pos hvalid)) (by simp)
      rw [TableOp.apply, addCidrDecision_of_addition?_eq_none hadd, MapState.apply, if_neg hparams]
      exact ⟨h.ok, h.scenarios, fun k hk => (h.agrees k hk).mono (ht _ rfl), h.networks⟩
    | removeDecisionType ip dt now => exact h.remove (k := .ip ip) trivial dt (ht _ rfl)
    | removeCidrDecisionType family prefixLen network dt now =>
      rw [TableOp.apply, removeCidrDecisionType, findSlotCidr_eq_findKey]
      exact h.remove (Key.normal_ofCidr _ _ _) dt (ht _ rfl)
    | clearAll =>
      have hclear := refines_clearAll t h.ok.capacity_pos
      rw [← h.scenarios] at hclear
      exact hclear

end Refines

end CrowdSecBouncer
