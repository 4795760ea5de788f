import CrowdSecBouncer.Foundations.LabelledRun
import CrowdSecBouncer.Metrics.BucketTable
import Mathlib.Algebra.BigOperators.Group.Finset.Basic
import Mathlib.Algebra.Order.BigOperators.Group.Finset
import Mathlib.Algebra.Order.Ring.Nat

/-!
# Conservation of the counters

What uploads have delivered plus what the table still holds is what the workers have counted,
as long as every key owns one bucket (`countersOk_of_safeCounter`). A worker that loses the
compare-exchange for a slot, or stops waiting for a claimed slot to become ready, moves on
without looking whether the slot was claimed for its own key; then the key gets a second
bucket, both are uploaded, and both values are subtracted from the first (`not_countersOk`).
-/

namespace CrowdSecBouncer

/-! ### What is conserved -/

/-- What a bucket holds for one key. -/
def UsageBucket.held (b : UsageBucket) (k : BucketKey) : ℕ :=
  if b.labels = k then b.value.toNat else 0

/-- What the table holds for one key. -/
def bucketSum (C : ℕ) (b : ℕ → UsageBucket) (k : BucketKey) : ℕ :=
  ∑ i ∈ Finset.range C, (b i).held k

namespace PushPc

/-- The items of the current upload, as long as it has not succeeded. -/
def collected : PushPc → List MetricItem
  | .loadHash _ items | .loadReady _ items | .loadValue _ items => items
  | .gauges items | .uploading items => items
  | .idle | .resetHash .. | .resetReady .. | .fetchSub .. => []

/-- What an upload has delivered for one key and the reset has not yet subtracted. -/
def pending (pc : PushPc) (k : BucketKey) : ℕ :=
  match pc with
  | .resetHash key value rest _ | .resetReady key value rest _ | .fetchSub key value rest _ =>
    itemSum k ((key, value) :: rest)
  | _ => 0

end PushPc

/-- No counter is lost, counted twice or wrapped: what is collected has not been delivered
before, what was delivered and what the table holds add up to what was counted, and the next
subtraction does not go below zero. -/
structure CountersOk {n : ℕ} (C : ℕ) (s : UsageMetrics n) : Prop where
  collected : ∀ p ∈ s.poller.collected, p.1.IsCounter →
    s.acknowledged p.1 + p.2.toNat ≤ s.completed p.1
  balance : ∀ k : BucketKey, k.IsCounter →
    s.acknowledged k + bucketSum C s.buckets k = s.completed k + s.poller.pending k
  noWrap : ∀ key value rest idx, s.poller = .fetchSub key value rest idx →
    value ≤ (s.buckets idx).value

/-- A worker leaves a slot that it could not claim, or that is not ready yet, only when the
slot was claimed for another key; and no counter reaches `2 ^ 64`. -/
def MetricsAction.SafeCounter {n : ℕ} (a : MetricsAction n) (s : UsageMetrics n) : Prop :=
  match a with
  | .work w =>
    match s.workers w with
    | .exchange key idx => (s.buckets idx).keyHash ≠ 0 → (s.buckets idx).owner ≠ some key
    | .compare key idx => (s.buckets idx).ready = false → (s.buckets idx).owner ≠ some key
    | .fetchAdd _ idx => (s.buckets idx).value.toNat + 1 < 2 ^ 64
    | _ => True
  | _ => True

instance {n : ℕ} (a : MetricsAction n) (s : UsageMetrics n) : Decidable (a.SafeCounter s) := by
  unfold MetricsAction.SafeCounter
  split
  · split <;> infer_instance
  · infer_instance

variable {C : ℕ} {S : Finset BucketKey} {b : ℕ → UsageBucket} {i : ℕ} {x : UsageBucket}

/-- Writing one bucket changes the sum by the difference at that bucket. -/
theorem bucketSum_update (hi : i < C) (k : BucketKey) :
    bucketSum C (Function.update b i x) k + (b i).held k = bucketSum C b k + x.held k := by
  have hmem : i ∈ Finset.range C := Finset.mem_range.mpr hi
  have hrest : ∑ j ∈ (Finset.range C).erase i, (Function.update b i x j).held k =
      ∑ j ∈ (Finset.range C).erase i, (b j).held k :=
    Finset.sum_congr rfl fun j hj => by rw [Function.update_of_ne (Finset.ne_of_mem_erase hj)]
  unfold bucketSum
  rw [← Finset.add_sum_erase _ _ hmem, ← Finset.add_sum_erase _ (fun j => (b j).held k) hmem,
    hrest, Function.update_self]
  omega

theorem held_le_bucketSum (hi : i < C) (k : BucketKey) : (b i).held k ≤ bucketSum C b k :=
  Finset.single_le_sum (f := fun j => (b j).held k) (fun _ _ => Nat.zero_le _)
    (Finset.mem_range.mpr hi)

/-! ### What is pending -/

@[simp] theorem pending_collectFrom (items : List MetricItem) (k : BucketKey) :
    (PushPc.collectFrom C i items).pending k = 0 := by
  rw [PushPc.collectFrom]
  split_ifs <;> rfl

theorem pending_resetItems {k : BucketKey} (hk : k.IsCounter) (items : List MetricItem) :
    (PushPc.resetItems C items).pending k = itemSum k items := by
  induction items with
  | nil => rfl
  | cons p rest ih =>
    obtain ⟨key, value⟩ := p
    rw [PushPc.resetItems]
    split_ifs with hkind
    · have hne : key ≠ k := by
        rintro rfl
        exact hk hkind
      rw [ih, itemSum, if_neg hne, Nat.zero_add]
    · rfl

/-! ### The invariant of a run -/

/-- The invariant: table, parties and balance. No two workers fill the same slot. -/
structure Consistent {n : ℕ} (C : ℕ) (S : Finset BucketKey) (s : UsageMetrics n) : Prop where
  table : BucketsOk C S s.buckets
  worker : ∀ w, WorkerOk C S s.buckets (s.workers w)
  builder : ∀ w w' i, (s.workers w).building = some i → (s.workers w').building = some i → w = w'
  poller : PollerOk C s.buckets s.poller
  balance : ∀ k : BucketKey, k.IsCounter →
    s.acknowledged k + bucketSum C s.buckets k = s.completed k + s.poller.pending k

namespace Consistent

variable {n : ℕ} {s s' : UsageMetrics n} {w : Fin n}

theorem initial (n : ℕ) : Consistent C S (UsageMetrics.initial n) where
  table := by
    refine ⟨fun i _ k hk => ?_, fun i _ _ => ⟨rfl, rfl, rfl⟩, fun i _ hshown => ?_,
      fun i _ j _ k hk => ?_, fun i _ k hk => ?_⟩
    · exact absurd hk (by simp [UsageMetrics.initial, UsageBucket.zeroed])
    · exact absurd hshown (by simp [UsageMetrics.initial, UsageBucket.zeroed])
    · exact absurd hk (by simp [UsageMetrics.initial, UsageBucket.zeroed])
    · exact absurd hk (by simp [UsageMetrics.initial, UsageBucket.zeroed])
  worker _ := trivial
  builder w _ i hw := absurd hw (by simp [UsageMetrics.initial, IncPc.building])
  poller := trivial
  balance k _ := by
    simp [UsageMetrics.initial, bucketSum, UsageBucket.held, UsageBucket.zeroed, PushPc.pending]

/-- **What the invariant is for.** -/
theorem countersOk (h : Consistent C S s) : CountersOk C s := by
  have hcovered {bound : ℕ} {items : List MetricItem} (hitems : ItemsOk s.buckets bound items)
      (hbound : bound ≤ C) (hpending : ∀ k, s.poller.pending k = 0) :
      ∀ p ∈ items, p.1.IsCounter → s.acknowledged p.1 + p.2.toNat ≤ s.completed p.1 := by
    intro p hp hcounter
    obtain ⟨j, hj, howner, hready, hle⟩ := hitems.held p hp hcounter
    have hlabels := h.table.labelled j (by omega) (.inl hready)
    rw [howner, Option.some_inj] at hlabels
    have hheld : (s.buckets j).held p.1 = (s.buckets j).value.toNat := if_pos hlabels.symm
    have hsum := held_le_bucketSum (b := s.buckets) (show j < C by omega) p.1
    have hbalance := h.balance p.1 hcounter
    rw [hpending] at hbalance
    have hvalue : p.2.toNat ≤ (s.buckets j).value.toNat := UInt64.le_iff_toNat_le.mp hle
    omega
  have hpoller := h.poller
  refine ⟨?_, h.balance, ?_⟩
  · rcases hpc : s.poller with _ | ⟨i, items⟩ | ⟨i, items⟩ | ⟨i, items⟩ | ⟨items⟩ | ⟨items⟩ |
      ⟨_, _, _, _⟩ | ⟨_, _, _, _⟩ | ⟨_, _, _, _⟩
    all_goals
      rw [hpc] at hpoller
      have hpending := congrArg PushPc.pending hpc
    · exact fun _ hp => absurd hp List.not_mem_nil
    · exact hcovered hpoller.2 hpoller.1.le (congrFun hpending)
    · exact hcovered hpoller.2 hpoller.1.le (congrFun hpending)
    · exact hcovered hpoller.2.1 hpoller.1.le (congrFun hpending)
    · exact hcovered hpoller le_rfl (congrFun hpending)
    · exact hcovered hpoller le_rfl (congrFun hpending)
    · exact fun _ hp => absurd hp List.not_mem_nil
    · exact fun _ hp => absurd hp List.not_mem_nil
    · exact fun _ hp => absurd hp List.not_mem_nil
  · intro key value rest idx hpc
    rw [hpc] at hpoller
    obtain ⟨hitems, hcounter, hidx, howner, -⟩ := hpoller
    obtain ⟨j, hj, hjowner, -, hle⟩ := hitems.held (key, value) List.mem_cons_self hcounter
    obtain rfl := h.table.unique j hj idx hidx key hjowner howner
    exact hle

/-! ### Steps that write no bucket -/

theorem setWorker (h : Consistent C S s) {pc : IncPc} (hpc : WorkerOk C S s.buckets pc)
    (hbuilding : pc.building = none) : Consistent C S (s.setWorker w pc) := by
  have hold (v : Fin n) (i : ℕ) (hv : ((s.setWorker w pc).workers v).building = some i) :
      (s.workers v).building = some i := by
    rcases eq_or_ne v w with rfl | hne
    · simp [UsageMetrics.setWorker, hbuilding] at hv
    · simpa [UsageMetrics.setWorker, hne] using hv
  refine ⟨h.table, fun v => ?_, fun v v' i hv hv' => ?_, h.poller, h.balance⟩
  · rcases eq_or_ne v w with rfl | hne
    · simpa [UsageMetrics.setWorker] using hpc
    · simpa [UsageMetrics.setWorker, hne] using h.worker v
  · exact h.builder v v' i (hold v i hv) (hold v' i hv')

theorem setPoller (h : Consistent C S s) {pc : PushPc} (hpc : PollerOk C s.buckets pc)
    (hpending : ∀ k : BucketKey, k.IsCounter → pc.pending k = s.poller.pending k) :
    Consistent C S (s.setPoller pc) :=
  ⟨h.table, h.worker, h.builder, hpc, fun k hk => (h.balance k hk).trans (by
    rw [← hpending k hk]
    rfl)⟩

/-- The poller goes on to a slot or to the end of the table, where nothing is pending yet. -/
theorem setPoller_collectFrom (h : Consistent C S s) {i : ℕ} {items : List MetricItem}
    (hpending : ∀ k : BucketKey, s.poller.pending k = 0)
    (hpc : PollerOk C s.buckets (.collectFrom C i items)) :
    Consistent C S (s.setPoller (.collectFrom C i items)) :=
  h.setPoller hpc fun k _ => by rw [pending_collectFrom, hpending]

/-- A worker leaves a slot of another key: a table with room for every key is never full. -/
theorem probeNext (h : Consistent C S s) (hcard : S.card ≤ C) {key k : BucketKey} {idx : ℕ}
    (hkey : key ∈ S) (hpassed : Passed C s.buckets key idx) (hk : (s.buckets idx).owner = some k)
    (hne : k ≠ key) : Consistent C S (s.probeNext C w key idx) := by
  rw [UsageMetrics.probeNext]
  rcases hpassed.next hne hk with ⟨hidx, hnext⟩ | hfull
  · rw [if_neg hidx]
    exact h.setWorker ⟨hkey, hnext⟩ rfl
  · exact (h.table.not_all_others hcard hkey hfull).elim

/-! ### Steps that write a bucket -/

/-- A worker writes a bucket that no other worker fills. -/
theorem write (h : Consistent C S s) (hi : i < C) {pc : IncPc} {completed : BucketKey → ℕ}
    (htable : BucketsOk C S (Function.update s.buckets i x))
    (howner : ∀ k, (s.buckets i).owner = some k → x.owner = some k)
    (hready : (s.buckets i).ready = true → x.ready = true ∧ (s.buckets i).value ≤ x.value)
    (hquiet : ∀ v, v ≠ w → (s.workers v).building ≠ some i)
    (hpc : WorkerOk C S (Function.update s.buckets i x) pc)
    (hbuilding : ∀ j, pc.building = some j → j = i)
    (hcount : ∀ k, x.held k + s.completed k = (s.buckets i).held k + completed k) :
    Consistent C S { s with
      buckets := Function.update s.buckets i x
      workers := Function.update s.workers w pc
      completed := completed } := by
  have hext : Extends s.buckets (Function.update s.buckets i x) :=
    extends_update howner fun hr => (hready hr).1
  refine ⟨htable, fun v => ?_, fun v v' j hv hv' => ?_, ?_, fun k hk => ?_⟩
  · -- the other workers fill other slots, and what they read there has not changed
    dsimp only
    rcases eq_or_ne v w with rfl | hne
    · rwa [Function.update_self]
    · rw [Function.update_of_ne hne]
      refine (h.worker v).mono hext fun j hj => ?_
      have hji : j ≠ i := by
        rintro rfl
        exact hquiet v hne hj
      rw [Function.update_of_ne hji]
  · dsimp only at hv hv'
    rcases eq_or_ne v w with rfl | hne
    · rcases eq_or_ne v' v with rfl | hne'
      · rfl
      · rw [Function.update_self] at hv
        rw [Function.update_of_ne hne', hbuilding j hv] at hv'
        exact absurd hv' (hquiet v' hne')
    · rw [Function.update_of_ne hne] at hv
      rcases eq_or_ne v' w with rfl | hne'
      · rw [Function.update_self] at hv'
        rw [hbuilding j hv'] at hv
        exact absurd hv (hquiet v hne)
      · rw [Function.update_of_ne hne'] at hv'
        exact h.builder v v' j hv hv'
  · -- a value that is visible only grows, so the collected items stay covered
    refine h.poller.grow hext fun j hj => ?_
    dsimp only
    rcases eq_or_ne j i with rfl | hne
    · rw [Function.update_self]
      exact (hready hj).2
    · rw [Function.update_of_ne hne]
      exact UInt64.le_refl _
  · have hbalance := h.balance k hk
    have hsum := bucketSum_update (b := s.buckets) (x := x) hi k
    have hk := hcount k
    dsimp only
    omega

/-- A claim by compare-exchange at the end of a probe. -/
theorem claim (h : Consistent C S s) {key : BucketKey} {idx : ℕ} (hkey : key ∈ S)
    (hpassed : Passed C s.buckets key idx) (hhash : (s.buckets idx).keyHash = 0) :
    Consistent C S ((s.setBucket idx
      { s.buckets idx with keyHash := key.hash, owner := some key }).setWorker w
        (.storeLabels key idx)) := by
  have hi : idx < C := hpassed.lt
  have hfree : (s.buckets idx).owner = none := h.table.owner_eq_none hi hhash
  obtain ⟨-, hvalue, hready⟩ := h.table.free idx hi hfree
  refine h.write hi (h.table.claim hi hkey hfree (hpassed.owner_ne h.table hfree)
    (hpassed.pathClear rfl)) (fun k hk => ?_) (fun hr => ?_) (fun v _ hv => ?_) ?_
    (fun j hj => ?_) (fun k => rfl)
  · rw [hfree] at hk
    exact absurd hk (by simp)
  · rw [hready] at hr
    exact absurd hr (by simp)
  · obtain ⟨⟨k, howner⟩, -⟩ := (h.worker v).of_building hv
    rw [hfree] at howner
    exact absurd howner (by simp)
  · exact ⟨hi, by simp, by simpa using hready, by simpa using hvalue⟩
  · exact (Option.some_injective _ hj).symm

/-- The worker that fills a slot is the only one. -/
theorem building_ne (h : Consistent C S s) (hw : (s.workers w).building = some i) :
    ∀ v, v ≠ w → (s.workers v).building ≠ some i :=
  fun v hne hv => hne (h.builder v w i hv hw)

/-- One more in the bucket of a key is one more increment of that key. -/
private theorem held_complete {b₀ b₁ : UsageBucket} {key : BucketKey} (completed : BucketKey → ℕ)
    (hlabels : b₀.labels = key) (hsame : b₁.labels = b₀.labels)
    (hvalue : b₁.value.toNat = b₀.value.toNat + 1) (k : BucketKey) :
    b₁.held k + completed k =
      b₀.held k + Function.update completed key (completed key + 1) k := by
  unfold UsageBucket.held
  rw [hsame, hlabels]
  rcases eq_or_ne k key with rfl | hne
  · rw [if_pos rfl, if_pos rfl, Function.update_self, hvalue]
    omega
  · rw [if_neg hne.symm, if_neg hne.symm, Function.update_of_ne hne]

/-- The labels go into the bucket that was claimed for them. -/
theorem storeLabels (h : Consistent C S s) {key : BucketKey} {idx : ℕ}
    (hpc : s.workers w = .storeLabels key idx) :
    Consistent C S ((s.setBucket idx { s.buckets idx with labels := key }).setWorker w
      (.storeValue key idx)) := by
  have hworker := h.worker w
  rw [hpc] at hworker
  obtain ⟨hi, howner, hready, hvalue⟩ := hworker
  refine h.write hi (h.table.write howner howner rfl fun _ => rfl) (fun k hk => hk)
    (fun hr => ⟨hr, UInt64.le_refl _⟩) (h.building_ne (by rw [hpc]; rfl)) ?_ (fun j hj => ?_)
    (fun k => ?_)
  · simpa [WorkerOk] using ⟨hi, howner, hready, hvalue⟩
  · exact (Option.some_injective _ hj).symm
  · -- nothing is counted yet, whatever the labels are
    simp [UsageBucket.held, hvalue, UsageMetrics.setBucket]

/-- The first increment of a key is the value that its bucket starts with. -/
theorem storeValue (h : Consistent C S s) {key : BucketKey} {idx : ℕ}
    (hpc : s.workers w = .storeValue key idx) :
    Consistent C S (((s.setBucket idx { s.buckets idx with value := 1 }).complete key).setWorker w
      (.storeReady key idx)) := by
  have hworker := h.worker w
  rw [hpc] at hworker
  obtain ⟨hi, howner, hready, hvalue, hlabels⟩ := hworker
  refine h.write hi (h.table.write howner howner rfl fun _ => hlabels) (fun k hk => hk)
    (fun hr => ?_) (h.building_ne (by rw [hpc]; rfl)) ?_ (fun j hj => ?_)
    (held_complete s.completed hlabels rfl (by simp [hvalue]))
  · exact absurd (hready.symm.trans hr) (by simp)
  · simpa [WorkerOk] using ⟨hi, howner, hready, hlabels⟩
  · exact (Option.some_injective _ hj).symm

/-- The bucket becomes visible. -/
theorem storeReady (h : Consistent C S s) {key : BucketKey} {idx : ℕ}
    (hpc : s.workers w = .storeReady key idx) :
    Consistent C S ((s.setBucket idx { s.buckets idx with ready := true }).setWorker w .idle) := by
  have hworker := h.worker w
  rw [hpc] at hworker
  obtain ⟨hi, howner, -, hlabels⟩ := hworker
  refine h.write hi (h.table.write howner howner rfl fun _ => hlabels) (fun k hk => hk)
    (fun _ => ⟨rfl, UInt64.le_refl _⟩) (h.building_ne (by rw [hpc]; rfl)) trivial
    (fun j hj => ?_) (fun k => rfl)
  exact absurd hj (by simp [IncPc.building])

/-- An increment of a bucket that is visible, short of a wrap. -/
theorem fetchAdd (h : Consistent C S s) {key : BucketKey} {idx : ℕ}
    (hpc : s.workers w = .fetchAdd key idx) (hroom : (s.buckets idx).value.toNat + 1 < 2 ^ 64) :
    Consistent C S (((s.setBucket idx
      { s.buckets idx with value := (s.buckets idx).value + 1 }).complete key).setWorker w
        .idle) := by
  have hworker := h.worker w
  rw [hpc] at hworker
  obtain ⟨hi, howner, hready⟩ := hworker
  have hlabels := h.table.labelled idx hi (.inl hready)
  rw [howner, Option.some_inj] at hlabels
  have hvalue : ((s.buckets idx).value + 1).toNat = (s.buckets idx).value.toNat + 1 := by
    rw [UInt64.toNat_add]
    exact Nat.mod_eq_of_lt hroom
  refine h.write hi (h.table.write howner howner rfl fun _ => hlabels.symm) (fun k hk => hk)
    (fun hr => ⟨hr, ?_⟩) (fun v _ hv => ?_) trivial (fun j hj => ?_)
    (held_complete s.completed hlabels.symm rfl hvalue)
  · rw [UInt64.le_iff_toNat_le, hvalue]
    exact Nat.le_succ _
  · -- a bucket that is still being filled is not visible
    exact absurd (((h.worker v).of_building hv).2.symm.trans hready) (by simp)
  · exact absurd hj (by simp [IncPc.building])

/-- **A worker's step.** -/
theorem incStep (h : Consistent C S s) (hcard : S.card ≤ C)
    (hsafe : (MetricsAction.work w).SafeCounter s) (hstep : s.incStep C w = some s') :
    Consistent C S s' := by
  have hworker := h.worker w
  unfold UsageMetrics.incStep at hstep
  unfold MetricsAction.SafeCounter at hsafe
  rcases hpc : s.workers w with _ | ⟨key, idx⟩ | ⟨key, idx, spins⟩ | ⟨key, idx⟩ | ⟨key, idx⟩ |
    ⟨key, idx⟩ | ⟨key, idx⟩ | ⟨key, idx⟩ | ⟨key, idx⟩
  all_goals
    rw [hpc] at hworker
    simp only [hpc] at hstep hsafe
  · exact absurd hstep (by simp)
  · -- `loadHash`: a slot with the hash of the key is looked into, any other one left
    obtain ⟨hkey, hpassed⟩ := hworker
    have hi : idx < C := hpassed.lt
    split at hstep
    · next hhash =>
      obtain rfl := Option.some_injective _ hstep
      refine h.setWorker ⟨hkey, hpassed, ?_⟩ rfl
      rcases howner : (s.buckets idx).owner with _ | k
      · rw [(h.table.free idx hi howner).1] at hhash
        exact absurd hhash.symm key.hash_ne_zero
      · exact ⟨k, rfl⟩
    · next hhash =>
      split at hstep
      · obtain rfl := Option.some_injective _ hstep
        exact h.setWorker ⟨hkey, hpassed⟩ rfl
      · next hzero =>
        obtain rfl := Option.some_injective _ hstep
        rcases howner : (s.buckets idx).owner with _ | k
        · exact absurd (h.table.free idx hi howner).1 hzero
        · refine h.probeNext hcard hkey hpassed howner ?_
          rintro rfl
          exact hhash (h.table.claimed idx hi k howner).1
  · -- `spin`
    split at hstep
    · obtain rfl := Option.some_injective _ hstep
      exact h.setWorker hworker rfl
    · obtain rfl := Option.some_injective _ hstep
      exact h.setWorker hworker rfl
  · -- `compare`: the step is safe, so a slot that is left is not the key's own
    obtain ⟨hkey, hpassed, k, howner⟩ := hworker
    split at hstep
    · next hmatch =>
      obtain rfl := Option.some_injective _ hstep
      refine h.setWorker ⟨hpassed.lt, ?_, hmatch.1⟩ rfl
      exact hmatch.2 ▸ h.table.labelled idx hpassed.lt (.inl hmatch.1)
    · next hmiss =>
      obtain rfl := Option.some_injective _ hstep
      refine h.probeNext hcard hkey hpassed howner ?_
      rintro rfl
      rcases hready : (s.buckets idx).ready with _ | _
      · exact hsafe hready howner
      · have hlabels := h.table.labelled idx hpassed.lt (.inl hready)
        rw [howner, Option.some_inj] at hlabels
        exact hmiss ⟨hready, hlabels.symm⟩
  · -- `exchange`: likewise for the loser
    obtain ⟨hkey, hpassed⟩ := hworker
    split at hstep
    · next hhash =>
      obtain rfl := Option.some_injective _ hstep
      exact h.claim hkey hpassed hhash
    · next hhash =>
      obtain rfl := Option.some_injective _ hstep
      rcases howner : (s.buckets idx).owner with _ | k
      · exact absurd (h.table.free idx hpassed.lt howner).1 hhash
      · refine h.probeNext hcard hkey hpassed howner ?_
        rintro rfl
        exact hsafe hhash howner
  · obtain rfl := Option.some_injective _ hstep
    exact h.storeLabels hpc
  · obtain rfl := Option.some_injective _ hstep
    exact h.storeValue hpc
  · obtain rfl := Option.some_injective _ hstep
    exact h.storeReady hpc
  · obtain rfl := Option.some_injective _ hstep
    exact h.fetchAdd hpc hsafe

/-- The subtraction of an item takes its value out of the bucket and out of what is pending. -/
theorem fetchSub (h : Consistent C S s) {key : BucketKey} {value : UInt64}
    {rest : List MetricItem} {idx : ℕ} (hpc : s.poller = .fetchSub key value rest idx) :
    Consistent C S ((s.setBucket idx
      { s.buckets idx with value := (s.buckets idx).value - value }).setPoller
        (.resetItems C rest)) := by
  have hpoller := h.poller
  rw [hpc] at hpoller
  obtain ⟨hitems, hcounter, hi, howner, hready⟩ := hpoller
  have hle : value ≤ (s.buckets idx).value := h.countersOk.noWrap key value rest idx hpc
  have hlabels := h.table.labelled idx hi (.inl hready)
  rw [howner, Option.some_inj] at hlabels
  have hext : Extends s.buckets (Function.update s.buckets idx
      { s.buckets idx with value := (s.buckets idx).value - value }) :=
    extends_update (fun _ hk => hk) id
  refine ⟨h.table.write howner howner rfl fun _ => hlabels.symm, fun v => ?_, h.builder, ?_,
    fun k hk => ?_⟩
  · refine (h.worker v).mono hext fun j hj => ?_
    have hji : j ≠ idx := by
      rintro rfl
      exact absurd (((h.worker v).of_building hj).2.symm.trans hready) (by simp)
    exact Function.update_of_ne hji _ _
  · -- the buckets of the other items are other buckets
    refine PollerOk.resetItems ⟨hitems.distinct.tail, fun p hp hp' => ?_⟩
    obtain ⟨j, hj, hjowner, hjready, hjle⟩ := hitems.tail.held p hp hp'
    have hne : key ≠ p.1 := List.rel_of_pairwise_cons hitems.distinct hp hcounter
    have hji : j ≠ idx := by
      rintro rfl
      exact hne (Option.some_injective _ (howner.symm.trans hjowner))
    refine ⟨j, hj, ?_⟩
    simp only [UsageMetrics.setPoller, UsageMetrics.setBucket, Function.update_of_ne hji]
    exact ⟨hjowner, hjready, hjle⟩
  · have hbalance := h.balance k hk
    have hsum := bucketSum_update (b := s.buckets)
      (x := { s.buckets idx with value := (s.buckets idx).value - value }) hi k
    have hpending : s.poller.pending k = itemSum k ((key, value) :: rest) := by
      rw [hpc]
      rfl
    have hafter := pending_resetItems (C := C) hk rest
    have hvalue : ((s.buckets idx).value - value).toNat =
        (s.buckets idx).value.toNat - value.toNat := UInt64.toNat_sub_of_le _ _ hle
    have hle' : value.toNat ≤ (s.buckets idx).value.toNat := UInt64.le_iff_toNat_le.mp hle
    rw [hpending, itemSum] at hbalance
    change s.acknowledged k + bucketSum C (Function.update s.buckets idx
      { s.buckets idx with value := (s.buckets idx).value - value }) k =
        s.completed k + (PushPc.resetItems C rest).pending k
    rw [hafter]
    rcases eq_or_ne key k with rfl | hne
    · rw [UsageBucket.held, UsageBucket.held, if_pos hlabels.symm, if_pos hlabels.symm,
        hvalue] at hsum
      rw [if_pos rfl] at hbalance
      omega
    · rw [UsageBucket.held, UsageBucket.held, if_neg (hlabels ▸ hne),
        if_neg (hlabels ▸ hne)] at hsum
      rw [if_neg hne] at hbalance
      omega

/-- **A step of the poller.** -/
theorem pollStep (h : Consistent C S s) (hstep : s.pollStep C = some s') :
    Consistent C S s' := by
  have hpoller := h.poller
  unfold UsageMetrics.pollStep at hstep
  rcases hpc : s.poller with _ | ⟨i, items⟩ | ⟨i, items⟩ | ⟨i, items⟩ | ⟨items⟩ | ⟨items⟩ |
    ⟨key, value, rest, idx⟩ | ⟨key, value, rest, idx⟩ | ⟨key, value, rest, idx⟩
  all_goals
    rw [hpc] at hpoller
    simp only [hpc] at hstep
  · exact absurd hstep (by simp)
  · -- `loadHash`: a free slot is skipped
    obtain ⟨hi, hitems⟩ := hpoller
    split at hstep
    · obtain rfl := Option.some_injective _ hstep
      exact h.setPoller_collectFrom (fun k => by rw [hpc]; rfl)
        (.collectFrom (hitems.mono (Nat.le_succ i)) hi)
    · obtain rfl := Option.some_injective _ hstep
      exact h.setPoller ⟨hi, hitems⟩ fun k _ => by rw [hpc]; rfl
  · -- `loadReady`: so is a bucket that is still being filled
    obtain ⟨hi, hitems⟩ := hpoller
    split at hstep
    · obtain rfl := Option.some_injective _ hstep
      exact h.setPoller_collectFrom (fun k => by rw [hpc]; rfl)
        (.collectFrom (hitems.mono (Nat.le_succ i)) hi)
    · next hready =>
      obtain rfl := Option.some_injective _ hstep
      exact h.setPoller ⟨hi, hitems, by simpa using hready⟩ fun k _ => by rw [hpc]; rfl
  · -- `loadValue`: a value other than zero is an item
    obtain ⟨hi, hitems, hready⟩ := hpoller
    split at hstep
    · obtain rfl := Option.some_injective _ hstep
      exact h.setPoller_collectFrom (fun k => by rw [hpc]; rfl)
        (.collectFrom (hitems.mono (Nat.le_succ i)) hi)
    · obtain rfl := Option.some_injective _ hstep
      exact h.setPoller_collectFrom (fun k => by rw [hpc]; rfl)
        (.collectFrom (hitems.push h.table hi hready) hi)
  · exact absurd hstep (by simp)
  · exact absurd hstep (by simp)
  · -- `resetHash`: the scan passes slots of other keys only
    split at hstep
    · obtain rfl := Option.some_injective _ hstep
      exact h.setPoller hpoller fun k _ => by rw [hpc]; rfl
    · next hhash =>
      obtain rfl := Option.some_injective _ hstep
      obtain ⟨heq, hnext⟩ := PollerOk.resetNext hpoller fun howner _ =>
        hhash (h.table.claimed idx hpoller.2.2.lt key howner).1
      rw [heq]
      exact h.setPoller hnext fun k _ => by rw [hpc]; rfl
  · -- `resetReady`: the bucket of an item is visible, so it is not passed
    have hi : idx < C := hpoller.2.2.lt
    split at hstep
    · next hmatch =>
      obtain rfl := Option.some_injective _ hstep
      have howner : (s.buckets idx).owner = some key :=
        hmatch.2 ▸ h.table.labelled idx hi (.inl hmatch.1)
      exact h.setPoller ⟨hpoller.1, hpoller.2.1, hi, howner, hmatch.1⟩
        fun k _ => by rw [hpc]; rfl
    · next hmiss =>
      obtain rfl := Option.some_injective _ hstep
      obtain ⟨heq, hnext⟩ := PollerOk.resetNext hpoller fun howner hready => by
        have hlabels := h.table.labelled idx hi (.inl hready)
        rw [howner, Option.some_inj] at hlabels
        exact hmiss ⟨hready, hlabels.symm⟩
      rw [heq]
      exact h.setPoller hnext fun k _ => by rw [hpc]; rfl
  · obtain rfl := Option.some_injective _ hstep
    exact h.fetchSub hpc

/-- **The step lemma.** -/
theorem step (h : Consistent C S s) (hcard : S.card ≤ C) {a : MetricsAction n}
    (hkey : ∀ key, a.key = some key → key ∈ S) (hsafe : a.SafeCounter s)
    (hstep : a.step C s = some s') : Consistent C S s' := by
  rcases a with ⟨w, key⟩ | w | _ | _ | active | ok
  · simp only [MetricsAction.step, Option.ite_none_right_eq_some, Option.some.injEq] at hstep
    -- `inc`: the probe starts at the home slot, and nothing has been passed yet
    obtain ⟨-, rfl⟩ := hstep
    have hmem : key ∈ S := hkey key rfl
    have hC : 0 < C := (Finset.card_pos.mpr ⟨key, hmem⟩).trans_le hcard
    exact h.setWorker ⟨hmem, .start hC⟩ rfl
  · exact h.incStep hcard hsafe hstep
  · simp only [MetricsAction.step, Option.ite_none_right_eq_some, Option.some.injEq] at hstep
    obtain ⟨hidle, rfl⟩ := hstep
    exact h.setPoller_collectFrom (fun k => by rw [hidle]; rfl)
      (.collectFrom .nil (Nat.zero_le C))
  · exact h.pollStep hstep
  · simp only [MetricsAction.step] at hstep
    split at hstep
    · next items hpc =>
      simp only [Option.ite_none_right_eq_some] at hstep
      obtain ⟨hactive, hstep⟩ := hstep
      have hitems : ItemsOk s.buckets C items := by
        have hpoller := h.poller
        rwa [hpc] at hpoller
      split at hstep
      · obtain rfl := Option.some_injective _ hstep
        exact h.setPoller trivial fun k _ => by rw [hpc]; rfl
      · obtain rfl := Option.some_injective _ hstep
        exact h.setPoller (hitems.append_gauges hactive) fun k _ => by rw [hpc]; rfl
    · exact absurd hstep (by simp)
  · simp only [MetricsAction.step] at hstep
    split at hstep
    · next items hpc =>
      have hpoller := h.poller
      rw [hpc] at hpoller
      split at hstep
      · obtain rfl := Option.some_injective _ hstep
        -- what is acknowledged is pending from now on, until the reset takes it out
        refine ⟨h.table, h.worker, h.builder, .resetItems hpoller, fun k hk => ?_⟩
        have hbalance := h.balance k hk
        have hpending : s.poller.pending k = 0 := by
          rw [hpc]
          rfl
        dsimp only
        rw [pending_resetItems hk]
        omega
      · obtain rfl := Option.some_injective _ hstep
        exact h.setPoller trivial fun k _ => by rw [hpc]; rfl
    · exact absurd hstep (by simp)

end Consistent

open LabelledRun MetricsAction

/-- **The counters.** Let the workers use at most `MAX_BUCKETS` different keys. If no worker of
a run leaves a slot that was claimed for its own key, and no counter reaches `2 ^ 64`, then no
counter is lost, counted twice or wrapped in any state of the run. -/
theorem countersOk_of_safeCounter {n : ℕ} {l : List (MetricsAction n)}
    (hcard : (l.filterMap key).toFinset.card ≤ MAX_BUCKETS)
    (hsafe : EveryStep (step MAX_BUCKETS) SafeCounter l (.initial n)) :
    EveryState (step MAX_BUCKETS) (CountersOk MAX_BUCKETS) l (.initial n) := by
  have hkeys : EveryStep (step MAX_BUCKETS)
      (fun a _ => ∀ k, a.key = some k → k ∈ (l.filterMap key).toFinset) l (.initial n) :=
    everyStep_of_mem fun a ha _ k hk =>
      List.mem_toFinset.mpr (List.mem_filterMap.mpr ⟨a, ha, hk⟩)
  have hinv : EveryState (step MAX_BUCKETS)
      (Consistent MAX_BUCKETS (l.filterMap key).toFinset) l (.initial n) :=
    everyState_of_step (fun a s s' hok h hstep => h.step hcard hok.1 hok.2 hstep)
      (hkeys.and hsafe) (Consistent.initial n)
  exact hinv.mono fun s h => h.countersOk

/-- Two workers count IPv4 requests one after the other, and the poller uploads the sum. -/
theorem countersOk_of_safeCounter_upload :
    EveryState (step MAX_BUCKETS) (CountersOk MAX_BUCKETS)
      ([.inc 0 (.fromLabels KIND_PROCESSED 4 [])] ++ List.replicate 5 (.work 0) ++
        [.inc 1 (.fromLabels KIND_PROCESSED 4 [])] ++ List.replicate 4 (.work 1) ++
        [.push] ++ List.replicate 514 .poll ++ [.gather [], .respond true] ++
        List.replicate 3 .poll)
      (.initial 2) :=
  countersOk_of_safeCounter (by decide +kernel) (by decide +kernel)

/-- Two workers find the same free slot for the same key. The loser of the compare-exchange
makes a second bucket; after an upload the reset subtracts from the first bucket twice. -/
def twinBucketRun (w w' : Fin 2) : List (MetricsAction 2) :=
  [.inc w (.fromLabels KIND_PROCESSED 4 []), .inc w' (.fromLabels KIND_PROCESSED 4 []),
    .work w, .work w'] ++ List.replicate 4 (.work w) ++ List.replicate 6 (.work w') ++
    [.push] ++ List.replicate 516 .poll ++ [.gather [], .respond true] ++ List.replicate 5 .poll

theorem not_countersOk :
    ¬ ∀ (n : ℕ) (l : List (MetricsAction n)),
      (l.filterMap key).toFinset.card ≤ MAX_BUCKETS →
        EveryState (step MAX_BUCKETS) (CountersOk MAX_BUCKETS) l (.initial n) := by
  intro h
  have hrun : (exec (step MAX_BUCKETS) (twinBucketRun 0 1) (.initial 2)).map
      (fun s => (s.poller, (s.buckets 280).value)) =
        some (.fetchSub (.fromLabels KIND_PROCESSED 4 []) 1 [] 280, 0) := by decide +kernel
  obtain ⟨s, hexec, hs⟩ := Option.map_eq_some_iff.mp hrun
  rw [Prod.mk.injEq] at hs
  -- the second subtraction of one is about to meet the value zero
  have hwrap := ((h 2 (twinBucketRun 0 1) (by decide +kernel)).last hexec).noWrap _ _ _ _ hs.1
  rw [hs.2] at hwrap
  exact absurd hwrap (by decide)

example : (exec (step MAX_BUCKETS) (twinBucketRun 0 1 ++ [.poll]) (.initial 2)).map
    (fun s => (s.buckets 280).value) = some 18446744073709551615 := by decide +kernel

end CrowdSecBouncer
