import CrowdSecBouncer.Foundations.CircularProbe
import CrowdSecBouncer.Metrics.UsageMetrics
import Mathlib.Data.Finset.Card

/-!
# The bucket table under concurrency

What the workers and the poller can rely on in the bucket table. Claims and readiness are
permanent (`Extends`). A worker at some offset of its key's probe path has seen every earlier
slot claimed for another key (`Passed`), so at a free slot it knows that its key owns no
bucket yet (`Passed.owner_ne`), and in a table with room for every key it never comes round
(`BucketsOk.not_all_others`). The poller's items are covered by ready buckets of different
keys (`ItemsOk`), and each scan for an item's bucket still has it ahead (`Ahead`).
-/

namespace CrowdSecBouncer

open CircularProbe

variable {C : ℕ} {S : Finset BucketKey} {b : ℕ → UsageBucket} {i : ℕ} {x : UsageBucket}

/-! ### The table -/

/-- Each claimed slot is filed under its owner on a probe path of claimed slots, no key owns
two slots, and a slot shows labels and a value only for its owner. -/
structure BucketsOk (C : ℕ) (S : Finset BucketKey) (b : ℕ → UsageBucket) : Prop where
  claimed : ∀ i < C, ∀ k, (b i).owner = some k → (b i).keyHash = k.hash ∧ k ∈ S
  free : ∀ i < C, (b i).owner = none →
    (b i).keyHash = 0 ∧ (b i).value = 0 ∧ (b i).ready = false
  labelled : ∀ i < C, (b i).ready = true ∨ (b i).value ≠ 0 → (b i).owner = some (b i).labels
  unique : ∀ i < C, ∀ j < C, ∀ k, (b i).owner = some k → (b j).owner = some k → i = j
  path : ∀ i < C, ∀ k, (b i).owner = some k → PathClear C UsageBucket.isFree b (k.home C) i

namespace BucketsOk

theorem owner_eq_none (h : BucketsOk C S b) (hi : i < C) (hhash : (b i).keyHash = 0) :
    (b i).owner = none := by
  rcases howner : (b i).owner with _ | k
  · rfl
  · exact absurd ((h.claimed i hi k howner).1.symm.trans hhash) k.hash_ne_zero

/-- The slots are claimed for pairwise different keys of `S`, so they cannot all be claimed
for keys other than one key of `S`. -/
theorem not_all_others (h : BucketsOk C S b) (hcard : S.card ≤ C) {key : BucketKey}
    (hkey : key ∈ S) (hall : ∀ i < C, ∃ k, k ≠ key ∧ (b i).owner = some k) : False := by
  have : Nonempty BucketKey := ⟨key⟩
  choose! owner hne howner using hall
  have hmaps : Set.MapsTo owner (Finset.range C : Set ℕ) (S.erase key : Set BucketKey) := by
    intro i hi
    have hi' : i < C := by simpa using hi
    exact Finset.mem_coe.mpr
      (Finset.mem_erase.mpr ⟨hne i hi', (h.claimed i hi' _ (howner i hi')).2⟩)
  have hinj : Set.InjOn owner (Finset.range C : Set ℕ) := by
    intro i hi j hj heq
    have hi' : i < C := by simpa using hi
    have hj' : j < C := by simpa using hj
    exact h.unique i hi' j hj' _ (howner i hi') (heq ▸ howner j hj')
  have hle : C ≤ (S.erase key).card := by
    simpa using Finset.card_le_card_of_injOn owner hmaps hinj
  have hlt := Finset.card_erase_lt_of_mem hkey
  omega

/-- A write that leaves owner and hash of a claimed slot alone and shows the owner's labels. -/
theorem write (h : BucketsOk C S b) {k : BucketKey} (howner : (b i).owner = some k)
    (hx : x.owner = some k) (hhash : x.keyHash = (b i).keyHash)
    (hlabels : x.ready = true ∨ x.value ≠ 0 → x.labels = k) :
    BucketsOk C S (Function.update b i x) := by
  have hsame (j : ℕ) : (Function.update b i x j).owner = (b j).owner := by
    rcases eq_or_ne j i with rfl | hne
    · rw [Function.update_self, hx, howner]
    · rw [Function.update_of_ne hne]
  refine ⟨fun j hj k' hk' => ?_, fun j hj hfree => ?_, fun j hj hshown => ?_,
    fun j hj j' hj' k' hk hk' => ?_, fun j hj k' hk' => ?_⟩
  · rw [hsame] at hk'
    obtain ⟨hhash', hmem⟩ := h.claimed j hj k' hk'
    refine ⟨?_, hmem⟩
    rcases eq_or_ne j i with rfl | hne
    · rw [Function.update_self, hhash, hhash']
    · rw [Function.update_of_ne hne, hhash']
  · -- a free slot is not the one written, which has an owner
    rw [hsame] at hfree
    have hne : j ≠ i := by
      rintro rfl
      rw [howner] at hfree
      exact absurd hfree (by simp)
    rw [Function.update_of_ne hne]
    exact h.free j hj hfree
  · rw [hsame]
    rcases eq_or_ne j i with rfl | hne
    · rw [Function.update_self] at hshown ⊢
      rw [howner, hlabels hshown]
    · rw [Function.update_of_ne hne] at hshown ⊢
      exact h.labelled j hj hshown
  · rw [hsame] at hk hk'
    exact h.unique j hj j' hj' k' hk hk'
  · rw [hsame] at hk'
    exact (h.path j hj k' hk').update (by simp [UsageBucket.isFree, hx])

/-- A claim of a free slot, for a key that owns none, at the end of a probe. -/
theorem claim (h : BucketsOk C S b) (hi : i < C) {k : BucketKey} (hk : k ∈ S)
    (hfree : (b i).owner = none) (hnew : ∀ j < C, (b j).owner ≠ some k)
    (hpath : PathClear C UsageBucket.isFree
      (Function.update b i { b i with keyHash := k.hash, owner := some k }) (k.home C) i) :
    BucketsOk C S (Function.update b i { b i with keyHash := k.hash, owner := some k }) := by
  obtain ⟨-, hvalue, hready⟩ := h.free i hi hfree
  refine ⟨fun j hj k' hk' => ?_, fun j hj hnone => ?_, fun j hj hshown => ?_,
    fun j hj j' hj' k' hj₁ hj₂ => ?_, fun j hj k' hk' => ?_⟩
  · rcases eq_or_ne j i with rfl | hne
    · rw [Function.update_self] at hk' ⊢
      obtain rfl := Option.some_injective _ hk'
      exact ⟨rfl, hk⟩
    · rw [Function.update_of_ne hne] at hk' ⊢
      exact h.claimed j hj k' hk'
  · rcases eq_or_ne j i with rfl | hne
    · rw [Function.update_self] at hnone
      exact absurd hnone (by simp)
    · rw [Function.update_of_ne hne] at hnone ⊢
      exact h.free j hj hnone
  · rcases eq_or_ne j i with rfl | hne
    · rw [Function.update_self] at hshown
      exact absurd hshown (by simp [hvalue, hready])
    · rw [Function.update_of_ne hne] at hshown ⊢
      exact h.labelled j hj hshown
  · rcases eq_or_ne j i with rfl | hne
    · rcases eq_or_ne j' j with rfl | hne'
      · rfl
      · rw [Function.update_self] at hj₁
        rw [Function.update_of_ne hne', ← hj₁] at hj₂
        exact absurd hj₂ (hnew j' hj')
    · rw [Function.update_of_ne hne] at hj₁
      rcases eq_or_ne j' i with rfl | hne'
      · rw [Function.update_self] at hj₂
        rw [← hj₂] at hj₁
        exact absurd hj₁ (hnew j hj)
      · rw [Function.update_of_ne hne'] at hj₂
        exact h.unique j hj j' hj' k' hj₁ hj₂
  · rcases eq_or_ne j i with rfl | hne
    · rw [Function.update_self] at hk'
      obtain rfl := Option.some_injective _ hk'
      exact hpath
    · rw [Function.update_of_ne hne] at hk'
      exact (h.path j hj k' hk').update rfl

end BucketsOk

/-- Claims and readiness are permanent. -/
def Extends (b b' : ℕ → UsageBucket) : Prop :=
  ∀ i, (∀ k, (b i).owner = some k → (b' i).owner = some k) ∧
    ((b i).ready = true → (b' i).ready = true)

theorem extends_update (howner : ∀ k, (b i).owner = some k → x.owner = some k)
    (hready : (b i).ready = true → x.ready = true) : Extends b (Function.update b i x) := by
  intro j
  rcases eq_or_ne j i with rfl | hne
  · rw [Function.update_self]
    exact ⟨howner, hready⟩
  · rw [Function.update_of_ne hne]
    exact ⟨fun _ => id, id⟩

/-! ### The workers -/

/-- A probe for `key` has come to slot `idx`: the earlier slots on the way belong to others. -/
def Passed (C : ℕ) (b : ℕ → UsageBucket) (key : BucketKey) (idx : ℕ) : Prop :=
  ∃ d < C, (key.home C + d) % C = idx ∧
    ∀ e < d, ∃ k, k ≠ key ∧ (b ((key.home C + e) % C)).owner = some k

namespace Passed

variable {key : BucketKey} {idx : ℕ} {b' : ℕ → UsageBucket}

theorem lt (h : Passed C b key idx) : idx < C := by
  obtain ⟨d, hd, rfl, -⟩ := h
  exact Nat.mod_lt _ (by omega)

theorem mono (h : Passed C b key idx) (hext : Extends b b') : Passed C b' key idx := by
  obtain ⟨d, hd, hidx, hbefore⟩ := h
  refine ⟨d, hd, hidx, fun e he => ?_⟩
  obtain ⟨k, hne, hk⟩ := hbefore e he
  exact ⟨k, hne, (hext _).1 k hk⟩

/-- A probe starts at the home slot. -/
theorem start (hC : 0 < C) : Passed C b key (key.home C) :=
  ⟨0, hC, Nat.mod_eq_of_lt (Nat.mod_lt _ hC), fun _ he => absurd he (Nat.not_lt_zero _)⟩

/-- Past a slot of another key the probe goes on, unless it has seen the whole table. -/
theorem next (h : Passed C b key idx) {k : BucketKey} (hne : k ≠ key)
    (hk : (b idx).owner = some k) :
    (idx + 1) % C ≠ key.home C ∧ Passed C b key ((idx + 1) % C) ∨
      ∀ i < C, ∃ k, k ≠ key ∧ (b i).owner = some k := by
  obtain ⟨d, hd, rfl, hbefore⟩ := h
  have hhome : key.home C < C := Nat.mod_lt _ (by omega)
  have hseen : ∀ e < d + 1, ∃ k, k ≠ key ∧ (b ((key.home C + e) % C)).owner = some k := by
    intro e he
    rcases Nat.lt_succ_iff_lt_or_eq.mp he with hlt | rfl
    · exact hbefore e hlt
    · exact ⟨k, hne, hk⟩
  rw [Nat.mod_add_mod, Nat.add_assoc]
  rcases Nat.lt_or_ge (d + 1) C with hlt | hge
  · refine .inl ⟨?_, d + 1, hlt, rfl, hseen⟩
    rw [Ne, add_mod_eq_self_iff hhome (Nat.succ_pos d) hlt.le]
    omega
  · refine .inr fun i hi => ?_
    obtain ⟨e, he, rfl⟩ := exists_offset hhome hi
    exact hseen e (by omega)

/-- A free slot at the end of a probe: the key owns no slot. -/
theorem owner_ne (h : Passed C b key idx) (ht : BucketsOk C S b) (hfree : (b idx).owner = none) :
    ∀ j < C, (b j).owner ≠ some key := by
  intro j hj howner
  obtain ⟨d, hd, rfl, hbefore⟩ := h
  -- the owned slot lies on a path of claimed slots, so before the free one
  obtain ⟨e, he, rfl, hclear⟩ := ht.path j hj key howner
  rcases Nat.lt_or_ge e d with hlt | hge
  · obtain ⟨k, hne, hk⟩ := hbefore e hlt
    exact hne (Option.some_injective _ (hk.symm.trans howner))
  · have hclaimed := hclear d hge
    rw [UsageBucket.isFree, hfree] at hclaimed
    exact absurd hclaimed (by simp)

/-- The claim of a free slot at the end of a probe puts it on a path of claimed slots. -/
theorem pathClear (h : Passed C b key idx) (hx : x.owner = some key) :
    PathClear C UsageBucket.isFree (Function.update b idx x) (key.home C) idx := by
  obtain ⟨d, hd, rfl, hbefore⟩ := h
  refine pathClear_of_scan (by simp [UsageBucket.isFree, hx]) hd fun e he => ?_
  obtain ⟨k, -, hk⟩ := hbefore e he
  simp [UsageBucket.isFree, hk]

end Passed

/-- The slot that a worker has claimed and not yet marked ready. -/
def IncPc.building : IncPc → Option ℕ
  | .storeLabels _ idx | .storeValue _ idx | .storeReady _ idx => some idx
  | _ => none

/-- What a worker knows at each point of `bucket_inc`. -/
def WorkerOk (C : ℕ) (S : Finset BucketKey) (b : ℕ → UsageBucket) : IncPc → Prop
  | .idle => True
  | .loadHash key idx | .exchange key idx => key ∈ S ∧ Passed C b key idx
  | .spin key idx _ | .compare key idx =>
    key ∈ S ∧ Passed C b key idx ∧ ∃ k, (b idx).owner = some k
  | .storeLabels key idx =>
    idx < C ∧ (b idx).owner = some key ∧ (b idx).ready = false ∧ (b idx).value = 0
  | .storeValue key idx =>
    idx < C ∧ (b idx).owner = some key ∧ (b idx).ready = false ∧ (b idx).value = 0 ∧
      (b idx).labels = key
  | .storeReady key idx =>
    idx < C ∧ (b idx).owner = some key ∧ (b idx).ready = false ∧ (b idx).labels = key
  | .fetchAdd key idx => idx < C ∧ (b idx).owner = some key ∧ (b idx).ready = true

/-- A slot that a worker fills is claimed and not ready. -/
theorem WorkerOk.of_building {pc : IncPc} (h : WorkerOk C S b pc) (hpc : pc.building = some i) :
    (∃ k, (b i).owner = some k) ∧ (b i).ready = false := by
  rcases pc with _ | ⟨key, idx⟩ | ⟨key, idx, _⟩ | ⟨key, idx⟩ | ⟨key, idx⟩ | ⟨key, idx⟩ |
    ⟨key, idx⟩ | ⟨key, idx⟩ | ⟨key, idx⟩
  all_goals simp only [IncPc.building, Option.some.injEq, reduceCtorEq] at hpc
  all_goals
    obtain rfl := hpc
    exact ⟨⟨key, h.2.1⟩, h.2.2.1⟩

/-- Nobody else's step takes away what a worker knows. -/
theorem WorkerOk.mono {pc : IncPc} {b' : ℕ → UsageBucket} (h : WorkerOk C S b pc)
    (hext : Extends b b') (hbuilding : ∀ i, pc.building = some i → b' i = b i) :
    WorkerOk C S b' pc := by
  rcases pc with _ | ⟨key, idx⟩ | ⟨key, idx, _⟩ | ⟨key, idx⟩ | ⟨key, idx⟩ | ⟨key, idx⟩ |
    ⟨key, idx⟩ | ⟨key, idx⟩ | ⟨key, idx⟩
  · trivial
  · exact ⟨h.1, h.2.mono hext⟩
  · obtain ⟨hkey, hpassed, k, hk⟩ := h
    exact ⟨hkey, hpassed.mono hext, k, (hext idx).1 k hk⟩
  · obtain ⟨hkey, hpassed, k, hk⟩ := h
    exact ⟨hkey, hpassed.mono hext, k, (hext idx).1 k hk⟩
  · exact ⟨h.1, h.2.mono hext⟩
  · simpa only [WorkerOk, hbuilding idx rfl] using h
  · simpa only [WorkerOk, hbuilding idx rfl] using h
  · simpa only [WorkerOk, hbuilding idx rfl] using h
  · exact ⟨h.1, (hext idx).1 key h.2.1, (hext idx).2 h.2.2⟩

/-! ### The poller -/

/-- The counters among collected items belong to different keys, and for each of them the
key's bucket, one of the first `bound`, still holds at least the item's value. -/
structure ItemsOk (b : ℕ → UsageBucket) (bound : ℕ) (items : List MetricItem) : Prop where
  distinct : items.Pairwise fun p q => p.1.IsCounter → p.1 ≠ q.1
  held : ∀ p ∈ items, p.1.IsCounter →
    ∃ j < bound, (b j).owner = some p.1 ∧ (b j).ready = true ∧ p.2 ≤ (b j).value

namespace ItemsOk

variable {items : List MetricItem} {bound : ℕ} {b' : ℕ → UsageBucket}

theorem nil : ItemsOk b bound [] := ⟨.nil, fun _ hp => absurd hp List.not_mem_nil⟩

theorem tail {p : MetricItem} (h : ItemsOk b bound (p :: items)) : ItemsOk b bound items :=
  ⟨h.distinct.tail, fun q hq => h.held q (List.mem_cons_of_mem p hq)⟩

theorem mono (h : ItemsOk b bound items) {bound' : ℕ} (hle : bound ≤ bound') :
    ItemsOk b bound' items :=
  ⟨h.distinct, fun p hp hcounter => by
    obtain ⟨j, hj, hrest⟩ := h.held p hp hcounter
    exact ⟨j, hj.trans_le hle, hrest⟩⟩

/-- Items stay covered while claims are permanent and ready buckets only grow. -/
theorem grow (h : ItemsOk b bound items) (hext : Extends b b')
    (hvalue : ∀ i, (b i).ready = true → (b i).value ≤ (b' i).value) : ItemsOk b' bound items :=
  ⟨h.distinct, fun p hp hcounter => by
    obtain ⟨j, hj, howner, hready, hle⟩ := h.held p hp hcounter
    exact ⟨j, hj, (hext j).1 _ howner, (hext j).2 hready, UInt64.le_trans hle (hvalue j hready)⟩⟩

/-- The item of the next ready bucket has a key of its own. -/
theorem push (h : ItemsOk b i items) (ht : BucketsOk C S b) (hi : i < C)
    (hready : (b i).ready = true) :
    ItemsOk b (i + 1) (items ++ [((b i).labels, (b i).value)]) := by
  have howner : (b i).owner = some (b i).labels := ht.labelled i hi (.inl hready)
  constructor
  · refine List.pairwise_append.mpr ⟨h.distinct, List.pairwise_singleton _ _, ?_⟩
    intro p hp q hq hcounter heq
    obtain rfl := List.mem_singleton.mp hq
    obtain ⟨j, hj, hjowner, -⟩ := h.held p hp hcounter
    rw [heq] at hjowner
    have hji : j = i := ht.unique j (by omega) i hi _ hjowner howner
    omega
  · intro p hp hcounter
    rcases List.mem_append.mp hp with hp | hp
    · exact (h.mono (Nat.le_succ i)).held p hp hcounter
    · obtain rfl := List.mem_singleton.mp hp
      exact ⟨i, Nat.lt_succ_self i, howner, hready, UInt64.le_refl _⟩

/-- Gauges do not matter. -/
theorem append_gauges (h : ItemsOk b bound items) {active : List MetricItem}
    (hactive : ∀ p ∈ active, p.1.kind = KIND_ACTIVE) : ItemsOk b bound (items ++ active) := by
  have hgauge (p : MetricItem) (hp : p ∈ active) : ¬ p.1.IsCounter := fun h => h (hactive p hp)
  constructor
  · refine List.pairwise_append.mpr ⟨h.distinct, ?_, ?_⟩
    · exact List.pairwise_of_forall_mem_list fun p hp q _ hcounter =>
        absurd hcounter (hgauge p hp)
    · intro p _ q hq hcounter heq
      exact absurd (heq ▸ hcounter) (hgauge q hq)
  · intro p hp hcounter
    rcases List.mem_append.mp hp with hp | hp
    · exact h.held p hp hcounter
    · exact absurd hcounter (hgauge p hp)

end ItemsOk

/-- The scan for the bucket of `key` has come to slot `idx` and not yet past the bucket. -/
def Ahead (C : ℕ) (b : ℕ → UsageBucket) (key : BucketKey) (idx : ℕ) : Prop :=
  ∃ d e, d ≤ e ∧ e < C ∧ (key.home C + d) % C = idx ∧
    (b ((key.home C + e) % C)).owner = some key ∧ (b ((key.home C + e) % C)).ready = true

theorem Ahead.lt {key : BucketKey} {idx : ℕ} (h : Ahead C b key idx) : idx < C := by
  obtain ⟨d, e, -, he, rfl, -⟩ := h
  exact Nat.mod_lt _ (by omega)

/-- What the poller knows at each point of a push. -/
def PollerOk (C : ℕ) (b : ℕ → UsageBucket) : PushPc → Prop
  | .idle => True
  | .loadHash i items | .loadReady i items => i < C ∧ ItemsOk b i items
  | .loadValue i items => i < C ∧ ItemsOk b i items ∧ (b i).ready = true
  | .gauges items | .uploading items => ItemsOk b C items
  | .resetHash key value rest idx | .resetReady key value rest idx =>
    ItemsOk b C ((key, value) :: rest) ∧ key.IsCounter ∧ Ahead C b key idx
  | .fetchSub key value rest idx =>
    ItemsOk b C ((key, value) :: rest) ∧ key.IsCounter ∧ idx < C ∧
      (b idx).owner = some key ∧ (b idx).ready = true

namespace PollerOk

variable {pc : PushPc} {items : List MetricItem} {b' : ℕ → UsageBucket}

/-- Workers do not take away what the poller knows. -/
theorem grow (h : PollerOk C b pc) (hext : Extends b b')
    (hvalue : ∀ i, (b i).ready = true → (b i).value ≤ (b' i).value) : PollerOk C b' pc := by
  have hahead {key : BucketKey} {idx : ℕ} (h : Ahead C b key idx) : Ahead C b' key idx := by
    obtain ⟨d, e, hde, he, hidx, howner, hready⟩ := h
    exact ⟨d, e, hde, he, hidx, (hext _).1 key howner, (hext _).2 hready⟩
  rcases pc with _ | ⟨i, items⟩ | ⟨i, items⟩ | ⟨i, items⟩ | ⟨items⟩ | ⟨items⟩ |
    ⟨key, value, rest, idx⟩ | ⟨key, value, rest, idx⟩ | ⟨key, value, rest, idx⟩
  · trivial
  · exact ⟨h.1, h.2.grow hext hvalue⟩
  · exact ⟨h.1, h.2.grow hext hvalue⟩
  · exact ⟨h.1, h.2.1.grow hext hvalue, (hext i).2 h.2.2⟩
  · exact ItemsOk.grow h hext hvalue
  · exact ItemsOk.grow h hext hvalue
  · exact ⟨h.1.grow hext hvalue, h.2.1, hahead h.2.2⟩
  · exact ⟨h.1.grow hext hvalue, h.2.1, hahead h.2.2⟩
  · obtain ⟨hitems, hcounter, hidx, howner, hready⟩ := h
    exact ⟨hitems.grow hext hvalue, hcounter, hidx, (hext idx).1 key howner, (hext idx).2 hready⟩

theorem collectFrom (h : ItemsOk b i items) (hi : i ≤ C) :
    PollerOk C b (.collectFrom C i items) := by
  rw [PushPc.collectFrom]
  split_ifs with hlt
  · exact ⟨hlt, h⟩
  · exact h.mono hi

theorem resetItems (h : ItemsOk b C items) : PollerOk C b (.resetItems C items) := by
  induction items with
  | nil => trivial
  | cons p rest ih =>
    obtain ⟨key, value⟩ := p
    rw [PushPc.resetItems]
    split_ifs with hkind
    · exact ih h.tail
    · obtain ⟨j, hj, howner, hready, -⟩ := h.held (key, value) List.mem_cons_self hkind
      have hhome : key.home C < C := Nat.mod_lt _ (by omega)
      obtain ⟨e, he, rfl⟩ := exists_offset hhome hj
      exact ⟨h, hkind, 0, e, Nat.zero_le e, he, Nat.mod_eq_of_lt hhome, howner, hready⟩

/-- The scan goes on past a slot that is not the key's bucket. -/
theorem resetNext {key : BucketKey} {value : UInt64} {rest : List MetricItem} {idx : ℕ}
    (h : PollerOk C b (.resetHash key value rest idx))
    (hmiss : (b idx).owner = some key → (b idx).ready = true → False) :
    PushPc.resetNext C key value rest idx = .resetHash key value rest ((idx + 1) % C) ∧
      PollerOk C b (.resetHash key value rest ((idx + 1) % C)) := by
  obtain ⟨hitems, hcounter, d, e, hde, he, rfl, howner, hready⟩ := h
  have hlt : d < e := by
    rcases hde.eq_or_lt with rfl | hlt
    · exact absurd hready (hmiss howner)
    · exact hlt
  rw [PushPc.resetNext]
  rw [Nat.mod_add_mod, Nat.add_assoc]
  have hhome : key.home C < C := Nat.mod_lt _ (by omega)
  refine ⟨if_neg fun heq => ?_, hitems, hcounter, d + 1, e, hlt, he, rfl, howner, hready⟩
  have hturn := (add_mod_eq_self_iff hhome (Nat.succ_pos d) (by omega)).mp heq
  omega

end PollerOk

end CrowdSecBouncer
