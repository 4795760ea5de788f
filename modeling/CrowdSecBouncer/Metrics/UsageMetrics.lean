import CrowdSecBouncer.Shm.Table

/-!
# Usage metrics counters

The counters of requests processed and dropped live in a shared open-addressing table of
`MAX_BUCKETS` buckets. Workers add to it without a lock (`bucket_inc`): they probe from the
key's home slot, claim a free slot by a compare-exchange on its hash, fill it and mark it
ready, or add to the slot that holds their key. The elected poller collects the values
(`collect_items`), uploads them, and after a successful upload subtracts what it uploaded
(`reset_after_push`).

Every atomic access is one step, taken by whichever party is scheduled. The state carries two
counts that the code does not keep: the increments that have taken effect or returned without
one (`completed`) and the values that uploads have delivered (`acknowledged`).
-/

namespace CrowdSecBouncer

def MAX_BUCKETS : ℕ := 512

/-- Max `origin` label length (`lists:` + scenario). -/
def ORIGIN_MAX : ℕ := 6 + MAX_SCENARIO_LEN

/-- The kinds of metric: two counters and a gauge. -/
def KIND_PROCESSED : UInt8 := 1

@[inherit_doc KIND_PROCESSED]
def KIND_DROPPED : UInt8 := 2

@[inherit_doc KIND_PROCESSED]
def KIND_ACTIVE : UInt8 := 3

/-- How often `bucket_inc` looks again at a slot that is claimed but not ready. -/
def READY_SPINS : ℕ := 1024

/-! ### Keys and buckets -/

/-- The labels of a counter; the source's array and length of `origin` are one list. -/
structure BucketKey where
  kind : UInt8
  ipType : UInt8
  origin : List UInt8
  deriving DecidableEq, Repr

namespace BucketKey

/-- A label longer than the array is cut. No caller passes one, so that a label read back
from a bucket is the label that was stored. -/
def fromLabels (kind ipType : UInt8) (origin : List UInt8) : BucketKey :=
  { kind, ipType, origin := origin.take ORIGIN_MAX }

/-- FNV-1a over the labels, never the mark of a free slot. -/
def hash (key : BucketKey) : UInt32 :=
  avoidMarkers (key.origin.foldl fnvStep (fnvStep (fnvStep FNV_OFFSET key.kind) key.ipType))

/-- The counters that live in the table; gauges are computed for each upload. -/
def IsCounter (key : BucketKey) : Prop := key.kind ≠ KIND_ACTIVE

instance (key : BucketKey) : Decidable key.IsCounter := inferInstanceAs (Decidable (_ ≠ _))

/-- The home slot in a table of `C` buckets. -/
def home (C : ℕ) (key : BucketKey) : ℕ := key.hash.toNat % C

theorem hash_ne_zero (key : BucketKey) : key.hash ≠ 0 := by
  intro h
  have htwo : 2 ≤ key.hash := two_le_avoidMarkers _
  rw [h] at htwo
  exact absurd htwo (by decide)

end BucketKey

/-- A bucket of the table. `owner` is no field of the source: it records the key for which
the slot was claimed, which `labels` shows only once they are stored. -/
structure UsageBucket where
  keyHash : UInt32
  value : UInt64
  labels : BucketKey
  ready : Bool
  owner : Option BucketKey

namespace UsageBucket

def zeroed : UsageBucket :=
  { keyHash := 0, value := 0, labels := ⟨0, 0, []⟩, ready := false, owner := none }

/-- No worker has claimed the slot. -/
def isFree (b : UsageBucket) : Bool := b.owner.isNone

end UsageBucket

/-- One row of an upload. -/
abbrev MetricItem := BucketKey × UInt64

/-! ### Control points -/

/-- Where a worker is inside `bucket_inc`. -/
inductive IncPc where
  | idle
  | loadHash (key : BucketKey) (idx : ℕ)
  | spin (key : BucketKey) (idx spins : ℕ)
  | compare (key : BucketKey) (idx : ℕ)
  | exchange (key : BucketKey) (idx : ℕ)
  | storeLabels (key : BucketKey) (idx : ℕ)
  | storeValue (key : BucketKey) (idx : ℕ)
  | storeReady (key : BucketKey) (idx : ℕ)
  | fetchAdd (key : BucketKey) (idx : ℕ)
  deriving DecidableEq

/-- Where the poller is inside `push_to_lapi`: collecting bucket `i`, adding the gauges,
waiting for the response, or resetting the buckets of the items that are left. -/
inductive PushPc where
  | idle
  | loadHash (i : ℕ) (items : List MetricItem)
  | loadReady (i : ℕ) (items : List MetricItem)
  | loadValue (i : ℕ) (items : List MetricItem)
  | gauges (items : List MetricItem)
  | uploading (items : List MetricItem)
  | resetHash (key : BucketKey) (value : UInt64) (rest : List MetricItem) (idx : ℕ)
  | resetReady (key : BucketKey) (value : UInt64) (rest : List MetricItem) (idx : ℕ)
  | fetchSub (key : BucketKey) (value : UInt64) (rest : List MetricItem) (idx : ℕ)
  deriving DecidableEq

namespace PushPc

/-- Go on collecting at bucket `i`. -/
def collectFrom (C i : ℕ) (items : List MetricItem) : PushPc :=
  if i < C then .loadHash i items else .gauges items

/-- Go on with the next item to reset; gauges have no bucket. -/
def resetItems (C : ℕ) : List MetricItem → PushPc
  | [] => .idle
  | (key, value) :: rest =>
    if key.kind = KIND_ACTIVE then resetItems C rest
    else .resetHash key value rest (key.home C)

/-- The next slot of the scan for an item's bucket, or the next item after a whole turn. -/
def resetNext (C : ℕ) (key : BucketKey) (value : UInt64) (rest : List MetricItem) (idx : ℕ) :
    PushPc :=
  if (idx + 1) % C = key.home C then resetItems C rest
  else .resetHash key value rest ((idx + 1) % C)

end PushPc

/-- The table, the parties and the two counts. -/
structure UsageMetrics (n : ℕ) where
  buckets : ℕ → UsageBucket
  workers : Fin n → IncPc
  poller : PushPc
  completed : BucketKey → ℕ
  acknowledged : BucketKey → ℕ

/-- The values that a list of items holds for one key. -/
def itemSum (k : BucketKey) : List MetricItem → ℕ
  | [] => 0
  | (key, value) :: rest => (if key = k then value.toNat else 0) + itemSum k rest

namespace UsageMetrics

variable {n : ℕ}

def initial (n : ℕ) : UsageMetrics n where
  buckets _ := .zeroed
  workers _ := .idle
  poller := .idle
  completed _ := 0
  acknowledged _ := 0

def setBucket (s : UsageMetrics n) (i : ℕ) (b : UsageBucket) : UsageMetrics n :=
  { s with buckets := Function.update s.buckets i b }

def setWorker (s : UsageMetrics n) (w : Fin n) (pc : IncPc) : UsageMetrics n :=
  { s with workers := Function.update s.workers w pc }

def setPoller (s : UsageMetrics n) (pc : PushPc) : UsageMetrics n := { s with poller := pc }

/-- An increment of `key` has taken effect, or its call returned without one. -/
def complete (s : UsageMetrics n) (key : BucketKey) : UsageMetrics n :=
  { s with completed := Function.update s.completed key (s.completed key + 1) }

/-- The next slot of a worker's probe; after a whole turn the table is full, and the call
returns without having counted. -/
def probeNext (C : ℕ) (s : UsageMetrics n) (w : Fin n) (key : BucketKey) (idx : ℕ) :
    UsageMetrics n :=
  if (idx + 1) % C = key.home C then (s.complete key).setWorker w .idle
  else s.setWorker w (.loadHash key ((idx + 1) % C))

/-- The next atomic access of worker `w` inside `bucket_inc`; every caller passes a delta
of `1`. -/
def incStep (C : ℕ) (s : UsageMetrics n) (w : Fin n) : Option (UsageMetrics n) :=
  match s.workers w with
  | .idle => none
  | .loadHash key idx =>
    if (s.buckets idx).keyHash = key.hash then some (s.setWorker w (.spin key idx 0))
    else if (s.buckets idx).keyHash = 0 then some (s.setWorker w (.exchange key idx))
    else some (s.probeNext C w key idx)
  | .spin key idx spins =>
    if (s.buckets idx).ready = false ∧ spins < READY_SPINS then
      some (s.setWorker w (.spin key idx (spins + 1)))
    else some (s.setWorker w (.compare key idx))
  | .compare key idx =>
    if (s.buckets idx).ready ∧ (s.buckets idx).labels = key then
      some (s.setWorker w (.fetchAdd key idx))
    else some (s.probeNext C w key idx)
  | .exchange key idx =>
    if (s.buckets idx).keyHash = 0 then
      some ((s.setBucket idx
        { s.buckets idx with keyHash := key.hash, owner := some key }).setWorker w
          (.storeLabels key idx))
    -- the slot was claimed in the meantime, perhaps for this very key; it is not looked at again
    else some (s.probeNext C w key idx)
  | .storeLabels key idx =>
    some ((s.setBucket idx { s.buckets idx with labels := key }).setWorker w (.storeValue key idx))
  | .storeValue key idx =>
    some (((s.setBucket idx { s.buckets idx with value := 1 }).complete key).setWorker w
      (.storeReady key idx))
  | .storeReady _ idx =>
    some ((s.setBucket idx { s.buckets idx with ready := true }).setWorker w .idle)
  | .fetchAdd key idx =>
    some (((s.setBucket idx
      { s.buckets idx with value := (s.buckets idx).value + 1 }).complete key).setWorker w .idle)

/-- The next atomic access of the poller inside `collect_items` or `reset_after_push`. -/
def pollStep (C : ℕ) (s : UsageMetrics n) : Option (UsageMetrics n) :=
  match s.poller with
  | .loadHash i items =>
    if (s.buckets i).keyHash = 0 then some (s.setPoller (.collectFrom C (i + 1) items))
    else some (s.setPoller (.loadReady i items))
  | .loadReady i items =>
    if (s.buckets i).ready = false then some (s.setPoller (.collectFrom C (i + 1) items))
    else some (s.setPoller (.loadValue i items))
  | .loadValue i items =>
    if (s.buckets i).value = 0 then some (s.setPoller (.collectFrom C (i + 1) items))
    else some (s.setPoller (.collectFrom C (i + 1)
      (items ++ [((s.buckets i).labels, (s.buckets i).value)])))
  | .resetHash key value rest idx =>
    if (s.buckets idx).keyHash = key.hash then
      some (s.setPoller (.resetReady key value rest idx))
    else some (s.setPoller (.resetNext C key value rest idx))
  | .resetReady key value rest idx =>
    if (s.buckets idx).ready ∧ (s.buckets idx).labels = key then
      some (s.setPoller (.fetchSub key value rest idx))
    else some (s.setPoller (.resetNext C key value rest idx))
  | .fetchSub _ value rest idx =>
    -- a wrapping subtraction, as `fetch_sub` is
    some ((s.setBucket idx
      { s.buckets idx with value := (s.buckets idx).value - value }).setPoller
        (.resetItems C rest))
  | .idle | .gauges _ | .uploading _ => none

end UsageMetrics

/-! ### Runs -/

/-- A scheduled step. -/
inductive MetricsAction (n : ℕ) where
  /-- Worker `w` calls `bucket_inc` for `key`. -/
  | inc (w : Fin n) (key : BucketKey)
  /-- Worker `w` makes its next atomic access. -/
  | work (w : Fin n)
  /-- The poller starts a push. -/
  | push
  /-- The poller makes its next atomic access. -/
  | poll
  /-- The poller appends the gauges, computed from the decision cache. -/
  | gather (active : List MetricItem)
  /-- The upload ends, with a success or with a failure. -/
  | respond (ok : Bool)

namespace MetricsAction

variable {n : ℕ}

/-- The key that a call counts. -/
def key : MetricsAction n → Option BucketKey
  | .inc _ key => some key
  | _ => none

/-- One step over a table of `C` buckets. -/
def step (C : ℕ) (a : MetricsAction n) (s : UsageMetrics n) : Option (UsageMetrics n) :=
  match a with
  | .inc w key =>
    if s.workers w = .idle ∧ (key.kind = KIND_PROCESSED ∨ key.kind = KIND_DROPPED) then
      some (s.setWorker w (.loadHash key (key.home C)))
    else none
  | .work w => s.incStep C w
  | .push => if s.poller = .idle then some (s.setPoller (.collectFrom C 0 [])) else none
  | .poll => s.pollStep C
  | .gather active =>
    match s.poller with
    | .gauges items =>
      if ∀ p ∈ active, p.1.kind = KIND_ACTIVE then
        -- nothing is uploaded when every value is zero
        if (items ++ active).all (fun p => p.2 == 0) then some (s.setPoller .idle)
        else some (s.setPoller (.uploading (items ++ active)))
      else none
    | _ => none
  | .respond ok =>
    match s.poller with
    | .uploading items =>
      if ok then
        some { s with
          poller := .resetItems C items
          acknowledged := fun k => s.acknowledged k + itemSum k items }
      else some (s.setPoller .idle)
    | _ => none

end MetricsAction

end CrowdSecBouncer
