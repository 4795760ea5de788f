import CrowdSecBouncer.Foundations.Exposition
import CrowdSecBouncer.Metrics.Gauges

/-!
# The metrics page

Workers count what they do in a zone of their own, with atomic additions; a scrape reads the table
and these counters one after the other, while the other workers go on. What the page shows for a
counter is how often it had been counted when it was read, modulo the width of the counter, and a
scraper gets these numbers (`readPage_metricsPage`). The evictions are counted in the table, one for
each call that gives up an entry (`TableOk.evictionCount_run`).
-/

namespace CrowdSecBouncer

open Exposition

/-! ### The counters -/

/-- Counters in shared memory. -/
structure MetricsShm where
  httpLookups : UInt64 := 0
  httpBans : UInt64 := 0
  httpCaptcha : UInt64 := 0
  httpBypass : UInt64 := 0
  lapiPollOk : UInt64 := 0
  lapiPollErr : UInt64 := 0
  lapiLastSuccessUnixSecs : UInt64 := 0
  appsecRequests : UInt64 := 0
  appsecBlocks : UInt64 := 0
  appsecErrors : UInt64 := 0
  deriving DecidableEq, Repr

/-- What is counted: the functions `metrics_inc_*`. -/
inductive MetricsEvent
  | httpLookup
  | httpBan
  | httpCaptcha
  | httpBypass
  | lapiPollOk (now : UInt64)
  | lapiPollErr
  | appsecRequest
  | appsecBlock
  | appsecError
  deriving DecidableEq, Repr

/-- `fetch_add`, which wraps around. -/
def MetricsEvent.apply (m : MetricsShm) : MetricsEvent → MetricsShm
  | .httpLookup => { m with httpLookups := m.httpLookups + 1 }
  | .httpBan => { m with httpBans := m.httpBans + 1 }
  | .httpCaptcha => { m with httpCaptcha := m.httpCaptcha + 1 }
  | .httpBypass => { m with httpBypass := m.httpBypass + 1 }
  | .lapiPollOk now =>
    { m with lapiPollOk := m.lapiPollOk + 1, lapiLastSuccessUnixSecs := now }
  | .lapiPollErr => { m with lapiPollErr := m.lapiPollErr + 1 }
  | .appsecRequest => { m with appsecRequests := m.appsecRequests + 1 }
  | .appsecBlock => { m with appsecBlocks := m.appsecBlocks + 1 }
  | .appsecError => { m with appsecErrors := m.appsecErrors + 1 }

/-- The time of a successful poll. -/
def MetricsEvent.pollTime? : MetricsEvent → Option UInt64
  | .lapiPollOk now => some now
  | _ => none

/-- The two zones; a zone that could not be set up is not there. -/
structure SharedZones where
  decisions : Option ShmData
  metrics : Option MetricsShm

/-- What workers do to the zones. -/
inductive ZoneEvent
  | table (op : TableOp)
  | metrics (event : MetricsEvent)
  deriving DecidableEq, Repr

def ZoneEvent.apply (zones : SharedZones) : ZoneEvent → SharedZones
  | .table op => { zones with decisions := zones.decisions.map fun s => op.apply s }
  | .metrics event => { zones with metrics := zones.metrics.map fun m => event.apply m }

def ZoneEvent.op? : ZoneEvent → Option TableOp
  | .table op => some op
  | .metrics _ => none

def ZoneEvent.event? : ZoneEvent → Option MetricsEvent
  | .table _ => none
  | .metrics event => some event

def SharedZones.run (zones : SharedZones) (events : List ZoneEvent) : SharedZones :=
  events.foldl ZoneEvent.apply zones

/-! ### The page -/

/-- Snapshot for Prometheus exposition. -/
structure MetricsSnapshot where
  httpLookups : UInt64
  httpBans : UInt64
  httpCaptcha : UInt64
  httpBypass : UInt64
  lapiPollOk : UInt64
  lapiPollErr : UInt64
  lapiLastOkUnix : UInt64
  cacheEntries : ℕ
  cacheEvictions : UInt32
  appsecRequests : UInt64
  appsecBlocks : UInt64
  appsecErrors : UInt64
  deriving DecidableEq, Repr

/-- The reads of one snapshot in their order: `zones i` are the zones at the `i`-th. -/
def metricsPrometheusSnapshot (zones : ℕ → SharedZones) (now : ℤ) : MetricsSnapshot :=
  let counter (i : ℕ) (f : MetricsShm → UInt64) : UInt64 := ((zones i).metrics.map f).getD 0
  { cacheEntries := ((zones 0).decisions.map (getActiveCount · now)).getD 0
    cacheEvictions := ((zones 1).decisions.map ShmData.evictionCount).getD 0
    httpLookups := counter 2 MetricsShm.httpLookups
    httpBans := counter 3 MetricsShm.httpBans
    httpCaptcha := counter 4 MetricsShm.httpCaptcha
    httpBypass := counter 5 MetricsShm.httpBypass
    lapiPollOk := counter 6 MetricsShm.lapiPollOk
    lapiPollErr := counter 7 MetricsShm.lapiPollErr
    lapiLastOkUnix := counter 8 MetricsShm.lapiLastSuccessUnixSecs
    appsecRequests := counter 9 MetricsShm.appsecRequests
    appsecBlocks := counter 10 MetricsShm.appsecBlocks
    appsecErrors := counter 11 MetricsShm.appsecErrors }

def MetricsSnapshot.metrics (m : MetricsSnapshot) : List Metric := [
  ⟨"crowdsec_http_remediation_lookups_total".toList,
    "Requests evaluated against the CrowdSec decision cache (crowdsec on).".toList,
    .counter, m.httpLookups.toNat⟩,
  ⟨"crowdsec_http_ban_remediations_total".toList,
    "Ban remediations applied (403, template body, or redirect).".toList,
    .counter, m.httpBans.toNat⟩,
  ⟨"crowdsec_http_captcha_challenges_total".toList, "Captcha challenge pages sent.".toList,
    .counter, m.httpCaptcha.toNat⟩,
  ⟨"crowdsec_http_bypass_total".toList,
    "Requests skipped by crowdsec_bypass (resolved client IP in listed CIDRs).".toList,
    .counter, m.httpBypass.toNat⟩,
  ⟨"crowdsec_lapi_stream_polls_success_total".toList, "Successful LAPI stream polls.".toList,
    .counter, m.lapiPollOk.toNat⟩,
  ⟨"crowdsec_lapi_stream_polls_error_total".toList, "Failed LAPI stream poll attempts.".toList,
    .counter, m.lapiPollErr.toNat⟩,
  ⟨"crowdsec_lapi_stream_last_success_unixtime".toList,
    "Unix time in seconds of the last successful LAPI stream poll (0 if none yet).".toList,
    .gauge, m.lapiLastOkUnix.toNat⟩,
  ⟨"crowdsec_decision_cache_entries".toList,
    "Non-expired IP/CIDR rows in the decision shared-memory cache.".toList,
    .gauge, m.cacheEntries⟩,
  ⟨"crowdsec_decision_cache_evictions_total".toList,
    "Clock-hand evictions from the decision cache.".toList,
    .counter, m.cacheEvictions.toNat⟩,
  ⟨"crowdsec_appsec_requests_total".toList,
    "Requests forwarded to the AppSec component.".toList,
    .counter, m.appsecRequests.toNat⟩,
  ⟨"crowdsec_appsec_blocks_total".toList,
    "AppSec bans applied (matched rule or fail-closed deny), including the ban template.".toList,
    .counter, m.appsecBlocks.toNat⟩,
  ⟨"crowdsec_appsec_errors_total".toList,
    "AppSec inspect failures (timeout, HTTP error, unreadable/too-large body).".toList,
    .counter, m.appsecErrors.toNat⟩]

/-- The text of `try_serve_metrics`. -/
def metricsPage (m : MetricsSnapshot) : List Char := writePage m.metrics

/-! ### Evictions -/

section Evictions

variable {s : ShmData} {k : Key} {e : ShmHashEntry}

/-- How many calls of a run give up an entry. -/
def evictions : List TableOp → ShmData → ℕ
  | [], _ => 0
  | op :: ops, s => (if op.reachesEvictClock s then 1 else 0) + evictions ops (op.apply s)

theorem evictionCount_insertEntry_of_vacant {clock : CallClock}
    (h : insertReachesEvictClock s e.hash = false) :
    (insertEntry s e clock).evictionCount = s.evictionCount := by
  rw [insertReachesEvictClock, Option.isNone_eq_false_iff] at h
  obtain ⟨slot, hslot⟩ := Option.isSome_iff_exists.mp h
  rw [insertEntry, hslot]
  rfl

@[simp] theorem markPrefixPresent_evictionCount (s : ShmData) (pre : UInt8) :
    (markPrefixPresent s pre).evictionCount = s.evictionCount := by
  rw [markPrefixPresent]
  split <;> rfl

theorem evictionCount_removeFromSlot (s : ShmData) (slot : ℕ × Bool) (dt : DecisionType)
    (now : ℤ) : (removeFromSlot s slot dt now).evictionCount = s.evictionCount := by
  rw [removeFromSlot]
  split
  · dsimp only
    split <;> rfl
  · rfl

namespace TableOk

theorem evictionCount_upsertEntry (h : TableOk s) (hk : k.Normal) (dt : DecisionType)
    (origin : Origin) (scenarioId : UInt16) (expires : ℤ) (clock : CallClock) :
    (CrowdSecBouncer.upsertEntry s (findKey s.entries s.capacity k) dt origin scenarioId expires e
        clock).evictionCount =
      s.evictionCount + if upsertReachesEvictClock s (findKey s.entries s.capacity k) e.hash
        clock.now then 1 else 0 := by
  cases hreaches : upsertReachesEvictClock s (findKey s.entries s.capacity k) e.hash clock.now with
  | true =>
    obtain ⟨hfound, hinsert⟩ := h.findKey_eq_false_of_reachesEvictClock hk hreaches
    obtain ⟨-, i, -, -, hplace⟩ := h.insertEntry_evicting clock hinsert
    rw [CrowdSecBouncer.upsertEntry, hfound, if_neg Bool.false_ne_true, hplace]
    rfl
  | false =>
    rw [if_neg Bool.false_ne_true, UInt32.add_zero]
    rw [upsertReachesEvictClock] at hreaches
    rw [CrowdSecBouncer.upsertEntry]
    split
    · next hfound =>
      rw [if_pos hfound] at hreaches
      dsimp only at hreaches ⊢
      split
      · rfl
      · next hnone =>
        rw [if_neg hnone] at hreaches
        exact evictionCount_insertEntry_of_vacant hreaches
    · next hfound =>
      rw [if_neg hfound] at hreaches
      exact evictionCount_insertEntry_of_vacant hreaches

/-- One call counts its eviction. -/
theorem evictionCount_apply (h : TableOk s) (op : TableOp) :
    (op.apply s).evictionCount = s.evictionCount + if op.reachesEvictClock s then 1 else 0 := by
  have hkept : s.evictionCount = s.evictionCount + if false then 1 else 0 := by simp
  cases op with
  | addDecision info clock =>
    have hok : TableOk { s with scenarios := (scenarioIdOf s.scenarios info.scenario).2 } :=
      h.of_eq rfl rfl rfl rfl rfl
    exact hok.evictionCount_upsertEntry (k := .ip info.ip) trivial ..
  | addCidrDecision info clock =>
    rw [TableOp.apply, CrowdSecBouncer.addCidrDecision, TableOp.reachesEvictClock]
    cases hparams : cidrParamsValid info.family info.prefixLen info.network with
    | false => exact hkept
    | true =>
      have hok : TableOk { CrowdSecBouncer.markPrefixPresent s info.prefixLen with
          scenarios := (scenarioIdOf s.scenarios info.scenario).2 } :=
        (h.markPrefixPresent info.prefixLen).of_eq rfl rfl rfl rfl rfl
      have hcount := hok.evictionCount_upsertEntry
        (e := newCidrEntry info.family info.prefixLen info.network info.decisionType info.origin
          (scenarioIdOf s.scenarios info.scenario).1 (expiresOf info.durationSecs clock))
        (Key.normal_ofCidr info.family info.prefixLen info.network) info.decisionType info.origin
        (scenarioIdOf s.scenarios info.scenario).1 (expiresOf info.durationSecs clock) clock
      simp only [if_true, Bool.true_and, findSlotCidr_eq_findKey, markPrefixPresent_scenarios]
      exact hcount.trans (congrArg₂ (fun n (evicts : Bool) => n + if evicts then 1 else 0)
        (markPrefixPresent_evictionCount s _)
        (upsertReachesEvictClock_congr (markPrefixPresent_entries s _)
          (markPrefixPresent_capacity s _) ..))
  | removeDecisionType ip dt now => exact (evictionCount_removeFromSlot ..).trans hkept
  | removeCidrDecisionType family prefixLen network dt now =>
    exact (evictionCount_removeFromSlot ..).trans hkept
  | clearAll => exact hkept

/-- **The evictions are counted**, modulo the width of their counter. -/
theorem evictionCount_run (h : TableOk s) (ops : List TableOp) :
    (TableOp.run s ops).evictionCount = s.evictionCount + UInt32.ofNat (evictions ops s) := by
  induction ops generalizing s with
  | nil => exact (UInt32.add_zero _).symm
  | cons op ops ih =>
    have hone : (if op.reachesEvictClock s then 1 else 0 : UInt32) =
        UInt32.ofNat (if op.reachesEvictClock s then 1 else 0) := by
      split <;> rfl
    calc (TableOp.run (op.apply s) ops).evictionCount
        = (op.apply s).evictionCount + UInt32.ofNat (evictions ops (op.apply s)) := ih (h.apply op)
      _ = s.evictionCount + UInt32.ofNat (evictions (op :: ops) s) := by
          rw [h.evictionCount_apply, hone, UInt32.add_assoc, ← UInt32.ofNat_add, evictions]

end TableOk

end Evictions

/-! ### What the page shows -/

section Counts

variable {m : MetricsShm} {events : List MetricsEvent}

/-- A counter shows how often it was counted. -/
theorem MetricsEvent.counter_run {f : MetricsShm → UInt64} {counts : MetricsEvent → Bool}
    (hf : ∀ e m, f (e.apply m) = f m + if counts e then 1 else 0) (events : List MetricsEvent)
    (m : MetricsShm) :
    f (events.foldl MetricsEvent.apply m) = f m + UInt64.ofNat (events.countP counts) := by
  induction events generalizing m with
  | nil => exact (UInt64.add_zero _).symm
  | cons e events ih =>
    have hone : (if counts e then 1 else 0 : UInt64) =
        UInt64.ofNat (if counts e then 1 else 0) := by
      split <;> rfl
    rw [List.foldl_cons, ih, hf, hone, UInt64.add_assoc, ← UInt64.ofNat_add, List.countP_cons,
      Nat.add_comm]

/-- The time of the last successful poll. -/
theorem MetricsEvent.lastSuccess_run (events : List MetricsEvent) (m : MetricsShm) :
    (events.foldl MetricsEvent.apply m).lapiLastSuccessUnixSecs =
      (events.reverse.findSome? pollTime?).getD m.lapiLastSuccessUnixSecs := by
  induction events using List.reverseRecOn with
  | nil => rfl
  | append_singleton events e ih =>
    rw [List.foldl_append, List.reverse_append, List.reverse_singleton, List.singleton_append,
      List.findSome?_cons]
    cases e with
    | lapiPollOk now => rfl
    | httpLookup => exact ih
    | httpBan => exact ih
    | httpCaptcha => exact ih
    | httpBypass => exact ih
    | lapiPollErr => exact ih
    | appsecRequest => exact ih
    | appsecBlock => exact ih
    | appsecError => exact ih

end Counts

/-- Each zone sees its own events only. -/
theorem SharedZones.run_eq (zones : SharedZones) (events : List ZoneEvent) :
    zones.run events =
      { decisions := zones.decisions.map fun s => TableOp.run s (events.filterMap ZoneEvent.op?)
        metrics := zones.metrics.map fun m =>
          (events.filterMap ZoneEvent.event?).foldl MetricsEvent.apply m } := by
  induction events generalizing zones with
  | nil => simp [SharedZones.run, TableOp.run]
  | cons e events ih =>
    have hcons : zones.run (e :: events) = (e.apply zones).run events := rfl
    rw [hcons, ih]
    cases e with
    | table op =>
      simp only [ZoneEvent.apply, Option.map_map]
      rfl
    | metrics event =>
      simp only [ZoneEvent.apply, Option.map_map]
      rfl

/-- Names and help texts stay in their lines. -/
theorem MetricsSnapshot.isMetric (m : MetricsSnapshot) : ∀ metric ∈ m.metrics, IsMetric metric := by
  rw [MetricsSnapshot.metrics]
  iterate 12
    refine List.forall_mem_cons.mpr ⟨⟨?_, ?_⟩, ?_⟩
    rotate_left 2
  · exact List.forall_mem_nil _
  -- the texts as lists of characters, which is faster to decide than to evaluate the strings
  all_goals
    dsimp only [-String.reduceToList]
    rw [String.toList_ofList]
    decide

theorem MetricsSnapshot.nodup_names (m : MetricsSnapshot) : (m.metrics.map Metric.name).Nodup := by
  rw [MetricsSnapshot.metrics]
  iterate 12 rw [List.map_cons]
  dsimp only [-String.reduceToList]
  iterate 12 rw [String.toList_ofList]
  rw [List.map_nil]
  decide

/-- **What a scraper gets.** The page is read back, whatever the workers do between the reads of the
snapshot, of which `history i` is what they have done before the `i`-th: every counter shows how
often its event had happened, modulo its width, the entries are the keys that had a decision in
force, and the evictions are the calls that gave up an entry. -/
theorem readPage_metricsPage {capacity : ℕ} (hcapacity : 0 < capacity)
    (history : ℕ → List ZoneEvent) (now : ℤ) :
    let zones i := SharedZones.run ⟨some (.fresh capacity), some {}⟩ (history i)
    let ops i := (history i).filterMap ZoneEvent.op?
    let events i := (history i).filterMap ZoneEvent.event?
    (readPage (metricsPage (metricsPrometheusSnapshot zones now))).map
        (List.map fun metric => (String.ofList metric.name, metric.value)) = some [
      ("crowdsec_http_remediation_lookups_total", (events 2).count .httpLookup % 2 ^ 64),
      ("crowdsec_http_ban_remediations_total", (events 3).count .httpBan % 2 ^ 64),
      ("crowdsec_http_captcha_challenges_total", (events 4).count .httpCaptcha % 2 ^ 64),
      ("crowdsec_http_bypass_total", (events 5).count .httpBypass % 2 ^ 64),
      ("crowdsec_lapi_stream_polls_success_total",
        (events 6).countP (·.pollTime?.isSome) % 2 ^ 64),
      ("crowdsec_lapi_stream_polls_error_total", (events 7).count .lapiPollErr % 2 ^ 64),
      ("crowdsec_lapi_stream_last_success_unixtime",
        (((events 8).reverse.findSome? MetricsEvent.pollTime?).getD 0).toNat),
      ("crowdsec_decision_cache_entries",
        ((TableOp.run (.fresh capacity) (ops 0)).activeKeys now).ncard),
      ("crowdsec_decision_cache_evictions_total",
        evictions (ops 1) (.fresh capacity) % 2 ^ 32),
      ("crowdsec_appsec_requests_total", (events 9).count .appsecRequest % 2 ^ 64),
      ("crowdsec_appsec_blocks_total", (events 10).count .appsecBlock % 2 ^ 64),
      ("crowdsec_appsec_errors_total", (events 11).count .appsecError % 2 ^ 64)] := by
  intro zones ops events
  have hcounter (i : ℕ) (f : MetricsShm → UInt64) (counts : MetricsEvent → Bool) (hzero : f {} = 0)
      (hf : ∀ e m, f (e.apply m) = f m + if counts e then 1 else 0) :
      (((zones i).metrics.map f).getD 0).toNat = (events i).countP counts % 2 ^ 64 := by
    have hread : ((zones i).metrics.map f).getD 0 = UInt64.ofNat ((events i).countP counts) := by
      simp only [zones, SharedZones.run_eq, Option.map_some, Option.getD_some,
        MetricsEvent.counter_run hf, hzero, UInt64.zero_add]
      rfl
    rw [hread, UInt64.toNat_ofNat']
  have hlast : ((zones 8).metrics.map MetricsShm.lapiLastSuccessUnixSecs).getD 0 =
      ((events 8).reverse.findSome? MetricsEvent.pollTime?).getD 0 := by
    simp only [zones, SharedZones.run_eq, Option.map_some, Option.getD_some,
      MetricsEvent.lastSuccess_run]
    rfl
  have hentries : ((zones 0).decisions.map (getActiveCount · now)).getD 0 =
      ((TableOp.run (.fresh capacity) (ops 0)).activeKeys now).ncard := by
    simp only [zones, SharedZones.run_eq, Option.map_some, Option.getD_some]
    exact ((tableOk_fresh hcapacity).run (ops 0)).ncard_activeKeys.symm
  have hevictions : (((zones 1).decisions.map ShmData.evictionCount).getD 0).toNat =
      evictions (ops 1) (.fresh capacity) % 2 ^ 32 := by
    have hread : ((zones 1).decisions.map ShmData.evictionCount).getD 0 =
        UInt32.ofNat (evictions (ops 1) (.fresh capacity)) := by
      simp only [zones, SharedZones.run_eq, Option.map_some, Option.getD_some]
      exact ((tableOk_fresh hcapacity).evictionCount_run (ops 1)).trans (UInt32.zero_add _)
    rw [hread, UInt32.toNat_ofNat']
  rw [metricsPage, readPage_writePage (MetricsSnapshot.isMetric _) (MetricsSnapshot.nodup_names _)]
  simp only [Option.map_some, MetricsSnapshot.metrics, List.map_cons, List.map_nil,
    String.ofList_toList, metricsPrometheusSnapshot, -String.reduceToList]
  rw [hcounter 2 MetricsShm.httpLookups (· == .httpLookup) rfl,
    hcounter 3 MetricsShm.httpBans (· == .httpBan) rfl,
    hcounter 4 MetricsShm.httpCaptcha (· == .httpCaptcha) rfl,
    hcounter 5 MetricsShm.httpBypass (· == .httpBypass) rfl,
    hcounter 6 MetricsShm.lapiPollOk (·.pollTime?.isSome) rfl,
    hcounter 7 MetricsShm.lapiPollErr (· == .lapiPollErr) rfl,
    hcounter 9 MetricsShm.appsecRequests (· == .appsecRequest) rfl,
    hcounter 10 MetricsShm.appsecBlocks (· == .appsecBlock) rfl,
    hcounter 11 MetricsShm.appsecErrors (· == .appsecError) rfl, hlast, hentries, hevictions]
  · rfl
  -- an event counts for its own counter only
  all_goals
    intro e m
    cases e <;> simp [MetricsEvent.apply, MetricsEvent.pollTime?]

/-- While the page is made, seven lookups are counted and then a successful poll. -/
def exampleHistory (i : ℕ) : List ZoneEvent :=
  exampleOps.map .table ++
    (List.replicate 7 (.metrics .httpLookup) ++ [.metrics (.lapiPollOk 1700000000)] :
      List ZoneEvent).take i

/-- The page has the time of the poll, but does not count it yet. -/
theorem readPage_metricsPage_exampleHistory :
    let zones i := SharedZones.run ⟨some (.fresh 8), some {}⟩ (exampleHistory i)
    (readPage (metricsPage (metricsPrometheusSnapshot zones 130))).map (List.map Metric.value) =
      some [2, 0, 0, 0, 0, 0, 1700000000, 1, 0, 0, 0, 0] := by
  intro zones
  have hpage := congrArg (Option.map (List.map Prod.snd))
    (readPage_metricsPage (by decide : 0 < 8) exampleHistory 130)
  have hentries : ((TableOp.run (.fresh 8) exampleOps).activeKeys 130).ncard = 1 := by
    rw [TableOk.ncard_activeKeys ((tableOk_fresh (by decide)).run exampleOps)]
    decide +kernel
  have hops : (exampleHistory 0).filterMap ZoneEvent.op? = exampleOps := by decide
  rw [Option.map_map, List.map_comp_map, Option.map_some] at hpage
  refine hpage.trans (congrArg some ?_)
  simp only [List.map_cons, List.map_nil, hops, hentries]
  decide +kernel

end CrowdSecBouncer
