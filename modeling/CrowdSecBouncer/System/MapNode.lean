import CrowdSecBouncer.Shm.Lookup
import CrowdSecBouncer.System.Enforcement

/-!
# The node over a plain map

What a node is for does not depend on how its table is laid out. Here the table is a plain map
from keys to decisions, a call is what it means for the map, and a lookup is the answer of the
longest prefix that is alive. While nothing is evicted, the node over the hash table and the node
over the map enable the same steps and show the same requests, sessions and times
(`node_refines_map`): what is safe on the map is safe in the node.
-/

namespace CrowdSecBouncer

open LabelledRun DecisionMap

/-! ### The plain node -/

/-- The decisions, the time in seconds since the epoch, and the sessions handed out. -/
structure SharedMap where
  decisions : MapState
  clock : ℤ
  sessions : List SessionGrant

open Classical in
/-- The answer of the plain map. -/
noncomputable def MapState.answer (m : MapState) (ip : IpAddr) (now : ℤ) : LookupResult :=
  if h : ∃ a, IsAnswer m.map ip now a then h.choose else .notFound

namespace SharedMap

/-- One step. -/
noncomputable def step : SharedAction → SharedMap → Option SharedMap
  | .call op, c =>
    if ∀ t ∈ op.time?, t ≤ c.clock then some { c with decisions := c.decisions.apply op } else none
  | .tick secs, c => some { c with clock := c.clock + secs }

/-- The answers of a label; the lookup is that of the map. -/
noncomputable def answers (lib : TokenLibraries) (visit : Visit) (c : SharedMap) :
    Answers → Answers :=
  visit.answersBy lib (fun ip => c.decisions.answer ip c.clock) c.clock

/-- One step of a request. -/
noncomputable def visitStep (lib : TokenLibraries) (visit : Visit) (c : SharedMap)
    (action : RequestAction) (r : RequestRun) : Option (SharedMap × RequestRun) :=
  (RequestRun.step visit.toSite (action.mapAnswers (c.answers lib visit)) r).map fun r' =>
    ({ c with sessions := visit.granted c.clock action r ++ c.sessions }, r')

end SharedMap

/-- The plain map with the requests. -/
abbrev MapNode (ι : Type*) := Interleaving.World ι SharedMap RequestRun

namespace MapNode

variable {ι : Type*}

def fresh (clock : ℤ) (bodies : ι → Option RequestBody) : MapNode ι :=
  ⟨⟨.cleared [], clock, []⟩, fun i => .initial (bodies i)⟩

/-- One step of a plain node. -/
noncomputable def step [DecidableEq ι] (lib : TokenLibraries) (visits : ι → Visit) :
    NodeLabel ι → MapNode ι → Option (MapNode ι) :=
  Interleaving.step SharedMap.step fun c i => c.visitStep lib (visits i)

end MapNode

/-! ### The refinement -/

/-- A call reads the clock when it takes effect, adds masked networks only, and evicts nothing. -/
def SharedAction.Plain : SharedAction → Shared → Prop
  | .call op, c =>
    op.Masked ∧ op.reachesEvictClock c.table = false ∧ ∀ t ∈ op.time?, t = c.clock
  | .tick _, _ => True

/-- The table is a layout of the map, and the rest is the same. -/
structure Shared.RefinesMap (c : Shared) (d : SharedMap) : Prop where
  refines : Refines c.clock c.table d.decisions
  clock : d.clock = c.clock
  sessions : d.sessions = c.sessions

variable {ι : Type*} [DecidableEq ι] {lib : TokenLibraries} {visits : ι → Visit} {visit : Visit}
  {c : Shared} {d : SharedMap}

theorem Refines.mono {s : ShmData} {m : MapState} {t now : ℤ} (h : Refines t s m) (ht : t ≤ now) :
    Refines now s m :=
  ⟨h.ok, h.scenarios, fun k hk => (h.agrees k hk).mono ht, h.networks⟩

theorem refines_fresh {capacity : ℕ} (hpos : 0 < capacity) (t : ℤ) :
    Refines t (.fresh capacity) (.cleared []) := by
  have h := refines_clearAll (s := .fresh capacity) t hpos
  exact ⟨tableOk_fresh hpos, h.scenarios, h.agrees, h.networks⟩

namespace Shared.RefinesMap

variable (h : c.RefinesMap d)

include h

/-- The map answers as the table does. -/
theorem answer_eq (ip : IpAddr) : d.decisions.answer ip d.clock = lookupIp c.table ip c.clock := by
  have hanswer : IsAnswer d.decisions.map ip d.clock (lookupIp c.table ip c.clock) := by
    rw [h.clock]
    exact (h.refines.lookupIp_eq_iff le_rfl ip).mp rfl
  have hexists : ∃ a, IsAnswer d.decisions.map ip d.clock a := ⟨_, hanswer⟩
  rw [MapState.answer, dif_pos hexists]
  have hchosen := hexists.choose_spec
  generalize hexists.choose = a at hchosen ⊢
  rw [h.clock] at hchosen hanswer
  exact h.refines.isAnswer_unique hchosen hanswer

theorem answers_eq (lib : TokenLibraries) (visit : Visit) :
    d.answers lib visit = visit.answers lib c := by
  have hfind : (fun ip => d.decisions.answer ip d.clock) =
      fun ip => lookupIp c.table ip c.clock := funext h.answer_eq
  rw [SharedMap.answers, Visit.answers, hfind, h.clock]

/-- A call or the passing of time. -/
theorem step {action : SharedAction} (hplain : action.Plain c) :
    Option.Rel Shared.RefinesMap (Shared.step action c) (SharedMap.step action d) := by
  rcases action with op | secs
  · obtain ⟨hmasked, hevict, htime⟩ := hplain
    have hc : ∀ t ∈ op.time?, t ≤ c.clock := fun t ht => (htime t ht).le
    have hd : ∀ t ∈ op.time?, t ≤ d.clock := fun t ht => h.clock ▸ hc t ht
    rw [Shared.step, SharedMap.step, if_pos hc, if_pos hd]
    have hrefines := h.refines.apply op hmasked hevict fun t ht => (htime t ht).ge
    refine .some ⟨hrefines.mono ?_, h.clock, h.sessions⟩
    cases hop : op.time? with
    | none => exact le_rfl
    | some t => exact hc t hop
  · refine .some ⟨h.refines.mono ?_, ?_, h.sessions⟩
    · exact Int.le_add_of_nonneg_right (Int.natCast_nonneg secs)
    · exact congrArg (· + (secs : ℤ)) h.clock

/-- A step of a request. -/
theorem visitStep (lib : TokenLibraries) (visit : Visit) (action : RequestAction)
    (r : RequestRun) :
    Option.Rel (fun out out' => Shared.RefinesMap out.1 out'.1 ∧ out'.2 = out.2)
      (visit.step lib c action r) (d.visitStep lib visit action r) := by
  rw [Visit.step, SharedMap.visitStep, h.answers_eq]
  cases RequestRun.step visit.toSite (action.mapAnswers (visit.answers lib c)) r with
  | none => exact .none
  | some r' =>
    refine .some ⟨⟨h.refines, h.clock, ?_⟩, rfl⟩
    rw [h.clock, h.sessions]

end Shared.RefinesMap

/-- What can be seen of a node from outside the table. -/
def Node.view (n : Node ι) : ℤ × List SessionGrant × (ι → RequestRun) :=
  (n.env.clock, n.env.sessions, n.part)

def MapNode.view (n : MapNode ι) : ℤ × List SessionGrant × (ι → RequestRun) :=
  (n.env.clock, n.env.sessions, n.part)

/-- The node over the table and the node over the map go step by step. -/
theorem simulates_mapNode :
    Simulates (Node.step lib visits) (MapNode.step lib visits)
      (fun label n => ∀ action, label = .env action → action.Plain n.env)
      (fun n m => n.env.RefinesMap m.env ∧ m.part = n.part) :=
  Interleaving.simulates (fun _ _ _ hplain h => h.step hplain)
    fun _ _ i action r h => h.visitStep lib (visits i) action r

/-- **The node refines the plain map.** Where no call evicts, a run is enabled in the node over
the hash table when it is in the node over the map, and both show the same sessions, times and
requests at its end; and any property of these holds throughout the one run when it holds
throughout the other. -/
theorem node_refines_map {capacity : ℕ} {clock : ℤ} {bodies : ι → Option RequestBody}
    {l : List (NodeLabel ι)} (hpos : 0 < capacity)
    (hplain : EveryStep (Node.step lib visits)
      (fun label n => ∀ action, label = .env action → action.Plain n.env) l
      (Node.fresh capacity clock bodies)) :
    (exec (Node.step lib visits) l (Node.fresh capacity clock bodies)).map Node.view =
        (exec (MapNode.step lib visits) l (MapNode.fresh clock bodies)).map MapNode.view ∧
      ∀ P : ℤ × List SessionGrant × (ι → RequestRun) → Prop,
        EveryState (Node.step lib visits) (fun n => P n.view) l (Node.fresh capacity clock bodies) ↔
          EveryState (MapNode.step lib visits) (fun m => P m.view) l
            (MapNode.fresh clock bodies) := by
  have hview (n : Node ι) (m : MapNode ι) (h : n.env.RefinesMap m.env ∧ m.part = n.part) :
      n.view = m.view := by
    rw [Node.view, MapNode.view, h.1.clock, h.1.sessions, h.2]
  have hstart : (Node.fresh capacity clock bodies).env.RefinesMap
        (MapNode.fresh clock bodies).env ∧
      (MapNode.fresh clock bodies).part = (Node.fresh capacity clock bodies).part :=
    ⟨⟨refines_fresh hpos clock, rfl, rfl⟩, rfl⟩
  refine ⟨simulates_mapNode.map_exec_eq hview hplain hstart,
    fun P => simulates_mapNode.everyState_iff (fun n m h => ?_) hplain hstart⟩
  rw [hview n m h]

/-- A ban is added, and a request of the client comes in five seconds later. -/
theorem node_refines_map_exampleBanCall :
    let visits : Unit → Visit := fun _ => ⟨inspectingSite, []⟩
    let l : List (NodeLabel Unit) :=
      [.env (.call exampleBanCall), .env (.tick 5), .part () (.run banAnswers)]
    (exec (Node.step exampleLibraries visits) l (Node.fresh 8 100 fun _ => none)).map Node.view =
        (exec (MapNode.step exampleLibraries visits) l (MapNode.fresh 100 fun _ => none)).map
          MapNode.view ∧
      ∀ P : ℤ × List SessionGrant × (Unit → RequestRun) → Prop,
        EveryState (Node.step exampleLibraries visits) (fun n => P n.view) l
            (Node.fresh 8 100 fun _ => none) ↔
          EveryState (MapNode.step exampleLibraries visits) (fun m => P m.view) l
            (MapNode.fresh 100 fun _ => none) := by
  refine node_refines_map (by decide) ⟨fun action heq => ?_, fun n _ =>
    everyStep_of_mem fun label hmem n action heq => ?_⟩
  · obtain rfl := Interleaving.Label.env.inj heq
    exact ⟨trivial, by decide +kernel, by decide⟩
  · subst heq
    have haction : action = .tick 5 := by simpa using hmem
    exact haction ▸ trivial

end CrowdSecBouncer
