import CrowdSecBouncer.Settings.Directives

/-!
# The contexts of a configuration

nginx reads the directives of all contexts one after the other, and then merges the contexts. The
templates that directives name are read once for the whole process: what is in the cache outlives
even a reload. Yet every context is set up by its own directives, as if it were read alone, when a
path stands for the file as it was when the process first read it (`standsFor`); and merged it has
the settings of the innermost contexts around it (`readConfiguration_merged`).
-/

namespace CrowdSecBouncer

open Text

/-- The contexts, by their numbers, while the configuration is read, and the templates that the
process has read. -/
structure ContextsState where
  confs : ℕ → LocConfig
  templateCache : List (List Char × Template)

section Reading

variable (fromFile : List Char → Except (List Char) Template)

/-- One directive, with the number of the context that it stands in. Which directives nginx allows
there is not asked here. -/
def readDirective (s : ContextsState) (directive : ℕ × List (List UInt8)) :
    Except ConfFailure ContextsState :=
  (applyDirective fromFile directive.2 ⟨s.confs directive.1, s.templateCache⟩).map fun t =>
    ⟨Function.update s.confs directive.1 t.conf, t.templateCache⟩

/-- A whole configuration. -/
def readConfiguration (templateCache : List (List Char × Template))
    (directives : List (ℕ × List (List UInt8))) : Except ConfFailure ContextsState :=
  directives.foldlM (readDirective fromFile) ⟨fun _ => {}, templateCache⟩

/-- One context alone. -/
def readContext (directives : List (List (List UInt8))) : Except ConfFailure LocConfig :=
  (directives.foldlM (fun s args => applyDirective fromFile args s) ⟨{}, []⟩).map LocState.conf

/-- The directives that stand in a context. -/
def directivesOf (i : ℕ) (directives : List (ℕ × List (List UInt8))) : List (List (List UInt8)) :=
  (directives.filter (·.1 = i)).map (·.2)

/-- What a path stands for: a file that has been read is not read again. -/
def standsFor (templateCache : List (List Char × Template)) (path : List Char) :
    Except (List Char) Template :=
  match templateCache.lookup path with
  | some template => .ok template
  | none => fromFile path

end Reading

/-! ### The template cache -/

section Cache

variable {fromFile fromFile' : List Char → Except (List Char) Template} {path : List Char}
  {template : Template} {cache cache' : List (List Char × Template)}

/-- Reading a template changes nothing in what any path stands for. -/
theorem cachedTemplate_eq_ok (h : cachedTemplate fromFile path cache = .ok (template, cache')) :
    standsFor fromFile cache path = .ok template ∧
      standsFor fromFile cache' = standsFor fromFile cache := by
  rw [cachedTemplate] at h
  cases hlookup : cache.lookup path with
  | some found =>
    rw [hlookup] at h
    obtain ⟨rfl, rfl⟩ := Prod.mk.inj (Except.ok.inj h)
    rw [standsFor, hlookup]
    exact ⟨rfl, rfl⟩
  | none =>
    rw [hlookup] at h
    obtain ⟨found, hfile, heq⟩ := Layers.map_eq_ok_iff.mp h
    obtain ⟨rfl, rfl⟩ := Prod.mk.inj heq
    refine ⟨by rw [standsFor, hlookup]; exact hfile, funext fun path' => ?_⟩
    rw [standsFor, standsFor, List.lookup_cons]
    by_cases hpath : path' = path
    · rw [hpath, beq_self_eq_true, hlookup]
      exact hfile.symm
    · rw [beq_eq_false_iff_ne.mpr hpath]

theorem exists_cachedTemplate_eq_ok (h : standsFor fromFile cache path = .ok template) :
    ∃ cache', cachedTemplate fromFile path cache = .ok (template, cache') := by
  rw [standsFor] at h
  rw [cachedTemplate]
  cases hlookup : cache.lookup path with
  | some found =>
    rw [hlookup] at h
    obtain rfl := Except.ok.inj h
    exact ⟨cache, rfl⟩
  | none =>
    rw [hlookup] at h
    exact ⟨(path, template) :: cache, Layers.map_eq_ok_iff.mpr ⟨template, h, rfl⟩⟩

theorem standsFor_nil (fromFile : List Char → Except (List Char) Template) :
    standsFor fromFile [] = fromFile :=
  rfl

end Cache

/-! ### Commands that do the same -/

section Commands

variable {fromFile fromFile' : List Char → Except (List Char) Template} {c c' : Command}
  {args : List (List UInt8)} {conf : LocConfig} {cache cache' : List (List Char × Template)}
  {t : LocState}

/-- The commands of two processes do the same to a context, when paths stand for the same, and
change nothing in what they stand for. -/
structure Command.Agrees (fromFile fromFile' : List Char → Except (List Char) Template)
    (c c' : Command) : Prop where
  name : c.name = c'.name
  oneMore : c.oneMore = c'.oneMore
  set : ∀ {args conf cache cache' t}, standsFor fromFile cache = standsFor fromFile' cache' →
    c.set args ⟨conf, cache⟩ = .ok t → ∃ t', c'.set args ⟨conf, cache'⟩ = .ok t' ∧
      t'.conf = t.conf ∧ standsFor fromFile t.templateCache = standsFor fromFile cache ∧
        standsFor fromFile' t'.templateCache = standsFor fromFile' cache'

theorem Command.agrees_ofHandler (name : String) (handler : Handler) (oneMore : Bool) :
    Command.Agrees fromFile fromFile' (.ofHandler name handler oneMore)
      (.ofHandler name handler oneMore) where
  name := rfl
  oneMore := rfl
  set := by
    intro args conf cache cache' t _ h
    obtain ⟨hconf, hcache⟩ := Command.set_ofHandler h
    exact ⟨⟨t.conf, cache'⟩, Layers.map_eq_ok_iff.mpr ⟨_, hconf, rfl⟩, rfl, by rw [hcache], rfl⟩

theorem Command.agrees_template (name kind : String) (slot : Template → LocConfig → LocConfig) :
    Command.Agrees fromFile fromFile' (.template fromFile name kind slot)
      (.template fromFile' name kind slot) where
  name := rfl
  oneMore := rfl
  set := by
    intro args conf cache cache' t hfiles h
    obtain ⟨path, template, hpath, hcached, hconf⟩ := Command.set_template fromFile h
    obtain ⟨hstands, hcache⟩ := cachedTemplate_eq_ok hcached
    obtain ⟨read, hread⟩ := exists_cachedTemplate_eq_ok (hfiles ▸ hstands)
    refine ⟨⟨slot template conf, read⟩, ?_, hconf.symm, hcache, (cachedTemplate_eq_ok hread).2⟩
    simp only [Command.template, hpath, hread]

/-- The tables of commands, entry by entry. -/
theorem forall₂_locCommands : List.Forall₂ (Command.Agrees fromFile fromFile')
    (locCommands fromFile) (locCommands fromFile') := by
  rw [locCommands, locCommands]
  repeat' first
    | exact .nil
    | exact Command.agrees_ofHandler ..
    | exact Command.agrees_template ..
    | refine .cons ?_ ?_

/-- What a name leads to in both tables. -/
theorem find?_of_forall₂ {p : Command → Bool} {cs cs' : List Command}
    (h : List.Forall₂ (Command.Agrees fromFile fromFile') cs cs')
    (hp : ∀ c c', c.name = c'.name → p c = p c') (hfind : cs.find? p = some c) :
    ∃ c', cs'.find? p = some c' ∧ Command.Agrees fromFile fromFile' c c' := by
  induction h with
  | nil => exact absurd hfind (by simp)
  | cons hagrees _ ih =>
    rw [List.find?_cons] at hfind ⊢
    rw [← hp _ _ hagrees.name]
    split at hfind
    · obtain rfl := Option.some_injective _ hfind
      exact ⟨_, rfl, hagrees⟩
    · exact ih hfind

/-- A directive does the same to a context in both processes. -/
theorem applyDirective_agrees (hfiles : standsFor fromFile cache = standsFor fromFile' cache')
    (h : applyDirective fromFile args ⟨conf, cache⟩ = .ok t) :
    ∃ t', applyDirective fromFile' args ⟨conf, cache'⟩ = .ok t' ∧ t'.conf = t.conf ∧
      standsFor fromFile t.templateCache = standsFor fromFile cache ∧
        standsFor fromFile' t'.templateCache = standsFor fromFile' cache' := by
  rw [applyDirective] at h
  split at h
  · exact absurd h (by simp)
  · next c hfind =>
    obtain ⟨c', hfind', hagrees⟩ := find?_of_forall₂ forall₂_locCommands
      (fun c c' hname => by rw [hname]) hfind
    split at h
    · next hargs =>
      rw [applyDirective, hfind']
      dsimp only
      rw [if_pos (hagrees.oneMore ▸ hargs)]
      exact hagrees.set hfiles h
    · exact absurd h (by simp)

end Commands

/-! ### Every context alone -/

section Configurations

variable {fromFile : List Char → Except (List Char) Template}
  {cache : List (List Char × Template)} {directives : List (ℕ × List (List UInt8))}
  {s s' : ContextsState}

/-- A directive changes the context that it stands in, and no other. -/
theorem readDirective_eq_ok {directive : ℕ × List (List UInt8)}
    (h : readDirective fromFile s directive = .ok s') :
    ∃ t, applyDirective fromFile directive.2 ⟨s.confs directive.1, s.templateCache⟩ = .ok t ∧
      s'.templateCache = t.templateCache ∧ s'.confs directive.1 = t.conf ∧
      ∀ i, i ≠ directive.1 → s'.confs i = s.confs i := by
  obtain ⟨t, ht, rfl⟩ := Layers.map_eq_ok_iff.mp h
  exact ⟨t, ht, rfl, Function.update_self .., fun i hi => Function.update_of_ne hi ..⟩

/-- A context that is read among others, and the same context alone. -/
theorem exists_alone (files : List Char → Except (List Char) Template) (i : ℕ) {u : LocState}
    (hconf : u.conf = s.confs i)
    (hfiles : standsFor fromFile s.templateCache = standsFor files u.templateCache)
    (h : directives.foldlM (readDirective fromFile) s = .ok s') :
    ∃ t, (directivesOf i directives).foldlM (fun s args => applyDirective files args s) u = .ok t ∧
      t.conf = s'.confs i := by
  induction directives generalizing s u with
  | nil =>
    obtain rfl := Except.ok.inj h
    exact ⟨u, rfl, hconf⟩
  | cons directive directives ih =>
    rw [List.foldlM_cons] at h
    obtain ⟨s₁, hfirst, hrest⟩ := Layers.bind_eq_ok_iff.mp h
    obtain ⟨t, ht, hcache, hself, hother⟩ := readDirective_eq_ok hfirst
    obtain ⟨t', ht', hconf', hread, hread'⟩ := applyDirective_agrees hfiles ht
    by_cases hi : i = directive.1
    · subst hi
      have halone : directivesOf directive.1 (directive :: directives) =
          directive.2 :: directivesOf directive.1 directives := by
        simp [directivesOf]
      rw [← hconf] at ht'
      rw [halone, List.foldlM_cons, ht']
      refine ih (hconf'.trans hself.symm) ?_ hrest
      rw [hcache, hread, hfiles, hread']
    · have halone : directivesOf i (directive :: directives) = directivesOf i directives := by
        simp [directivesOf, Ne.symm hi]
      rw [halone]
      exact ih (hconf.trans (hother i hi).symm) (by rw [hcache, hread, hfiles]) hrest

/-- **Every context is set up by its own directives alone**: neither those of other contexts make a
difference, nor what the process has read for them. -/
theorem readContext_of_readConfiguration
    (h : readConfiguration fromFile cache directives = .ok s) (i : ℕ) :
    readContext (standsFor fromFile cache) (directivesOf i directives) = .ok (s.confs i) := by
  obtain ⟨t, ht, hconf⟩ := exists_alone (standsFor fromFile cache) i (u := ⟨{}, []⟩) rfl
    (standsFor_nil _).symm h
  exact Layers.map_eq_ok_iff.mpr ⟨t, ht, hconf⟩

/-- What every context has is configured. -/
theorem configured_of_readConfiguration
    (h : readConfiguration fromFile cache directives = .ok s) :
    ∀ i, Configured fromFile (s.confs i) := by
  refine Layers.foldlM_induction (P := fun s => ∀ i, Configured fromFile (s.confs i))
    (fun _ => .empty) (fun s₀ directive _ s₁ hs hfirst i => ?_) h
  obtain ⟨t, ht, -, hself, hother⟩ := readDirective_eq_ok hfirst
  by_cases hi : i = directive.1
  · rw [hi, hself]
    exact .directive (hs directive.1) ht
  · exact hother i hi ▸ hs i

/-! ### All contexts together -/

variable {contexts : Contexts ℕ} {http : ℕ} {confs : List LocConfig} {main : RequestedFeatures}

/-- **A configuration that is taken**: every context has been set up by its own directives alone,
and has, once it is merged, the settings of the innermost contexts around it that set them. All have
passed the checks, and what is requested is what some context has on, its own or inherited. -/
theorem readConfiguration_merged (hread : readConfiguration fromFile cache directives = .ok s)
    (hmerge : mergeContexts {} (s.confs http) (contexts.map s.confs) = .ok (confs, main)) :
    (∀ i, readContext (standsFor fromFile cache) (directivesOf i directives) = .ok (s.confs i)) ∧
    List.Forall₂ (fun chain conf =>
      LocConfig.SettingsOf (s.confs http) (chain.map s.confs) conf ∧
        Configured fromFile conf ∧ conf.WellFormed) contexts.chains confs ∧
    (main.enforcementRequested = true ↔ ∃ conf ∈ confs, conf.enabled = some true) ∧
    (main.appsecRequested = true ↔ ∃ conf ∈ confs, conf.appsecEnabled = some true) := by
  have hconfs := configured_of_readConfiguration hread
  have hchains := forall₂_mergeContexts hmerge
  rw [Contexts.chains_map, List.forall₂_map_left_iff] at hchains
  obtain ⟨henforcement, happsec⟩ := requested_mergeContexts hmerge
  refine ⟨readContext_of_readConfiguration hread, ?_, by simpa using henforcement,
    by simpa using happsec⟩
  have hne : ∀ chain ∈ contexts.chains, chain ≠ [] := fun _ => Contexts.ne_nil_of_mem_chains
  refine ((List.forall₂_and_left _ _).mpr ⟨hne, hchains⟩).imp fun chain conf h => ?_
  obtain ⟨hchain, hmerged⟩ := h
  have hconfigured : Configured fromFile conf :=
    configured_mergeChain (hconfs http) (List.forall_mem_map.mpr fun i _ => hconfs i) hmerged
  exact ⟨LocConfig.settingsOf_mergeChain (List.map_eq_nil_iff.not.mpr hchain) hmerged,
    hconfigured, wellFormed_of_configured hconfigured⟩

/-- A page and a server that turns enforcement on, and a location in it that turns it off. -/
def exampleDirectives : List (ℕ × List (List UInt8)) :=
  [(0, ["crowdsec_ban_template", "ban.html"]), (1, ["crowdsec", "on"]), (2, ["crowdsec", "off"]),
    (2, ["crowdsec_metrics", "on"])].map fun d => (d.1, d.2.map fun arg => utf8Bytes arg.toList)

/-- The page has been read before, and the file is gone. -/
theorem readConfiguration_merged_exampleDirectives :
    ∃ s confs main, readConfiguration (fun _ => .error [])
        [("ban.html".toList, ⟨"page", "text/html"⟩)] exampleDirectives = .ok s ∧
      mergeContexts {} (s.confs 0) ((Contexts.cons 1 (.cons 2 .nil .nil) .nil).map s.confs) =
        .ok (confs, main) ∧
      confs.map LocConfig.enabled = [some true, some false] ∧
      (∀ conf ∈ confs, conf.banTemplate = some ⟨"page", "text/html"⟩) ∧
      main.enforcementRequested = true := by
  have hboth : ((readConfiguration (fun _ => .error [])
      [("ban.html".toList, ⟨"page", "text/html"⟩)] exampleDirectives).toOption.bind fun s =>
        (mergeContexts {} (s.confs 0)
          ((Contexts.cons 1 (.cons 2 .nil .nil) .nil).map s.confs)).toOption) =
      some ([{ enabled := some true, banTemplate := some ⟨"page", "text/html"⟩ },
        { enabled := some false, banTemplate := some ⟨"page", "text/html"⟩,
          metricsEnabled := some true }], ⟨true, false⟩) := by
    decide +kernel
  obtain ⟨s, hread, hmerge⟩ := Option.bind_eq_some_iff.mp hboth
  rw [Layers.toOption_eq_some_iff] at hread hmerge
  obtain ⟨-, -, henforcement, -⟩ := readConfiguration_merged hread hmerge
  exact ⟨s, _, _, hread, hmerge, rfl, by simp, henforcement.mpr ⟨_, List.mem_cons_self, rfl⟩⟩

end Configurations

end CrowdSecBouncer
