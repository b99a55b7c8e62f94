/-
**Manifests that fail.**

A manifest that cannot be read or linked does not get to the registry.  One whose check plug-ins
conflict does: the registration stops at the plug-in that is refused, and what came before it stays
— all sections and inventory plug-ins, the rulesets of the host labels, the check plug-ins in front
of the refused one, and the discovery rulesets up to its own.  So a failed registration leaves the
registry as it was only if it holds all of that already.

Main definitions:

* `MonitoringPlugins.Linked.registrationsBefore` — what a manifest registers before a check plug-in
  is refused;
* `MonitoringPlugins.Registry.Holds` — a registry holds already what some registrations leave.

Main results:

* `MonitoringPlugins.Registry.register_eq_conflict` — **where a registration stops**, and what it
  has done until then;
* `MonitoringPlugins.Registry.Leads.sameContent_iff_holds` — registrations leave the content as it
  is exactly if all of it is held already;
* `MonitoringPlugins.Registry.InUse.failed_unchanged_iff` — **when a failed manifest leaves the
  registry as it was**, which it does not always do
  (`MonitoringPlugins.Registry.failed_register_keeps_part`).
-/

import MonitoringPlugins.Proofs.ManifestEffect

set_option autoImplicit false

namespace MonitoringPlugins

/-! ### Up to the refused plug-in -/

namespace Linked

/-- The ruleset that a check plug-in makes known before it is registered itself. -/
def discoveryDeclaration (plugin : CheckPlugin) : List Registration :=
  (plugin.discoveryRuleset.map (Registration.declareRuleset .discovery)).toList

/-- What a manifest registers before one of its check plug-ins is refused. -/
def registrationsBefore (l : Linked) (before : List CheckPlugin) (refused : CheckPlugin) :
    List Registration :=
  l.groundwork ++ before.flatMap checkRegistrations ++ discoveryDeclaration refused

theorem checkPlugin?_of_mem_groundwork (l : Linked) :
    ∀ a ∈ l.groundwork, a.checkPlugin? = none := by
  intro a ha
  rcases List.mem_append.1 ha with ha | ha
  · rcases List.mem_append.1 ha with ha | ha
    · obtain ⟨s, -, rfl⟩ := List.mem_map.1 ha
      rfl
    · obtain ⟨name, -, rfl⟩ := List.mem_map.1 ha
      rfl
  · obtain ⟨plugin, -, rfl⟩ := List.mem_map.1 ha
    rfl

theorem checkPlugin?_of_mem_discoveryDeclaration (plugin : CheckPlugin) :
    ∀ a ∈ discoveryDeclaration plugin, a.checkPlugin? = none := by
  intro a ha
  obtain ⟨name, -, rfl⟩ := Option.map_eq_some_iff.1 (Option.mem_toList.1 ha)
  rfl

theorem checkPlugin?_of_mem_rules (l : Linked) :
    ∀ a ∈ l.rulesets.map l.ruleRegistration, a.checkPlugin? = none := by
  intro a ha
  obtain ⟨entry, -, rfl⟩ := List.mem_map.1 ha
  rfl

end Linked

namespace Registry

/-- Only check plug-ins are ever refused. -/
theorem conflict_performAll_eq_none (r : Registry) {todo : List Registration}
    (h : ∀ a ∈ todo, a.checkPlugin? = none) : (r.performAll todo).conflict = none := by
  induction todo generalizing r with
  | nil => rfl
  | cons a rest ih =>
      obtain ⟨hfirst, hrest⟩ := List.forall_mem_cons.1 h
      obtain ⟨r', ha, -⟩ := r.exists_perform_of_other hfirst
      rw [performAll_cons_ok _ ha]
      exact ih r' hrest

/-- A first part without refusals is passed through. -/
theorem performAll_append_of_none {r : Registry} {first : List Registration}
    (h : (r.performAll first).conflict = none) (second : List Registration) :
    (r.performAll (first ++ second)).registry =
        ((r.performAll first).registry.performAll second).registry ∧
      (r.performAll (first ++ second)).conflict =
        ((r.performAll first).registry.performAll second).conflict := by
  rw [performAll_append, h]
  exact ⟨rfl, rfl⟩

/-- A first part with a refusal is all that is done. -/
theorem performAll_append_of_some {r : Registry} {first : List Registration} {c : ItemConflict}
    (h : (r.performAll first).conflict = some c) (second : List Registration) :
    r.performAll (first ++ second) = r.performAll first := by
  rw [performAll_append, h]

/-- **Check plug-ins are registered up to the first one that conflicts.** -/
theorem Leads.exists_refused {r s : Registry} {done : List Registration} (h : r.Leads done s)
    {plugins : List CheckPlugin} {c : ItemConflict}
    (hc : (s.performAll (plugins.flatMap Linked.checkRegistrations)).conflict = some c) :
    ∃ before refused after, plugins = before ++ refused :: after ∧
      r.Leads (done ++ before.flatMap Linked.checkRegistrations ++
          Linked.discoveryDeclaration refused)
        (s.performAll (plugins.flatMap Linked.checkRegistrations)).registry ∧
      (s.performAll (plugins.flatMap Linked.checkRegistrations)).registry.addCheck refused =
        .error c := by
  induction plugins generalizing done s with
  | nil => cases hc
  | cons p rest ih =>
      have hnone := s.conflict_performAll_eq_none
        (Linked.checkPlugin?_of_mem_discoveryDeclaration p)
      have hdeclared := h.performAll (Linked.discoveryDeclaration p)
      rw [accepted_eq_self hnone] at hdeclared
      have hsplit : (p :: rest).flatMap Linked.checkRegistrations =
          Linked.discoveryDeclaration p ++
            .addCheck p :: rest.flatMap Linked.checkRegistrations := by
        rw [List.flatMap_cons, Linked.checkRegistrations, List.append_assoc]
        rfl
      obtain ⟨hregistry, hconflict⟩ := performAll_append_of_none hnone
        (.addCheck p :: rest.flatMap Linked.checkRegistrations)
      rw [hsplit, hconflict] at hc
      rw [hsplit, hregistry]
      generalize (s.performAll (Linked.discoveryDeclaration p)).registry = t at hc hdeclared ⊢
      cases ht : t.addCheck p with
      | error c' =>
          have hp : (Registration.addCheck p).perform t = .error c' := ht
          rw [performAll_cons_error _ hp] at hc ⊢
          cases hc
          exact ⟨[], p, rest, rfl, by simpa using hdeclared, ht⟩
      | ok t' =>
          have hp : (Registration.addCheck p).perform t = .ok t' := ht
          rw [performAll_cons_ok _ hp] at hc ⊢
          obtain ⟨before, refused, after, rfl, hleads, herror⟩ := ih (hdeclared.step _ hp) hc
          refine ⟨p :: before, refused, after, rfl, ?_, herror⟩
          simpa [Linked.checkRegistrations, Linked.discoveryDeclaration] using hleads

/-- **Where the registration of a manifest stops**, and what it has done until then. -/
theorem register_eq_conflict {r : Registry} {l : Linked} {c : ItemConflict}
    (h : (r.register l).conflict = some c) :
    ∃ before refused after, l.checkPlugins = before ++ refused :: after ∧
      r.Leads (l.registrationsBefore before refused) (r.register l).registry ∧
      (r.register l).registry.addCheck refused = .error c := by
  have hnone := r.conflict_performAll_eq_none l.checkPlugin?_of_mem_groundwork
  have hground := leads_performAll hnone
  obtain ⟨hregistry, hconflict⟩ :=
    performAll_append_of_none hnone (l.checkPlugins.flatMap Linked.checkRegistrations)
  rw [conflict_register, Linked.registrations_eq] at h
  rw [registry_register, Linked.registrations_eq]
  cases hchecks : (r.performAll
      (l.groundwork ++ l.checkPlugins.flatMap Linked.checkRegistrations)).conflict with
  | none =>
      -- rules are never refused, so nothing would be
      rw [(performAll_append_of_none hchecks _).2,
        conflict_performAll_eq_none _ l.checkPlugin?_of_mem_rules] at h
      cases h
  | some c' =>
      rw [performAll_append_of_some hchecks] at h ⊢
      rw [hconflict] at h
      rw [hregistry]
      exact hground.exists_refused h

/-! ### Nothing new -/

/-- **A registry holds already what some registrations leave**: under every name the last of them,
the rulesets that they mention, and the rules that they set last. -/
structure Holds (r : Registry) (as : List Registration) : Prop where
  sections : ∀ (name : SectionName) (s : Section),
    lastOf Section.name (as.filterMap Registration.section?) name = some s →
      r.findSection? name = some s
  checkPlugins : ∀ (name : CheckPluginName) (plugin : CheckPlugin),
    lastOf CheckPlugin.name (checkPluginsOf as) name = some plugin →
      r.checkPlugins[name]? = some plugin
  inventoryPlugins : ∀ (name : InventoryPluginName) (plugin : InventoryPlugin),
    lastOf InventoryPlugin.name (as.filterMap Registration.inventoryPlugin?) name = some plugin →
      r.inventoryPlugins[name]? = some plugin
  rulesets : ∀ name ∈ as.filterMap Registration.ruleset?, r.KnowsRuleset name
  rules : ∀ (name : RulesetName) (entry : RulesetName × List Rule),
    lastOf Prod.fst (as.filterMap Registration.rules?) name = some entry →
      r.rulesets.rules name = entry.2

/-- A look-up is unchanged exactly if what would be found first is there. -/
theorem eq_or_iff {α : Type} {found first : Option α} :
    found = first.or found ↔ ∀ a, first = some a → found = some a := by
  cases first with
  | none => simp
  | some a => simp

/-- **Registrations leave the content as it is exactly if all of it is held already.** -/
theorem Leads.sameContent_iff_holds {r s : Registry} {done : List Registration}
    (h : r.Leads done s) (hr : r.Coherent) : r.SameContent s ↔ r.Holds done := by
  constructor
  · intro hsame
    constructor
    · intro name
      refine eq_or_iff.1 ?_
      rw [← h.findSection?_eq hr]
      exact hsame.findSection?_eq name
    · intro name
      refine eq_or_iff.1 ?_
      rw [← h.checkPlugins_eq hr]
      exact congrArg (fun t : Snapshot => t.checkPlugins[name]?) hsame.snapshot
    · intro name
      refine eq_or_iff.1 ?_
      rw [← h.inventoryPlugins_eq hr]
      exact hsame.inventoryPlugin?_eq name
    · intro name hname
      rw [hsame.knows, h.knows_iff]
      exact .inr hname
    · intro name entry hentry
      rw [hsame.rules, h.rules_eq hr, hentry]
      rfl
  · intro hholds
    refine .of_lookups hr (h.coherent hr) ?_ ?_ ?_ ?_ ?_
    · intro name
      rw [h.findSection?_eq hr]
      exact eq_or_iff.2 (hholds.sections name)
    · intro name
      rw [h.checkPlugins_eq hr]
      exact eq_or_iff.2 (hholds.checkPlugins name)
    · intro name
      rw [h.inventoryPlugins_eq hr]
      exact eq_or_iff.2 (hholds.inventoryPlugins name)
    · intro name
      rw [h.knows_iff]
      constructor
      · exact .inl
      · rintro (hknown | hname)
        · exact hknown
        · exact hholds.rulesets name hname
    · intro name
      rw [h.rules_eq hr]
      cases hlast : lastOf Prod.fst (done.filterMap Registration.rules?) name with
      | none => rfl
      | some entry => exact hholds.rules name entry hlast

/-! ### Failures -/

/-- **The three ways of loading a manifest**: it cannot be read, it cannot be linked, or its
definitions are registered. -/
theorem load_cases (r : Registry) (handlers : HandlerTable) (firstSerial : Nat) (path : String)
    (file : ManifestFile) :
    (∃ reason, (r.load handlers firstSerial path file).error = some (.read reason) ∧
      (r.load handlers firstSerial path file).registry = r) ∨
    (∃ reason, (r.load handlers firstSerial path file).error = some (.link reason) ∧
      (r.load handlers firstSerial path file).registry = r) ∨
    ∃ m l, Manifest.ofFile file = .ok m ∧ m.link handlers firstSerial = .ok l ∧
      (r.load handlers firstSerial path file).error = (r.register l).conflict.map .conflict ∧
      (r.load handlers firstSerial path file).registry = (r.register l).registry := by
  cases hm : Manifest.ofFile file with
  | error reason =>
      refine .inl ⟨reason, ?_, ?_⟩
      · simp only [load, hm]
      · simp only [load, hm]
  | ok m =>
      cases hl : m.link handlers firstSerial with
      | error reason =>
          refine .inr (.inl ⟨reason, ?_, ?_⟩)
          · simp only [load, enter, hm, hl]
          · simp only [load, enter, hm, hl]
      | ok l =>
          refine .inr (.inr ⟨m, l, rfl, hl, ?_, ?_⟩)
          · simp only [load, enter, hm, hl]
          · simp only [load, enter, hm, hl]

/-- A manifest that fails for another reason than a conflict does not get to the registry. -/
theorem registry_load_of_error {r : Registry} {handlers : HandlerTable} {firstSerial : Nat}
    {path : String} {file : ManifestFile} {e : ManifestError}
    (h : (r.load handlers firstSerial path file).error = some e) (hother : ∀ c, e ≠ .conflict c) :
    (r.load handlers firstSerial path file).registry = r := by
  rcases r.load_cases handlers firstSerial path file with
    ⟨reason, -, hr⟩ | ⟨reason, -, hr⟩ | ⟨m, l, -, -, herror, -⟩
  · exact hr
  · exact hr
  · rw [herror] at h
    obtain ⟨c, -, rfl⟩ := Option.map_eq_some_iff.1 h
    exact absurd rfl (hother c)

/-- A conflict is that of registering the definitions. -/
theorem exists_register_of_load_eq_conflict {r : Registry} {handlers : HandlerTable}
    {firstSerial : Nat} {path : String} {file : ManifestFile} {c : ItemConflict}
    (h : (r.load handlers firstSerial path file).error = some (.conflict c)) :
    ∃ m l, Manifest.ofFile file = .ok m ∧ m.link handlers firstSerial = .ok l ∧
      (r.register l).conflict = some c ∧
      (r.load handlers firstSerial path file).registry = (r.register l).registry := by
  rcases r.load_cases handlers firstSerial path file with
    ⟨reason, herror, -⟩ | ⟨reason, herror, -⟩ | ⟨m, l, hm, hl, herror, hr⟩
  · rw [herror] at h
    cases h
  · rw [herror] at h
    cases h
  · rw [herror] at h
    obtain ⟨c', hc, hsame⟩ := Option.map_eq_some_iff.1 h
    cases hsame
    exact ⟨m, l, hm, hl, hc, hr⟩

/-- **When a failed manifest leaves the registry as it was.**  If it cannot be read or linked,
always.  If one of its check plug-ins conflicts, exactly if the registry holds already what comes
before that plug-in. -/
theorem InUse.failed_unchanged_iff {r : Registry} (h : r.InUse) :
    (∀ (l : Linked) (c : ItemConflict), (r.register l).conflict = some c →
      ∃ before refused after, l.checkPlugins = before ++ refused :: after ∧
        (r.register l).registry.addCheck refused = .error c ∧
        (r.SameContent (r.register l).registry ↔
          r.Holds (l.registrationsBefore before refused))) ∧
    ∀ (handlers : HandlerTable) (firstSerial : Nat) (path : String) (file : ManifestFile)
      (e : ManifestError), (r.load handlers firstSerial path file).error = some e →
        ((∀ c, e ≠ .conflict c) → (r.load handlers firstSerial path file).registry = r) ∧
        ∀ c, e = .conflict c → ∃ m l, Manifest.ofFile file = .ok m ∧
          m.link handlers firstSerial = .ok l ∧ (r.register l).conflict = some c ∧
          (r.load handlers firstSerial path file).registry = (r.register l).registry := by
  constructor
  · intro l c hc
    obtain ⟨before, refused, after, hplugins, hleads, herror⟩ := register_eq_conflict hc
    exact ⟨before, refused, after, hplugins, herror,
      hleads.sameContent_iff_holds h.reachable.coherent⟩
  · intro handlers firstSerial path file e he
    refine ⟨registry_load_of_error he, ?_⟩
    rintro c rfl
    exact exists_register_of_load_eq_conflict he

/-- A run that registers a section and a plug-in with items. -/
def itemRun : List Operation :=
  [.registration (.addSection (.agent (.silent .df .df))),
    .registration (.addCheck (.idle .df "Filesystem %s" .filesystems))]

/-- A manifest with the same section, and a plug-in without items. -/
def itemlessManifest : Linked where
  agentSections := [.silent .df .df]
  checkPlugins := [.idle .mounts "Mounts" .filesystems]

theorem InUse.failed_unchanged_iff_itemlessManifest :
    (empty.run itemRun).InUse ∧
      ((empty.run itemRun).register itemlessManifest).conflict =
        some ⟨.filesystems, .mounts, [.df], .requires⟩ ∧
      (empty.run itemRun).SameContent ((empty.run itemRun).register itemlessManifest).registry ∧
      ((empty.run itemRun).load {} 0 "" .missing).registry = empty.run itemRun := by
  have huse : (empty.run itemRun).InUse := .reached ⟨itemRun, rfl⟩
  have hconflict : ((empty.run itemRun).register itemlessManifest).conflict =
      some ⟨.filesystems, .mounts, [.df], .requires⟩ := by rfl
  obtain ⟨hregister, hload⟩ := huse.failed_unchanged_iff
  obtain ⟨before, refused, after, hplugins, -, hiff⟩ := hregister itemlessManifest _ hconflict
  refine ⟨huse, hconflict, hiff.2 ?_, (hload {} 0 "" .missing (.read .notFound) rfl).1 nofun⟩
  -- the only check plug-in is the refused one, so nothing but the section comes before it
  cases before with
  | cons p rest => simp [itemlessManifest] at hplugins
  | nil =>
      cases hplugins
      constructor
      · intro name s hs
        change lastOf Section.name [.agent (.silent .df .df)] name = some s at hs
        rw [lastOf_singleton] at hs
        split at hs
        · next hname =>
          subst hname
          cases hs
          rfl
        · cases hs
      · intro name plugin hs
        cases hs
      · intro name plugin hs
        cases hs
      · intro name hname
        cases hname
      · intro name entry hs
        cases hs

/-- A manifest whose second check plug-in conflicts with its first one. -/
def conflictingManifest : Linked where
  agentSections := [.silent .df .df]
  checkPlugins := [.idle .df "Filesystem %s" .filesystems, .idle .mounts "Mounts" .filesystems]

/-- **A failed registration is not undone**: the section stays. -/
theorem failed_register_keeps_part :
    ¬∀ (r : Registry) (l : Linked), r.InUse → (r.register l).conflict ≠ none →
      r.SameContent (r.register l).registry := by
  intro h
  have hempty : empty.InUse := .reached ⟨[], rfl⟩
  have hfails : (empty.register conflictingManifest).conflict ≠ none := by
    intro hnone
    cases hnone
  have hsame := (h empty conflictingManifest hempty hfails).findSection?_eq .df
  cases hsame

end Registry

end MonitoringPlugins
