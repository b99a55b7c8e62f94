/-
**Manifests in two parts.**

A large manifest may be split and its parts registered one after the other, the second one if the
first one is registered completely.  The rounds of the two are interleaved differently then: the
rules of the first part are stored before the sections and rulesets of the second one are declared,
and its check plug-ins before the inventory plug-ins of the second one.  It makes no difference.  A
conflict is one between check plug-ins, which come in the same order either way; a declaration keeps
the rules that are there; and each other name is settled by its last definition, which is the same
one.

There is one exception.  A manifest registers its sections from SNMP after those of the agent, so a
section that the first part takes from SNMP and the second one from the agent ends up with the other
source if the manifest is not split.

Main definitions:

* `MonitoringPlugins.Linked.append` — the definitions of two manifests in one, list by list;
* `MonitoringPlugins.Registry.registerBoth` — registering two manifests one after the other.

Main results:

* `MonitoringPlugins.Registry.sameChecks_registerBoth` — both ways refuse the same check plug-in and
  group all others alike;
* `MonitoringPlugins.Registry.InUse.registerBoth_append` — **splitting a manifest changes nothing**,
  if no section goes from SNMP to the agent.
-/

import MonitoringPlugins.Proofs.FailedManifest

set_option autoImplicit false

namespace MonitoringPlugins

/-! ### Two manifests in one -/

namespace Linked

/-- The definitions of two manifests in one, list by list. -/
def append (a b : Linked) : Linked where
  agentSections := a.agentSections ++ b.agentSections
  snmpSections := a.snmpSections ++ b.snmpSections
  checkPlugins := a.checkPlugins ++ b.checkPlugins
  inventoryPlugins := a.inventoryPlugins ++ b.inventoryPlugins
  rulesets := a.rulesets ++ b.rulesets

instance : Append Linked := ⟨append⟩

variable (a b : Linked)

@[simp] theorem agentSections_append :
    (a ++ b).agentSections = a.agentSections ++ b.agentSections := rfl

@[simp] theorem snmpSections_append :
    (a ++ b).snmpSections = a.snmpSections ++ b.snmpSections := rfl

@[simp] theorem checkPlugins_append :
    (a ++ b).checkPlugins = a.checkPlugins ++ b.checkPlugins := rfl

@[simp] theorem inventoryPlugins_append :
    (a ++ b).inventoryPlugins = a.inventoryPlugins ++ b.inventoryPlugins := rfl

@[simp] theorem rulesets_append : (a ++ b).rulesets = a.rulesets ++ b.rulesets := rfl

theorem mem_sections_append {x : Section} :
    x ∈ (a ++ b).sections ↔ x ∈ a.sections ∨ x ∈ b.sections := by
  simp only [sections, agentSections_append, snmpSections_append, List.map_append, List.mem_append]
  exact or_or_or_comm

/-- Both parts together mention the rulesets that the whole mentions. -/
theorem mem_rulesets_append {name : RulesetName} :
    name ∈ (a ++ b).registrations.filterMap Registration.ruleset? ↔
      name ∈ a.registrations.filterMap Registration.ruleset? ∨
        name ∈ b.registrations.filterMap Registration.ruleset? := by
  simp only [mem_rulesets_registrations, rulesets_append, checkPlugins_append, mem_sections_append,
    List.mem_append, or_and_right, exists_or]
  exact (or_or_or_comm.trans (or_congr_right or_or_or_comm)).symm

end Linked

/-- Two parts may be exchanged if they have no key in common. -/
theorem lastOf_append_comm {α κ : Type} [DecidableEq κ] {key : α → κ} {first second : List α}
    (h : ∀ a ∈ first, ∀ b ∈ second, key a ≠ key b) (k : κ) :
    lastOf key (first ++ second) k = lastOf key (second ++ first) k := by
  rw [lastOf_append, lastOf_append]
  by_cases hfirst : k ∈ first.map key
  · have hsecond : k ∉ second.map key := by
      intro hmem
      obtain ⟨a, ha, rfl⟩ := List.mem_map.1 hfirst
      obtain ⟨b, hb, hkey⟩ := List.mem_map.1 hmem
      exact h a ha b hb hkey.symm
    rw [(lastOf_eq_none_iff key).2 hsecond, Option.none_or, Option.or_none]
  · rw [(lastOf_eq_none_iff key).2 hfirst, Option.none_or, Option.or_none]

/-- If no section goes from SNMP to the agent, the last definition of a section is the same, whether
the sources are told apart in each part or over both. -/
theorem Linked.lastOf_sections_append {a b : Linked}
    (hsources : ∀ s ∈ a.snmpSections, ∀ t ∈ b.agentSections, s.name ≠ t.name)
    (name : SectionName) :
    lastOf Section.name (a.sections ++ b.sections) name =
      lastOf Section.name (a ++ b).sections name := by
  have hmiddle : lastOf Section.name
        (a.snmpSections.map Section.snmp ++ b.agentSections.map Section.agent) name =
      lastOf Section.name
        (b.agentSections.map Section.agent ++ a.snmpSections.map Section.snmp) name := by
    refine lastOf_append_comm ?_ name
    intro x hx y hy
    obtain ⟨s, hs, rfl⟩ := List.mem_map.1 hx
    obtain ⟨t, ht, rfl⟩ := List.mem_map.1 hy
    exact hsources s hs t ht
  -- of the four lists the two in the middle change places
  have hparts : a.sections ++ b.sections = a.agentSections.map Section.agent ++
      (a.snmpSections.map Section.snmp ++ b.agentSections.map Section.agent) ++
        b.snmpSections.map Section.snmp := by
    simp only [sections, List.append_assoc]
  have hwhole : (a ++ b).sections = a.agentSections.map Section.agent ++
      (b.agentSections.map Section.agent ++ a.snmpSections.map Section.snmp) ++
        b.snmpSections.map Section.snmp := by
    simp only [sections, agentSections_append, snmpSections_append, List.map_append,
      List.append_assoc]
  rw [hparts, hwhole, lastOf_append, lastOf_append _ (a.agentSections.map Section.agent), hmiddle,
    ← lastOf_append, ← lastOf_append]

/-! ### One after the other -/

namespace Registry

/-- Registers the definitions of two manifests one after the other, the second ones if the first
ones are registered completely. -/
def registerBoth (r : Registry) (a b : Linked) : Progress :=
  let first := r.register a
  match first.conflict with
  | some _ => first
  | none =>
    let later := first.registry.register b
    { later with events := first.events ++ later.events }

/-- Registering two manifests comes to the registrations of the one and then of the other. -/
theorem registerBoth_eq (r : Registry) (a b : Linked) :
    (r.registerBoth a b).registry =
        (r.performAll (a.registrations ++ b.registrations)).registry ∧
      (r.registerBoth a b).conflict =
        (r.performAll (a.registrations ++ b.registrations)).conflict := by
  unfold registerBoth
  cases ha : (r.performAll a.registrations).conflict with
  | some c =>
      rw [performAll_append_of_some ha]
      simp only [conflict_register, ha, registry_register, and_self]
  | none =>
      obtain ⟨hregistry, hconflict⟩ := performAll_append_of_none ha b.registrations
      rw [hregistry, hconflict]
      simp only [conflict_register, ha, registry_register, and_self]

/-- **Both ways refuse the same check plug-in**, or none, and group all plug-ins before it alike. -/
theorem sameChecks_registerBoth (r : Registry) (a b : Linked) :
    (r.registerBoth a b).registry.SameChecks (r.register (a ++ b)).registry ∧
      (r.registerBoth a b).conflict = (r.register (a ++ b)).conflict := by
  obtain ⟨hregistry, hconflict⟩ := r.registerBoth_eq a b
  have hplugins : checkPluginsOf (a.registrations ++ b.registrations) =
      checkPluginsOf (a ++ b).registrations := by
    rw [checkPluginsOf_append, Linked.checkPlugins_registrations, Linked.checkPlugins_registrations,
      Linked.checkPlugins_registrations, Linked.checkPlugins_append]
  rw [hregistry, hconflict, registry_register, conflict_register]
  exact r.sameChecks_performAll hplugins

theorem sameContent_registerBoth {r : Registry} (hr : r.Coherent) {a b : Linked}
    (hsources : ∀ s ∈ a.snmpSections, ∀ t ∈ b.agentSections, s.name ≠ t.name)
    (complete : (r.register (a ++ b)).conflict = none) :
    (r.registerBoth a b).registry.SameContent (r.register (a ++ b)).registry := by
  obtain ⟨hchecks, hconflict⟩ := r.sameChecks_registerBoth a b
  obtain ⟨hregistry, hconflict'⟩ := r.registerBoth_eq a b
  rw [complete, hconflict'] at hconflict
  rw [conflict_register] at complete
  have hboth := leads_performAll hconflict
  have hone := leads_performAll complete
  rw [← hregistry] at hboth
  rw [← registry_register] at hone
  refine .of_lookups (hboth.coherent hr) (hone.coherent hr) ?_ ?_ ?_ ?_ ?_
  · intro name
    rw [hboth.findSection?_eq hr, hone.findSection?_eq hr, List.filterMap_append,
      Linked.sections_registrations, Linked.sections_registrations, Linked.sections_registrations,
      Linked.lastOf_sections_append hsources]
  · intro name
    rw [hchecks.checkPlugins]
  · intro name
    rw [hboth.inventoryPlugins_eq hr, hone.inventoryPlugins_eq hr, List.filterMap_append,
      Linked.inventoryPlugins_registrations, Linked.inventoryPlugins_registrations,
      Linked.inventoryPlugins_registrations, Linked.inventoryPlugins_append]
  · intro name
    rw [hboth.knows_iff, hone.knows_iff, List.filterMap_append, List.mem_append,
      Linked.mem_rulesets_append]
  · intro name
    rw [hboth.rules_eq hr, hone.rules_eq hr, List.filterMap_append, Linked.rules_registrations,
      Linked.rules_registrations, Linked.rules_registrations, Linked.rulesets_append]

/-- **Splitting a manifest changes nothing**, if no section goes from SNMP to the agent: the parts
are refused exactly if the whole is, with the same conflict, and otherwise both registries hold the
same. -/
theorem InUse.registerBoth_append {r : Registry} (h : r.InUse) {a b : Linked}
    (hsources : ∀ s ∈ a.snmpSections, ∀ t ∈ b.agentSections, s.name ≠ t.name) :
    (r.registerBoth a b).conflict = (r.register (a ++ b)).conflict ∧
      (r.registerBoth a b).registry.checkGroups = (r.register (a ++ b)).registry.checkGroups ∧
      ((r.register (a ++ b)).conflict = none →
        (r.registerBoth a b).registry.SameContent (r.register (a ++ b)).registry) := by
  obtain ⟨hchecks, hconflict⟩ := r.sameChecks_registerBoth a b
  exact ⟨hconflict, hchecks.checkGroups, sameContent_registerBoth h.reachable.coherent hsources⟩

/-- A part with a section of each source, a plug-in with items, and rules. -/
def firstPart : Linked where
  agentSections := [.silent .df .df]
  snmpSections := [.silent .disk .df]
  checkPlugins := [.idle .df "Filesystem %s" .filesystems]
  rulesets := [(.groups, [.obj [], .obj []])]

/-- A part that names the ruleset of these rules for host labels, takes the section from SNMP, and
defines the plug-in without items. -/
def secondPart : Linked where
  agentSections := [{ AgentSection.silent .mounts .mounts with hostLabelRuleset := some .groups }]
  snmpSections := [.silent .df .mounts]
  checkPlugins := [.idle .df "Filesystems" .filesystems, .idle .mounts "Mounts" .filesystems]

/-- The second part is accepted after the first one and keeps its rules; a manifest that does not
define the plug-in anew is refused. -/
theorem InUse.registerBoth_append_parts :
    (empty.run earlierRun).InUse ∧
      (∀ s ∈ firstPart.snmpSections, ∀ t ∈ secondPart.agentSections, s.name ≠ t.name) ∧
      ((empty.run earlierRun).registerBoth firstPart secondPart).conflict = none ∧
      ((empty.run earlierRun).registerBoth firstPart secondPart).registry.SameContent
        ((empty.run earlierRun).register (firstPart ++ secondPart)).registry ∧
      ((empty.run earlierRun).registerBoth firstPart secondPart).registry.rules .hostLabel .groups =
        [.obj [], .obj []] ∧
      ((empty.run earlierRun).registerBoth firstPart itemlessManifest).conflict =
        some ⟨.filesystems, .mounts, [.df], .requires⟩ := by
  have huse : (empty.run earlierRun).InUse := .reached ⟨earlierRun, rfl⟩
  have hsecond : ∀ s ∈ firstPart.snmpSections, ∀ t ∈ secondPart.agentSections, s.name ≠ t.name := by
    simp [firstPart, secondPart, SnmpSection.silent, AgentSection.silent, Name.disk, Name.mounts]
  have hitemless :
      ∀ s ∈ firstPart.snmpSections, ∀ t ∈ itemlessManifest.agentSections, s.name ≠ t.name := by
    simp [firstPart, itemlessManifest, SnmpSection.silent, AgentSection.silent, Name.disk, Name.df]
  obtain ⟨hconflict, -, hsame⟩ := huse.registerBoth_append hsecond
  have hcomplete : ((empty.run earlierRun).register (firstPart ++ secondPart)).conflict = none := by
    rfl
  have hcontent := hsame hcomplete
  refine ⟨huse, hsecond, hconflict.trans hcomplete, hcontent, ?_, ?_⟩
  · exact (hcontent.rules .groups).trans (by rfl)
  · exact (huse.registerBoth_append hitemless).1.trans (by rfl)

/-- A section that goes from SNMP to the agent does so only if the manifest is split. -/
example :
    let a : Linked := { snmpSections := [.silent .df .df] }
    let b : Linked := { agentSections := [.silent .df .df] }
    (empty.registerBoth a b).registry.findSection? .df = some (.agent (.silent .df .df)) ∧
      (empty.register (a ++ b)).registry.findSection? .df = some (.snmp (.silent .df .df)) :=
  ⟨by rfl, by rfl⟩

end Registry

end MonitoringPlugins
