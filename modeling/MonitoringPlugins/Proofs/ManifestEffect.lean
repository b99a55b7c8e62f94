/-
**What a manifest leaves behind.**

A manifest is registered in five rounds, for sections, rulesets of host labels, inventory plug-ins,
check plug-ins and rules, and the rounds write into the same stores: a section from SNMP takes the
place of an agent section of the same manifest, a check plug-in makes a ruleset known whose rules
come later, and all of it meets what the registry held before.  What comes out can be said without
the rounds.  Each look-up is answered by the last entry of the manifest for the name, and otherwise
as before.

Main definitions:

* `MonitoringPlugins.Linked.groundwork` — what a manifest registers before its check plug-ins;
* `MonitoringPlugins.Registry.WithManifest` — **a registry with the definitions of a manifest, and
  nothing else changed**.

Main results:

* `MonitoringPlugins.Linked.sections_registrations` and its siblings — what the registrations of a
  manifest are about;
* `MonitoringPlugins.Registry.InUse.register_effect` — **a manifest that is registered completely
  has this effect**.
-/

import MonitoringPlugins.Proofs.CheckRulesets
import MonitoringPlugins.Proofs.Contents

set_option autoImplicit false

namespace MonitoringPlugins

/-! ### The registrations of a manifest -/

namespace Linked

/-- What a manifest registers before its check plug-ins.  None of it can be refused. -/
def groundwork (l : Linked) : List Registration :=
  l.sections.map Registration.addSection ++
    l.hostLabelRulesets.map (Registration.declareRuleset .hostLabel) ++
    l.inventoryPlugins.map Registration.addInventory

theorem registrations_eq (l : Linked) :
    l.registrations = l.groundwork ++ l.checkPlugins.flatMap checkRegistrations ++
      l.rulesets.map l.ruleRegistration := rfl

/-- The discovery ruleset that a check plug-in makes known is no section, plug-in or rule. -/
theorem filterMap_checkRegistrations {α : Type} (pick : Registration → Option α)
    (hpick : ∀ name : RulesetName, pick (.declareRuleset .discovery name) = none)
    (plugins : List CheckPlugin) :
    (plugins.flatMap checkRegistrations).filterMap pick =
      plugins.filterMap fun p => pick (.addCheck p) := by
  induction plugins with
  | nil => rfl
  | cons p rest ih =>
      have hfirst : (checkRegistrations p).filterMap pick = (pick (.addCheck p)).toList := by
        rw [checkRegistrations, List.filterMap_append]
        cases hd : p.discoveryRuleset with
        | none => cases h : pick (.addCheck p) <;> simp [h]
        | some name => cases h : pick (.addCheck p) <;> simp [h, hpick]
      rw [List.flatMap_cons, List.filterMap_append, ih, hfirst, List.filterMap_cons]
      cases pick (.addCheck p) <;> rfl

theorem rulesets_checkRegistrations (plugins : List CheckPlugin) :
    (plugins.flatMap checkRegistrations).filterMap Registration.ruleset? =
      plugins.filterMap CheckPlugin.discoveryRuleset := by
  induction plugins with
  | nil => rfl
  | cons p rest ih =>
      rw [List.flatMap_cons, List.filterMap_append, ih, List.filterMap_cons, checkRegistrations]
      cases p.discoveryRuleset <;> rfl

section Registrations

variable (l : Linked)

theorem filterMap_registrations {α : Type} (pick : Registration → Option α)
    (hpick : ∀ name : RulesetName, pick (.declareRuleset .discovery name) = none) :
    l.registrations.filterMap pick =
      l.groundwork.filterMap pick ++ l.checkPlugins.filterMap (fun p => pick (.addCheck p)) ++
        l.rulesets.filterMap fun entry => pick (l.ruleRegistration entry) := by
  rw [registrations_eq, List.filterMap_append, List.filterMap_append,
    filterMap_checkRegistrations pick hpick, List.filterMap_map]
  rfl

theorem sections_registrations : l.registrations.filterMap Registration.section? = l.sections := by
  rw [filterMap_registrations l Registration.section? fun _ => rfl]
  simp [groundwork, ruleRegistration, Function.comp_def, Registration.section?]

theorem checkPlugins_registrations : checkPluginsOf l.registrations = l.checkPlugins := by
  rw [checkPluginsOf, filterMap_registrations l Registration.checkPlugin? fun _ => rfl]
  simp [groundwork, ruleRegistration, Function.comp_def, Registration.checkPlugin?]

theorem inventoryPlugins_registrations :
    l.registrations.filterMap Registration.inventoryPlugin? = l.inventoryPlugins := by
  rw [filterMap_registrations l Registration.inventoryPlugin? fun _ => rfl]
  simp [groundwork, ruleRegistration, Function.comp_def, Registration.inventoryPlugin?]

theorem rules_registrations : l.registrations.filterMap Registration.rules? = l.rulesets := by
  rw [filterMap_registrations l Registration.rules? fun _ => rfl]
  simp [groundwork, ruleRegistration, Function.comp_def, Registration.rules?]

/-- Rulesets are mentioned by sections, by check plug-ins for their discovery, and with rules. -/
theorem rulesets_registrations :
    l.registrations.filterMap Registration.ruleset? =
      l.hostLabelRulesets ++ l.checkPlugins.filterMap CheckPlugin.discoveryRuleset ++
        l.rulesets.map Prod.fst := by
  simp [registrations_eq, groundwork, rulesets_checkRegistrations, ruleRegistration,
    Function.comp_def, Registration.ruleset?]

theorem mem_rulesets_registrations {name : RulesetName} :
    name ∈ l.registrations.filterMap Registration.ruleset? ↔
      (∃ rules, (name, rules) ∈ l.rulesets) ∨
        (∃ x ∈ l.sections, x.profile.hostLabelRuleset = some name) ∨
          ∃ p ∈ l.checkPlugins, p.discoveryRuleset = some name := by
  have hrules : name ∈ l.rulesets.map Prod.fst ↔ ∃ rules, (name, rules) ∈ l.rulesets := by
    constructor
    · intro h
      obtain ⟨entry, hentry, rfl⟩ := List.mem_map.1 h
      exact ⟨entry.2, hentry⟩
    · rintro ⟨rules, hentry⟩
      exact List.mem_map.2 ⟨(name, rules), hentry, rfl⟩
  rw [rulesets_registrations, List.mem_append, List.mem_append, hrules, or_comm,
    Linked.hostLabelRulesets, List.mem_filterMap, List.mem_filterMap]

end Registrations

end Linked

/-! ### The effect -/

namespace Registry

/-- **A registry with the definitions of a manifest.**  Every look-up is answered by the last entry
of the manifest for the name, sections from SNMP before those of the agent, and otherwise as
before. -/
structure WithManifest (r : Registry) (l : Linked) (s : Registry) : Prop where
  findSection? : ∀ name : SectionName, s.findSection? name =
    ((lastOf (fun x : SnmpSection => x.name) l.snmpSections name).map Section.snmp).or
      (((lastOf (fun x : AgentSection => x.name) l.agentSections name).map Section.agent).or
        (r.findSection? name))
  /-- The producers are those of the sections that are found by name. -/
  coherent : s.Coherent
  checkPlugins : ∀ name : CheckPluginName, s.checkPlugins[name]? =
    (lastOf CheckPlugin.name l.checkPlugins name).or r.checkPlugins[name]?
  /-- The plug-ins of the manifest leave the groups of their earlier definitions and go to the
  end. -/
  members : ∀ ruleset : Option RulesetName, s.checkGroups.members ruleset =
    (r.checkGroups.members ruleset).filter (·.name ∉ l.checkPlugins.map CheckPlugin.name) ++
      (latest CheckPlugin.name l.checkPlugins).filter (·.checkRuleset = ruleset)
  inventoryPlugin? : ∀ name : InventoryPluginName, s.inventoryPlugin? name =
    (lastOf InventoryPlugin.name l.inventoryPlugins name).or (r.inventoryPlugin? name)
  rules : ∀ (use : RulesetUse) (name : RulesetName), s.rules use name =
    ((lastOf Prod.fst l.rulesets name).map Prod.snd).getD (r.rules use name)
  /-- A check or inventory ruleset is not known from being named. -/
  knowsRuleset : ∀ name : RulesetName, s.KnowsRuleset name ↔
    r.KnowsRuleset name ∨ (∃ rules, (name, rules) ∈ l.rulesets) ∨
      (∃ x ∈ l.sections, x.profile.hostLabelRuleset = some name) ∨
        ∃ p ∈ l.checkPlugins, p.discoveryRuleset = some name
  /-- The rulesets that were known keep their places. -/
  rulesetNames : ∀ use : RulesetUse, r.rulesetNames use <+: s.rulesetNames use

/-- The groups hold the latest of the plug-ins before and in a manifest. -/
theorem Grouped.members_append {r s : Registry} {before new : List CheckPlugin}
    (hr : r.Grouped (latest CheckPlugin.name before))
    (hs : s.Grouped (latest CheckPlugin.name (before ++ new))) (ruleset : Option RulesetName) :
    s.checkGroups.members ruleset =
      (r.checkGroups.members ruleset).filter (·.name ∉ new.map CheckPlugin.name) ++
        (latest CheckPlugin.name new).filter (·.checkRuleset = ruleset) := by
  rw [hs.members, hr.members, latest_append, List.filter_append, List.filter_filter,
    List.filter_filter]
  simp only [Bool.and_comm]

/-- **A manifest that is registered completely has this effect**, and no other. -/
theorem InUse.register_effect {r : Registry} (h : r.InUse) {l : Linked}
    (complete : (r.register l).conflict = none) : r.WithManifest l (r.register l).registry := by
  obtain ⟨done, hdone⟩ := reachable_iff_leads.1 h.reachable
  have hr := h.reachable.coherent
  have haccepted : r.accepted l.registrations = l.registrations :=
    accepted_eq_self (by rwa [conflict_register] at complete)
  rw [registry_register]
  have hleads := Leads.refl.performAll (r := r) l.registrations
  have hall := hdone.performAll l.registrations
  rw [haccepted, List.nil_append] at hleads
  rw [haccepted] at hall
  constructor
  · intro name
    rw [hleads.findSection?_eq hr, Linked.sections_registrations, Linked.sections, lastOf_append,
      lastOf_map, lastOf_map, Option.or_assoc]
    rfl
  · exact hleads.coherent hr
  · intro name
    rw [hleads.checkPlugins_eq hr, Linked.checkPlugins_registrations]
  · have hbefore := hdone.grouped
    have hafter := hall.grouped
    rw [latestCheckPlugins] at hbefore
    rw [latestCheckPlugins, checkPluginsOf, List.filterMap_append, ← checkPluginsOf,
      ← checkPluginsOf, Linked.checkPlugins_registrations] at hafter
    exact hbefore.members_append hafter
  · intro name
    exact (hleads.inventoryPlugins_eq hr name).trans
      (by rw [Linked.inventoryPlugins_registrations]; rfl)
  · intro use name
    exact (hleads.rules_eq hr name).trans (by rw [Linked.rules_registrations]; rfl)
  · intro name
    rw [hleads.knows_iff, Linked.mem_rulesets_registrations]
  · intro use
    exact hleads.names_prefix

/-- A manifest with a section of both sources, a section with host labels, and two definitions of
one check plug-in. -/
def diskManifest : Linked where
  agentSections := [.silent .df .df,
    { AgentSection.silent .disk .disk with hostLabelRuleset := some .groups }]
  snmpSections := [.silent .df .mounts]
  checkPlugins := [.idle .df "Filesystem %s" .filesystems, .idle .df "Filesystems" .filesystems]
  rulesets := [(.disk, [.obj []])]

/-- A run that sets the rules of the host labels and registers the section as it was before. -/
def earlierRun : List Operation :=
  [.registration (.setRuleset .hostLabel .groups [.obj []]),
    .registration (.addSection (.agent (.silent .df .disk)))]

theorem InUse.register_effect_diskManifest :
    (empty.run earlierRun).InUse ∧
      ((empty.run earlierRun).register diskManifest).conflict = none ∧
      ((empty.run earlierRun).register diskManifest).registry.findSection? .df =
        some (.snmp (.silent .df .mounts)) ∧
      ((empty.run earlierRun).register diskManifest).registry.rules .discovery .groups = [.obj []] ∧
      ((empty.run earlierRun).register diskManifest).registry.checkGroups.members
        (some .filesystems) = [.idle .df "Filesystems" .filesystems] ∧
      ¬((empty.run earlierRun).register diskManifest).registry.KnowsRuleset .filesystems := by
  have huse : (empty.run earlierRun).InUse := .reached ⟨earlierRun, rfl⟩
  have hcomplete : ((empty.run earlierRun).register diskManifest).conflict = none := by rfl
  have heffect := huse.register_effect hcomplete
  refine ⟨huse, hcomplete, (heffect.findSection? .df).trans (by rfl),
    (heffect.rules .discovery .groups).trans (by rfl), (heffect.members _).trans (by rfl), ?_⟩
  rw [heffect.knowsRuleset]
  rintro (hknown | ⟨rules, hrules⟩ | hlabel | hdiscovery)
  · exact absurd hknown (by decide)
  · have hname : Name.filesystems ∈ diskManifest.rulesets.map Prod.fst :=
      List.mem_map.2 ⟨_, hrules, rfl⟩
    exact absurd hname (by decide)
  · exact absurd hlabel (by decide)
  · exact absurd hdiscovery (by decide)

end Registry

end MonitoringPlugins
