/-
**Storing derived plug-ins.**

A check plug-in for a management board need not be registered: it is derived from the basic plug-in
whenever it is asked for.  A caller may register what it was given all the same, to keep it.  This
always succeeds, because the variant agrees with its basic plug-in on having an item and so with the
whole check ruleset, and nobody notices: the registered variant is what would have been derived.
Nor does it give rise to variants of its own, since a prefixed name is not prefixed again.

Main definitions:

* `MonitoringPlugins.Registry.SameQueries` — two registries answer every query alike.

Main results:

* `MonitoringPlugins.Registry.Coherent.name_of_derivedPlugin?` — a derived plug-in has the name that
  it was asked for by;
* `MonitoringPlugins.Registry.Grouped.conflict?_of_derivedPlugin?` — **a derived plug-in is never
  refused**;
* `MonitoringPlugins.Registry.Coherent.derivedPlugin?_eq_none` — there is no variant of a variant;
* `MonitoringPlugins.Registry.Coherent.derivedPlugin?_insert` — a registration changes one
  derivation at most;
* `MonitoringPlugins.Registry.InUse.addCheck_derived` — **a derived plug-in can be registered, and
  nobody notices**.
-/

import MonitoringPlugins.Proofs.Contents
import MonitoringPlugins.Proofs.CheckRulesets

set_option autoImplicit false

namespace MonitoringPlugins

namespace Registry

/-- **Two registries answer every query alike**, whatever is registered in them. -/
structure SameQueries (r s : Registry) : Prop where
  checkPlugin? : ∀ name : CheckPluginName, r.checkPlugin? name = s.checkPlugin? name
  inventoryPlugin? : ∀ name : InventoryPluginName, r.inventoryPlugin? name = s.inventoryPlugin? name
  findSection? : ∀ name : SectionName, r.findSection? name = s.findSection? name
  producers : ∀ parsed : ParsedSectionName, r.producers parsed = s.producers parsed
  needsRedetection : ∀ name : SectionName, r.needsRedetection name = s.needsRedetection name
  relevantSections : ∀ (checks : List CheckPluginName) (inventories : List InventoryPluginName),
    r.relevantSections checks inventories = s.relevantSections checks inventories
  knowsRuleset : ∀ name : RulesetName, r.KnowsRuleset name ↔ s.KnowsRuleset name
  rulesetNames : ∀ use : RulesetUse, r.rulesetNames use = s.rulesetNames use
  rules : ∀ (use : RulesetUse) (name : RulesetName), r.rules use name = s.rules use name

/-- Registries that differ in their check plug-ins only answer alike if they find the same of
these. -/
theorem SameQueries.of_checkPlugin? {r s : Registry}
    (hagent : r.agentSections = s.agentSections) (hsnmp : r.snmpSections = s.snmpSections)
    (hinventory : r.inventoryPlugins = s.inventoryPlugins) (hrulesets : r.rulesets = s.rulesets)
    (hindex : r.sectionIndex = s.sectionIndex)
    (hcheck : ∀ name : CheckPluginName, r.checkPlugin? name = s.checkPlugin? name) :
    r.SameQueries s := by
  have hfind (name : SectionName) : r.findSection? name = s.findSection? name := by
    rw [Snapshot.findSection?, hagent, hsnmp]
    rfl
  have hfound (name : InventoryPluginName) : r.inventoryPlugin? name = s.inventoryPlugin? name := by
    rw [Registry.inventoryPlugin?, hinventory]
    rfl
  constructor
  · exact hcheck
  · exact hfound
  · exact hfind
  · intro parsed
    rw [Registry.producers, hindex]
    rfl
  · intro name
    rw [Registry.needsRedetection, producedBy, hfind, hindex]
    rfl
  · intro checks inventories
    simp only [Registry.relevantSections, subscriptions, funext hcheck, funext hfound, hindex]
  · intro name
    rw [KnowsRuleset, hrulesets]
    rfl
  · intro use
    rw [Registry.rulesetNames, hrulesets]
    rfl
  · intro use name
    rw [Registry.rules, hrulesets]
    rfl

/-! ### Variants -/

variable {r : Registry} {name : CheckPluginName} {variant : CheckPlugin}

/-- **A derived plug-in has the name that it was asked for by**, and this is a management name. -/
theorem Coherent.name_of_derivedPlugin? (h : r.Coherent)
    (hd : r.derivedPlugin? name = some variant) : variant.name = name ∧ name.IsManagement := by
  obtain ⟨basicName, basic, hbasic, hfound, hvariant⟩ := derivedPlugin?_eq_some_iff.1 hd
  obtain ⟨managementName, hmanagement, rfl⟩ := CheckPlugin.managementVariant_eq_ok_iff.1 hvariant
  have hkey : basic.name = basicName := h.checkKey basicName basic hfound
  refine ⟨Name.ext ?_, CheckPluginName.isManagement_of_toBasic hbasic⟩
  calc managementName.text
      = managementPrefix ++ basic.name.text :=
        (CheckPluginName.toManagement_eq_ok_iff.1 hmanagement).2
    _ = managementPrefix ++ basicName.text := by rw [hkey]
    _ = name.text := (CheckPluginName.toBasic_eq_ok_iff.1 hbasic).symm

/-- A plug-in that has a variant is not registered under a management name. -/
theorem Coherent.not_isManagement_of_managementVariant (h : r.Coherent)
    {basicName : CheckPluginName} {basic : CheckPlugin}
    (hfound : r.checkPlugins[basicName]? = some basic)
    (hvariant : basic.managementVariant = .ok variant) : ¬basicName.IsManagement := by
  obtain ⟨managementName, hname, -⟩ := CheckPlugin.managementVariant_eq_ok_iff.1 hvariant
  rw [← h.checkKey basicName basic hfound]
  exact (CheckPluginName.toManagement_eq_ok_iff.1 hname).1

/-- **There is no variant of a variant**: a management name under another prefix has none. -/
theorem Coherent.derivedPlugin?_eq_none (h : r.Coherent) {basicName : CheckPluginName}
    (hbasic : CheckPluginName.toBasic name = .ok basicName) (hmanagement : basicName.IsManagement) :
    r.derivedPlugin? name = none := by
  rw [Option.eq_none_iff_forall_ne_some]
  intro found hd
  obtain ⟨otherName, basic, hother, hfound, hvariant⟩ := derivedPlugin?_eq_some_iff.1 hd
  obtain rfl : basicName = otherName := Except.ok.inj (hbasic.symm.trans hother)
  exact h.not_isManagement_of_managementVariant hfound hvariant hmanagement

/-- **A derived plug-in is never refused**: it shares check ruleset and item convention with its
basic plug-in, and this agrees with all others. -/
theorem Grouped.conflict?_of_derivedPlugin? {order : List CheckPlugin} (h : r.Grouped order)
    (hd : r.derivedPlugin? name = some variant) : r.checkGroups.conflict? variant = none := by
  obtain ⟨basicName, basic, -, hfound, hvariant⟩ := derivedPlugin?_eq_some_iff.1 hd
  have hmem : basic ∈ order := ((h.registered basicName basic).1 hfound).1
  rw [h.conflict?_eq_none_iff]
  intro p hp _ ruleset hruleset hsame
  rw [CheckPlugin.checkRuleset_managementVariant hvariant] at hruleset
  rw [CheckPlugin.hasItem_managementVariant hvariant]
  exact h.agree p hp basic hmem ruleset hsame hruleset

/-! ### Storing a variant -/

/-- **A registration changes one derivation at most**, that of the name under one prefix, and none
if the name has a prefix already. -/
theorem Coherent.derivedPlugin?_insert {s : Registry} (hr : r.Coherent) (hs : s.Coherent)
    (hmap : s.checkPlugins = r.checkPlugins.insert name variant) {other : CheckPluginName}
    (hother : name.IsManagement ∨ other.text ≠ managementPrefix ++ name.text) :
    s.derivedPlugin? other = r.derivedPlugin? other := by
  by_cases hbasic : CheckPluginName.toBasic other = .ok name
  · have hmanagement : name.IsManagement :=
      hother.resolve_right (not_not_intro (CheckPluginName.toBasic_eq_ok_iff.1 hbasic))
    rw [hs.derivedPlugin?_eq_none hbasic hmanagement, hr.derivedPlugin?_eq_none hbasic hmanagement]
  · refine derivedPlugin?_congr fun basicName hname => ?_
    have hne : basicName ≠ name := by
      rintro rfl
      exact hbasic hname
    rw [hmap, getElem?_insert_of_ne variant hne]

/-- A stored variant changes no derivation: it is the basic plug-in of nothing. -/
theorem Coherent.derivedPlugin?_of_insert {s : Registry} (hr : r.Coherent) (hs : s.Coherent)
    (hmanagement : name.IsManagement)
    (hmap : s.checkPlugins = r.checkPlugins.insert name variant) (other : CheckPluginName) :
    s.derivedPlugin? other = r.derivedPlugin? other :=
  hr.derivedPlugin?_insert hs hmap (.inl hmanagement)

/-- **A derived plug-in can be registered, and nobody notices**: every query is answered as before,
and names with a further prefix stay unknown. -/
theorem InUse.addCheck_derived (h : r.InUse) (hname : ¬r.IsCheckPlugin name)
    (hv : r.checkPlugin? name = some variant) :
    ∃ s, r.addCheck variant = .ok s ∧ s.IsCheckPlugin name ∧ r.SameQueries s ∧
      ∀ other basicName : CheckPluginName, CheckPluginName.toBasic other = .ok basicName →
        basicName.IsManagement → ¬r.IsCheckPlugin other → s.checkPlugin? other = none := by
  obtain ⟨done, hdone⟩ := reachable_iff_leads.1 h.reachable
  have hr := h.reachable.coherent
  have hnone : r.checkPlugins[name]? = none := Std.ExtTreeMap.getElem?_eq_none hname
  have hd : r.derivedPlugin? name = some variant := by
    rwa [checkPlugin?, hnone] at hv
  obtain ⟨rfl, hmanagement⟩ := hr.name_of_derivedPlugin? hd
  have hok := addCheck_eq_ok_iff.2 ⟨hdone.grouped.conflict?_of_derivedPlugin? hd, rfl⟩
  have hs := hr.perform (a := .addCheck variant) hok
  have hderived := hr.derivedPlugin?_of_insert hs hmanagement rfl
  have hqueries : r.SameQueries { r with
      checkPlugins := r.checkPlugins.insert variant.name variant
      checkGroups := (r.groupsWithout variant.name).push variant } := by
    refine .of_checkPlugin? rfl rfl rfl rfl rfl fun other => ?_
    by_cases hsame : variant.name = other
    · subst hsame
      rw [hv, checkPlugin?_of_registered Std.ExtTreeMap.getElem?_insert_self]
    · unfold checkPlugin?
      rw [hderived, Std.ExtTreeMap.getElem?_insert, if_neg]
      rwa [Std.LawfulEqCmp.compare_eq_iff_eq]
  refine ⟨_, hok, Std.ExtTreeMap.mem_insert_self, hqueries, ?_⟩
  intro other basicName hbasic hprefixed hother
  have habsent : r.checkPlugins[other]? = none := Std.ExtTreeMap.getElem?_eq_none hother
  rw [← hqueries.checkPlugin?, checkPlugin?, habsent]
  exact hr.derivedPlugin?_eq_none hbasic hprefixed

/-- Storing the management board variant of the plug-in of a run. -/
theorem InUse.addCheck_derived_diskRun :
    (empty.run diskRun).InUse ∧ ¬(empty.run diskRun).IsCheckPlugin diskBoardPlugin.name ∧
      (empty.run diskRun).checkPlugin? diskBoardPlugin.name = some diskBoardPlugin ∧
      ∃ s, (empty.run diskRun).addCheck diskBoardPlugin = .ok s ∧
        s.IsCheckPlugin diskBoardPlugin.name ∧ (empty.run diskRun).SameQueries s ∧
        s.checkPlugin? ⟨"mgmt_mgmt_df", by decide⟩ = none := by
  have huse : (empty.run diskRun).InUse := .reached ⟨diskRun, rfl⟩
  have hname : ¬(empty.run diskRun).IsCheckPlugin diskBoardPlugin.name := by decide
  have hfound : (empty.run diskRun).checkPlugin? diskBoardPlugin.name = some diskBoardPlugin := by
    rfl
  obtain ⟨s, hok, hstored, hqueries, hprefixed⟩ := huse.addCheck_derived hname hfound
  exact ⟨huse, hname, hfound, s, hok, hstored, hqueries,
    hprefixed _ diskBoardPlugin.name (by rfl) (by decide) (by decide)⟩

end Registry

end MonitoringPlugins
