/-
**Loading a manifest again.**

A manifest that was registered completely may be registered once more, for instance because a site
reloads its files.  Nothing is refused then and nothing changes, not even the places of plug-ins and
rulesets.  On the way there is some movement: a section that the manifest takes from both sources
goes to the agent and back to SNMP, and each check plug-in leaves its group and joins it again.

That no check plug-in is refused follows from the groups alone.  Each of them is there already and
agrees with all the others, and it stays so when one of them goes to the end.  It takes distinct
names: an earlier definition that the manifest itself replaces is not there any more.

Main results:

* `MonitoringPlugins.Rulesets.ext_of_nodup` — names in order and rules by name determine rulesets;
* `MonitoringPlugins.Registry.Grouped.conflict_performAll_of_mem` — **what is registered is never
  refused when it is registered again**;
* `MonitoringPlugins.Registry.Leads.eq_of_again` — **registrations that are accepted twice in a row
  change nothing the second time**;
* `MonitoringPlugins.Registry.InUse.register_again` — **registering a manifest again changes
  nothing**.
-/

import MonitoringPlugins.Proofs.Alike
import MonitoringPlugins.Proofs.FailedManifest

set_option autoImplicit false

namespace MonitoringPlugins

/-- Elements that are added once more replace themselves. -/
theorem latest_append_again {α κ : Type} [DecidableEq κ] (key : α → κ) (items new : List α) :
    latest key (items ++ new ++ new) = latest key (items ++ new) := by
  have hnone : (latest key new).filter (key · ∉ new.map key) = [] := by
    rw [List.filter_eq_nil_iff]
    intro a ha
    have hmem : key a ∈ new.map key := List.mem_map_of_mem ((latest_sublist key new).subset ha)
    simpa using hmem
  rw [latest_append, latest_append, List.filter_append, hnone, List.append_nil, List.filter_filter]
  simp only [Bool.and_self]

/-! ### Rulesets -/

namespace Rulesets

/-- Where no name comes twice, the entries are known from the names and the rules. -/
theorem entries_eq_of_nodup {r : Rulesets} (h : r.names.Nodup) :
    r.entries = r.names.map fun name => (name, r.rules name) := by
  obtain ⟨entries⟩ := r
  change entries = (entries.map (·.1)).map fun name => (name, rulesIn name entries)
  change (entries.map (·.1)).Nodup at h
  induction entries with
  | nil => rfl
  | cons entry rest ih =>
      rw [List.map_cons, List.nodup_cons] at h
      have hrest : (rest.map (·.1)).map (fun name => (name, rulesIn name (entry :: rest))) =
          (rest.map (·.1)).map fun name => (name, rulesIn name rest) := by
        refine List.map_congr_left fun name hname => ?_
        have hne : entry.1 ≠ name := fun he => h.1 (he ▸ hname)
        rw [rulesIn, if_neg hne]
      rw [List.map_cons, List.map_cons, hrest, ← ih h.2, rulesIn, if_pos rfl]

/-- **Names in order and rules by name determine rulesets**, where no name comes twice. -/
theorem ext_of_nodup {r s : Rulesets} (hr : r.names.Nodup) (hnames : r.names = s.names)
    (hrules : ∀ name, r.rules name = s.rules name) : r = s := by
  have hentries : r.entries = s.entries := by
    rw [entries_eq_of_nodup hr, entries_eq_of_nodup (hnames ▸ hr), hnames]
    simp only [hrules]
  obtain ⟨entries⟩ := r
  exact congrArg Rulesets.mk hentries

/-- A mention adds a name once at most. -/
theorem nodup_names_set {r : Rulesets} (h : r.names.Nodup) (name : RulesetName)
    (rules : List Rule) : (r.set name rules).names.Nodup := by
  rw [names_set]
  split
  · exact h
  · next hnew =>
    rw [List.nodup_append_comm, List.singleton_append, List.nodup_cons]
    exact ⟨hnew, h⟩

theorem nodup_names_declare {r : Rulesets} (h : r.names.Nodup) (name : RulesetName) :
    (r.declare name).names.Nodup := by
  rw [names_declare, ← names_set r name []]
  exact nodup_names_set h name []

end Rulesets

namespace Registration

variable {a : Registration} {rulesets : Rulesets}

theorem nodup_names_amend (h : rulesets.names.Nodup) (a : Registration) :
    (a.amend rulesets).names.Nodup := by
  cases a with
  | declareRuleset use name => exact Rulesets.nodup_names_declare h name
  | setRuleset use name rules => exact Rulesets.nodup_names_set h name rules
  | addSection new => exact h
  | addCheck new => exact h
  | addInventory new => exact h

/-- Mentioning a known ruleset adds no name. -/
theorem names_amend_of_knows (h : ∀ name ∈ a.ruleset?, rulesets.Knows name) :
    (a.amend rulesets).names = rulesets.names := by
  cases a with
  | declareRuleset use name => rw [amend, Rulesets.names_declare, if_pos (h name rfl)]
  | setRuleset use name rules => rw [amend, Rulesets.names_set, if_pos (h name rfl)]
  | addSection new => rfl
  | addCheck new => rfl
  | addInventory new => rfl

end Registration

namespace Registry

variable {r s : Registry} {done : List Registration}

/-- No ruleset is known twice. -/
theorem Leads.nodup_names (h : r.Leads done s) (hr : r.rulesets.names.Nodup) :
    s.rulesets.names.Nodup := by
  induction h with
  | refl => exact hr
  | step a _ ok ih =>
      rw [rulesets_perform ok]
      exact Registration.nodup_names_amend ih a

/-- Registrations that mention known rulesets only add no name. -/
theorem Leads.names_eq_of_knows (h : r.Leads done s)
    (hknown : ∀ name ∈ done.filterMap Registration.ruleset?, r.KnowsRuleset name) :
    s.rulesets.names = r.rulesets.names := by
  induction h with
  | refl => rfl
  | @step done s s' a _ ok ih =>
      rw [List.filterMap_append] at hknown
      have hbefore := ih fun name hname => hknown name (List.mem_append_left _ hname)
      have hlast : ∀ name ∈ a.ruleset?, s.rulesets.Knows name := by
        intro name hname
        have hmem : name ∈ [a].filterMap Registration.ruleset? :=
          List.mem_filterMap.2 ⟨a, List.mem_singleton_self a, hname⟩
        rw [Rulesets.Knows, hbefore]
        exact hknown name (List.mem_append_right _ hmem)
      rw [rulesets_perform ok, Registration.names_amend_of_knows hlast, hbefore]

end Registry

/-! ### Groups of check plug-ins -/

namespace CheckGroups

variable {groups : CheckGroups}

/-- A withdrawal takes no group away. -/
theorem mem_withdraw {ruleset other : Option RulesetName} {name : CheckPluginName} :
    other ∈ groups.withdraw ruleset name ↔ other ∈ groups := by
  unfold withdraw
  split
  · next group h =>
    rw [Std.ExtTreeMap.mem_insert, Std.LawfulEqCmp.compare_eq_iff_eq]
    have hthere : ruleset ∈ groups :=
      Std.ExtTreeMap.mem_iff_isSome_getElem?.2 (by rw [h, Option.isSome_some])
    constructor
    · rintro (rfl | hother)
      · exact hthere
      · exact hother
    · exact .inr
  · rfl

theorem mem_push {plugin : CheckPlugin} {ruleset : Option RulesetName} :
    ruleset ∈ groups.push plugin ↔ plugin.checkRuleset = ruleset ∨ ruleset ∈ groups := by
  rw [push, Std.ExtTreeMap.mem_insert, Std.LawfulEqCmp.compare_eq_iff_eq]

/-- Groups are known from what they are there for and from their members. -/
theorem ext_of_members {groups others : CheckGroups}
    (hmem : ∀ ruleset, ruleset ∈ groups ↔ ruleset ∈ others)
    (hmembers : ∀ ruleset, groups.members ruleset = others.members ruleset) : groups = others := by
  refine Std.ExtTreeMap.ext_getElem? fun ruleset => ?_
  have hsome := hmembers ruleset
  simp only [members, Std.ExtTreeMap.getD_eq_getD_getElem?] at hsome
  have hiff := hmem ruleset
  rw [Std.ExtTreeMap.mem_iff_isSome_getElem?, Std.ExtTreeMap.mem_iff_isSome_getElem?] at hiff
  cases hg : groups[ruleset]? with
  | none =>
      rw [hg] at hiff
      cases ho : others[ruleset]? with
      | none => rfl
      | some other =>
          rw [ho] at hiff
          cases hiff.2 rfl
  | some group =>
      rw [hg] at hiff hsome
      obtain ⟨other, ho⟩ := Option.isSome_iff_exists.1 (hiff.1 rfl)
      rw [ho] at hsome ⊢
      exact congrArg some hsome

end CheckGroups

namespace Registry

variable {r s : Registry} {done : List Registration}

theorem mem_groupsWithout {name : CheckPluginName} {ruleset : Option RulesetName} :
    ruleset ∈ r.groupsWithout name ↔ ruleset ∈ r.checkGroups := by
  unfold groupsWithout
  split
  · exact CheckGroups.mem_withdraw
  · rfl

/-- **A check ruleset has a group from its first plug-in on**, even if all of them leave it. -/
theorem Leads.mem_checkGroups (h : r.Leads done s) {ruleset : Option RulesetName} :
    ruleset ∈ s.checkGroups ↔
      ruleset ∈ r.checkGroups ∨ ∃ p ∈ checkPluginsOf done, p.checkRuleset = ruleset := by
  induction h with
  | refl => simp [checkPluginsOf]
  | @step done s s' a _ ok ih =>
      cases ha : a.checkPlugin? with
      | none =>
          obtain ⟨t, ht, hsame⟩ := s.exists_perform_of_other ha
          rw [ok] at ht
          cases ht
          have hskip : checkPluginsOf (done ++ [a]) = checkPluginsOf done := by
            rw [checkPluginsOf_append, checkPluginsOf, checkPluginsOf, List.filterMap_cons_none ha,
              List.filterMap_nil, List.append_nil]
          rw [hskip, ← hsame.checkGroups, ih]
      | some new =>
          obtain rfl := Registration.checkPlugin?_eq_some_iff.1 ha
          obtain ⟨-, rfl⟩ := addCheck_eq_ok_iff.1 ok
          have hkeep : checkPluginsOf (done ++ [.addCheck new]) = checkPluginsOf done ++ [new] :=
            checkPluginsOf_append done [.addCheck new]
          dsimp only
          rw [hkeep, CheckGroups.mem_push, mem_groupsWithout, ih]
          simp only [List.mem_append, List.mem_singleton, or_and_right, exists_or, exists_eq_left]
          rw [or_comm, or_assoc]

/-! ### Nothing is refused -/

/-- A plug-in of a list that is registered agrees with the others, so it is not refused. -/
theorem Grouped.conflict?_of_mem {order : List CheckPlugin} (h : r.Grouped order) {p : CheckPlugin}
    (hp : p ∈ order) : r.checkGroups.conflict? p = none := by
  rw [h.conflict?_eq_none_iff]
  intro q hq _ ruleset hruleset hsame
  exact h.agree q hq p hp ruleset hsame hruleset

/-- **What is registered is never refused when it is registered again**, and stays registered
meanwhile. -/
theorem Grouped.conflict_performAll_of_mem {order : List CheckPlugin} (h : r.Grouped order)
    {plugins : List CheckPlugin} (hplugins : ∀ p ∈ plugins, p ∈ order) :
    (r.performAll (plugins.map .addCheck)).conflict = none := by
  induction plugins generalizing r order with
  | nil => rfl
  | cons p rest ih =>
      obtain ⟨hp, hrest⟩ := List.forall_mem_cons.1 hplugins
      obtain ⟨r', hok⟩ : ∃ r', r.addCheck p = .ok r' :=
        ⟨_, addCheck_eq_ok_iff.2 ⟨h.conflict?_of_mem hp, rfl⟩⟩
      have hperform : (Registration.addCheck p).perform r = .ok r' := hok
      rw [List.map_cons, performAll_cons_ok _ hperform]
      refine ih (h.addCheck hok) fun q hq => ?_
      -- whoever shares its name with `p` is `p` itself, and has gone to the end
      by_cases hname : q.name = p.name
      · have hsame : q = p := List.inj_on_of_nodup_map h.nodup (hrest q hq) hp hname
        rw [hsame]
        exact List.mem_append_right _ (List.mem_singleton_self p)
      · refine List.mem_append_left _ (List.mem_filter.2 ⟨hrest q hq, ?_⟩)
        simpa using hname

/-! ### Nothing changes -/

/-- **Registrations leave what they would leave again.** -/
theorem Leads.holds (h : r.Leads done s) (hr : r.Coherent) : s.Holds done where
  sections name found hfound := by rw [h.findSection?_eq hr, hfound, Option.some_or]
  checkPlugins name found hfound := by rw [h.checkPlugins_eq hr, hfound, Option.some_or]
  inventoryPlugins name found hfound := by rw [h.inventoryPlugins_eq hr, hfound, Option.some_or]
  rulesets name hname := (h.knows_iff name).2 (.inr hname)
  rules name entry hentry := by
    rw [h.rules_eq hr, hentry]
    rfl

/-- What is registered twice in a row has the same place after the second time. -/
theorem latestCheckPlugins_append_again (before as : List Registration) :
    latestCheckPlugins (before ++ as ++ as) = latestCheckPlugins (before ++ as) := by
  simp only [latestCheckPlugins, checkPluginsOf_append]
  exact latest_append_again CheckPlugin.name _ _

/-- **Registrations that are accepted twice in a row change nothing the second time.** -/
theorem Leads.eq_of_again {t : Registry} {before as : List Registration}
    (hbefore : empty.Leads before r) (hfirst : r.Leads as s) (hagain : s.Leads as t) : t = s := by
  have hr := hbefore.coherent .empty
  have hcontent : s.SameContent t :=
    (hagain.sameContent_iff_holds (hfirst.coherent hr)).2 (hfirst.holds hr)
  have hrulesets : t.rulesets = s.rulesets := by
    have hknown : ∀ name ∈ as.filterMap Registration.ruleset?, s.KnowsRuleset name := by
      intro name hname
      exact (hfirst.knows_iff name).2 (.inr hname)
    have hnodup : t.rulesets.names.Nodup :=
      ((hbefore.trans hfirst).trans hagain).nodup_names List.nodup_nil
    exact Rulesets.ext_of_nodup hnodup (hagain.names_eq_of_knows hknown)
      fun name => (hcontent.rules name).symm
  have hgroups : t.checkGroups = s.checkGroups := by
    have hs := (hbefore.trans hfirst).grouped
    have ht := ((hbefore.trans hfirst).trans hagain).grouped
    rw [latestCheckPlugins_append_again] at ht
    refine CheckGroups.ext_of_members (fun ruleset => ?_) fun ruleset => ?_
    · rw [hagain.mem_checkGroups, hfirst.mem_checkGroups, or_assoc, or_self]
    · rw [ht.members, hs.members]
  obtain ⟨snapshot, rulesets, groups, index⟩ := t
  obtain rfl : snapshot = s.toSnapshot := hcontent.snapshot.symm
  obtain rfl : index = s.sectionIndex := hcontent.sectionIndex.symm
  obtain rfl : rulesets = s.rulesets := hrulesets
  obtain rfl : groups = s.checkGroups := hgroups
  rfl

/-- **Registering a manifest again changes nothing.**  If its check plug-ins have distinct names and
it was registered completely, it is registered completely once more, and the registry is the
same. -/
theorem InUse.register_again {r : Registry} (h : r.InUse) {l : Linked}
    (hnames : (l.checkPlugins.map CheckPlugin.name).Nodup)
    (complete : (r.register l).conflict = none) :
    ((r.register l).registry.register l).conflict = none ∧
      ((r.register l).registry.register l).registry = (r.register l).registry := by
  obtain ⟨done, hdone⟩ := reachable_iff_leads.1 h.reachable
  rw [conflict_register] at complete
  rw [conflict_register, registry_register, registry_register]
  have hfirst := leads_performAll complete
  generalize (r.performAll l.registrations).registry = s at hfirst ⊢
  have hplugins : ∀ p ∈ l.checkPlugins, p ∈ latestCheckPlugins (done ++ l.registrations) := by
    intro p hp
    rw [latestCheckPlugins, checkPluginsOf_append, Linked.checkPlugins_registrations, latest_append,
      latest_eq_self _ hnames]
    exact List.mem_append_right _ hp
  have hnone : (s.performAll l.registrations).conflict = none := by
    rw [((SameChecks.refl s).performAll l.registrations).2, Linked.checkPlugins_registrations]
    exact (hdone.trans hfirst).grouped.conflict_performAll_of_mem hplugins
  exact ⟨hnone, hdone.eq_of_again hfirst (leads_performAll hnone)⟩

/-- A manifest with a section of both sources, two check plug-ins of one ruleset, and rules. -/
def filesManifest : Linked where
  agentSections := [.silent .df .df,
    { AgentSection.silent .disk .disk with hostLabelRuleset := some .groups }]
  snmpSections := [.silent .df .mounts]
  checkPlugins := [.idle .df "Filesystem %s" .filesystems, .idle .mounts "Mount %s" .filesystems]
  rulesets := [(.groups, [.obj []])]

theorem InUse.register_again_filesManifest :
    (empty.run earlierRun).InUse ∧
      (filesManifest.checkPlugins.map CheckPlugin.name).Nodup ∧
      ((empty.run earlierRun).register filesManifest).conflict = none ∧
      (((empty.run earlierRun).register filesManifest).registry.register
        filesManifest).conflict = none ∧
      (((empty.run earlierRun).register filesManifest).registry.register
        filesManifest).registry = ((empty.run earlierRun).register filesManifest).registry := by
  have huse : (empty.run earlierRun).InUse := .reached ⟨earlierRun, rfl⟩
  have hnames : (filesManifest.checkPlugins.map CheckPlugin.name).Nodup := by decide
  have hcomplete : ((empty.run earlierRun).register filesManifest).conflict = none := by rfl
  exact ⟨huse, hnames, hcomplete, huse.register_again hnames hcomplete⟩

/-- With two definitions of one name the second one is in force afterwards, and the first one is
refused when it comes again. -/
example :
    let l : Linked := { checkPlugins := [.idle .df "Filesystems" .filesystems,
      .idle .df "Filesystem %s" .filesystems, .idle .mounts "Mount %s" .filesystems] }
    (empty.register l).conflict = none ∧
      ((empty.register l).registry.register l).conflict =
        some ⟨.filesystems, .df, [.mounts], .requires⟩ :=
  ⟨by rfl, by rfl⟩

end Registry

end MonitoringPlugins
