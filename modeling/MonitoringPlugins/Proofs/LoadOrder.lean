/-
**The order of loading.**

A registry is filled by many callers, directly or through a shared loader, and nobody says in which
order they come.  As long as nothing is registered twice, this does not matter: whether everything
is accepted is seen from the plug-ins alone, and then every question is answered alike.

What a registry holds under a name is the last registration of the name, which for distinct names is
the only one; so the contents agree whatever the order.  That nothing is refused is not a statement
about the end, though: a plug-in meets only those that came before it.  It is proved from the front,
each plug-in being compared with all plug-ins before it through the first of its group.

Main definitions:

* `MonitoringPlugins.Registry.loadAll`, `MonitoringPlugins.Loader.loadAll` — making all
  registrations, with the refusals;
* `MonitoringPlugins.LoadPath` — the two ways from registrations to a registry;
* `MonitoringPlugins.Unambiguous` — nothing is registered twice;
* `MonitoringPlugins.Registry.SameAnswers` — two registries answer every question alike.

Main results:

* `MonitoringPlugins.Registry.refusals_eq_nil_iff` — **nothing is refused exactly if the plug-ins
  agree**;
* `MonitoringPlugins.Registry.Leads.sameContent` — **the contents do not depend on the order**;
* `MonitoringPlugins.LoadPath.load_perm` — both together, for either way of loading.
-/

import MonitoringPlugins.Proofs.CheckRulesets
import MonitoringPlugins.Proofs.Contents
import MonitoringPlugins.Registry.Loader

set_option autoImplicit false

namespace MonitoringPlugins

/-! ### Loading -/

/-- What many registrations come to. -/
structure LoadResult where
  registry : Registry
  /-- The conflicts of those that were refused. -/
  refusals : List ItemConflict := []

/-- Makes all registrations, also after one is refused. -/
def Registry.loadAll (r : Registry) : List Registration → LoadResult
  | [] => { registry := r }
  | a :: rest =>
    match a.perform r with
    | .ok r' => r'.loadAll rest
    | .error conflict =>
      let later := r.loadAll rest
      { later with refusals := conflict :: later.refusals }

/-- Makes all registrations through a loader, and takes the finished registry out. -/
def Loader.loadAll (l : Loader) : List Registration → LoadResult
  | [] => { registry := l.finish }
  | a :: rest =>
    match l.perform a with
    | .ok l' => l'.loadAll rest
    | .error conflict =>
      let later := l.loadAll rest
      { later with refusals := conflict :: later.refusals }

/-- A loader adds nothing of its own. -/
theorem Loader.loadAll_eq (l : Loader) (as : List Registration) :
    l.loadAll as = l.registry.loadAll as := by
  induction as generalizing l with
  | nil => rfl
  | cons a rest ih =>
      cases h : a.perform l.registry with
      | error conflict =>
          simp only [Loader.loadAll, Registry.loadAll, Loader.perform, h, Except.map, ih]
      | ok r' =>
          simp only [Loader.loadAll, Registry.loadAll, Loader.perform, h, Except.map, ih]

/-- How registrations get into an empty registry. -/
inductive LoadPath where
  /-- One after the other. -/
  | direct
  /-- Through a loader that the callers share. -/
  | shared
  deriving DecidableEq

/-- Loads registrations. -/
def LoadPath.load : LoadPath → List Registration → LoadResult
  | direct, as => Registry.empty.loadAll as
  | shared, as => ({} : Loader).loadAll as

theorem LoadPath.load_eq (path : LoadPath) (as : List Registration) :
    path.load as = Registry.empty.loadAll as := by
  cases path with
  | direct => rfl
  | shared => exact Loader.loadAll_eq {} as

namespace Registry

/-! ### Loading without refusals -/

theorem loadAll_append (r : Registry) (first second : List Registration) :
    (r.loadAll (first ++ second)).refusals =
      (r.loadAll first).refusals ++ ((r.loadAll first).registry.loadAll second).refusals ∧
    (r.loadAll (first ++ second)).registry =
      ((r.loadAll first).registry.loadAll second).registry := by
  induction first generalizing r with
  | nil => exact ⟨rfl, rfl⟩
  | cons a rest ih =>
      cases h : a.perform r with
      | ok r' => simpa only [List.cons_append, loadAll, h] using ih r'
      | error conflict =>
          obtain ⟨hrefusals, hregistry⟩ := ih r
          simp only [List.cons_append, loadAll, h, hrefusals, hregistry, and_self]

/-- **If nothing is refused, all registrations lead to the loaded registry.** -/
theorem leads_loadAll {r : Registry} {as : List Registration}
    (h : (r.loadAll as).refusals = []) : r.Leads as (r.loadAll as).registry := by
  -- from the end, where accepted registrations are added
  induction as using List.reverseRecOn with
  | nil => exact .refl
  | append_singleton as a ih =>
      obtain ⟨hrefusals, hregistry⟩ := r.loadAll_append as [a]
      rw [hrefusals, List.append_eq_nil_iff] at h
      obtain ⟨hbefore, hlast⟩ := h
      cases ha : a.perform (r.loadAll as).registry with
      | error conflict => simp [loadAll, ha] at hlast
      | ok r' =>
          rw [hregistry]
          simpa [loadAll, ha] using (ih hbefore).step a ha

/-- And accepted registrations are loaded without refusals. -/
theorem Leads.loadAll_eq {r s : Registry} {as : List Registration} (h : r.Leads as s) :
    (r.loadAll as).refusals = [] ∧ (r.loadAll as).registry = s := by
  induction h with
  | refl => exact ⟨rfl, rfl⟩
  | @step as s s' a _ ok ih =>
      obtain ⟨hrefusals, hregistry⟩ := r.loadAll_append as [a]
      rw [hrefusals, hregistry, ih.1, ih.2]
      simp [loadAll, ok]

/-! ### What is refused -/

/-- Plug-ins that agree are accepted one after the other, if no two of them share a name. -/
theorem exists_leads {as : List Registration}
    (hnames : ((checkPluginsOf as).map CheckPlugin.name).Nodup)
    (hagree : Agreeing (checkPluginsOf as)) : ∃ s, empty.Leads as s := by
  induction as using List.reverseRecOn with
  | nil => exact ⟨empty, .refl⟩
  | append_singleton as a ih =>
      have happend : checkPluginsOf (as ++ [a]) = checkPluginsOf as ++ checkPluginsOf [a] :=
        List.filterMap_append
      rw [happend] at hagree
      rw [happend, List.map_append] at hnames
      have hbefore : ((checkPluginsOf as).map CheckPlugin.name).Nodup :=
        hnames.sublist (List.sublist_append_left _ _)
      obtain ⟨s, hs⟩ := ih hbefore fun p hp q hq =>
        hagree p (List.mem_append_left _ hp) q (List.mem_append_left _ hq)
      cases a with
      | addSection new => exact ⟨_, hs.step _ rfl⟩
      | addInventory new => exact ⟨_, hs.step _ rfl⟩
      | declareRuleset use name => exact ⟨_, hs.step _ rfl⟩
      | setRuleset use name rules => exact ⟨_, hs.step _ rfl⟩
      | addCheck new =>
          have hgrouped := hs.grouped
          rw [latestCheckPlugins, latest_eq_self _ hbefore] at hgrouped
          have hnew : new ∈ checkPluginsOf as ++ checkPluginsOf [.addCheck new] :=
            List.mem_append_right _ List.mem_cons_self
          -- all plug-ins before the new one are still there, and it agrees with each of them
          have hnone : s.checkGroups.conflict? new = none := by
            rw [hgrouped.conflict?_eq_none_iff]
            intro p hp _ ruleset hr hpr
            exact hagree p (List.mem_append_left _ hp) new hnew ruleset hpr hr
          exact ⟨_, hs.step (.addCheck new) (addCheck_eq_ok_iff.2 ⟨hnone, rfl⟩)⟩

/-- **Nothing is refused exactly if the plug-ins agree.** -/
theorem refusals_eq_nil_iff {as : List Registration}
    (hnames : ((checkPluginsOf as).map CheckPlugin.name).Nodup) :
    (empty.loadAll as).refusals = [] ↔ Agreeing (checkPluginsOf as) := by
  constructor
  · intro h
    have hgrouped := (leads_loadAll h).grouped
    rw [latestCheckPlugins, latest_eq_self _ hnames] at hgrouped
    exact hgrouped.agree
  · intro hagree
    obtain ⟨s, hs⟩ := exists_leads hnames hagree
    exact hs.loadAll_eq.1

end Registry

/-! ### Nothing is registered twice -/

/-- **Nothing is registered twice**: sections, check plug-ins and inventory plug-ins have distinct
names, whatever the source of a section is, and the rules of a ruleset are set once at most. -/
structure Unambiguous (as : List Registration) : Prop where
  sections : ((as.filterMap Registration.section?).map Section.name).Nodup
  checks : ((checkPluginsOf as).map CheckPlugin.name).Nodup
  inventories : ((as.filterMap Registration.inventoryPlugin?).map InventoryPlugin.name).Nodup
  rules : ((as.filterMap Registration.rules?).map Prod.fst).Nodup

theorem checkPluginsOf_perm {as bs : List Registration} (h : as.Perm bs) :
    (checkPluginsOf as).Perm (checkPluginsOf bs) :=
  h.filterMap _

/-- Plug-ins agree in every order. -/
theorem agreeing_iff_of_perm {ps qs : List CheckPlugin} (h : ps.Perm qs) :
    Agreeing ps ↔ Agreeing qs := by
  simp only [Agreeing, h.mem_iff]

namespace Registry

/-- **What is registered once ends up under its name in every order.** -/
theorem Leads.sameContent {as bs : List Registration} {r s : Registry} (hr : empty.Leads as r)
    (hs : empty.Leads bs s) (h : Unambiguous as) (hperm : as.Perm bs) : r.SameContent s := by
  refine .of_lookups (hr.coherent .empty) (hs.coherent .empty) ?_ ?_ ?_ ?_ ?_
  · intro name
    rw [hr.findSection?_eq .empty, hs.findSection?_eq .empty,
      lastOf_perm _ h.sections (hperm.filterMap _)]
  · intro name
    rw [hr.checkPlugins_eq .empty, hs.checkPlugins_eq .empty,
      lastOf_perm _ h.checks (checkPluginsOf_perm hperm)]
  · intro name
    rw [hr.inventoryPlugins_eq .empty, hs.inventoryPlugins_eq .empty,
      lastOf_perm _ h.inventories (hperm.filterMap _)]
  · intro name
    rw [hr.knows_iff, hs.knows_iff, (hperm.filterMap _).mem_iff]
  · intro name
    rw [hr.rules_eq .empty, hs.rules_eq .empty, lastOf_perm _ h.rules (hperm.filterMap _)]

/-! ### Questions -/

/-- **Two registries answer every question alike.** -/
structure SameAnswers (r s : Registry) : Prop where
  /-- The maps of sections and plug-ins. -/
  snapshot : r.snapshot = s.snapshot
  producers : ∀ parsed : ParsedSectionName, r.producers parsed = s.producers parsed
  needsRedetection : ∀ name : SectionName, r.needsRedetection name = s.needsRedetection name
  relevantSections : ∀ (checks : List CheckPluginName) (inventories : List InventoryPluginName),
    r.relevantSections checks inventories = s.relevantSections checks inventories
  /-- Also for the plug-ins of management boards. -/
  checkPlugin? : ∀ name : CheckPluginName, r.checkPlugin? name = s.checkPlugin? name
  knowsRuleset : ∀ name : RulesetName, r.KnowsRuleset name ↔ s.KnowsRuleset name
  rules : ∀ (use : RulesetUse) (name : RulesetName), r.rules use name = s.rules use name

theorem SameContent.sameAnswers {r s : Registry} (h : r.SameContent s) : r.SameAnswers s where
  snapshot := h.snapshot
  producers := h.producers_eq
  needsRedetection := h.needsRedetection_eq
  relevantSections := h.relevantSections_eq
  checkPlugin? := h.checkPlugin?_eq
  knowsRuleset := h.knows
  rules _ := h.rules

end Registry

/-! ### Any order -/

/-- **The order of loading does not matter**, nor does the way: nothing is refused in one order
exactly if nothing is refused in the other, which is so exactly if the check plug-ins agree, and
then both registries answer every question alike. -/
theorem LoadPath.load_perm {as bs : List Registration} (h : Unambiguous as) (hperm : as.Perm bs)
    (path other : LoadPath) :
    ((path.load as).refusals = [] ↔ (other.load bs).refusals = []) ∧
      ((path.load as).refusals = [] ↔ Agreeing (checkPluginsOf as)) ∧
      ((path.load as).refusals = [] →
        (path.load as).registry.SameAnswers (other.load bs).registry) := by
  have hchecks : ((checkPluginsOf bs).map CheckPlugin.name).Nodup :=
    ((checkPluginsOf_perm hperm).map _).nodup_iff.1 h.checks
  have hone := Registry.refusals_eq_nil_iff h.checks
  have htwo := Registry.refusals_eq_nil_iff hchecks
  have hiff : (Registry.empty.loadAll as).refusals = [] ↔
      (Registry.empty.loadAll bs).refusals = [] := by
    rw [hone, htwo, agreeing_iff_of_perm (checkPluginsOf_perm hperm)]
  simp only [path.load_eq, other.load_eq]
  refine ⟨hiff, hone, fun hnone => ?_⟩
  have hleads := Registry.leads_loadAll hnone
  have hother := Registry.leads_loadAll (hiff.1 hnone)
  exact (hleads.sameContent hother h hperm).sameAnswers

/-- Two sections that compete, two plug-ins of one ruleset, and a ruleset with two uses. -/
def diskLoad : List Registration :=
  [.addSection (.agent (.silent .df .df)),
    .addCheck (.idle .df "Filesystem %s" .filesystems),
    .setRuleset .discovery .groups [.obj []],
    .addSection (.snmp (.silent .disk .df)),
    .declareRuleset .hostLabel .groups,
    .addCheck (.idle .mounts "Mount %s" .filesystems)]

theorem LoadPath.load_perm_diskLoad :
    Unambiguous diskLoad ∧ (LoadPath.direct.load diskLoad).refusals = [] ∧
      (LoadPath.direct.load diskLoad).registry.needsRedetection .df = true ∧
      (LoadPath.direct.load diskLoad).registry.SameAnswers
        (LoadPath.shared.load diskLoad.reverse).registry := by
  have h : Unambiguous diskLoad := by constructor <;> decide
  have hperm : diskLoad.Perm diskLoad.reverse := (List.reverse_perm diskLoad).symm
  obtain ⟨-, -, hsame⟩ := LoadPath.load_perm h hperm .direct .shared
  exact ⟨h, by rfl, by rfl, hsame (by rfl)⟩

end MonitoringPlugins
