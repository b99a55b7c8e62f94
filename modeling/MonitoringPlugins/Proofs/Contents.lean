/-
**What registrations leave behind.**

The last registration of a name counts, so what a registry holds under a name after accepted
registrations is said by the last of them that is about the name, or by the registry they started
from if none is.  This module proves it for sections, plug-ins and rules, by one induction for all
of them; known rulesets are only ever added.

Main definitions:

* `MonitoringPlugins.Registration.amend` — what a registration does to the rulesets;
* `MonitoringPlugins.Registry.SameContent` — two registries hold the same under every name.

Main results:

* `MonitoringPlugins.Registry.Leads.lookup_eq` — **the last registration of a name counts**, for
  whatever a registration changes under one name only;
* `MonitoringPlugins.Registry.Leads.findSection?_eq`,
  `MonitoringPlugins.Registry.Leads.checkPlugins_eq`,
  `MonitoringPlugins.Registry.Leads.inventoryPlugins_eq`,
  `MonitoringPlugins.Registry.Leads.rules_eq`, `MonitoringPlugins.Registry.Leads.knows_iff`,
  `MonitoringPlugins.Registry.Leads.rulesets_eq` — what is held after registrations;
* `MonitoringPlugins.Registry.SameContent.of_lookups` — **the sections that are found by name settle
  both section maps and the index**;
* `MonitoringPlugins.Registry.SameContent.checkPlugin?_eq` and its siblings — the same content gives
  the same answers.
-/

import MonitoringPlugins.Proofs.Coherence

set_option autoImplicit false

namespace MonitoringPlugins

/-- What a registration does to the rulesets. -/
def Registration.amend (rulesets : Rulesets) : Registration → Rulesets
  | declareRuleset _ name => rulesets.declare name
  | setRuleset _ name rules => rulesets.set name rules
  | addSection _ | addCheck _ | addInventory _ => rulesets

namespace Registry

/-! ### One registration -/

section Perform

variable {s s' : Registry} {a : Registration}

theorem findSection?_perform (h : s.Coherent) (ok : a.perform s = .ok s') (name : SectionName) :
    s'.findSection? name =
      (lastOf Section.name a.section?.toList name).or (s.findSection? name) := by
  cases a with
  | addSection new =>
      cases ok
      rw [h.findSection?_addSection, Registration.section?, Option.toList_some, lastOf_singleton]
      split <;> rfl
  | addCheck new =>
      obtain ⟨-, rfl⟩ := addCheck_eq_ok_iff.1 ok
      rfl
  | addInventory new => cases ok; rfl
  | declareRuleset use other => cases ok; rfl
  | setRuleset use other rules => cases ok; rfl

theorem checkPlugins_perform (ok : a.perform s = .ok s') (name : CheckPluginName) :
    s'.checkPlugins[name]? =
      (lastOf CheckPlugin.name a.checkPlugin?.toList name).or s.checkPlugins[name]? := by
  cases a with
  | addSection new =>
      cases ok
      rw [checkPlugins_addSection]
      rfl
  | addCheck new =>
      obtain ⟨-, rfl⟩ := addCheck_eq_ok_iff.1 ok
      rw [Registration.checkPlugin?, Option.toList_some, lastOf_singleton,
        Std.ExtTreeMap.getElem?_insert]
      simp only [Std.LawfulEqCmp.compare_eq_iff_eq]
      split <;> rfl
  | addInventory new => cases ok; rfl
  | declareRuleset use other => cases ok; rfl
  | setRuleset use other rules => cases ok; rfl

theorem inventoryPlugins_perform (ok : a.perform s = .ok s') (name : InventoryPluginName) :
    s'.inventoryPlugins[name]? =
      (lastOf InventoryPlugin.name a.inventoryPlugin?.toList name).or s.inventoryPlugins[name]? := by
  cases a with
  | addSection new =>
      cases ok
      rw [inventoryPlugins_addSection]
      rfl
  | addCheck new =>
      obtain ⟨-, rfl⟩ := addCheck_eq_ok_iff.1 ok
      rfl
  | addInventory new =>
      cases ok
      rw [Registration.inventoryPlugin?, Option.toList_some, lastOf_singleton,
        Registry.addInventory, Std.ExtTreeMap.getElem?_insert]
      simp only [Std.LawfulEqCmp.compare_eq_iff_eq]
      split <;> rfl
  | declareRuleset use other => cases ok; rfl
  | setRuleset use other rules => cases ok; rfl

/-- Rulesets are changed by being declared or set only. -/
theorem rulesets_perform (ok : a.perform s = .ok s') : s'.rulesets = a.amend s.rulesets := by
  cases a with
  | addSection new =>
      cases ok
      exact s.rulesets_addSection new
  | addCheck new =>
      obtain ⟨-, rfl⟩ := addCheck_eq_ok_iff.1 ok
      rfl
  | addInventory new => cases ok; rfl
  | declareRuleset use other => cases ok; rfl
  | setRuleset use other rules => cases ok; rfl

/-- The rules under a name, as an entry: rules that are not set are kept. -/
theorem rules_perform (ok : a.perform s = .ok s') (name : RulesetName) :
    some (name, s'.rulesets.rules name) =
      (lastOf Prod.fst a.rules?.toList name).or (some (name, s.rulesets.rules name)) := by
  rw [rulesets_perform ok]
  cases a with
  | addSection new => rfl
  | addCheck new => rfl
  | addInventory new => rfl
  | declareRuleset use other =>
      rw [Registration.amend, Rulesets.rules_declare]
      rfl
  | setRuleset use other rules =>
      rw [Registration.amend, Rulesets.rules_set, Registration.rules?, Option.toList_some,
        lastOf_singleton]
      split
      · next h => rw [h]; rfl
      · rfl

theorem knows_perform (ok : a.perform s = .ok s') (name : RulesetName) :
    s'.KnowsRuleset name ↔ s.KnowsRuleset name ∨ a.ruleset? = some name := by
  rw [KnowsRuleset, rulesets_perform ok]
  cases a with
  | addSection new => simp [KnowsRuleset, Registration.amend, Registration.ruleset?]
  | addCheck new => simp [KnowsRuleset, Registration.amend, Registration.ruleset?]
  | addInventory new => simp [KnowsRuleset, Registration.amend, Registration.ruleset?]
  | declareRuleset use other =>
      rw [Registration.amend, Rulesets.knows_declare, Registration.ruleset?, Option.some.injEq]
      rfl
  | setRuleset use other rules =>
      rw [Registration.amend, Rulesets.knows_set, Registration.ruleset?, Option.some.injEq]
      rfl

/-- The known rulesets keep their places. -/
theorem names_perform (ok : a.perform s = .ok s') : s.rulesets.names <+: s'.rulesets.names := by
  rw [rulesets_perform ok]
  cases a with
  | addSection new => exact List.prefix_rfl
  | addCheck new => exact List.prefix_rfl
  | addInventory new => exact List.prefix_rfl
  | declareRuleset use other =>
      rw [Registration.amend, Rulesets.names_declare]
      split
      · exact List.prefix_rfl
      · exact List.prefix_append _ _
  | setRuleset use other rules =>
      rw [Registration.amend, Rulesets.names_set]
      split
      · exact List.prefix_rfl
      · exact List.prefix_append _ _

end Perform

/-! ### Any number of registrations -/

namespace Leads

variable {r s : Registry} {done : List Registration}

/-- **The last registration of a name counts**, for whatever a registration changes under one name
only. -/
theorem lookup_eq {α κ : Type} [DecidableEq κ] {key : α → κ} {pick : Registration → Option α}
    (lookup : Registry → κ → Option α)
    (hperform : ∀ {s s' : Registry} {a : Registration}, s.Coherent → a.perform s = .ok s' →
      ∀ k, lookup s' k = (lastOf key (pick a).toList k).or (lookup s k))
    (h : r.Leads done s) (hr : r.Coherent) (k : κ) :
    lookup s k = (lastOf key (done.filterMap pick) k).or (lookup r k) := by
  induction h with
  | refl => rfl
  | step a hleads ok ih =>
      have hpick : [a].filterMap pick = (pick a).toList := by
        rw [List.filterMap_cons]
        cases pick a <;> rfl
      -- the new registration comes last, so it is asked first
      rw [hperform (hleads.coherent hr) ok, ih, List.filterMap_append, hpick, lastOf_append,
        Option.or_assoc]

theorem findSection?_eq (h : r.Leads done s) (hr : r.Coherent) (name : SectionName) :
    s.findSection? name =
      (lastOf Section.name (done.filterMap Registration.section?) name).or
        (r.findSection? name) :=
  h.lookup_eq (fun r => r.findSection?) findSection?_perform hr name

theorem checkPlugins_eq (h : r.Leads done s) (hr : r.Coherent) (name : CheckPluginName) :
    s.checkPlugins[name]? =
      (lastOf CheckPlugin.name (checkPluginsOf done) name).or r.checkPlugins[name]? :=
  h.lookup_eq (fun r name => r.checkPlugins[name]?) (fun _ => checkPlugins_perform) hr name

theorem inventoryPlugins_eq (h : r.Leads done s) (hr : r.Coherent) (name : InventoryPluginName) :
    s.inventoryPlugins[name]? =
      (lastOf InventoryPlugin.name (done.filterMap Registration.inventoryPlugin?) name).or
        r.inventoryPlugins[name]? :=
  h.lookup_eq (fun r name => r.inventoryPlugins[name]?) (fun _ => inventoryPlugins_perform) hr name

/-- The rules are those that were set last; a ruleset that is only declared keeps its rules. -/
theorem rules_eq (h : r.Leads done s) (hr : r.Coherent) (name : RulesetName) :
    s.rulesets.rules name =
      ((lastOf Prod.fst (done.filterMap Registration.rules?) name).map Prod.snd).getD
        (r.rulesets.rules name) := by
  have hentry := h.lookup_eq (fun r name => some (name, r.rulesets.rules name))
    (fun _ => rules_perform) hr name
  cases hlast : lastOf Prod.fst (done.filterMap Registration.rules?) name with
  | none =>
      rw [hlast, Option.none_or] at hentry
      exact congrArg Prod.snd (Option.some.inj hentry)
  | some entry =>
      rw [hlast, Option.some_or] at hentry
      exact congrArg Prod.snd (Option.some.inj hentry)

/-- A ruleset is known from its first mention on. -/
theorem knows_iff (h : r.Leads done s) (name : RulesetName) :
    s.KnowsRuleset name ↔
      r.KnowsRuleset name ∨ name ∈ done.filterMap Registration.ruleset? := by
  induction h with
  | refl => simp
  | step a _ ok ih =>
      rw [knows_perform ok, ih, or_assoc, List.filterMap_append, List.mem_append]
      simp

theorem rulesets_eq (h : r.Leads done s) :
    s.rulesets = done.foldl Registration.amend r.rulesets := by
  induction h with
  | refl => rfl
  | step a _ ok ih =>
      rw [rulesets_perform ok, ih, List.foldl_append]
      rfl

theorem names_prefix (h : r.Leads done s) : r.rulesets.names <+: s.rulesets.names := by
  induction h with
  | refl => exact List.prefix_rfl
  | step a _ ok ih => exact ih.trans (names_perform ok)

end Leads

/-! ### The same content -/

/-- **Two registries hold the same**, up to the order in which rulesets were first mentioned and in
which the plug-ins of a check ruleset were registered. -/
structure SameContent (r s : Registry) : Prop where
  snapshot : r.snapshot = s.snapshot
  sectionIndex : r.sectionIndex = s.sectionIndex
  knows : ∀ name : RulesetName, r.KnowsRuleset name ↔ s.KnowsRuleset name
  rules : ∀ name : RulesetName, r.rulesets.rules name = s.rulesets.rules name

namespace SameContent

variable {r s : Registry}

/-- **The sections that are found by name settle both section maps and the index**, so look-ups are
all that has to be compared. -/
theorem of_lookups (hr : r.Coherent) (hs : s.Coherent)
    (hsections : ∀ name, r.findSection? name = s.findSection? name)
    (hchecks : ∀ name : CheckPluginName, r.checkPlugins[name]? = s.checkPlugins[name]?)
    (hinventories : ∀ name : InventoryPluginName,
      r.inventoryPlugins[name]? = s.inventoryPlugins[name]?)
    (hknows : ∀ name : RulesetName, r.KnowsRuleset name ↔ s.KnowsRuleset name)
    (hrules : ∀ name : RulesetName, r.rulesets.rules name = s.rulesets.rules name) :
    r.SameContent s where
  snapshot := by
    obtain ⟨hagent, hsnmp⟩ := hr.sections_eq hs hsections
    have hcheck : r.checkPlugins = s.checkPlugins := by
      ext name found
      rw [hchecks]
    have hinventory : r.inventoryPlugins = s.inventoryPlugins := by
      ext name found
      rw [hinventories]
    exact Snapshot.ext hagent hsnmp hcheck hinventory
  sectionIndex := hr.sectionIndex_eq hs hsections
  knows := hknows
  rules := hrules

theorem findSection?_eq (h : r.SameContent s) (name : SectionName) :
    r.findSection? name = s.findSection? name :=
  congrArg (·.findSection? name) h.snapshot

theorem checkPlugin?_eq (h : r.SameContent s) (name : CheckPluginName) :
    r.checkPlugin? name = s.checkPlugin? name := by
  have hmap : r.checkPlugins = s.checkPlugins := congrArg Snapshot.checkPlugins h.snapshot
  simp only [checkPlugin?, derivedPlugin?, hmap]

theorem inventoryPlugin?_eq (h : r.SameContent s) (name : InventoryPluginName) :
    r.inventoryPlugin? name = s.inventoryPlugin? name :=
  congrArg (·.inventoryPlugins[name]?) h.snapshot

theorem producers_eq (h : r.SameContent s) (parsed : ParsedSectionName) :
    r.producers parsed = s.producers parsed := by
  rw [producers, h.sectionIndex]
  rfl

theorem needsRedetection_eq (h : r.SameContent s) (name : SectionName) :
    r.needsRedetection name = s.needsRedetection name := by
  rw [needsRedetection, producedBy, h.findSection?_eq, h.sectionIndex]
  rfl

theorem relevantSections_eq (h : r.SameContent s) (checks : List CheckPluginName)
    (inventories : List InventoryPluginName) :
    r.relevantSections checks inventories = s.relevantSections checks inventories := by
  have hcheck : r.checkPlugin? = s.checkPlugin? := funext h.checkPlugin?_eq
  have hinventory : r.inventoryPlugin? = s.inventoryPlugin? := funext h.inventoryPlugin?_eq
  simp only [relevantSections, subscriptions, hcheck, hinventory, h.sectionIndex]

end SameContent

end Registry

end MonitoringPlugins
