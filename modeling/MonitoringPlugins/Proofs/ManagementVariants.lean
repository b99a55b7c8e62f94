/-
**Variants for management boards are definitions like any other.**

A check plug-in is built from a draft, and a draft goes through checks: one placeholder at most, no
parsed section twice, default parameters and rulesets in pairs.  A variant for management boards is
not built.  It is copied from its basic plug-in, under another name and with a longer service name,
and nothing is checked.  This module proves that nothing would be found.  The text in front of the
service name has no percent sign, so no placeholder begins in it, and all else is what the basic
plug-in has.

To say so, a plug-in is turned back into a draft that asks for it part by part.

Main definitions:

* `MonitoringPlugins.CheckPlugin.toDraft` — the draft that asks for a plug-in as it is;
* `MonitoringPlugins.CheckPlugin.IsVariantOf` — **what a variant has in common with its basic
  plug-in**, and what it has not.

Main results:

* `MonitoringPlugins.CheckPlugin.build_toDraft_iff` — which plug-ins could have been built;
* `MonitoringPlugins.CheckDraft.build_toDraft` — **what was built can be built again from its own
  parts**;
* `MonitoringPlugins.CheckPlugin.build_toDraft_managementVariant` — **so can its variant**;
* `MonitoringPlugins.CheckPlugin.managementVariant_exact` — which plug-ins have a variant, and what
  it is.
-/

import MonitoringPlugins.Plugin.Management
import MonitoringPlugins.Proofs.Drafts

set_option autoImplicit false

namespace MonitoringPlugins

/-! ### Plug-ins as drafts -/

namespace CheckPlugin

/-- The draft that asks for a plug-in as it is. -/
def toDraft (p : CheckPlugin) : CheckDraft where
  name := p.name
  serviceName := p.serviceName
  sections := p.sections
  discovery := p.discovery
  discoveryDefaults := p.discoveryDefaults.map (·.values)
  discoveryRuleset := p.discoveryRuleset
  check := p.check
  checkDefaults := p.checkDefaults.map (·.values)
  checkRuleset := p.checkRuleset

variable {p : CheckPlugin}

/-- Parameters and rulesets of a plug-in are paired, so only the service name and the sections of
its draft can be at fault. -/
theorem valid_toDraft_iff :
    p.toDraft.Valid ↔ ¬ServiceName.HoldsTwice p.serviceName ∧ p.sections.Nodup := by
  constructor
  · intro h
    exact ⟨h.oneItem, h.sections⟩
  · rintro ⟨hone, hnodup⟩
    refine ⟨hone, hnodup, ?_, ?_⟩
    · rw [toDraft, discoveryRuleset, Option.isSome_map, Option.isSome_map]
    · rw [toDraft, checkRuleset, Option.isSome_map, Option.isSome_map]

/-- A draft without sections asks for another plug-in, which subscribes to its own name. -/
theorem gives_toDraft_iff : p.toDraft.Gives p ↔ p.sections ≠ [] := by
  constructor
  · intro h hnone
    have hsections := h.sections.trans (if_pos hnone)
    rw [hnone] at hsections
    cases hsections
  · intro hsome
    exact ⟨rfl, (if_neg hsome).symm, rfl, rfl, rfl, rfl, rfl, rfl, rfl⟩

/-- **A plug-in could have been built** exactly if its service name has room for one item at most,
and it subscribes to something and to nothing twice. -/
theorem build_toDraft_iff :
    p.toDraft.build = .ok p ↔
      ¬ServiceName.HoldsTwice p.serviceName ∧ p.sections.Nodup ∧ p.sections ≠ [] := by
  rw [CheckDraft.build_eq_ok_iff, valid_toDraft_iff, gives_toDraft_iff, and_assoc]

end CheckPlugin

/-- **What was built can be built again from its own parts.** -/
theorem CheckDraft.build_toDraft {draft : CheckDraft} {p : CheckPlugin} (h : draft.build = .ok p) :
    p.toDraft.build = .ok p := by
  obtain ⟨hvalid, hgives⟩ := CheckDraft.build_eq_ok_iff.1 h
  rw [CheckPlugin.build_toDraft_iff, hgives.serviceName, hgives.sections]
  refine ⟨hvalid.oneItem, ?_, ?_⟩
  · split
    · simp
    · exact hvalid.sections
  · split
    · exact List.cons_ne_nil _ _
    · next hsome => exact hsome

/-! ### Variants -/

namespace CheckPlugin

/-- **What a variant has in common with its basic plug-in**, and what tells them apart: the name and
the descriptions of its services begin with the prefixes of management boards. -/
structure IsVariantOf (variant basic : CheckPlugin) : Prop where
  name : variant.name.text = managementPrefix ++ basic.name.text
  description : ∀ item : Option String,
    variant.description item = managementServicePrefix ++ basic.description item
  hasItem : variant.hasItem = basic.hasItem
  sections : variant.sections = basic.sections
  discoveryRuleset : variant.discoveryRuleset = basic.discoveryRuleset
  discoveryDefaults :
    variant.discoveryDefaults.map (·.values) = basic.discoveryDefaults.map (·.values)
  checkRuleset : variant.checkRuleset = basic.checkRuleset
  checkDefaults : variant.checkDefaults.map (·.values) = basic.checkDefaults.map (·.values)
  discover : ∀ sections : ParsedSections, variant.discover sections = basic.discover sections
  check : ∀ (item : Option String) (parameters : Parameters) (sections : ParsedSections),
    variant.check item parameters sections = basic.check item parameters sections

section Variant

variable {basic variant : CheckPlugin}

theorem isVariantOf (h : basic.managementVariant = .ok variant) : variant.IsVariantOf basic := by
  have hitem := hasItem_managementVariant h
  obtain ⟨name, hname, rfl⟩ := managementVariant_eq_ok_iff.1 h
  constructor
  · exact (CheckPluginName.toManagement_eq_ok_iff.1 hname).2
  · intro item
    exact ServiceName.describe_append (by decide) basic.serviceName item
  · exact hitem
  · rfl
  · rfl
  · rfl
  · rfl
  · rfl
  · intro sections
    rfl
  · intro item parameters sections
    rfl

/-- The text in front of a service name makes no second placeholder, and breaks none. -/
theorem holdsTwice_managementVariant (h : basic.managementVariant = .ok variant) :
    ServiceName.HoldsTwice variant.serviceName ↔ ServiceName.HoldsTwice basic.serviceName := by
  obtain ⟨name, -, rfl⟩ := managementVariant_eq_ok_iff.1 h
  rw [← ServiceName.hasSeveralItems_iff, ← ServiceName.hasSeveralItems_iff,
    ServiceName.hasSeveralItems_append (by decide)]

/-- **A variant could have been built** exactly if its basic plug-in could. -/
theorem build_toDraft_managementVariant (h : basic.managementVariant = .ok variant) :
    variant.toDraft.build = .ok variant ↔ basic.toDraft.build = .ok basic := by
  rw [build_toDraft_iff, build_toDraft_iff, holdsTwice_managementVariant h,
    (isVariantOf h).sections]

end Variant

/-- **A plug-in that was built has a variant that could have been built**, unless it has a
management name already.  The variant finds and checks the same services under longer descriptions.
A plug-in with a management name has none, built or not. -/
theorem managementVariant_exact (p : CheckPlugin) :
    (∀ draft : CheckDraft, draft.build = .ok p → ¬p.name.IsManagement →
      ∃ variant, p.managementVariant = .ok variant ∧ variant.IsVariantOf p ∧
        variant.toDraft.Valid ∧ variant.toDraft.build = .ok variant) ∧
    (p.name.IsManagement → p.managementVariant = .error (.alreadyManagement p.name.text)) := by
  constructor
  · intro draft hbuilt hname
    obtain ⟨variant, hvariant⟩ := exists_managementVariant hname
    have hbuild : variant.toDraft.build = .ok variant :=
      (build_toDraft_managementVariant hvariant).2 (CheckDraft.build_toDraft hbuilt)
    exact ⟨variant, hvariant, isVariantOf hvariant, (CheckDraft.build_eq_ok_iff.1 hbuild).1, hbuild⟩
  · exact managementVariant_of_isManagement

/-- A plug-in with items, and default parameters for its check. -/
def sensorDraft : CheckDraft where
  name := ⟨"ipmi", by decide⟩
  serviceName := "IPMI Sensor %s"
  discovery _ _ := [{ item := some "Fan 1" }]
  check _ _ _ := [⟨.ok, "fine"⟩]
  checkDefaults := some []
  checkRuleset := some ⟨"ipmi", by decide⟩

/-- The variant of a plug-in that was built, and the refusal of a second prefix. -/
theorem managementVariant_exact_sensorDraft :
    ∃ p variant, sensorDraft.build = .ok p ∧ p.managementVariant = .ok variant ∧
      variant.toDraft.build = .ok variant ∧
      variant.description (some "Fan 1") = "Management Interface: IPMI Sensor Fan 1" ∧
      variant.managementVariant = .error (.alreadyManagement "mgmt_ipmi") := by
  have hbuilt : ∃ p, sensorDraft.build = .ok p := ⟨_, rfl⟩
  obtain ⟨p, hp⟩ := hbuilt
  have hgives := (CheckDraft.build_eq_ok_iff.1 hp).2
  have hbasic : ¬p.name.IsManagement := by
    rw [hgives.name]
    decide
  obtain ⟨variant, hvariant, hshared, -, hbuild⟩ :=
    (managementVariant_exact p).1 sensorDraft hp hbasic
  have hname : variant.name.text = "mgmt_ipmi" := by
    rw [hshared.name, hgives.name]
    decide
  have hmanagement : variant.name.IsManagement := by
    rw [CheckPluginName.isManagement_iff, hname]
    exact ⟨"ipmi", by decide⟩
  refine ⟨p, variant, hp, hvariant, hbuild, ?_, ?_⟩
  · rw [hshared.description, CheckPlugin.description, hgives.serviceName]
    decide
  · rw [← hname]
    exact (managementVariant_exact variant).2 hmanagement

end CheckPlugin

end MonitoringPlugins
