/-
**Well-formed manifests.**

Linking a manifest stops at the first entry that cannot be linked.  So a manifest is linked exactly
if all its entries are well-formed, wherever they stand, and then there is one definition for each
entry, in the order of the entries, with the data of its entry, nothing added and nothing lost.

Main definitions:

* `MonitoringPlugins.Manifest.WellFormed` — **the manifests that can be linked**;
* `MonitoringPlugins.Manifest.Describes` — **the definitions that belong to a manifest**.

Main results:

* `MonitoringPlugins.Manifest.WellFormed.exists_describes` — there are definitions for every
  well-formed manifest;
* `MonitoringPlugins.Manifest.link_exact` — **a manifest is linked exactly if it is well-formed, and
  then to the definitions that it describes**.
-/

import MonitoringPlugins.Proofs.WellFormedEntry

set_option autoImplicit false

namespace MonitoringPlugins

/-! ### Rules -/

/-- Rules are linked as they are given, if the ruleset has a name. -/
theorem linkedRuleset_eq_ok_iff {entry : String × List Rule} {r : RulesetName × List Rule} :
    linkedRuleset entry = .ok r ↔ (r.1.text, r.2) = entry := by
  rw [linkedRuleset, map_eq_ok_iff]
  simp only [linkedName_eq_ok_iff_text]
  constructor
  · rintro ⟨n, hn, rfl⟩
    rw [hn]
  · rintro rfl
    exact ⟨r.1, rfl, rfl⟩

theorem linkedRulesets_eq_ok_iff {entries : List (String × List Rule)}
    {rulesets : List (RulesetName × List Rule)} :
    entries.mapM linkedRuleset = .ok rulesets ↔
      rulesets.map (fun r => (r.1.text, r.2)) = entries := by
  rw [mapM_eq_ok_iff, ← forall₂_eq_iff_map]
  simp only [linkedRuleset_eq_ok_iff]

/-! ### Manifests -/

namespace Manifest

variable {handlers : HandlerTable} {firstSerial : Nat} {m : Manifest} {l : Linked}

/-- **The manifests that can be linked**: each entry can, and rules are given for names. -/
structure WellFormed (handlers : HandlerTable) (m : Manifest) : Prop where
  agentSections : ∀ e ∈ m.agentSections, e.WellFormed handlers
  snmpSections : ∀ e ∈ m.snmpSections, e.WellFormed handlers
  checkPlugins : ∀ e ∈ m.checkPlugins, e.WellFormed handlers
  inventoryPlugins : ∀ e ∈ m.inventoryPlugins, e.WellFormed handlers
  rulesets : ∀ text ∈ m.rulesets, IsNameText text

/-- **The definitions that belong to a manifest**: one for each entry, in the order of the entries,
and the sections numbered from `firstSerial` on. -/
structure Describes (handlers : HandlerTable) (firstSerial : Nat) (m : Manifest) (l : Linked) :
    Prop where
  agentSections : List.Forall₂ (fun entry s => entry.1.Describes handlers entry.2 s)
    (m.agentSections.zipIdx firstSerial) l.agentSections
  snmpSections : List.Forall₂ (fun entry s => entry.1.Describes handlers entry.2 s)
    (m.snmpSections.zipIdx (firstSerial + m.agentSections.length)) l.snmpSections
  checkPlugins : List.Forall₂ (fun e p => e.Describes handlers p) m.checkPlugins l.checkPlugins
  inventoryPlugins : List.Forall₂ (fun e p => e.Describes handlers p) m.inventoryPlugins
    l.inventoryPlugins
  rulesets : l.rulesets.map (fun r => (r.1.text, r.2)) = m.rulesets.toList

/-- The rules of a manifest can be linked if they are given for names. -/
theorem exists_rulesets_iff :
    (∃ rulesets : List (RulesetName × List Rule),
      rulesets.map (fun r => (r.1.text, r.2)) = m.rulesets.toList) ↔
      ∀ text ∈ m.rulesets, IsNameText text := by
  have hkeys : (∀ text ∈ m.rulesets, IsNameText text) ↔
      ∀ entry ∈ m.rulesets.toList, IsNameText entry.1 := by
    simp only [← Std.ExtTreeMap.mem_keys, ← Std.ExtTreeMap.map_fst_toList_eq_keys,
      List.forall_mem_map]
  have hone (entry : String × List Rule) :
      (∃ r, linkedRuleset entry = .ok r) ↔ IsNameText entry.1 := by
    simp only [linkedRuleset_eq_ok_iff]
    constructor
    · rintro ⟨r, rfl⟩
      exact r.1.isNameText
    · intro h
      exact ⟨(⟨entry.1, h⟩, entry.2), rfl⟩
  rw [hkeys, ← forall₂_congr fun entry _ => hone entry, ← exists_mapM_iff]
  simp only [linkedRulesets_eq_ok_iff]

/-- **A manifest is linked to what it describes**, if it is well-formed. -/
theorem link_eq_ok_iff :
    m.link handlers firstSerial = .ok l ↔
      m.WellFormed handlers ∧ m.Describes handlers firstSerial l := by
  have hagent {k : Nat} {ss : List AgentSection} :
      ((m.agentSections.zipIdx k).mapM fun entry => entry.1.link handlers entry.2) = .ok ss ↔
        (∀ e ∈ m.agentSections, e.WellFormed handlers) ∧
          List.Forall₂ (fun entry s => entry.1.Describes handlers entry.2 s)
            (m.agentSections.zipIdx k) ss := by
    rw [← forall_mem_zipIdx_iff]
    exact mapM_eq_ok_iff_of_spec fun _ _ => AgentSectionEntry.link_eq_ok_iff
  have hsnmp {k : Nat} {ss : List SnmpSection} :
      ((m.snmpSections.zipIdx k).mapM fun entry => entry.1.link handlers entry.2) = .ok ss ↔
        (∀ e ∈ m.snmpSections, e.WellFormed handlers) ∧
          List.Forall₂ (fun entry s => entry.1.Describes handlers entry.2 s)
            (m.snmpSections.zipIdx k) ss := by
    rw [← forall_mem_zipIdx_iff]
    exact mapM_eq_ok_iff_of_spec fun _ _ => SnmpSectionEntry.link_eq_ok_iff
  unfold link
  constructor
  · intro h
    obtain ⟨agentSections, ha, h⟩ := bind_eq_ok_iff.1 h
    obtain ⟨snmpSections, hs, h⟩ := bind_eq_ok_iff.1 h
    obtain ⟨checkPlugins, hc, h⟩ := bind_eq_ok_iff.1 h
    obtain ⟨inventoryPlugins, hi, h⟩ := bind_eq_ok_iff.1 h
    obtain ⟨rulesets, hr, h⟩ := bind_eq_ok_iff.1 h
    cases h
    obtain ⟨hawell, ha⟩ := hagent.1 ha
    obtain ⟨hswell, hs⟩ := hsnmp.1 hs
    obtain ⟨hcwell, hc⟩ := (mapM_eq_ok_iff_of_spec fun _ _ => CheckEntry.link_eq_ok_iff).1 hc
    obtain ⟨hiwell, hi⟩ := (mapM_eq_ok_iff_of_spec fun _ _ => InventoryEntry.link_eq_ok_iff).1 hi
    have hr := linkedRulesets_eq_ok_iff.1 hr
    exact ⟨⟨hawell, hswell, hcwell, hiwell, exists_rulesets_iff.1 ⟨_, hr⟩⟩, ha, hs, hc, hi, hr⟩
  · rintro ⟨hwell, hdescribes⟩
    refine bind_eq_ok_iff.2 ⟨_, hagent.2 ⟨hwell.agentSections, hdescribes.agentSections⟩, ?_⟩
    refine bind_eq_ok_iff.2 ⟨_, hsnmp.2 ⟨hwell.snmpSections, hdescribes.snmpSections⟩, ?_⟩
    refine bind_eq_ok_iff.2 ⟨_, (mapM_eq_ok_iff_of_spec fun _ _ => CheckEntry.link_eq_ok_iff).2
      ⟨hwell.checkPlugins, hdescribes.checkPlugins⟩, ?_⟩
    refine bind_eq_ok_iff.2 ⟨_, (mapM_eq_ok_iff_of_spec fun _ _ => InventoryEntry.link_eq_ok_iff).2
      ⟨hwell.inventoryPlugins, hdescribes.inventoryPlugins⟩, ?_⟩
    exact bind_eq_ok_iff.2 ⟨_, linkedRulesets_eq_ok_iff.2 hdescribes.rulesets, rfl⟩

/-- **There are definitions for every well-formed manifest.** -/
theorem WellFormed.exists_describes (h : m.WellFormed handlers) :
    ∃ l, m.Describes handlers firstSerial l := by
  obtain ⟨agentSections, ha⟩ :=
    exists_forall₂_iff.2 fun entry hentry =>
      (forall_mem_zipIdx_iff.2 h.agentSections entry hentry).exists_describes entry.2
  obtain ⟨snmpSections, hs⟩ :=
    exists_forall₂_iff.2 fun entry hentry =>
      (forall_mem_zipIdx_iff.2 h.snmpSections entry hentry).exists_describes entry.2
  obtain ⟨checkPlugins, hc⟩ :=
    exists_forall₂_iff.2 fun e he => (h.checkPlugins e he).exists_describes
  obtain ⟨inventoryPlugins, hi⟩ :=
    exists_forall₂_iff.2 fun e he => (h.inventoryPlugins e he).exists_describes
  obtain ⟨rulesets, hr⟩ := exists_rulesets_iff.2 h.rulesets
  exact ⟨⟨agentSections, snmpSections, checkPlugins, inventoryPlugins, rulesets⟩,
    ha, hs, hc, hi, hr⟩

/-- **A manifest is linked exactly if it is well-formed, and then to the definitions that it
describes.** -/
theorem link_exact (handlers : HandlerTable) (firstSerial : Nat) (m : Manifest) :
    ((∃ l, m.link handlers firstSerial = .ok l) ↔ m.WellFormed handlers) ∧
      ∀ l, m.link handlers firstSerial = .ok l ↔
        m.WellFormed handlers ∧ m.Describes handlers firstSerial l := by
  refine ⟨⟨?_, ?_⟩, fun _ => link_eq_ok_iff⟩
  · rintro ⟨l, h⟩
    exact (link_eq_ok_iff.1 h).1
  · intro hwell
    obtain ⟨l, hl⟩ := hwell.exists_describes
    exact ⟨l, link_eq_ok_iff.2 ⟨hwell, hl⟩⟩

end Manifest

end MonitoringPlugins
