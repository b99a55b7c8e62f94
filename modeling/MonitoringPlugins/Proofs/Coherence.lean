/-
**Registered sections and their index.**

A registry holds its sections twice: in a map for each source, by name, and in the index, by what
they produce.  The two are changed one after the other, and a section that is registered again may
have got another source, produce something else, both or neither.  This module proves that they
agree all the same after every operation, so that a question about producers may be answered from
the index alone.

The earlier definition of a name is found through its key in a map, but it is dropped by the name
and the parsed section that it carries itself.  Hence the agreement of keys and carried names is
part of the invariant, and so is the uniqueness of the source: without it an earlier definition from
SNMP would be hidden by one from the agent and stay behind.

Main definitions:

* `MonitoringPlugins.KeyedBy` — everything in a map is stored under its own name;
* `MonitoringPlugins.Registry.Coherent` — **the invariant**: maps and index agree;
* `MonitoringPlugins.Snapshot.replaceSection` — what registering a section comes to;
* `MonitoringPlugins.Registry.InUse` — the registries of all runs, also those held by a store.

Main results:

* `MonitoringPlugins.Registry.Coherent.toSnapshot_addSection`,
  `MonitoringPlugins.Registry.Coherent.getElem?_producers_addSection` — what registering a section
  does to the maps and to the index;
* `MonitoringPlugins.Registry.Leads.coherent` — **every operation keeps the invariant**;
* `MonitoringPlugins.Registry.InUse.index_agrees` — **maps and index agree in every registry in
  use**, and the size of a snapshot counts every registered name once.
-/

import Mathlib.Data.Finset.Card
import MonitoringPlugins.Proofs.LinearHistory
import MonitoringPlugins.Proofs.Runs
import MonitoringPlugins.Registry.Query

set_option autoImplicit false

namespace MonitoringPlugins

/-! ### Replacing a section -/

/-- Taking out what is not there changes nothing. -/
theorem erase_eq_self {kind : NameKind} {β : Type} {t : Std.ExtTreeMap (Name kind) β}
    {name : Name kind} (h : name ∉ t) : t.erase name = t := by
  ext other found
  rw [Std.ExtTreeMap.getElem?_erase]
  split
  · next he =>
    obtain rfl := Std.LawfulEqCmp.compare_eq_iff_eq.1 he
    simp [h]
  · rfl

/-- Putting something in leaves the other names alone. -/
theorem getElem?_insert_of_ne {kind : NameKind} {β : Type} {t : Std.ExtTreeMap (Name kind) β}
    {name other : Name kind} (new : β) (h : other ≠ name) :
    (t.insert name new)[other]? = t[other]? := by
  rw [Std.ExtTreeMap.getElem?_insert, if_neg]
  rw [Std.LawfulEqCmp.compare_eq_iff_eq]
  exact h.symm

namespace Snapshot

/-- The sections with one in place of all earlier ones of its name, whatever their source. -/
def replaceSection (s : Snapshot) (new : Section) : Snapshot :=
  ((s.eraseSection new.name .agent).eraseSection new.name .snmp).insertSection new

@[simp] theorem replaceSection_agent (s : Snapshot) (new : AgentSection) :
    s.replaceSection (.agent new) =
      { s with
        agentSections := s.agentSections.insert new.name new
        snmpSections := s.snmpSections.erase new.name } := by
  have h : (s.agentSections.erase new.name).insert new.name new =
      s.agentSections.insert new.name new := by
    ext name found
    simp only [Std.ExtTreeMap.getElem?_insert, Std.ExtTreeMap.getElem?_erase]
    split <;> rfl
  simp only [replaceSection, eraseSection, insertSection, Section.name_agent, h]

@[simp] theorem replaceSection_snmp (s : Snapshot) (new : SnmpSection) :
    s.replaceSection (.snmp new) =
      { s with
        agentSections := s.agentSections.erase new.name
        snmpSections := s.snmpSections.insert new.name new } := by
  have h : (s.snmpSections.erase new.name).insert new.name new =
      s.snmpSections.insert new.name new := by
    ext name found
    simp only [Std.ExtTreeMap.getElem?_insert, Std.ExtTreeMap.getElem?_erase]
    split <;> rfl
  simp only [replaceSection, eraseSection, insertSection, Section.name_snmp, h]

/-- The new section is found under its name, and the others are found as before. -/
theorem findSection?_replaceSection (s : Snapshot) (new : Section) (name : SectionName) :
    (s.replaceSection new).findSection? name =
      if new.name = name then some new else s.findSection? name := by
  by_cases h : new.name = name
  · subst h
    cases new <;> simp [findSection?]
  · rw [if_neg h]
    cases new with
    | agent new =>
        rw [Section.name_agent] at h
        simp [findSection?, Std.ExtTreeMap.getElem?_insert, Std.ExtTreeMap.getElem?_erase, h]
    | snmp new =>
        rw [Section.name_snmp] at h
        simp [findSection?, Std.ExtTreeMap.getElem?_insert, Std.ExtTreeMap.getElem?_erase, h]

end Snapshot

/-! ### Keys and names -/

/-- Whether everything in a map is stored under its own name. -/
def KeyedBy {kind : NameKind} {β : Type} (key : β → Name kind)
    (t : Std.ExtTreeMap (Name kind) β) : Prop :=
  ∀ (name : Name kind) (found : β), t[name]? = some found → key found = name

namespace KeyedBy

variable {kind : NameKind} {β : Type} {key : β → Name kind} {t : Std.ExtTreeMap (Name kind) β}

theorem insert (h : KeyedBy key t) (new : β) : KeyedBy key (t.insert (key new) new) := by
  intro name found hf
  rw [Std.ExtTreeMap.getElem?_insert] at hf
  split at hf
  · next he =>
    cases hf
    exact Std.LawfulEqCmp.compare_eq_iff_eq.1 he
  · exact h name found hf

theorem erase (h : KeyedBy key t) (other : Name kind) : KeyedBy key (t.erase other) := by
  intro name found hf
  rw [Std.ExtTreeMap.getElem?_erase] at hf
  split at hf
  · cases hf
  · exact h name found hf

end KeyedBy

/-! ### The index has no empty groups -/

namespace SectionIndex

/-- Whether every parsed section of the index has a producer. -/
def NoEmptyGroup (index : SectionIndex) : Prop :=
  ∀ (parsed : ParsedSectionName) (group : Std.ExtTreeMap SectionName Section),
    index[parsed]? = some group → group ≠ ∅

/-- Without empty groups the index is known from its producers. -/
theorem NoEmptyGroup.getElem?_eq_some_iff {index : SectionIndex} (h : index.NoEmptyGroup)
    {parsed : ParsedSectionName} {group : Std.ExtTreeMap SectionName Section} :
    index[parsed]? = some group ↔ index.producers parsed = group ∧ group ≠ ∅ := by
  rw [producers, Std.ExtTreeMap.getD_eq_getD_getElem?]
  constructor
  · intro hg
    exact ⟨by simp [hg], h parsed group hg⟩
  · rintro ⟨hg, hne⟩
    cases hi : index[parsed]? with
    | none => exact absurd (by simpa [hi] using hg.symm) hne
    | some found => rw [← hg, hi, Option.getD_some]

theorem NoEmptyGroup.add {index : SectionIndex} (h : index.NoEmptyGroup) (s : Section) :
    (index.add s).NoEmptyGroup := by
  intro parsed group hg
  rw [SectionIndex.add, Std.ExtTreeMap.getElem?_insert] at hg
  split at hg
  · cases hg
    exact Std.ExtTreeMap.insert_ne_empty
  · exact h parsed group hg

/-- A group that loses its last section leaves the index. -/
theorem NoEmptyGroup.withdraw {index : SectionIndex} (h : index.NoEmptyGroup)
    (parsed : ParsedSectionName) (name : SectionName) :
    (index.withdraw parsed name).NoEmptyGroup := by
  intro other group hg
  unfold SectionIndex.withdraw at hg
  dsimp only at hg
  split at hg
  · rw [Std.ExtTreeMap.getElem?_erase] at hg
    split at hg
    · cases hg
    · exact h other group hg
  · next hne =>
    rw [Std.ExtTreeMap.getElem?_insert] at hg
    split at hg
    · cases hg
      simpa using hne
    · exact h other group hg

end SectionIndex

/-! ### The invariant -/

namespace Registry

/-- **Maps and index agree.** -/
structure Coherent (r : Registry) : Prop where
  /-- No section has two sources. -/
  oneSource : ∀ name : SectionName, name ∈ r.agentSections → name ∉ r.snmpSections
  /-- The index holds the sections that are found by name, each under what it produces. -/
  indexed : ∀ (parsed : ParsedSectionName) (name : SectionName) (s : Section),
    (r.sectionIndex.producers parsed)[name]? = some s ↔
      r.findSection? name = some s ∧ s.parsedName = parsed
  /-- A parsed section without producers is not in the index. -/
  noEmptyGroup : r.sectionIndex.NoEmptyGroup
  /-- Everything registered is registered under its own name. -/
  agentKey : KeyedBy (fun s : AgentSection => s.name) r.agentSections
  snmpKey : KeyedBy (fun s : SnmpSection => s.name) r.snmpSections
  checkKey : KeyedBy CheckPlugin.name r.checkPlugins
  inventoryKey : KeyedBy InventoryPlugin.name r.inventoryPlugins

theorem Coherent.empty : empty.Coherent where
  oneSource := by simp [Registry.empty]
  indexed := by simp [Registry.empty, Snapshot.findSection?]
  noEmptyGroup := by simp [Registry.empty, SectionIndex.NoEmptyGroup]
  agentKey := by simp [Registry.empty, KeyedBy]
  snmpKey := by simp [Registry.empty, KeyedBy]
  checkKey := by simp [Registry.empty, KeyedBy]
  inventoryKey := by simp [Registry.empty, KeyedBy]

namespace Coherent

variable {r : Registry}

/-- A section is found under its own name. -/
theorem name_of_findSection? (h : r.Coherent) {name : SectionName} {s : Section}
    (hs : r.findSection? name = some s) : s.name = name := by
  cases s with
  | agent s => exact h.agentKey name s (Snapshot.findSection?_eq_agent_iff.1 hs)
  | snmp s => exact h.snmpKey name s (Snapshot.findSection?_eq_snmp_iff.1 hs).2

/-- The earlier definition of a name is the one that the index lists. -/
theorem not_mem_producers (h : r.Coherent) {name : SectionName} {parsed : ParsedSectionName}
    (hs : ∀ s, r.findSection? name = some s → s.parsedName ≠ parsed) :
    (r.sectionIndex.producers parsed)[name]? = none := by
  cases hf : (r.sectionIndex.producers parsed)[name]? with
  | none => rfl
  | some s =>
      obtain ⟨hfind, hparsed⟩ := (h.indexed parsed name s).1 hf
      exact absurd hparsed (hs s hfind)

/-! ### Registering a section -/

/-- **Registering a section puts it in place of all earlier ones of its name.** -/
theorem toSnapshot_addSection (h : r.Coherent) (new : Section) :
    (r.addSection new).toSnapshot = r.toSnapshot.replaceSection new := by
  unfold addSection forgetPrevious
  cases hp : r.findSection? new.name with
  | none =>
      obtain ⟨hagent, hsnmp⟩ := Snapshot.findSection?_eq_none_iff.1 hp
      cases new with
      | agent a =>
          rw [Section.name_agent] at hsnmp
          simp [Snapshot.insertSection, erase_eq_self hsnmp]
      | snmp a =>
          rw [Section.name_snmp] at hagent
          simp [Snapshot.insertSection, erase_eq_self hagent]
  | some previous =>
      have hname : previous.name = new.name := h.name_of_findSection? hp
      -- the four combinations of sources: a name changes its map, or keeps it
      cases previous with
      | agent p =>
          have hmem : new.name ∈ r.agentSections :=
            Std.ExtTreeMap.mem_iff_isSome_getElem?.2
              (by simp [Snapshot.findSection?_eq_agent_iff.1 hp])
          cases new with
          | agent a =>
              have hfree := h.oneSource _ hmem
              rw [Section.name_agent] at hfree
              simp [forgetSection, Snapshot.insertSection, erase_eq_self hfree]
          | snmp a =>
              rw [Section.name_agent, Section.name_snmp] at hname
              simp [forgetSection, Snapshot.insertSection, Snapshot.eraseSection, hname]
      | snmp p =>
          obtain ⟨hagent, -⟩ := Snapshot.findSection?_eq_snmp_iff.1 hp
          cases new with
          | agent a =>
              rw [Section.name_agent, Section.name_snmp] at hname
              simp [forgetSection, Snapshot.insertSection, Snapshot.eraseSection, hname]
          | snmp a =>
              have hfree : a.name ∉ r.agentSections := by simpa using hagent
              simp [forgetSection, Snapshot.insertSection, erase_eq_self hfree]

/-- Dropping an earlier definition does not concern the producers that the new one joins. -/
theorem producers_forgetPrevious_self (r : Registry) (new : Section) :
    (r.forgetPrevious new).sectionIndex.producers new.parsedName =
      r.sectionIndex.producers new.parsedName := by
  unfold forgetPrevious
  split
  · simp only [forgetSection]
    split
    · rfl
    · next hne => rw [SectionIndex.producers_withdraw, if_neg hne]
  · rfl

/-- Once the earlier definition is dropped, no other group lists the name. -/
theorem getElem?_producers_forgetPrevious (h : r.Coherent) {new : Section}
    {parsed : ParsedSectionName} (hne : new.parsedName ≠ parsed) (name : SectionName) :
    ((r.forgetPrevious new).sectionIndex.producers parsed)[name]? =
      if new.name = name then none else (r.sectionIndex.producers parsed)[name]? := by
  unfold forgetPrevious
  cases hp : r.findSection? new.name with
  | none =>
      dsimp only
      split
      · next hname => exact h.not_mem_producers (by simp [← hname, hp])
      · rfl
  | some previous =>
      have hname : previous.name = new.name := h.name_of_findSection? hp
      by_cases hold : previous.parsedName = parsed
      · -- the group of the earlier definition: it is withdrawn from there
        have hmoved : previous.parsedName ≠ new.parsedName := by
          rw [hold]
          exact Ne.symm hne
        simp only [forgetSection, if_neg hmoved, SectionIndex.producers_withdraw, if_pos hold, hname,
          Std.ExtTreeMap.getElem?_erase, Std.LawfulEqCmp.compare_eq_iff_eq]
      · -- any other group: the earlier definition was not there
        have habsent : (r.sectionIndex.producers parsed)[new.name]? = none :=
          h.not_mem_producers (by simp [hp, hold])
        have hkept : (r.forgetSection previous new).sectionIndex.producers parsed =
            r.sectionIndex.producers parsed := by
          simp only [forgetSection]
          split
          · rfl
          · rw [SectionIndex.producers_withdraw, if_neg hold]
        rw [hkept]
        split
        · next he => rw [← he, habsent]
        · rfl

/-- **After registering a section, its name stands in the index where the new definition belongs,
and nowhere else.** -/
theorem getElem?_producers_addSection (h : r.Coherent) (new : Section)
    (parsed : ParsedSectionName) (name : SectionName) :
    ((r.addSection new).sectionIndex.producers parsed)[name]? =
      if new.name = name then (if new.parsedName = parsed then some new else none)
      else (r.sectionIndex.producers parsed)[name]? := by
  have hadd : (r.addSection new).sectionIndex.producers parsed =
      ((r.forgetPrevious new).sectionIndex.add new).producers parsed := rfl
  rw [hadd, SectionIndex.producers_add]
  by_cases hp : new.parsedName = parsed
  · subst hp
    simp only [if_true, producers_forgetPrevious_self, Std.ExtTreeMap.getElem?_insert,
      Std.LawfulEqCmp.compare_eq_iff_eq]
  · rw [if_neg hp, if_neg hp, h.getElem?_producers_forgetPrevious hp]

theorem noEmptyGroup_addSection (h : r.Coherent) (new : Section) :
    (r.addSection new).sectionIndex.NoEmptyGroup := by
  have hforget : (r.forgetPrevious new).sectionIndex.NoEmptyGroup := by
    unfold forgetPrevious
    split
    · simp only [forgetSection]
      split
      · exact h.noEmptyGroup
      · exact h.noEmptyGroup.withdraw _ _
    · exact h.noEmptyGroup
  exact hforget.add new

theorem oneSource_addSection (h : r.Coherent) (new : Section) (name : SectionName)
    (hagent : name ∈ (r.addSection new).agentSections) :
    name ∉ (r.addSection new).snmpSections := by
  rw [h.toSnapshot_addSection] at hagent ⊢
  have hbefore := h.oneSource name
  -- the new name is taken out of the map of the other source, and no other name is touched
  cases new with
  | agent a =>
      rw [Snapshot.replaceSection_agent, Std.ExtTreeMap.mem_insert] at hagent
      rw [Snapshot.replaceSection_agent, Std.ExtTreeMap.mem_erase]
      rintro ⟨hne, hsnmp⟩
      rcases hagent with he | hagent
      · exact hne he
      · exact hbefore hagent hsnmp
  | snmp a =>
      rw [Snapshot.replaceSection_snmp, Std.ExtTreeMap.mem_erase] at hagent
      rw [Snapshot.replaceSection_snmp, Std.ExtTreeMap.mem_insert]
      rintro (he | hsnmp)
      · exact hagent.1 he
      · exact hbefore hagent.2 hsnmp

theorem agentKey_addSection (h : r.Coherent) (new : Section) :
    KeyedBy (fun s : AgentSection => s.name) (r.addSection new).agentSections := by
  rw [h.toSnapshot_addSection]
  cases new with
  | agent a =>
      rw [Snapshot.replaceSection_agent]
      exact h.agentKey.insert a
  | snmp a =>
      rw [Snapshot.replaceSection_snmp]
      exact h.agentKey.erase a.name

theorem snmpKey_addSection (h : r.Coherent) (new : Section) :
    KeyedBy (fun s : SnmpSection => s.name) (r.addSection new).snmpSections := by
  rw [h.toSnapshot_addSection]
  cases new with
  | agent a =>
      rw [Snapshot.replaceSection_agent]
      exact h.snmpKey.erase a.name
  | snmp a =>
      rw [Snapshot.replaceSection_snmp]
      exact h.snmpKey.insert a

/-- The new section is found under its name, and the others are found as before. -/
theorem findSection?_addSection (h : r.Coherent) (new : Section) (name : SectionName) :
    (r.addSection new).findSection? name =
      if new.name = name then some new else r.findSection? name := by
  rw [h.toSnapshot_addSection, Snapshot.findSection?_replaceSection]

/-- **Registering a section keeps the invariant.** -/
theorem addSection (h : r.Coherent) (new : Section) : (r.addSection new).Coherent where
  oneSource := h.oneSource_addSection new
  indexed parsed name s := by
    rw [h.getElem?_producers_addSection, h.findSection?_addSection]
    by_cases hname : new.name = name
    · rw [if_pos hname, if_pos hname]
      constructor
      · intro hs
        split at hs
        · next hparsed =>
          cases hs
          exact ⟨rfl, hparsed⟩
        · cases hs
      · rintro ⟨hs, hparsed⟩
        cases hs
        rw [if_pos hparsed]
    · rw [if_neg hname, if_neg hname]
      exact h.indexed parsed name s
  noEmptyGroup := h.noEmptyGroup_addSection new
  agentKey := h.agentKey_addSection new
  snmpKey := h.snmpKey_addSection new
  checkKey := by
    rw [checkPlugins_addSection]
    exact h.checkKey
  inventoryKey := by
    rw [inventoryPlugins_addSection]
    exact h.inventoryKey

/-! ### Every operation -/

/-- **Every accepted registration keeps the invariant.** -/
theorem perform (h : r.Coherent) {a : Registration} {r' : Registry} (ok : a.perform r = .ok r') :
    r'.Coherent := by
  cases a with
  | addSection new =>
      cases ok
      exact h.addSection new
  | addCheck new =>
      obtain ⟨-, rfl⟩ := addCheck_eq_ok_iff.1 ok
      -- plug-ins are not concerned with the sections and their index
      exact { h with checkKey := h.checkKey.insert new }
  | addInventory new =>
      cases ok
      exact { h with inventoryKey := h.inventoryKey.insert new }
  | declareRuleset use name =>
      cases ok
      exact { h with }
  | setRuleset use name rules =>
      cases ok
      exact { h with }

end Coherent

/-! ### Sections by name -/

namespace Coherent

variable {r s : Registry}

/-- With one source for each section, the agent hides nothing. -/
theorem findSection?_eq_snmp_iff (h : r.Coherent) {name : SectionName} {found : SnmpSection} :
    r.findSection? name = some (.snmp found) ↔ r.snmpSections[name]? = some found := by
  rw [Snapshot.findSection?_eq_snmp_iff]
  constructor
  · exact And.right
  · intro hsnmp
    refine ⟨Std.ExtTreeMap.getElem?_eq_none fun hagent => ?_, hsnmp⟩
    exact h.oneSource name hagent (Std.ExtTreeMap.mem_iff_isSome_getElem?.2 (by simp [hsnmp]))

/-- The producers of a parsed section are found by name. -/
theorem getElem?_producers (h : r.Coherent) (parsed : ParsedSectionName) (name : SectionName) :
    (r.sectionIndex.producers parsed)[name]? =
      (r.findSection? name).filter (·.parsedName = parsed) := by
  ext s
  rw [h.indexed, Option.filter_eq_some_iff, decide_eq_true_iff]

theorem mem_producers (h : r.Coherent) {parsed : ParsedSectionName} {name : SectionName} :
    name ∈ r.producers parsed ↔ ∃ s, r.findSection? name = some s ∧ s.parsedName = parsed := by
  rw [producers, Std.ExtTreeMap.mem_keys, Std.ExtTreeMap.mem_iff_isSome_getElem?,
    Option.isSome_iff_exists]
  exact exists_congr fun s => h.indexed parsed name s

/-- **The sections that are found by name determine both maps.** -/
theorem sections_eq (hr : r.Coherent) (hs : s.Coherent)
    (hfind : ∀ name, r.findSection? name = s.findSection? name) :
    r.agentSections = s.agentSections ∧ r.snmpSections = s.snmpSections := by
  constructor
  · ext name found
    rw [← Snapshot.findSection?_eq_agent_iff, ← Snapshot.findSection?_eq_agent_iff, hfind]
  · ext name found
    rw [← hr.findSection?_eq_snmp_iff, ← hs.findSection?_eq_snmp_iff, hfind]

/-- **And they determine the index.** -/
theorem sectionIndex_eq (hr : r.Coherent) (hs : s.Coherent)
    (hfind : ∀ name, r.findSection? name = s.findSection? name) :
    r.sectionIndex = s.sectionIndex := by
  have hproducers (parsed : ParsedSectionName) :
      r.sectionIndex.producers parsed = s.sectionIndex.producers parsed := by
    ext name found
    rw [hr.indexed, hs.indexed, hfind]
  ext parsed group
  rw [hr.noEmptyGroup.getElem?_eq_some_iff, hs.noEmptyGroup.getElem?_eq_some_iff, hproducers]

end Coherent

/-! ### All registries -/

/-- **Registrations lead from a coherent registry to coherent ones only.** -/
theorem Leads.coherent {r s : Registry} {done : List Registration} (h : r.Leads done s)
    (hr : r.Coherent) : s.Coherent := by
  induction h with
  | refl => exact hr
  | step a _ ok ih => exact ih.perform ok

theorem Reachable.coherent {r : Registry} (h : r.Reachable) : r.Coherent := by
  obtain ⟨done, hleads⟩ := reachable_iff_leads.1 h
  exact hleads.coherent Coherent.empty

/-! ### Registries in use -/

/-- The registries in use: those that a run of operations leads to, and those that a store shows
whose callers build registries by such runs only. -/
inductive InUse : Registry → Prop
  | reached {r : Registry} (h : r.Reachable) : InUse r
  | stored {σ ε : Type} {r : Registry} (s : Generation.Session σ ε)
      (calls : List (Generation.Call σ ε)) (first : s.current.registry.Reachable)
      (fresh : s.reports = []) (keeps : ∀ call ∈ calls, call.Keeps Reachable)
      (shown : r ∈ (Generation.runAll calls s).registries) : InUse r

/-- A store adds no registries of its own. -/
theorem InUse.reachable {r : Registry} (h : r.InUse) : r.Reachable := by
  cases h with
  | reached h => exact h
  | stored s calls first fresh keeps shown =>
      refine Generation.registries_runAll keeps ?_ r shown
      simpa [Generation.Session.registries, fresh] using first

/-! ### Counting names -/

/-- The names under which a section is registered, from either source. -/
def sectionNames (r : Registry) : Finset SectionName :=
  r.agentSections.keys.toFinset ∪ r.snmpSections.keys.toFinset

/-- The names under which a check plug-in is registered. -/
def checkNames (r : Registry) : Finset CheckPluginName := r.checkPlugins.keys.toFinset

/-- The names under which an inventory plug-in is registered. -/
def inventoryNames (r : Registry) : Finset InventoryPluginName := r.inventoryPlugins.keys.toFinset

theorem mem_sectionNames {r : Registry} {name : SectionName} :
    name ∈ r.sectionNames ↔ r.IsSection name := by
  simp [sectionNames, IsSection]

/-- A map holds as many entries as it has keys. -/
theorem card_keys {kind : NameKind} {β : Type} (t : Std.ExtTreeMap (Name kind) β) :
    t.keys.toFinset.card = t.size := by
  rw [List.toFinset_card_of_nodup Std.ExtTreeMap.nodup_keys, Std.ExtTreeMap.length_keys]

/-- **The size of a snapshot counts every registered name once.** -/
theorem Coherent.size_snapshot {r : Registry} (h : r.Coherent) :
    r.snapshot.size = r.sectionNames.card + r.checkNames.card + r.inventoryNames.card := by
  have hdisjoint : Disjoint r.agentSections.keys.toFinset r.snmpSections.keys.toFinset := by
    rw [Finset.disjoint_left]
    intro name hagent hsnmp
    rw [List.mem_toFinset, Std.ExtTreeMap.mem_keys] at hagent hsnmp
    exact h.oneSource name hagent hsnmp
  rw [sectionNames, Finset.card_union_of_disjoint hdisjoint, checkNames, inventoryNames]
  simp only [card_keys]
  rfl

/-- **Maps and index agree in every registry in use**, and a snapshot counts every registered name
once. -/
theorem InUse.index_agrees {r : Registry} (h : r.InUse) :
    r.Coherent ∧
      r.snapshot.size = r.sectionNames.card + r.checkNames.card + r.inventoryNames.card :=
  ⟨h.reachable.coherent, h.reachable.coherent.size_snapshot⟩

/-- A run in which a section moves to SNMP and to another parsed section. -/
def movingRun : List Operation :=
  [.registration (.addSection (.agent (.silent .df .df))),
    .registration (.addSection (.snmp (.silent .df .disk)))]

/-- A store that publishes where the run leads. -/
theorem InUse.index_agrees_movingRun :
    (empty.run movingRun).InUse ∧
      (empty.run movingRun).producers .disk = [.df] ∧
      (empty.run movingRun).producers .df = [] ∧
      (empty.run movingRun).Coherent ∧ (empty.run movingRun).snapshot.size =
        (empty.run movingRun).sectionNames.card + (empty.run movingRun).checkNames.card +
          (empty.run movingRun).inventoryNames.card := by
  have hempty : empty.Reachable := ⟨[], rfl⟩
  have hreached : (empty.run movingRun).Reachable := ⟨movingRun, rfl⟩
  have huse : (empty.run movingRun).InUse := by
    refine .stored ({ current := { registry := empty }, memory := () } :
      Generation.Session Unit Empty) [.publish fun _ => ((), empty.run movingRun)] hempty rfl ?_
      List.mem_cons_self
    intro call hc
    obtain rfl := List.mem_singleton.1 hc
    exact .publish fun _ => hreached
  exact ⟨huse, by rfl, by rfl, huse.index_agrees⟩

end Registry

end MonitoringPlugins
