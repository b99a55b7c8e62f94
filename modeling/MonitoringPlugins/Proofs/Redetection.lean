/-
**Redetection.**

Several sections may produce one parsed section, and then it has to be found out anew from time to
time which of them supplies data.  Whether this is so is read off the index, from the size of one
group.  The group changes whenever a section is registered under it, moves to it or leaves it, so
its size is right only if nothing is left behind and nothing is entered twice.  This module proves
that it is: a group has as many entries as there are registered names, of either source, that
produce its parsed section.  Hence redetection is asked for exactly if two of them compete.

It then says what a single registration does to the groups, and so whom it can concern.  The name
joins the group of its new definition, leaves that of its earlier one, and is in no other; all that
is answered from another group stays as it was.

Main definitions:

* `MonitoringPlugins.Registry.Produces` — a name is registered, from either source, and produces a
  parsed section;
* `MonitoringPlugins.Registry.WithSection` — **a registry with one more section**, and nothing else
  changed.

Main results:

* `MonitoringPlugins.Registry.Coherent.size_producers` — **a group counts the names that produce its
  parsed section**;
* `MonitoringPlugins.Registry.InUse.needsRedetection_exact` — **redetection is needed exactly if two
  registered sections compete**;
* `MonitoringPlugins.Registry.Coherent.producers_addSection_self`,
  `MonitoringPlugins.Registry.Coherent.producers_addSection_of_ne` — what a registration does to the
  groups;
* `MonitoringPlugins.Registry.InUse.withSection_addSection` — **registering a section has this
  effect**.
-/

import MonitoringPlugins.Proofs.RelevantSections

set_option autoImplicit false

namespace MonitoringPlugins.Registry

/-! ### Who produces a parsed section -/

/-- Whether a section is registered under a name, from either source, and produces a parsed
section. -/
def Produces (r : Registry) (name : SectionName) (parsed : ParsedSectionName) : Prop :=
  (∃ found, r.agentSections[name]? = some found ∧ found.parsedName = parsed) ∨
    ∃ found, r.snmpSections[name]? = some found ∧ found.parsedName = parsed

namespace Coherent

variable {r : Registry}

/-- **The index lists who produces a parsed section.** -/
theorem mem_producers_iff_produces (h : r.Coherent) {parsed : ParsedSectionName}
    {name : SectionName} : name ∈ r.producers parsed ↔ r.Produces name parsed := by
  rw [h.mem_producers]
  constructor
  · rintro ⟨s, hfound, hparsed⟩
    cases s with
    | agent found => exact .inl ⟨found, Snapshot.findSection?_eq_agent_iff.1 hfound, hparsed⟩
    | snmp found => exact .inr ⟨found, h.findSection?_eq_snmp_iff.1 hfound, hparsed⟩
  · rintro (⟨found, hfound, hparsed⟩ | ⟨found, hfound, hparsed⟩)
    · exact ⟨.agent found, Snapshot.findSection?_eq_agent_iff.2 hfound, hparsed⟩
    · exact ⟨.snmp found, h.findSection?_eq_snmp_iff.2 hfound, hparsed⟩

/-- A registered name produces what it is taken to produce, and nothing else. -/
theorem produces_iff (h : r.Coherent) {parsed : ParsedSectionName} {name : SectionName} :
    r.Produces name parsed ↔ r.IsSection name ∧ r.producedBy name = parsed := by
  rw [← h.mem_producers_iff_produces, h.mem_producers, producedBy]
  cases hfound : r.findSection? name with
  | none =>
      obtain ⟨hagent, hsnmp⟩ := Snapshot.findSection?_eq_none_iff.1 hfound
      simp [IsSection, hagent, hsnmp]
  | some s =>
      have hsection : r.IsSection name := by
        by_contra hnone
        rw [IsSection, not_or] at hnone
        rw [Snapshot.findSection?_eq_none_iff.2 hnone] at hfound
        cases hfound
      simp [hsection]

/-- **A group counts the names that produce its parsed section**, each of them once. -/
theorem size_producers (h : r.Coherent) (parsed : ParsedSectionName) :
    (r.sectionIndex.producers parsed).size =
      (r.sectionNames.filter (r.producedBy · = parsed)).card := by
  rw [← card_keys]
  congr 1
  ext name
  rw [List.mem_toFinset, Finset.mem_filter, mem_sectionNames, ← h.produces_iff,
    ← h.mem_producers_iff_produces]
  rfl

/-- **More than one entry means two names that compete.** -/
theorem needsRedetection_iff (h : r.Coherent) {name : SectionName} :
    r.needsRedetection name = true ↔
      ∃ first second, first ≠ second ∧
        r.Produces first (r.producedBy name) ∧ r.Produces second (r.producedBy name) := by
  rw [needsRedetection, decide_eq_true_iff, h.size_producers, Finset.one_lt_card]
  simp only [Finset.mem_filter, mem_sectionNames, ← h.produces_iff]
  constructor
  · rintro ⟨first, hfirst, second, hsecond, hne⟩
    exact ⟨first, second, hne, hfirst, hsecond⟩
  · rintro ⟨first, second, hne, hfirst, hsecond⟩
    exact ⟨first, hfirst, second, hsecond, hne⟩

end Coherent

/-- **Redetection is needed exactly if two registered sections compete** for what a section is taken
to produce.  This is what its definition says, and the parsed section of its own name if there is
none. -/
theorem InUse.needsRedetection_exact {r : Registry} (h : r.InUse) (name : SectionName) :
    (r.needsRedetection name = true ↔
      ∃ first second, first ≠ second ∧
        r.Produces first (r.producedBy name) ∧ r.Produces second (r.producedBy name)) ∧
    (∀ s, r.findSection? name = some s → r.producedBy name = s.parsedName) ∧
    (r.findSection? name = none → (r.producedBy name).text = name.text) := by
  refine ⟨h.reachable.coherent.needsRedetection_iff, ?_, ?_⟩
  · intro s hfound
    simp only [producedBy, hfound]
  · intro hnone
    simp only [producedBy, hnone, Name.text_toParsedSection]

/-- Two sections, one of each source, that produce the parsed section of a third name. -/
def contendedRun : List Operation :=
  [.registration (.addSection (.agent (.silent .df .disk))),
    .registration (.addSection (.snmp (.silent .mounts .disk)))]

/-- The third name is not registered, and redetection is needed all the same. -/
theorem InUse.needsRedetection_exact_contendedRun :
    (empty.run contendedRun).InUse ∧ (empty.run contendedRun).findSection? .disk = none ∧
      (empty.run contendedRun).needsRedetection .disk = true := by
  have huse : (empty.run contendedRun).InUse := .reached ⟨contendedRun, rfl⟩
  have hnone : (empty.run contendedRun).findSection? .disk = none := by rfl
  obtain ⟨hexact, -, hunregistered⟩ := huse.needsRedetection_exact .disk
  have hproduced : (empty.run contendedRun).producedBy .disk = .disk :=
    Name.ext (hunregistered hnone)
  rw [hproduced] at hexact
  exact ⟨huse, hnone, hexact.2 ⟨.df, .mounts, by decide, .inl ⟨_, by rfl, rfl⟩,
    .inr ⟨_, by rfl, rfl⟩⟩⟩

/-! ### Registering a section -/

section Keys

variable {kind : NameKind} {β : Type} (t : Std.ExtTreeMap (Name kind) β) (name : Name kind)

theorem toFinset_keys_insert (found : β) :
    (t.insert name found).keys.toFinset = insert name t.keys.toFinset := by
  ext other
  rw [List.mem_toFinset, Std.ExtTreeMap.mem_keys, Std.ExtTreeMap.mem_insert,
    Std.LawfulEqCmp.compare_eq_iff_eq, Finset.mem_insert, List.mem_toFinset,
    Std.ExtTreeMap.mem_keys, eq_comm]

theorem toFinset_keys_erase : (t.erase name).keys.toFinset = t.keys.toFinset.erase name := by
  ext other
  rw [List.mem_toFinset, Std.ExtTreeMap.mem_keys, Std.ExtTreeMap.mem_erase, Ne,
    Std.LawfulEqCmp.compare_eq_iff_eq, Finset.mem_erase, List.mem_toFinset,
    Std.ExtTreeMap.mem_keys, Ne, eq_comm]

end Keys

namespace Coherent

variable {r : Registry}

/-- The name joins the group of its new definition. -/
theorem producers_addSection_self (h : r.Coherent) (new : Section) :
    (r.addSection new).sectionIndex.producers new.parsedName =
      (r.sectionIndex.producers new.parsedName).insert new.name new := by
  ext name s
  rw [h.getElem?_producers_addSection, if_pos rfl, Std.ExtTreeMap.getElem?_insert]
  simp only [Std.LawfulEqCmp.compare_eq_iff_eq]

/-- The name is in no other group. -/
theorem producers_addSection_of_ne (h : r.Coherent) {new : Section} {parsed : ParsedSectionName}
    (hne : new.parsedName ≠ parsed) :
    (r.addSection new).sectionIndex.producers parsed =
      (r.sectionIndex.producers parsed).erase new.name := by
  ext name s
  rw [h.getElem?_producers_addSection, if_neg hne, Std.ExtTreeMap.getElem?_erase]
  simp only [Std.LawfulEqCmp.compare_eq_iff_eq]

/-- A group that neither definition belongs to stays as it was. -/
theorem producers_addSection_of_unconcerned (h : r.Coherent) {new : Section}
    {parsed : ParsedSectionName} (hnew : new.parsedName ≠ parsed)
    (hold : ∀ previous, r.findSection? new.name = some previous → previous.parsedName ≠ parsed) :
    (r.addSection new).sectionIndex.producers parsed = r.sectionIndex.producers parsed := by
  have habsent : new.name ∉ r.sectionIndex.producers parsed := by
    rw [Std.ExtTreeMap.mem_iff_isSome_getElem?, h.not_mem_producers hold]
    exact Bool.false_ne_true
  rw [h.producers_addSection_of_ne hnew, erase_eq_self habsent]

/-- The new section is in the map of its source, and its name in no other. -/
theorem mem_addSection_iff_source (h : r.Coherent) (new : Section) :
    (new.name ∈ (r.addSection new).agentSections ↔ new.source = .agent) ∧
      (new.name ∈ (r.addSection new).snmpSections ↔ new.source = .snmp) := by
  rw [h.toSnapshot_addSection]
  cases new <;> simp

end Coherent

/-- **A registry with one more section**, which takes the place of an earlier one of its name,
whatever its source and whatever it produced. -/
structure WithSection (r : Registry) (new : Section) (s : Registry) : Prop where
  found : s.findSection? new.name = some new
  /-- The name is in the map of its own source only. -/
  agentSource : new.name ∈ s.agentSections ↔ new.source = .agent
  snmpSource : new.name ∈ s.snmpSections ↔ new.source = .snmp
  findSection? : ∀ name, name ≠ new.name → s.findSection? name = r.findSection? name
  joined : (s.producers new.parsedName).toFinset =
    insert new.name (r.producers new.parsedName).toFinset
  left : ∀ previous, r.findSection? new.name = some previous →
    previous.parsedName ≠ new.parsedName →
      (s.producers previous.parsedName).toFinset =
        (r.producers previous.parsedName).toFinset.erase new.name
  producers : ∀ parsed, parsed ≠ new.parsedName →
    (∀ previous, r.findSection? new.name = some previous → parsed ≠ previous.parsedName) →
      s.producers parsed = r.producers parsed
  checkPlugins : s.checkPlugins = r.checkPlugins
  inventoryPlugins : s.inventoryPlugins = r.inventoryPlugins
  checkGroups : s.checkGroups = r.checkGroups
  rulesets : s.rulesets = r.rulesets
  /-- Redetection concerns the section itself, and those that ask for what it produces or
  produced. -/
  needsRedetection : ∀ name, s.needsRedetection name ≠ r.needsRedetection name →
    name = new.name ∨ r.producedBy name = new.parsedName ∨
      ∃ previous, r.findSection? new.name = some previous ∧
        r.producedBy name = previous.parsedName

/-- **Registering a section has this effect**, and no other. -/
theorem InUse.withSection_addSection {r : Registry} (h : r.InUse) (new : Section) :
    r.WithSection new (r.addSection new) := by
  have hr := h.reachable.coherent
  obtain ⟨hagent, hsnmp⟩ := hr.mem_addSection_iff_source new
  have hother (name : SectionName) (hname : name ≠ new.name) :
      (r.addSection new).findSection? name = r.findSection? name := by
    rw [hr.findSection?_addSection, if_neg hname.symm]
  constructor
  · rw [hr.findSection?_addSection, if_pos rfl]
  · exact hagent
  · exact hsnmp
  · exact hother
  · rw [Registry.producers, hr.producers_addSection_self, toFinset_keys_insert]
    rfl
  · intro previous _ hne
    rw [Registry.producers, hr.producers_addSection_of_ne hne.symm, toFinset_keys_erase]
    rfl
  · intro parsed hnew hold
    rw [Registry.producers, hr.producers_addSection_of_unconcerned hnew.symm
      fun previous hprevious => (hold previous hprevious).symm]
    rfl
  · exact r.checkPlugins_addSection new
  · exact r.inventoryPlugins_addSection new
  · exact r.checkGroups_addSection new
  · exact r.rulesets_addSection new
  · intro name hchanged
    by_contra hnone
    simp only [not_or, not_exists, not_and] at hnone
    obtain ⟨hname, hnew, hold⟩ := hnone
    -- what the name is taken to produce is as before, and so is the group of it
    refine hchanged ?_
    have hproduced : (r.addSection new).producedBy name = r.producedBy name := by
      rw [producedBy, hother name hname]
      rfl
    rw [Registry.needsRedetection, hproduced, hr.producers_addSection_of_unconcerned (Ne.symm hnew)
      fun previous hprevious => Ne.symm (hold previous hprevious)]
    rfl

/-- A section that moves to SNMP and to another parsed section leaves its competitor alone. -/
theorem InUse.withSection_addSection_contendedRun :
    (empty.run contendedRun).InUse ∧
      (((empty.run contendedRun).addSection (.snmp (.silent .df .df))).producers .df).toFinset =
        {.df} ∧
      (((empty.run contendedRun).addSection (.snmp (.silent .df .df))).producers .disk).toFinset =
        {.mounts} ∧
      .df ∉ ((empty.run contendedRun).addSection (.snmp (.silent .df .df))).agentSections := by
  have huse : (empty.run contendedRun).InUse := .reached ⟨contendedRun, rfl⟩
  have heffect := huse.withSection_addSection (.snmp (.silent .df .df))
  refine ⟨huse, heffect.joined.trans (by rfl), ?_, ?_⟩
  · exact (heffect.left (.agent (.silent .df .disk)) (by rfl) (by decide)).trans (by rfl)
  · exact fun hmem => absurd (heffect.agentSource.1 hmem) (by decide)

end MonitoringPlugins.Registry
