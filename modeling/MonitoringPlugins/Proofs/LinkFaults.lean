/-
**Why a manifest is not linked.**

A manifest is linked entry by entry and stops at the first fault.  Many things may be wrong with it
at once: names outside the grammar, functions that are not there, parameters that are no table, and
parts that do not fit together, in any number of entries.  This module says which one is reported.
The entries come in a fixed order, and so do the steps that an entry takes; for each step it is said
of the texts of the entry alone what can be wrong there.  The first entry that cannot be linked
settles the error, by its first fault, and what follows it does not matter.

Main definitions:

* `MonitoringPlugins.AgentSectionEntry.causes`, `MonitoringPlugins.SnmpSectionEntry.causes`,
  `MonitoringPlugins.CheckEntry.causes`, `MonitoringPlugins.InventoryEntry.causes` — **what may be
  wrong with an entry**, in the order of the steps;
* `MonitoringPlugins.Manifest.Entry`, `MonitoringPlugins.Manifest.entries` — the entries of a
  manifest in the order of linking;
* `MonitoringPlugins.Manifest.Entry.link`, `MonitoringPlugins.Manifest.Entry.causes` — an entry by
  itself.

Main results:

* `MonitoringPlugins.AgentSectionEntry.link_failsBy`,
  `MonitoringPlugins.SnmpSectionEntry.link_failsBy`, `MonitoringPlugins.CheckEntry.link_failsBy`,
  `MonitoringPlugins.InventoryEntry.link_failsBy` — **an entry fails by its first fault**;
* `MonitoringPlugins.Manifest.link_failsBy` — so does a manifest, entry by entry;
* `MonitoringPlugins.Manifest.exists_link_eq_error` — what follows a faulty entry does not matter;
* `MonitoringPlugins.Manifest.link_first_fault` — **the first fault of the first faulty entry is
  reported**.
-/

import Mathlib.Data.String.Basic
import MonitoringPlugins.Proofs.RefusedDrafts
import MonitoringPlugins.Proofs.WellFormedEntry
import MonitoringPlugins.Text.ByteOrder

set_option autoImplicit false

namespace MonitoringPlugins

/-! ### Steps -/

/-- A text is no name. -/
def notName (kind : NameKind) (text : String) : Cause LinkError :=
  Cause.reportedAs LinkError.name (Name.Refused kind text)

/-- There is no function of the kind and name. -/
def HandlerTable.missing (handlers : HandlerTable) (kind : HandlerKind)
    (plugin handler : String) : Cause LinkError := fun error =>
  handlers.lookup kind handler = none ∧ error = .missingHandler plugin kind handler

/-- Default parameters are given that are no table. -/
def notTable (plugin : String) (stage : Stage) (value : Option Json) : Cause LinkError :=
  fun error => (∃ v, value = some v ∧ ∀ table, v ≠ .obj table) ∧
    error = .parametersNotTable plugin stage

theorem linkedName_failsBy (kind : NameKind) (text : String) :
    FailsBy (linkedName kind text) [notName kind text] := by
  have hname : FailsBy (Name.ofText kind text) [Name.Refused kind text] := by
    refine .single (fun e => Name.ofText_eq_error_iff.2) fun habsent => ?_
    cases h : Name.ofText kind text with
    | error e => exact absurd (Name.ofText_eq_error_iff.1 h) (habsent e)
    | ok n => exact ⟨n, rfl⟩
  exact hname.mapError LinkError.name

theorem linkedNames_failsBy (kind : NameKind) (texts : List String) :
    FailsBy (linkedNames kind texts) (texts.map (notName kind)) := by
  have h : FailsBy (linkedNames kind texts) (texts.flatMap fun text => [notName kind text]) :=
    .mapM fun text _ => linkedName_failsBy kind text
  rwa [← List.map_eq_flatMap] at h

theorem linkedName?_failsBy (kind : NameKind) (text : Option String) :
    FailsBy (linkedName? kind text) (text.toList.map (notName kind)) := by
  cases text with
  | none => exact .ok none
  | some text => exact (linkedName_failsBy kind text).map some

theorem linkedParameters_failsBy (plugin : String) (stage : Stage) (value : Option Json) :
    FailsBy (linkedParameters plugin stage value) [notTable plugin stage value] := by
  unfold linkedParameters
  split
  · refine .single ?_ fun _ => ⟨none, rfl⟩
    rintro e ⟨⟨v, hv, -⟩, -⟩
    cases hv
  · next fields =>
    refine .single ?_ fun _ => ⟨some fields, rfl⟩
    rintro e ⟨⟨v, hv, htable⟩, -⟩
    exact absurd (Option.some.inj hv).symm (htable fields)
  · next v htable =>
    refine .single ?_ fun habsent => ?_
    · rintro e ⟨-, rfl⟩
      rfl
    · have hv : ∀ table, v ≠ .obj table := fun table h => htable table h
      exact absurd ⟨⟨v, rfl, hv⟩, rfl⟩ (habsent _)

theorem HandlerTable.resolve_failsBy (handlers : HandlerTable) (kind : HandlerKind)
    (plugin handler : String) :
    FailsBy (handlers.resolve kind plugin handler) [handlers.missing kind plugin handler] := by
  unfold resolve
  cases h : handlers.lookup kind handler with
  | none =>
      refine .single ?_ fun habsent => absurd ⟨h, rfl⟩ (habsent _)
      rintro e ⟨-, rfl⟩
      rfl
  | some function =>
      refine .single ?_ fun _ => ⟨function, rfl⟩
      rintro e ⟨hnone, -⟩
      cases h.symm.trans hnone

/-! ### Sections -/

namespace SectionEntry

/-- What is wrong with the section that has the name of an entry. -/
def definition (e : SectionEntry) (cause : SectionName → Cause DefinitionError) :
    Cause LinkError := fun error =>
  ∃ name : SectionName, name.text = e.name ∧ (cause name).reportedAs LinkError.definition error

/-- The superseded sections of an entry include its own. -/
def supersedesItself (e : SectionEntry) : Cause LinkError :=
  e.definition fun name error => e.name ∈ e.supersedes ∧ error = .supersedesItself name

/-- **What may be wrong with the names of an entry**: its own, those of the superseded sections,
that of the parsed section, and that of the ruleset of host labels. -/
def nameCauses (e : SectionEntry) : List (Cause LinkError) :=
  [notName .rawSection e.name] ++ e.supersedes.map (notName .rawSection) ++
    e.parsedName.toList.map (notName .parsedSection) ++
    e.hostLabelRuleset.toList.map (notName .ruleset)

variable {e : SectionEntry} {draft : SectionDraft}

theorem linkedDraft_failsBy (e : SectionEntry) : FailsBy e.linkedDraft e.nameCauses := by
  rw [linkedDraft, nameCauses]
  simp only [List.append_assoc]
  refine (linkedName_failsBy .rawSection e.name).bind fun name _ => ?_
  refine (linkedNames_failsBy .rawSection e.supersedes).bind fun supersedes _ => ?_
  refine (linkedName?_failsBy .parsedSection e.parsedName).bind fun parsedName _ => ?_
  exact (linkedName?_failsBy .ruleset e.hostLabelRuleset).bindOk _

theorem Drafted.definition_eq (h : e.Drafted draft) (cause : SectionName → Cause DefinitionError) :
    e.definition cause = (cause draft.name).reportedAs LinkError.definition := by
  funext error
  refine propext ⟨?_, fun herror => ⟨draft.name, h.name, herror⟩⟩
  rintro ⟨name, hname, herror⟩
  rwa [Name.ext (hname.trans h.name.symm)] at herror

theorem Drafted.supersedesItself_eq (h : e.Drafted draft) :
    e.supersedesItself = draft.supersedesItself.reportedAs LinkError.definition := by
  have hself : e.name ∈ e.supersedes ↔ draft.name ∈ draft.supersedes := by
    rw [h.mem_supersedes_iff, h.name]
  rw [supersedesItself, h.definition_eq, hself]
  rfl

end SectionEntry

/-- **What may be wrong with an agent section**, in the order of the steps. -/
def AgentSectionEntry.causes (handlers : HandlerTable) (e : AgentSectionEntry) :
    List (Cause LinkError) :=
  [handlers.missing .agentParse e.name e.parseFunction] ++ e.nameCauses ++ [e.supersedesItself]

/-- **What may be wrong with an SNMP section**, in the order of the steps. -/
def SnmpSectionEntry.causes (handlers : HandlerTable) (e : SnmpSectionEntry) :
    List (Cause LinkError) :=
  [handlers.missing .snmpParse e.name e.parseFunction] ++ e.nameCauses ++
    [e.definition (SnmpSection.noTrees · e.fetch), e.definition (SnmpSection.noColumns · e.fetch),
      e.supersedesItself]

/-- **An agent section fails by its first fault.** -/
theorem AgentSectionEntry.link_failsBy (handlers : HandlerTable) (serial : Nat)
    (e : AgentSectionEntry) : FailsBy (e.link handlers serial) (e.causes handlers) := by
  rw [link, causes, List.append_assoc]
  refine (handlers.resolve_failsBy _ _ _).bind fun parse _ => ?_
  refine e.linkedDraft_failsBy.bind fun draft hdraft => ?_
  rw [(SectionEntry.linkedDraft_eq_ok_iff.1 hdraft).supersedesItself_eq]
  exact (AgentSection.build_failsBy serial draft parse).mapError LinkError.definition

/-- **An SNMP section fails by its first fault.** -/
theorem SnmpSectionEntry.link_failsBy (handlers : HandlerTable) (serial : Nat)
    (e : SnmpSectionEntry) : FailsBy (e.link handlers serial) (e.causes handlers) := by
  rw [link, causes, List.append_assoc]
  refine (handlers.resolve_failsBy _ _ _).bind fun parse _ => ?_
  refine e.linkedDraft_failsBy.bind fun draft hdraft => ?_
  have hdrafted := SectionEntry.linkedDraft_eq_ok_iff.1 hdraft
  have hbuild := SnmpSection.build_failsBy serial draft e.fetch e.detect parse
  rw [hdrafted.supersedesItself_eq, hdrafted.definition_eq, hdrafted.definition_eq]
  exact hbuild.mapError LinkError.definition

/-! ### Parts of plug-ins -/

/-- Declared parsed sections are repeated, said of the texts. -/
def Subscription.textRepeats (plugin : String) (declared : List String) : Cause DefinitionError :=
  fun error => ∃ parsed : ParsedSectionName, RepeatedFirst declared parsed.text ∧
    error = .repeatedSection plugin parsed

/-- Default parameters and ruleset are not given together, said of the texts. -/
def DefaultParameters.textUnpaired (plugin : String) (stage : Stage) (value : Option Json)
    (ruleset : Option String) : Cause DefinitionError := fun error =>
  (value.isSome ∧ ruleset = none ∧ error = .missingRuleset plugin stage) ∨
    (value = none ∧ ∃ name : RulesetName, ruleset = some name.text ∧
      error = .missingDefaults plugin stage name)

theorem repeatedFirst_map_iff {α β : Type} {f : α → β} (hf : Function.Injective f) {items : List α}
    {a : α} : RepeatedFirst (items.map f) (f a) ↔ RepeatedFirst items a := by
  constructor
  · rintro ⟨before, after, h, hnodup, ha⟩
    obtain ⟨before, rest, rfl, rfl, hrest⟩ := List.map_eq_append_iff.1 h
    obtain ⟨b, after, rfl, hb, rfl⟩ := List.map_eq_cons_iff.1 hrest
    obtain rfl := hf hb
    exact ⟨before, after, rfl, hnodup.of_map f, (List.mem_map_of_injective hf).1 ha⟩
  · rintro ⟨before, after, rfl, hnodup, ha⟩
    exact ⟨before.map f, after.map f, by simp, hnodup.map hf, List.mem_map_of_mem ha⟩

/-- The parsed section of the own name cannot be repeated, for it stands alone. -/
theorem repeatedFirst_sections_iff {kind : NameKind} {plugin : Name kind}
    {declared : List ParsedSectionName} {parsed : ParsedSectionName} :
    RepeatedFirst (Subscription.sections plugin declared) parsed ↔
      RepeatedFirst declared parsed := by
  by_cases h : declared = []
  · have hone : (Subscription.sections plugin declared).Nodup := by simp [Subscription.sections, h]
    have hnone : declared.Nodup := by simp [h]
    rw [← firstRepeated_eq_some_iff, ← firstRepeated_eq_some_iff,
      firstRepeated_eq_none_iff.2 hone, firstRepeated_eq_none_iff.2 hnone]
  · rw [Subscription.sections, if_neg h]

theorem Subscription.repeats_eq {kind : NameKind} {plugin : Name kind}
    {declared : List ParsedSectionName} {text : String} {texts : List String}
    (htext : plugin.text = text) (htexts : declared.map Name.text = texts) :
    repeats plugin.text (sections plugin declared) = textRepeats text texts := by
  funext error
  simp only [repeats, textRepeats, repeatedFirst_sections_iff, htext, ← htexts,
    repeatedFirst_map_iff fun _ _ => Name.ext]

theorem DefaultParameters.unpaired_eq {plugin : String} {stage : Stage}
    {values : Option Parameters} {value : Option Json} {ruleset : Option RulesetName}
    {text : Option String} (hvalue : values.map Json.obj = value)
    (htext : ruleset.map Name.text = text) :
    unpaired plugin stage values ruleset = textUnpaired plugin stage value text := by
  subst hvalue htext
  have hname (name : RulesetName) :
      ruleset.map Name.text = some name.text ↔ ruleset = some name := by
    rw [← Option.map_some, (Option.map_injective fun _ _ => Name.ext).eq_iff]
  funext error
  simp only [unpaired, textUnpaired, hname, Option.isSome_map, Option.map_eq_none_iff]

/-! ### Check plug-ins -/

namespace CheckEntry

/-- **What may be wrong with the parts of a check plug-in**, in the order of the steps. -/
def partCauses (handlers : HandlerTable) (e : CheckEntry) : List (Cause LinkError) :=
  [notName .checkPlugin e.name, handlers.missing .discovery e.name e.discoveryFunction,
      handlers.missing .check e.name e.checkFunction] ++
    e.sections.map (notName .parsedSection) ++
    [notTable e.name .discovery e.discoveryDefaults] ++
    e.discoveryRuleset.toList.map (notName .ruleset) ++
    [notTable e.name .check e.checkDefaults] ++
    e.checkRuleset.toList.map (notName .ruleset)

/-- What may be wrong with a check plug-in that has all its parts. -/
def definitionCauses (e : CheckEntry) : List (Cause DefinitionError) :=
  [ServiceName.severalItems e.name e.serviceName, Subscription.textRepeats e.name e.sections,
    DefaultParameters.textUnpaired e.name .discovery e.discoveryDefaults e.discoveryRuleset,
    DefaultParameters.textUnpaired e.name .check e.checkDefaults e.checkRuleset]

/-- **What may be wrong with a check plug-in**, in the order of the steps. -/
def causes (handlers : HandlerTable) (e : CheckEntry) : List (Cause LinkError) :=
  e.partCauses handlers ++ e.definitionCauses.map (Cause.reportedAs LinkError.definition)

variable {handlers : HandlerTable} {e : CheckEntry} {draft : CheckDraft}

theorem Drafted.causes_eq (h : e.Drafted handlers draft) : draft.causes = e.definitionCauses := by
  rw [CheckDraft.causes, definitionCauses, Subscription.repeats_eq h.name h.sections,
    DefaultParameters.unpaired_eq h.discoveryDefaults h.discoveryRuleset,
    DefaultParameters.unpaired_eq h.checkDefaults h.checkRuleset, h.name, h.serviceName]

theorem linkedDraft_failsBy (handlers : HandlerTable) (e : CheckEntry) :
    FailsBy (e.linkedDraft handlers) (e.partCauses handlers) := by
  rw [linkedDraft, partCauses]
  simp only [List.append_assoc]
  refine (linkedName_failsBy .checkPlugin e.name).bind fun name _ => ?_
  refine (handlers.resolve_failsBy .discovery e.name _).bind fun discovery _ => ?_
  refine (handlers.resolve_failsBy .check e.name _).bind fun check _ => ?_
  refine (linkedNames_failsBy .parsedSection e.sections).bind fun sections _ => ?_
  refine (linkedParameters_failsBy e.name .discovery _).bind fun discoveryDefaults _ => ?_
  refine (linkedName?_failsBy .ruleset _).bind fun discoveryRuleset _ => ?_
  refine (linkedParameters_failsBy e.name .check _).bind fun checkDefaults _ => ?_
  exact (linkedName?_failsBy .ruleset _).bindOk _

/-- **A check plug-in fails by its first fault.** -/
theorem link_failsBy (handlers : HandlerTable) (e : CheckEntry) :
    FailsBy (e.link handlers) (e.causes handlers) := by
  rw [link, causes]
  refine (e.linkedDraft_failsBy handlers).bind fun draft hdraft => ?_
  -- the causes of the draft are those of the texts, because it holds the parts of the entry
  rw [← (linkedDraft_eq_ok_iff.1 hdraft).causes_eq]
  exact draft.build_failsBy.mapError LinkError.definition

end CheckEntry

/-! ### Inventory plug-ins -/

namespace InventoryEntry

/-- **What may be wrong with the parts of an inventory plug-in**, in the order of the steps. -/
def partCauses (handlers : HandlerTable) (e : InventoryEntry) : List (Cause LinkError) :=
  [notName .inventoryPlugin e.name, handlers.missing .inventory e.name e.inventoryFunction] ++
    e.sections.map (notName .parsedSection) ++
    [notTable e.name .inventory e.inventoryDefaults] ++
    e.inventoryRuleset.toList.map (notName .ruleset)

/-- What may be wrong with an inventory plug-in that has all its parts. -/
def definitionCauses (e : InventoryEntry) : List (Cause DefinitionError) :=
  [Subscription.textRepeats e.name e.sections,
    DefaultParameters.textUnpaired e.name .inventory e.inventoryDefaults e.inventoryRuleset]

/-- **What may be wrong with an inventory plug-in**, in the order of the steps. -/
def causes (handlers : HandlerTable) (e : InventoryEntry) : List (Cause LinkError) :=
  e.partCauses handlers ++ e.definitionCauses.map (Cause.reportedAs LinkError.definition)

variable {handlers : HandlerTable} {e : InventoryEntry} {draft : InventoryDraft}

theorem Drafted.causes_eq (h : e.Drafted handlers draft) : draft.causes = e.definitionCauses := by
  rw [InventoryDraft.causes, definitionCauses, Subscription.repeats_eq h.name h.sections,
    DefaultParameters.unpaired_eq h.inventoryDefaults h.inventoryRuleset, h.name]

theorem linkedDraft_failsBy (handlers : HandlerTable) (e : InventoryEntry) :
    FailsBy (e.linkedDraft handlers) (e.partCauses handlers) := by
  rw [linkedDraft, partCauses]
  simp only [List.append_assoc]
  refine (linkedName_failsBy .inventoryPlugin e.name).bind fun name _ => ?_
  refine (handlers.resolve_failsBy .inventory e.name _).bind fun inventory _ => ?_
  refine (linkedNames_failsBy .parsedSection e.sections).bind fun sections _ => ?_
  refine (linkedParameters_failsBy e.name .inventory _).bind fun inventoryDefaults _ => ?_
  exact (linkedName?_failsBy .ruleset _).bindOk _

/-- **An inventory plug-in fails by its first fault.** -/
theorem link_failsBy (handlers : HandlerTable) (e : InventoryEntry) :
    FailsBy (e.link handlers) (e.causes handlers) := by
  rw [link, causes]
  refine (e.linkedDraft_failsBy handlers).bind fun draft hdraft => ?_
  rw [← (linkedDraft_eq_ok_iff.1 hdraft).causes_eq]
  exact draft.build_failsBy.mapError LinkError.definition

end InventoryEntry

/-! ### Manifests -/

namespace Manifest

/-- An entry of a manifest. -/
inductive Entry where
  | agentSection (e : AgentSectionEntry)
  | snmpSection (e : SnmpSectionEntry)
  | checkPlugin (e : CheckEntry)
  | inventoryPlugin (e : InventoryEntry)
  /-- The rules of a ruleset, under its name. -/
  | ruleset (e : String × List Rule)

/-- **The entries of a manifest** in the order of linking. -/
def entries (m : Manifest) : List Entry :=
  m.agentSections.map .agentSection ++ m.snmpSections.map .snmpSection ++
    m.checkPlugins.map .checkPlugin ++ m.inventoryPlugins.map .inventoryPlugin ++
    m.rulesets.toList.map .ruleset

namespace Entry

/-- Linking an entry by itself, of which only the error is of interest. -/
def link (handlers : HandlerTable) (serial : Nat) : Entry → Except LinkError Unit
  | agentSection e => (e.link handlers serial).map fun _ => ()
  | snmpSection e => (e.link handlers serial).map fun _ => ()
  | checkPlugin e => (e.link handlers).map fun _ => ()
  | inventoryPlugin e => (e.link handlers).map fun _ => ()
  | ruleset e => (linkedRuleset e).map fun _ => ()

/-- **What may be wrong with an entry**, in the order of the steps. -/
def causes (handlers : HandlerTable) : Entry → List (Cause LinkError)
  | agentSection e => e.causes handlers
  | snmpSection e => e.causes handlers
  | checkPlugin e => e.causes handlers
  | inventoryPlugin e => e.causes handlers
  | ruleset e => [notName .ruleset e.1]

/-- **An entry fails by its first fault**, whatever number it has. -/
theorem link_failsBy (handlers : HandlerTable) (serial : Nat) (entry : Entry) :
    FailsBy (entry.link handlers serial) (entry.causes handlers) := by
  cases entry with
  | agentSection e => exact (e.link_failsBy handlers serial).map _
  | snmpSection e => exact (e.link_failsBy handlers serial).map _
  | checkPlugin e => exact (e.link_failsBy handlers).map _
  | inventoryPlugin e => exact (e.link_failsBy handlers).map _
  | ruleset e => exact ((linkedName_failsBy .ruleset e.1).map _).map _

theorem link_eq_ok_iff {handlers : HandlerTable} {serial : Nat} {entry : Entry} :
    entry.link handlers serial = .ok () ↔ ∀ c ∈ entry.causes handlers, c.Absent := by
  rw [← (link_failsBy handlers serial entry).exists_ok_iff]
  exact ⟨fun h => ⟨(), h⟩, fun ⟨_, h⟩ => h⟩

end Entry

/-- The numbers that sections get do not matter. -/
theorem mapM_zipIdx_failsBy {ε α β : Type} {f : α × Nat → Except ε β} {causes : α → List (Cause ε)}
    (h : ∀ x k, FailsBy (f (x, k)) (causes x)) (xs : List α) (first : Nat) :
    FailsBy ((xs.zipIdx first).mapM f) (xs.flatMap causes) := by
  have hnumbered : ((xs.zipIdx first).map Prod.fst).flatMap causes =
      (xs.zipIdx first).flatMap fun x => causes x.1 := by
    rw [List.flatMap_map]
  rw [List.zipIdx_map_fst] at hnumbered
  rw [hnumbered]
  exact .mapM fun x _ => h x.1 x.2

/-- **A manifest fails by the first fault of the first entry that has one.** -/
theorem link_failsBy (handlers : HandlerTable) (firstSerial : Nat) (m : Manifest) :
    FailsBy (m.link handlers firstSerial) (m.entries.flatMap (Entry.causes handlers)) := by
  rw [link, entries]
  simp only [List.flatMap_append, List.flatMap_map, List.append_assoc]
  refine (mapM_zipIdx_failsBy (fun e serial => e.link_failsBy handlers serial) _ _).bind
    fun agentSections _ => ?_
  refine (mapM_zipIdx_failsBy (fun e serial => e.link_failsBy handlers serial) _ _).bind
    fun snmpSections _ => ?_
  refine (FailsBy.mapM fun e _ => e.link_failsBy handlers).bind fun checkPlugins _ => ?_
  refine (FailsBy.mapM fun e _ => e.link_failsBy handlers).bind fun inventoryPlugins _ => ?_
  exact (FailsBy.mapM fun e _ => (linkedName_failsBy .ruleset e.1).map _).bindOk _

/-- What follows an entry that cannot be linked does not matter: whatever manifest begins like this
fails alike. -/
theorem exists_link_eq_error {handlers : HandlerTable} (before : List Entry) {entry : Entry}
    {serial : Nat} (h : entry.link handlers serial ≠ .ok ()) :
    ∃ e, ∀ (m : Manifest) (after : List Entry) (firstSerial : Nat),
      m.entries = before ++ entry :: after → m.link handlers firstSerial = .error e := by
  -- the causes up to the entry settle the error, and all such manifests share them
  have hsome : ∃ e, FirstOf ((before ++ [entry]).flatMap (Entry.causes handlers)) e := by
    by_contra hnone
    have habsent := forall_absent_iff.2 (not_exists.1 hnone)
    refine h (Entry.link_eq_ok_iff.2 fun c hc => habsent c ?_)
    exact List.mem_flatMap.2 ⟨entry, List.mem_append_right _ (List.mem_singleton_self _), hc⟩
  obtain ⟨e, he⟩ := hsome
  refine ⟨e, fun m after firstSerial hm => ?_⟩
  rw [m.link_failsBy handlers firstSerial e, hm, List.append_cons, List.flatMap_append]
  exact he.append _

/-- The rulesets come in the order of the bytes of their names. -/
theorem rulesets_in_byte_order (m : Manifest) :
    m.rulesets.toList.Pairwise fun a b => Text.bytes a.1 < Text.bytes b.1 :=
  Std.ExtTreeMap.ordered_keys_toList.imp fun h => Text.bytes_lt_of_lt (compare_lt_iff_lt.1 h)

/-- **The first fault of a manifest is reported.**  A manifest fails with the error of the first
entry that cannot be linked by itself; the entries come in the order agent sections, SNMP sections,
check plug-ins, inventory plug-ins and rulesets, the latter in the order of the bytes of their
names.  An entry by itself fails with the error of the first of its causes that applies, in the
order of the steps that it takes.  What follows the first entry that fails does not matter. -/
theorem link_first_fault (handlers : HandlerTable) (m : Manifest) (firstSerial : Nat) :
    (∀ e, m.link handlers firstSerial = .error e ↔ ∃ before entry after,
      m.entries = before ++ entry :: after ∧
      (∀ other ∈ before, other.link handlers firstSerial = .ok ()) ∧
      entry.link handlers firstSerial = .error e) ∧
    (∀ (entry : Entry) (e : LinkError), entry.link handlers firstSerial = .error e ↔
      FirstOf (entry.causes handlers) e) ∧
    (∀ before entry after, m.entries = before ++ entry :: after →
      entry.link handlers firstSerial ≠ .ok () →
      ∃ e, m.link handlers firstSerial = .error e ∧
        ∀ (other : Manifest) (after' : List Entry) (serial : Nat),
          other.entries = before ++ entry :: after' → other.link handlers serial = .error e) ∧
    m.rulesets.toList.Pairwise fun a b => Text.bytes a.1 < Text.bytes b.1 := by
  refine ⟨?_, ?_, ?_, m.rulesets_in_byte_order⟩
  · intro e
    rw [m.link_failsBy handlers firstSerial e, firstOf_flatMap_iff]
    simp only [Entry.link_eq_ok_iff, Entry.link_failsBy handlers firstSerial _ e]
  · intro entry e
    exact entry.link_failsBy handlers firstSerial e
  · intro before entry after hm hentry
    obtain ⟨e, he⟩ := exists_link_eq_error before hentry
    exact ⟨e, he m after firstSerial hm, he⟩

/-- A check plug-in with faults in many steps: it needs two functions, one of its parsed sections is
named twice and another one not at all, its parameters are no table and lack a ruleset, its other
ruleset has no name and no parameters, and there is room for two items. -/
def faultyCheck : CheckEntry where
  name := "mounts"
  serviceName := "Mount %s on %s"
  sections := ["df", "", "df"]
  discoveryFunction := "find"
  discoveryDefaults := some .null
  discoveryRuleset := none
  checkFunction := "rate"
  checkDefaults := none
  checkRuleset := some "mount points"

/-- An inventory plug-in with a text for a name that is none. -/
def faultyInventory : InventoryEntry where
  name := "mount points"
  sections := []
  inventoryFunction := "list"
  inventoryDefaults := none
  inventoryRuleset := none

/-- A manifest with both. -/
def faultyManifest : Manifest where
  agentSections := []
  snmpSections := []
  checkPlugins := [faultyCheck]
  inventoryPlugins := [faultyInventory]
  rulesets := ∅

/-- Of all the faults the missing discovery function is reported, with or without the inventory
plug-in. -/
theorem link_first_fault_faultyManifest :
    faultyManifest.link .empty 0 = .error (.missingHandler "mounts" .discovery "find") ∧
      { faultyManifest with inventoryPlugins := [] }.link .empty 5 =
        .error (.missingHandler "mounts" .discovery "find") := by
  obtain ⟨hfirst, hsteps, hrest, -⟩ := link_first_fault .empty faultyManifest 0
  have hname : (notName .checkPlugin "mounts").Absent :=
    (linkedName_failsBy _ _).exists_ok_iff.1 ⟨.mounts, rfl⟩ _ (List.mem_singleton_self _)
  have hentry : (Entry.checkPlugin faultyCheck).link .empty 0 =
      .error (.missingHandler "mounts" .discovery "find") :=
    (hsteps _ _).2 ⟨[notName .checkPlugin "mounts"], _, _, rfl, by simpa using hname,
      HandlerTable.lookup_empty _ _, rfl⟩
  have hentries : faultyManifest.entries =
      [] ++ .checkPlugin faultyCheck :: [.inventoryPlugin faultyInventory] := rfl
  have hlink : faultyManifest.link .empty 0 =
      .error (.missingHandler "mounts" .discovery "find") :=
    (hfirst _).2 ⟨[], _, _, hentries, nofun, hentry⟩
  obtain ⟨e, he, hothers⟩ := hrest [] _ _ hentries (by rw [hentry]; nofun)
  obtain rfl := Except.error.inj (he.symm.trans hlink)
  exact ⟨hlink, hothers { faultyManifest with inventoryPlugins := [] } [] 5 rfl⟩

end Manifest

end MonitoringPlugins
