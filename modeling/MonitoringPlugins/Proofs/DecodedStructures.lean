/-
**What structures are read from.**

A structure is read in two steps: all its entries are let through the readers of their fields, and
then it is built, field by field.  Both steps stop at the first fault.  This module says what the
steps come to if there is none: each field of the structure is what its own reader makes of the
entry under its key, or its default, and no other entry is there.

Main definitions:

* `MonitoringPlugins.SectionEntry.ReadFrom` and its siblings — **where the fields of a structure
  come from**.

Main results:

* `MonitoringPlugins.Shape.read_eq_ok_iff` — the two steps of reading a structure;
* `MonitoringPlugins.Shape.given_map_eq_ok_iff` — the entries of a map that are let through;
* `MonitoringPlugins.CheckEntry.decode_eq_ok_iff` and its siblings — **what a structure is read
  as**.
-/

import MonitoringPlugins.Manifest.Decode
import MonitoringPlugins.Proofs.Drafts

set_option autoImplicit false

namespace MonitoringPlugins

open Data

/-! ### Leaves and lists -/

namespace Data

/-- An optional opaque part that is not `null` is read like any other. -/
theorem optionalOpaque_of_ne_null {d : Data} (hd : d ≠ .null) :
    optionalOpaque d = (opaqueValue d).map some := by
  cases d with
  | null => exact absurd rfl hd
  | _ => rfl

/-- Only sequences are read as lists. -/
theorem listOf_eq_ok {α : Type} {item : Decoder α} {d : Data} {as : List α}
    (h : listOf item d = .ok as) : ∃ items, d = .seq items ∧ items.mapM item = .ok as := by
  cases d with
  | seq items => exact ⟨items, rfl, h⟩
  | _ => exact nomatch h

end Data

/-! ### Structures -/

/-- Steps without a result succeed if each of them does. -/
theorem forM_eq_ok_iff {ε α : Type} {f : α → Except ε Unit} {xs : List α} :
    xs.forM f = .ok () ↔ ∀ x ∈ xs, f x = .ok () := by
  induction xs with
  | nil => simp [pure, Except.pure]
  | cons x rest ih =>
      rw [List.forM, bind_eq_ok_iff, List.forall_mem_cons, ← ih]
      exact ⟨fun ⟨_, hx, hrest⟩ => ⟨hx, hrest⟩, fun ⟨hx, hrest⟩ => ⟨(), hx, hrest⟩⟩

namespace Shape

variable {shape : Shape} {format : Format} {α : Type} {build : Given → Except DecodeError α}
  {d : Data} {g : Given}

/-- **The two steps of reading a structure**: its entries are sound, and it is built from them.  No
item of a sequence may be left. -/
theorem read_eq_ok_iff {R : Given → α → Prop} (hbuild : ∀ g a, build g = .ok a ↔ R g a) {a : α} :
    shape.read format build d = .ok a ↔
      ∃ g, shape.given d = .ok g ∧ R g a ∧ shape.noSurplus format d = .ok () := by
  unfold read
  constructor
  · intro h
    obtain ⟨g, hg, h⟩ := bind_eq_ok_iff.1 h
    obtain ⟨a', ha, h⟩ := bind_eq_ok_iff.1 h
    obtain ⟨_, hsurplus, h⟩ := bind_eq_ok_iff.1 h
    cases h
    exact ⟨g, hg, (hbuild g _).1 ha, hsurplus⟩
  · rintro ⟨g, hg, ha, hsurplus⟩
    refine bind_eq_ok_iff.2 ⟨g, hg, ?_⟩
    refine bind_eq_ok_iff.2 ⟨a, (hbuild g a).2 ha, ?_⟩
    exact bind_eq_ok_iff.2 ⟨(), hsurplus, rfl⟩

/-- **A map is let through** if each of its entries is. -/
theorem given_map_eq_ok_iff {entries : List (String × Data)} :
    shape.given (.map entries) = .ok g ↔
      (∀ entry ∈ entries, shape.checkEntry entry = .ok ()) ∧ g = ⟨entries, .missingField⟩ := by
  rw [given, bind_eq_ok_iff, ← forM_eq_ok_iff]
  constructor
  · rintro ⟨_, hcheck, h⟩
    exact ⟨hcheck, (Except.ok.inj h).symm⟩
  · rintro ⟨hcheck, rfl⟩
    exact ⟨(), hcheck, rfl⟩

/-- The entries that a tree writes for a structure: those of a map, or the items of a sequence under
the keys of the fields. -/
def entries? (shape : Shape) : Data → Option (List (String × Data))
  | .map entries => some entries
  | .seq items => some (shape.keys.zip items)
  | _ => none

/-- What is let through are the entries that a tree writes. -/
theorem entries?_of_given (h : shape.given d = .ok g) : shape.entries? d = some g.fields := by
  cases d with
  | map entries =>
      obtain ⟨-, rfl⟩ := given_map_eq_ok_iff.1 h
      rfl
  | seq items =>
      obtain ⟨_, -, h⟩ := bind_eq_ok_iff.1 h
      cases h
      rfl
  | _ => exact nomatch h

/-- An entry is let through if its key belongs to a field and the reader of the field reads it. -/
theorem checkEntry_eq_ok_iff {entry : String × Data} :
    shape.checkEntry entry = .ok () ↔
      ∃ check, Table.find? entry.1 shape.fields = some check ∧ check entry.2 = .ok () := by
  rw [checkEntry]
  split
  · next check hcheck => simp [hcheck]
  · next hnone => simp [hnone]

end Shape

/-! ### Parts of sections -/

/-- **Where the fields of a fetched table come from.** -/
structure SnmpTree.ReadFrom (g : Given) (t : SnmpTree) : Prop where
  base : g.required "base" text = .ok t.base
  oids : g.required "oids" (listOf text) = .ok t.oids

theorem SnmpTree.decode_eq_ok_iff {format : Format} {d : Data} {t : SnmpTree} :
    decode format d = .ok t ↔
      ∃ g, shape.given d = .ok g ∧ t.ReadFrom g ∧ shape.noSurplus format d = .ok () := by
  refine Shape.read_eq_ok_iff fun g t => ⟨fun h => ?_, fun h => ?_⟩
  · obtain ⟨base, hbase, h⟩ := bind_eq_ok_iff.1 h
    obtain ⟨oids, hoids, h⟩ := bind_eq_ok_iff.1 h
    cases h
    exact ⟨hbase, hoids⟩
  · refine bind_eq_ok_iff.2 ⟨_, h.base, ?_⟩
    exact bind_eq_ok_iff.2 ⟨_, h.oids, rfl⟩

/-- **Where the fields of a condition come from.** -/
structure DetectAtom.ReadFrom (g : Given) (a : DetectAtom) : Prop where
  oid : g.required "oid" text = .ok a.oid
  pattern : g.required "pattern" text = .ok a.pattern
  negate : g.optional "negate" boolean false = .ok a.negate

theorem DetectAtom.decode_eq_ok_iff {format : Format} {d : Data} {a : DetectAtom} :
    decode format d = .ok a ↔
      ∃ g, shape.given d = .ok g ∧ a.ReadFrom g ∧ shape.noSurplus format d = .ok () := by
  refine Shape.read_eq_ok_iff fun g a => ⟨fun h => ?_, fun h => ?_⟩
  · obtain ⟨oid, hoid, h⟩ := bind_eq_ok_iff.1 h
    obtain ⟨pattern, hpattern, h⟩ := bind_eq_ok_iff.1 h
    obtain ⟨negate, hnegate, h⟩ := bind_eq_ok_iff.1 h
    cases h
    exact ⟨hoid, hpattern, hnegate⟩
  · refine bind_eq_ok_iff.2 ⟨_, h.oid, ?_⟩
    refine bind_eq_ok_iff.2 ⟨_, h.pattern, ?_⟩
    exact bind_eq_ok_iff.2 ⟨_, h.negate, rfl⟩

/-! ### Sections -/

/-- **Where the fields that sections of both sources have come from.** -/
structure SectionEntry.ReadFrom (g : Given) (e : SectionEntry) : Prop where
  name : g.required "name" text = .ok e.name
  parsedName : g.optional "parsed_section_name" optionalText none = .ok e.parsedName
  parseFunction : g.required "parse_function" text = .ok e.parseFunction
  hostLabelRuleset : g.optional "host_label_ruleset_name" optionalText none = .ok e.hostLabelRuleset
  supersedes : g.optional "supersedes" (listOf text) [] = .ok e.supersedes

/-- **Where the fields of an agent section come from.** -/
structure AgentSectionEntry.ReadFrom (g : Given) (e : AgentSectionEntry) : Prop where
  common : e.toSectionEntry.ReadFrom g

theorem AgentSectionEntry.decode_eq_ok_iff {format : Format} {d : Data} {e : AgentSectionEntry} :
    decode format d = .ok e ↔
      ∃ g, shape.given d = .ok g ∧ e.ReadFrom g ∧ shape.noSurplus format d = .ok () := by
  refine Shape.read_eq_ok_iff fun g e => ⟨fun h => ?_, fun h => ?_⟩
  · obtain ⟨name, hname, h⟩ := bind_eq_ok_iff.1 h
    obtain ⟨parsedName, hparsedName, h⟩ := bind_eq_ok_iff.1 h
    obtain ⟨parseFunction, hparse, h⟩ := bind_eq_ok_iff.1 h
    obtain ⟨hostLabelRuleset, hruleset, h⟩ := bind_eq_ok_iff.1 h
    obtain ⟨supersedes, hsupersedes, h⟩ := bind_eq_ok_iff.1 h
    cases h
    exact ⟨⟨hname, hparsedName, hparse, hruleset, hsupersedes⟩⟩
  · refine bind_eq_ok_iff.2 ⟨_, h.common.name, ?_⟩
    refine bind_eq_ok_iff.2 ⟨_, h.common.parsedName, ?_⟩
    refine bind_eq_ok_iff.2 ⟨_, h.common.parseFunction, ?_⟩
    refine bind_eq_ok_iff.2 ⟨_, h.common.hostLabelRuleset, ?_⟩
    exact bind_eq_ok_iff.2 ⟨_, h.common.supersedes, rfl⟩

/-- **Where the fields of an SNMP section come from.** -/
structure SnmpSectionEntry.ReadFrom (format : Format) (g : Given) (e : SnmpSectionEntry) : Prop where
  common : e.toSectionEntry.ReadFrom g
  fetch : g.required "fetch" (listOf (SnmpTree.decode format)) = .ok e.fetch
  detect : g.optional "detect" (listOf (listOf (DetectAtom.decode format))) [] = .ok e.detect

theorem SnmpSectionEntry.decode_eq_ok_iff {format : Format} {d : Data} {e : SnmpSectionEntry} :
    decode format d = .ok e ↔
      ∃ g, (shape format).given d = .ok g ∧ e.ReadFrom format g ∧
        (shape format).noSurplus format d = .ok () := by
  refine Shape.read_eq_ok_iff fun g e => ⟨fun h => ?_, fun h => ?_⟩
  · obtain ⟨name, hname, h⟩ := bind_eq_ok_iff.1 h
    obtain ⟨parsedName, hparsedName, h⟩ := bind_eq_ok_iff.1 h
    obtain ⟨parseFunction, hparse, h⟩ := bind_eq_ok_iff.1 h
    obtain ⟨hostLabelRuleset, hruleset, h⟩ := bind_eq_ok_iff.1 h
    obtain ⟨supersedes, hsupersedes, h⟩ := bind_eq_ok_iff.1 h
    obtain ⟨fetch, hfetch, h⟩ := bind_eq_ok_iff.1 h
    obtain ⟨detect, hdetect, h⟩ := bind_eq_ok_iff.1 h
    cases h
    exact ⟨⟨hname, hparsedName, hparse, hruleset, hsupersedes⟩, hfetch, hdetect⟩
  · refine bind_eq_ok_iff.2 ⟨_, h.common.name, ?_⟩
    refine bind_eq_ok_iff.2 ⟨_, h.common.parsedName, ?_⟩
    refine bind_eq_ok_iff.2 ⟨_, h.common.parseFunction, ?_⟩
    refine bind_eq_ok_iff.2 ⟨_, h.common.hostLabelRuleset, ?_⟩
    refine bind_eq_ok_iff.2 ⟨_, h.common.supersedes, ?_⟩
    refine bind_eq_ok_iff.2 ⟨_, h.fetch, ?_⟩
    exact bind_eq_ok_iff.2 ⟨_, h.detect, rfl⟩

/-! ### Plug-ins -/

/-- **Where the fields of a check plug-in come from.** -/
structure CheckEntry.ReadFrom (g : Given) (e : CheckEntry) : Prop where
  name : g.required "name" text = .ok e.name
  serviceName : g.required "service_name" text = .ok e.serviceName
  sections : g.optional "sections" (listOf text) [] = .ok e.sections
  discoveryFunction : g.required "discovery_function" text = .ok e.discoveryFunction
  discoveryDefaults :
    g.optional "discovery_default_parameters" optionalOpaque none = .ok e.discoveryDefaults
  discoveryRuleset : g.optional "discovery_ruleset_name" optionalText none = .ok e.discoveryRuleset
  checkFunction : g.required "check_function" text = .ok e.checkFunction
  checkDefaults : g.optional "check_default_parameters" optionalOpaque none = .ok e.checkDefaults
  checkRuleset : g.optional "check_ruleset_name" optionalText none = .ok e.checkRuleset

theorem CheckEntry.decode_eq_ok_iff {format : Format} {d : Data} {e : CheckEntry} :
    decode format d = .ok e ↔
      ∃ g, shape.given d = .ok g ∧ e.ReadFrom g ∧ shape.noSurplus format d = .ok () := by
  refine Shape.read_eq_ok_iff fun g e => ⟨fun h => ?_, fun h => ?_⟩
  · obtain ⟨name, hname, h⟩ := bind_eq_ok_iff.1 h
    obtain ⟨serviceName, hservice, h⟩ := bind_eq_ok_iff.1 h
    obtain ⟨sections, hsections, h⟩ := bind_eq_ok_iff.1 h
    obtain ⟨discoveryFunction, hdiscovery, h⟩ := bind_eq_ok_iff.1 h
    obtain ⟨discoveryDefaults, hdvalues, h⟩ := bind_eq_ok_iff.1 h
    obtain ⟨discoveryRuleset, hdruleset, h⟩ := bind_eq_ok_iff.1 h
    obtain ⟨checkFunction, hcheck, h⟩ := bind_eq_ok_iff.1 h
    obtain ⟨checkDefaults, hcvalues, h⟩ := bind_eq_ok_iff.1 h
    obtain ⟨checkRuleset, hcruleset, h⟩ := bind_eq_ok_iff.1 h
    cases h
    exact ⟨hname, hservice, hsections, hdiscovery, hdvalues, hdruleset, hcheck, hcvalues, hcruleset⟩
  · refine bind_eq_ok_iff.2 ⟨_, h.name, ?_⟩
    refine bind_eq_ok_iff.2 ⟨_, h.serviceName, ?_⟩
    refine bind_eq_ok_iff.2 ⟨_, h.sections, ?_⟩
    refine bind_eq_ok_iff.2 ⟨_, h.discoveryFunction, ?_⟩
    refine bind_eq_ok_iff.2 ⟨_, h.discoveryDefaults, ?_⟩
    refine bind_eq_ok_iff.2 ⟨_, h.discoveryRuleset, ?_⟩
    refine bind_eq_ok_iff.2 ⟨_, h.checkFunction, ?_⟩
    refine bind_eq_ok_iff.2 ⟨_, h.checkDefaults, ?_⟩
    exact bind_eq_ok_iff.2 ⟨_, h.checkRuleset, rfl⟩

/-- **Where the fields of an inventory plug-in come from.** -/
structure InventoryEntry.ReadFrom (g : Given) (e : InventoryEntry) : Prop where
  name : g.required "name" text = .ok e.name
  sections : g.optional "sections" (listOf text) [] = .ok e.sections
  inventoryFunction : g.required "inventory_function" text = .ok e.inventoryFunction
  inventoryDefaults :
    g.optional "inventory_default_parameters" optionalOpaque none = .ok e.inventoryDefaults
  inventoryRuleset : g.optional "inventory_ruleset_name" optionalText none = .ok e.inventoryRuleset

theorem InventoryEntry.decode_eq_ok_iff {format : Format} {d : Data} {e : InventoryEntry} :
    decode format d = .ok e ↔
      ∃ g, shape.given d = .ok g ∧ e.ReadFrom g ∧ shape.noSurplus format d = .ok () := by
  refine Shape.read_eq_ok_iff fun g e => ⟨fun h => ?_, fun h => ?_⟩
  · obtain ⟨name, hname, h⟩ := bind_eq_ok_iff.1 h
    obtain ⟨sections, hsections, h⟩ := bind_eq_ok_iff.1 h
    obtain ⟨inventoryFunction, hinventory, h⟩ := bind_eq_ok_iff.1 h
    obtain ⟨inventoryDefaults, hvalues, h⟩ := bind_eq_ok_iff.1 h
    obtain ⟨inventoryRuleset, hruleset, h⟩ := bind_eq_ok_iff.1 h
    cases h
    exact ⟨hname, hsections, hinventory, hvalues, hruleset⟩
  · refine bind_eq_ok_iff.2 ⟨_, h.name, ?_⟩
    refine bind_eq_ok_iff.2 ⟨_, h.sections, ?_⟩
    refine bind_eq_ok_iff.2 ⟨_, h.inventoryFunction, ?_⟩
    refine bind_eq_ok_iff.2 ⟨_, h.inventoryDefaults, ?_⟩
    exact bind_eq_ok_iff.2 ⟨_, h.inventoryRuleset, rfl⟩

/-! ### Manifests -/

/-- **Where the fields of a manifest come from.** -/
structure Manifest.ReadFrom (format : Format) (g : Given) (m : Manifest) : Prop where
  agentSections :
    g.optional "agent_section" (listOf (AgentSectionEntry.decode format)) [] = .ok m.agentSections
  snmpSections :
    g.optional "snmp_section" (listOf (SnmpSectionEntry.decode format)) [] = .ok m.snmpSections
  checkPlugins : g.optional "check_plugin" (listOf (CheckEntry.decode format)) [] = .ok m.checkPlugins
  inventoryPlugins :
    g.optional "inventory_plugin" (listOf (InventoryEntry.decode format)) [] = .ok m.inventoryPlugins
  rulesets : ∃ rulesets, g.optional "rulesets" (mapOf (listOf opaqueValue)) [] = .ok rulesets ∧
    m.rulesets = Std.ExtTreeMap.ofList rulesets

theorem Manifest.decode_eq_ok_iff {format : Format} {d : Data} {m : Manifest} :
    decode format d = .ok m ↔
      ∃ g, (shape format).given d = .ok g ∧ m.ReadFrom format g ∧
        (shape format).noSurplus format d = .ok () := by
  refine Shape.read_eq_ok_iff fun g m => ⟨fun h => ?_, fun h => ?_⟩
  · obtain ⟨agentSections, hagent, h⟩ := bind_eq_ok_iff.1 h
    obtain ⟨snmpSections, hsnmp, h⟩ := bind_eq_ok_iff.1 h
    obtain ⟨checkPlugins, hcheck, h⟩ := bind_eq_ok_iff.1 h
    obtain ⟨inventoryPlugins, hinventory, h⟩ := bind_eq_ok_iff.1 h
    obtain ⟨rulesets, hrulesets, h⟩ := bind_eq_ok_iff.1 h
    cases h
    exact ⟨hagent, hsnmp, hcheck, hinventory, rulesets, hrulesets, rfl⟩
  · obtain ⟨rulesets, hrulesets, hm⟩ := h.rulesets
    refine bind_eq_ok_iff.2 ⟨_, h.agentSections, ?_⟩
    refine bind_eq_ok_iff.2 ⟨_, h.snmpSections, ?_⟩
    refine bind_eq_ok_iff.2 ⟨_, h.checkPlugins, ?_⟩
    refine bind_eq_ok_iff.2 ⟨_, h.inventoryPlugins, ?_⟩
    refine bind_eq_ok_iff.2 ⟨_, hrulesets, ?_⟩
    rw [← hm]
    rfl

end MonitoringPlugins
