/-
**Reading manifests.**

The structures of a manifest and their fields, in the order in which a sequence gives them.  Unknown
fields are refused everywhere, so nothing in an accepted manifest is ignored.

Main definitions:

* `MonitoringPlugins.Manifest.decode` — the manifest that a data tree writes;
* `MonitoringPlugins.Manifest.ofJson` — the manifest that a JSON value writes.
-/

import MonitoringPlugins.Data.Shape
import MonitoringPlugins.Manifest.Basic

set_option autoImplicit false

namespace MonitoringPlugins

open Data

/-! ### Parts of sections -/

/-- The fields of a fetched table. -/
def SnmpTree.shape : Shape where
  type := "SnmpTreeSpec"
  fields := [("base", accepts text), ("oids", accepts (listOf text))]

/-- Reads a fetched table. -/
def SnmpTree.decode (format : Format) : Decoder SnmpTree :=
  SnmpTree.shape.read format fun g => do
    return { base := ← g.required "base" text, oids := ← g.required "oids" (listOf text) }

/-- The fields of a condition. -/
def DetectAtom.shape : Shape where
  type := "DetectAtomSpec"
  fields := [("oid", accepts text), ("pattern", accepts text), ("negate", accepts boolean)]

/-- Reads a condition. -/
def DetectAtom.decode (format : Format) : Decoder DetectAtom :=
  DetectAtom.shape.read format fun g => do
    return {
      oid := ← g.required "oid" text
      pattern := ← g.required "pattern" text
      negate := ← g.optional "negate" boolean false }

/-! ### Sections -/

/-- The fields that the sections of both sources have. -/
def sectionFields : List (String × Decoder Unit) :=
  [("name", accepts text),
    ("parsed_section_name", accepts optionalText),
    ("parse_function", accepts text),
    ("host_label_ruleset_name", accepts optionalText),
    ("supersedes", accepts (listOf text))]

/-- The fields of an agent section. -/
def AgentSectionEntry.shape : Shape := ⟨"AgentSectionSpec", sectionFields⟩

/-- Reads an agent section. -/
def AgentSectionEntry.decode (format : Format) : Decoder AgentSectionEntry :=
  AgentSectionEntry.shape.read format fun g => do
    return {
      name := ← g.required "name" text
      parsedName := ← g.optional "parsed_section_name" optionalText none
      parseFunction := ← g.required "parse_function" text
      hostLabelRuleset := ← g.optional "host_label_ruleset_name" optionalText none
      supersedes := ← g.optional "supersedes" (listOf text) [] }

/-- The fields of an SNMP section. -/
def SnmpSectionEntry.shape (format : Format) : Shape where
  type := "SnmpSectionSpec"
  fields := sectionFields ++
    [("fetch", accepts (listOf (SnmpTree.decode format))),
      ("detect", accepts (listOf (listOf (DetectAtom.decode format))))]

/-- Reads an SNMP section. -/
def SnmpSectionEntry.decode (format : Format) : Decoder SnmpSectionEntry :=
  (SnmpSectionEntry.shape format).read format fun g => do
    return {
      name := ← g.required "name" text
      parsedName := ← g.optional "parsed_section_name" optionalText none
      parseFunction := ← g.required "parse_function" text
      hostLabelRuleset := ← g.optional "host_label_ruleset_name" optionalText none
      supersedes := ← g.optional "supersedes" (listOf text) []
      fetch := ← g.required "fetch" (listOf (SnmpTree.decode format))
      detect := ← g.optional "detect" (listOf (listOf (DetectAtom.decode format))) [] }

/-! ### Plug-ins -/

/-- The fields of a check plug-in. -/
def CheckEntry.shape : Shape where
  type := "CheckPluginSpec"
  fields :=
    [("name", accepts text),
      ("service_name", accepts text),
      ("sections", accepts (listOf text)),
      ("discovery_function", accepts text),
      ("discovery_default_parameters", accepts optionalOpaque),
      ("discovery_ruleset_name", accepts optionalText),
      ("check_function", accepts text),
      ("check_default_parameters", accepts optionalOpaque),
      ("check_ruleset_name", accepts optionalText)]

/-- Reads a check plug-in. -/
def CheckEntry.decode (format : Format) : Decoder CheckEntry :=
  CheckEntry.shape.read format fun g => do
    return {
      name := ← g.required "name" text
      serviceName := ← g.required "service_name" text
      sections := ← g.optional "sections" (listOf text) []
      discoveryFunction := ← g.required "discovery_function" text
      discoveryDefaults := ← g.optional "discovery_default_parameters" optionalOpaque none
      discoveryRuleset := ← g.optional "discovery_ruleset_name" optionalText none
      checkFunction := ← g.required "check_function" text
      checkDefaults := ← g.optional "check_default_parameters" optionalOpaque none
      checkRuleset := ← g.optional "check_ruleset_name" optionalText none }

/-- The fields of an inventory plug-in. -/
def InventoryEntry.shape : Shape where
  type := "InventoryPluginSpec"
  fields :=
    [("name", accepts text),
      ("sections", accepts (listOf text)),
      ("inventory_function", accepts text),
      ("inventory_default_parameters", accepts optionalOpaque),
      ("inventory_ruleset_name", accepts optionalText)]

/-- Reads an inventory plug-in. -/
def InventoryEntry.decode (format : Format) : Decoder InventoryEntry :=
  InventoryEntry.shape.read format fun g => do
    return {
      name := ← g.required "name" text
      sections := ← g.optional "sections" (listOf text) []
      inventoryFunction := ← g.required "inventory_function" text
      inventoryDefaults := ← g.optional "inventory_default_parameters" optionalOpaque none
      inventoryRuleset := ← g.optional "inventory_ruleset_name" optionalText none }

/-! ### Manifests -/

namespace Manifest

/-- The fields of a manifest. -/
def shape (format : Format) : Shape where
  type := "ManifestSpec"
  fields :=
    [("agent_section", accepts (listOf (AgentSectionEntry.decode format))),
      ("snmp_section", accepts (listOf (SnmpSectionEntry.decode format))),
      ("check_plugin", accepts (listOf (CheckEntry.decode format))),
      ("inventory_plugin", accepts (listOf (InventoryEntry.decode format))),
      ("rulesets", accepts (mapOf (listOf opaqueValue)))]

/-- **The manifest that a data tree writes.** -/
def decode (format : Format) : Decoder Manifest :=
  (shape format).read format fun g => do
    return {
      agentSections := ← g.optional "agent_section" (listOf (AgentSectionEntry.decode format)) []
      snmpSections := ← g.optional "snmp_section" (listOf (SnmpSectionEntry.decode format)) []
      checkPlugins := ← g.optional "check_plugin" (listOf (CheckEntry.decode format)) []
      inventoryPlugins :=
        ← g.optional "inventory_plugin" (listOf (InventoryEntry.decode format)) []
      rulesets := Std.ExtTreeMap.ofList
        (← g.optional "rulesets" (mapOf (listOf opaqueValue)) []) }

/-- The manifest that a JSON value writes. -/
def ofJson (v : Json) : Except DecodeError Manifest := decode .json (Data.ofJson v)

end Manifest

end MonitoringPlugins
