/-
**Manifests as JSON.**

The written form of a manifest has every field of every structure, in a map; what is absent is
`null`.

Main definitions:

* `MonitoringPlugins.Manifest.toJson` — the written form.
-/

import MonitoringPlugins.Manifest.Basic

set_option autoImplicit false

namespace MonitoringPlugins

/-- A fetched table as JSON. -/
def SnmpTree.toJson (t : SnmpTree) : Json :=
  .object [("base", .str t.base), ("oids", .texts t.oids)]

/-- A condition as JSON. -/
def DetectAtom.toJson (a : DetectAtom) : Json :=
  .object [("oid", .str a.oid), ("pattern", .str a.pattern), ("negate", .bool a.negate)]

/-- A detection as JSON. -/
def Detection.toJson (detect : Detection) : Json :=
  .arr (detect.map fun all => .arr (all.map DetectAtom.toJson))

/-- An agent section as JSON. -/
def AgentSectionEntry.toJson (e : AgentSectionEntry) : Json :=
  .object
    [("name", .str e.name),
      ("parsed_section_name", .optionalText e.parsedName),
      ("parse_function", .str e.parseFunction),
      ("host_label_ruleset_name", .optionalText e.hostLabelRuleset),
      ("supersedes", .texts e.supersedes)]

/-- An SNMP section as JSON. -/
def SnmpSectionEntry.toJson (e : SnmpSectionEntry) : Json :=
  .object
    [("name", .str e.name),
      ("parsed_section_name", .optionalText e.parsedName),
      ("parse_function", .str e.parseFunction),
      ("host_label_ruleset_name", .optionalText e.hostLabelRuleset),
      ("supersedes", .texts e.supersedes),
      ("fetch", .arr (e.fetch.map SnmpTree.toJson)),
      ("detect", Detection.toJson e.detect)]

/-- A check plug-in as JSON. -/
def CheckEntry.toJson (e : CheckEntry) : Json :=
  .object
    [("name", .str e.name),
      ("service_name", .str e.serviceName),
      ("sections", .texts e.sections),
      ("discovery_function", .str e.discoveryFunction),
      ("discovery_default_parameters", .ofOption e.discoveryDefaults),
      ("discovery_ruleset_name", .optionalText e.discoveryRuleset),
      ("check_function", .str e.checkFunction),
      ("check_default_parameters", .ofOption e.checkDefaults),
      ("check_ruleset_name", .optionalText e.checkRuleset)]

/-- An inventory plug-in as JSON. -/
def InventoryEntry.toJson (e : InventoryEntry) : Json :=
  .object
    [("name", .str e.name),
      ("sections", .texts e.sections),
      ("inventory_function", .str e.inventoryFunction),
      ("inventory_default_parameters", .ofOption e.inventoryDefaults),
      ("inventory_ruleset_name", .optionalText e.inventoryRuleset)]

/-- **A manifest as JSON.** -/
def Manifest.toJson (m : Manifest) : Json :=
  .object
    [("agent_section", .arr (m.agentSections.map AgentSectionEntry.toJson)),
      ("snmp_section", .arr (m.snmpSections.map SnmpSectionEntry.toJson)),
      ("check_plugin", .arr (m.checkPlugins.map CheckEntry.toJson)),
      ("inventory_plugin", .arr (m.inventoryPlugins.map InventoryEntry.toJson)),
      ("rulesets", .obj (m.rulesets.toList.map fun entry => (entry.1, .arr entry.2)))]

end MonitoringPlugins
