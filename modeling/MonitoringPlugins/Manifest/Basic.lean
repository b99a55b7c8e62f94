/-
**Manifests.**

A manifest lists sections and plug-ins without holding their functions: it refers to them by name,
and its names are plain texts that have not been validated.  Besides definitions it holds rules for
some rulesets.  Rules and default parameters are opaque.

Main definitions:

* `MonitoringPlugins.SectionEntry`, `MonitoringPlugins.AgentSectionEntry`,
  `MonitoringPlugins.SnmpSectionEntry`, `MonitoringPlugins.CheckEntry`,
  `MonitoringPlugins.InventoryEntry` — the entries;
* `MonitoringPlugins.Manifest`, `MonitoringPlugins.Manifest.pluginCount` — a manifest, and the
  number of its entries.
-/

import MonitoringPlugins.Plugin.Section

set_option autoImplicit false

namespace MonitoringPlugins

/-- What the sections of both sources have in common. -/
structure SectionEntry where
  name : String
  parsedName : Option String
  parseFunction : String
  hostLabelRuleset : Option String
  supersedes : List String
  deriving DecidableEq

/-- A section of the agent's output. -/
structure AgentSectionEntry extends SectionEntry where
  deriving DecidableEq

/-- A section of an SNMP walk. -/
structure SnmpSectionEntry extends SectionEntry where
  fetch : List SnmpTree
  detect : Detection
  deriving DecidableEq

/-- A check plug-in. -/
structure CheckEntry where
  name : String
  serviceName : String
  sections : List String
  discoveryFunction : String
  discoveryDefaults : Option Json
  discoveryRuleset : Option String
  checkFunction : String
  checkDefaults : Option Json
  checkRuleset : Option String

/-- An inventory plug-in. -/
structure InventoryEntry where
  name : String
  sections : List String
  inventoryFunction : String
  inventoryDefaults : Option Json
  inventoryRuleset : Option String

/-- A complete manifest. -/
structure Manifest where
  agentSections : List AgentSectionEntry
  snmpSections : List SnmpSectionEntry
  checkPlugins : List CheckEntry
  inventoryPlugins : List InventoryEntry
  /-- Rules by the name of their ruleset. -/
  rulesets : Std.ExtTreeMap String (List Json)

/-- The number of sections and plug-ins. -/
def Manifest.pluginCount (m : Manifest) : Nat :=
  m.agentSections.length + m.snmpSections.length + m.checkPlugins.length +
    m.inventoryPlugins.length

end MonitoringPlugins
