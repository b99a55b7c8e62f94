/-
**Inventory plug-ins.**

An inventory plug-in extracts structural data — hardware, software, addresses — from parsed
sections, as rows of an inventory tree.

Main definitions:

* `MonitoringPlugins.InventoryPlugin`, `MonitoringPlugins.InventoryDraft` — a definition, and the
  form in which it is asked for;
* `MonitoringPlugins.InventoryDraft.build` — the definition of a draft.
-/

import MonitoringPlugins.Plugin.Parameters
import MonitoringPlugins.Plugin.Section

set_option autoImplicit false

namespace MonitoringPlugins

/-! ### Definitions -/

/-- One node of the inventory tree. -/
structure InventoryRow where
  path : List String
  attributes : Table String
  deriving DecidableEq

/-- Extracts the rows of a host. -/
abbrev InventoryFunction := Parameters → ParsedSections → List InventoryRow

/-- An inventory plug-in. -/
structure InventoryPlugin where
  name : InventoryPluginName
  /-- The parsed sections that the plug-in subscribes to, in the declared order. -/
  sections : List ParsedSectionName
  inventory : InventoryFunction
  inventoryDefaults : Option DefaultParameters

namespace InventoryPlugin

/-- The ruleset that refines the parameters. -/
def inventoryRuleset (p : InventoryPlugin) : Option RulesetName :=
  p.inventoryDefaults.map (·.ruleset)

/-- The parameters that the plug-in runs with unless rules say otherwise. -/
def inventoryParameters (p : InventoryPlugin) : Parameters :=
  (p.inventoryDefaults.map (·.values)).getD []

/-- A plug-in on one line. -/
def describe (p : InventoryPlugin) : String :=
  Text.partialRecord "InventoryPlugin"
    [("name", p.name.describe),
      ("sections", Text.listing (p.sections.map Name.describe)),
      ("inventory_ruleset_name", Text.optional (p.inventoryRuleset.map Name.describe))]

end InventoryPlugin

/-! ### Drafts -/

/-- An inventory plug-in as it is asked for. -/
structure InventoryDraft where
  name : InventoryPluginName
  sections : List ParsedSectionName := []
  inventory : InventoryFunction
  inventoryDefaults : Option Parameters := none
  inventoryRuleset : Option RulesetName := none

namespace InventoryDraft

/-- Subscribes to further parsed sections. -/
def subscribe (draft : InventoryDraft) (sections : List ParsedSectionName) : InventoryDraft :=
  { draft with sections := draft.sections ++ sections }

/-- The definition of a draft: no parsed section is subscribed twice, and default parameters come
with their ruleset. -/
def build (draft : InventoryDraft) : Except DefinitionError InventoryPlugin := do
  let sections ← Subscription.of draft.name draft.sections
  let inventoryDefaults ← DefaultParameters.pair draft.name.text .inventory
    draft.inventoryDefaults draft.inventoryRuleset
  return { name := draft.name, sections, inventory := draft.inventory, inventoryDefaults }

end InventoryDraft

end MonitoringPlugins
