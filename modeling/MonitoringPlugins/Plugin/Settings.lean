/-
**Drafts, setting by setting.**

A plug-in is asked for by its name and its functions first; parsed sections, default parameters and
rulesets are then set one after the other, in any order and as often as one likes.  Parsed sections
accumulate.  Of anything else, only what is set last counts.

Main definitions:

* `MonitoringPlugins.CheckDraft.Setting`, `MonitoringPlugins.InventoryDraft.Setting` — what can be
  set;
* `MonitoringPlugins.CheckDraft.setAll`, `MonitoringPlugins.InventoryDraft.setAll` — a draft after
  some settings.

Main results:

* `MonitoringPlugins.CheckDraft.setAll_start`, `MonitoringPlugins.InventoryDraft.setAll_start` —
  **the draft that settings add up to**.
-/

import Mathlib.Data.List.Induction
import MonitoringPlugins.Plugin.Check
import MonitoringPlugins.Plugin.Inventory

set_option autoImplicit false

namespace MonitoringPlugins

/-! ### Check plug-ins -/

namespace CheckDraft

/-- What can be set of a check plug-in. -/
inductive Setting where
  /-- Subscribes to further parsed sections. -/
  | sections (names : List ParsedSectionName)
  | discoveryDefaults (values : Parameters)
  | discoveryRuleset (name : RulesetName)
  | checkDefaults (values : Parameters)
  | checkRuleset (name : RulesetName)

namespace Setting

/-- The parsed sections that a setting adds. -/
def addedSections : Setting → List ParsedSectionName
  | sections names => names
  | _ => []

/-- The default parameters of discovery in a setting. -/
def discoveryDefaults? : Setting → Option Parameters
  | discoveryDefaults values => some values
  | _ => none

/-- The ruleset of discovery in a setting. -/
def discoveryRuleset? : Setting → Option RulesetName
  | discoveryRuleset name => some name
  | _ => none

/-- The default parameters of the check in a setting. -/
def checkDefaults? : Setting → Option Parameters
  | checkDefaults values => some values
  | _ => none

/-- The ruleset of the check in a setting. -/
def checkRuleset? : Setting → Option RulesetName
  | checkRuleset name => some name
  | _ => none

end Setting

/-- A check plug-in of which nothing has been set yet. -/
def start (name : CheckPluginName) (serviceName : String) (discovery : DiscoveryFunction)
    (check : CheckFunction) : CheckDraft :=
  { name, serviceName, discovery, check }

/-- A draft after one setting. -/
def set (draft : CheckDraft) : Setting → CheckDraft
  | .sections names => draft.subscribe names
  | .discoveryDefaults values => { draft with discoveryDefaults := some values }
  | .discoveryRuleset name => { draft with discoveryRuleset := some name }
  | .checkDefaults values => { draft with checkDefaults := some values }
  | .checkRuleset name => { draft with checkRuleset := some name }

/-- A draft after some settings, in order. -/
def setAll (draft : CheckDraft) (settings : List Setting) : CheckDraft := settings.foldl set draft

theorem setAll_append_singleton (draft : CheckDraft) (settings : List Setting) (s : Setting) :
    draft.setAll (settings ++ [s]) = (draft.setAll settings).set s := by
  rw [setAll, List.foldl_append]
  rfl

/-- **The draft that settings add up to**: it has all the parsed sections, in order, and of
everything else what was set last. -/
theorem setAll_start (name : CheckPluginName) (serviceName : String)
    (discovery : DiscoveryFunction) (check : CheckFunction) (settings : List Setting) :
    (start name serviceName discovery check).setAll settings =
      { name, serviceName, discovery, check
        sections := settings.flatMap Setting.addedSections
        discoveryDefaults := (settings.filterMap Setting.discoveryDefaults?).getLast?
        discoveryRuleset := (settings.filterMap Setting.discoveryRuleset?).getLast?
        checkDefaults := (settings.filterMap Setting.checkDefaults?).getLast?
        checkRuleset := (settings.filterMap Setting.checkRuleset?).getLast? } := by
  induction settings using List.reverseRecOn with
  | nil => rfl
  | append_singleton rest s ih =>
      rw [setAll_append_singleton, ih]
      cases s <;>
        simp [set, subscribe, Setting.addedSections, Setting.discoveryDefaults?,
          Setting.discoveryRuleset?, Setting.checkDefaults?, Setting.checkRuleset?]

end CheckDraft

/-! ### Inventory plug-ins -/

namespace InventoryDraft

/-- What can be set of an inventory plug-in. -/
inductive Setting where
  /-- Subscribes to further parsed sections. -/
  | sections (names : List ParsedSectionName)
  | inventoryDefaults (values : Parameters)
  | inventoryRuleset (name : RulesetName)

namespace Setting

/-- The parsed sections that a setting adds. -/
def addedSections : Setting → List ParsedSectionName
  | sections names => names
  | _ => []

/-- The default parameters in a setting. -/
def inventoryDefaults? : Setting → Option Parameters
  | inventoryDefaults values => some values
  | _ => none

/-- The ruleset in a setting. -/
def inventoryRuleset? : Setting → Option RulesetName
  | inventoryRuleset name => some name
  | _ => none

end Setting

/-- An inventory plug-in of which nothing has been set yet. -/
def start (name : InventoryPluginName) (inventory : InventoryFunction) : InventoryDraft :=
  { name, inventory }

/-- A draft after one setting. -/
def set (draft : InventoryDraft) : Setting → InventoryDraft
  | .sections names => draft.subscribe names
  | .inventoryDefaults values => { draft with inventoryDefaults := some values }
  | .inventoryRuleset name => { draft with inventoryRuleset := some name }

/-- A draft after some settings, in order. -/
def setAll (draft : InventoryDraft) (settings : List Setting) : InventoryDraft :=
  settings.foldl set draft

theorem setAll_append_singleton (draft : InventoryDraft) (settings : List Setting) (s : Setting) :
    draft.setAll (settings ++ [s]) = (draft.setAll settings).set s := by
  rw [setAll, List.foldl_append]
  rfl

/-- **The draft that settings add up to**: it has all the parsed sections, in order, and of
everything else what was set last. -/
theorem setAll_start (name : InventoryPluginName) (inventory : InventoryFunction)
    (settings : List Setting) :
    (start name inventory).setAll settings =
      { name, inventory
        sections := settings.flatMap Setting.addedSections
        inventoryDefaults := (settings.filterMap Setting.inventoryDefaults?).getLast?
        inventoryRuleset := (settings.filterMap Setting.inventoryRuleset?).getLast? } := by
  induction settings using List.reverseRecOn with
  | nil => rfl
  | append_singleton rest s ih =>
      rw [setAll_append_singleton, ih]
      cases s <;>
        simp [set, subscribe, Setting.addedSections, Setting.inventoryDefaults?,
          Setting.inventoryRuleset?]

end InventoryDraft

end MonitoringPlugins
