/-
**The log.**

Registrations, some queries and the publication of registries leave an entry in the log.  An entry
is a fact about the registry; how important it is, how it is worded and which fields it carries
follow from the fact.

Main definitions:

* `MonitoringPlugins.Event` — what is logged;
* `MonitoringPlugins.Event.level`, `MonitoringPlugins.Event.message`,
  `MonitoringPlugins.Event.fields` — its form in the log.
-/

import MonitoringPlugins.Plugin.Error

set_option autoImplicit false

namespace MonitoringPlugins

/-- How important an entry of the log is. -/
inductive Level where
  | trace
  | debug
  | warn
  deriving DecidableEq

/-- The level, as the log calls it. -/
def Level.label : Level → String
  | trace => "TRACE"
  | debug => "DEBUG"
  | warn => "WARN"

/-- What is logged. -/
inductive Event where
  /-- A section is registered. -/
  | sectionRegistered (name : SectionName) (parsed : ParsedSectionName) (source : SectionSource)
  /-- A registered section now produces something else. -/
  | parsedNameChanged (name : SectionName) (before after : ParsedSectionName)
  /-- A registered section now takes its data from elsewhere. -/
  | sourceChanged (name : SectionName) (before after : SectionSource)
  /-- A check plug-in is registered. -/
  | checkRegistered (name : CheckPluginName) (ruleset : Option RulesetName)
  /-- An inventory plug-in is registered. -/
  | inventoryRegistered (name : InventoryPluginName)
  /-- The producers of a parsed section are asked for through a section that is not registered. -/
  | unregisteredSection (name : SectionName)
  /-- The sections of an unknown check plug-in are asked for. -/
  | unknownCheck (name : CheckPluginName)
  /-- The sections of an unknown inventory plug-in are asked for. -/
  | unknownInventory (name : InventoryPluginName)
  /-- A manifest is read from a file. -/
  | manifestLoaded (path : String) (plugins : Nat)
  /-- A manifest is registered. -/
  | manifestRegistered (checkPlugins hostLabelRulesets rulesetValues : Nat)
  /-- A registry takes the place of the current one. -/
  | published (generation : UInt64)
  /-- A changed copy takes the place of the current registry. -/
  | updated (generation : UInt64)
  deriving DecidableEq

namespace Event

/-- How important an event is. -/
def level : Event → Level
  | parsedNameChanged .. | sourceChanged .. => .warn
  | unknownCheck .. | unknownInventory .. => .trace
  | _ => .debug

/-- The wording of an event. -/
def message : Event → String
  | sectionRegistered .. => "registered section plug-in"
  | parsedNameChanged .. => "section plug-in re-registered under another parsed section name"
  | sourceChanged .. => "section plug-in re-registered with another data source"
  | checkRegistered .. => "registered check plug-in"
  | inventoryRegistered .. => "registered inventory plug-in"
  | unregisteredSection .. =>
    "redetection queried for unregistered section, using its name as parsed section name"
  | unknownCheck .. => "skipping unknown check plug-in"
  | unknownInventory .. => "skipping unknown inventory plug-in"
  | manifestLoaded .. => "loaded manifest"
  | manifestRegistered .. => "registered manifest"
  | published .. => "published plug-in registry generation"
  | updated .. => "updated plug-in registry generation"

/-- The fields of an event, with their values as texts. -/
def fields : Event → List (String × String)
  | sectionRegistered name parsed source =>
    [("section", name.text), ("parsed_section", parsed.text), ("source", source.label)]
  | parsedNameChanged name before after =>
    [("section", name.text), ("from", before.text), ("to", after.text)]
  | sourceChanged name before after =>
    [("section", name.text), ("from", before.label), ("to", after.label)]
  | checkRegistered name ruleset =>
    [("plugin", name.text),
      ("ruleset", Text.optional (ruleset.map fun r => Text.quoted r.text))]
  | inventoryRegistered name => [("plugin", name.text)]
  | unregisteredSection name => [("section", name.text)]
  | unknownCheck name => [("plugin", name.text)]
  | unknownInventory name => [("plugin", name.text)]
  | manifestLoaded path plugins => [("path", path), ("plugins", toString plugins)]
  | manifestRegistered checkPlugins hostLabelRulesets rulesetValues =>
    [("check_plugins", toString checkPlugins),
      ("host_label_rulesets", toString hostLabelRulesets),
      ("ruleset_values", toString rulesetValues)]
  | published generation => [("generation", toString generation.toNat)]
  | updated generation => [("generation", toString generation.toNat)]

end Event

end MonitoringPlugins
