/-
**Why a definition or its data is refused.**

A definition is refused when its parts do not fit together; raw section data is refused when it
comes from the other data source or when the parse function cannot make sense of it.  Each cause is
a constructor, and its wording is given once.

Main definitions:

* `MonitoringPlugins.DefinitionError`, `MonitoringPlugins.DefinitionError.message` — refused
  definitions;
* `MonitoringPlugins.ParseError`, `MonitoringPlugins.ParseError.message` — refused data.
-/

import MonitoringPlugins.Name.Basic

set_option autoImplicit false

namespace MonitoringPlugins

/-! ### Definitions -/

/-- The function of a plug-in that a set of parameters belongs to. -/
inductive Stage where
  | discovery
  | check
  | inventory
  deriving DecidableEq

/-- The stage, as error messages call it. -/
def Stage.label : Stage → String
  | discovery => "discovery"
  | check => "check"
  | inventory => "inventory"

/-- Why a definition is refused. -/
inductive DefinitionError where
  /-- A service name has room for one item only. -/
  | severalItems (plugin serviceName : String)
  /-- A parsed section is subscribed a second time. -/
  | repeatedSection (plugin : String) (parsed : ParsedSectionName)
  /-- Default parameters without a ruleset could never be overridden. -/
  | missingRuleset (plugin : String) (stage : Stage)
  /-- The rules of a ruleset refine default parameters, so there must be some. -/
  | missingDefaults (plugin : String) (stage : Stage) (ruleset : RulesetName)
  /-- A section cannot take precedence over itself. -/
  | supersedesItself (name : SectionName)
  /-- An SNMP section fetches at least one table. -/
  | noTrees (name : SectionName)
  /-- A fetched table has at least one column; `base` is the first that has none. -/
  | noColumns (name : SectionName) (base : String)
  deriving DecidableEq

/-- The wording of a refusal. -/
def DefinitionError.message : DefinitionError → String
  | severalItems plugin serviceName =>
    plugin ++ ": service name " ++ Text.quoted serviceName ++ " contains '%s' more than once"
  | repeatedSection plugin parsed =>
    plugin ++ ": parsed section " ++ parsed.text ++ " is subscribed more than once"
  | missingRuleset plugin stage =>
    plugin ++ ": " ++ stage.label ++ " default parameters given without a ruleset name"
  | missingDefaults plugin stage ruleset =>
    plugin ++ ": " ++ stage.label ++ " ruleset " ++ ruleset.text ++ " has no default parameters"
  | supersedesItself name => "section " ++ name.text ++ " supersedes itself"
  | noTrees name => "SNMP section " ++ name.text ++ " fetches no trees"
  | noColumns name base => "SNMP section " ++ name.text ++ ": tree " ++ base ++ " has no OIDs"

/-! ### Data -/

/-- Where raw section data comes from. -/
inductive SectionSource where
  | agent
  | snmp
  deriving DecidableEq

/-- The source, as messages call it. -/
def SectionSource.label : SectionSource → String
  | agent => "agent"
  | snmp => "SNMP"

/-- Why raw section data is refused. -/
inductive ParseError where
  /-- The data comes from another source than the section. -/
  | sourceMismatch (name : SectionName) (expected found : SectionSource)
  /-- The parse function made no sense of the data. -/
  | malformed (text : String)
  deriving DecidableEq

/-- The wording of a refusal. -/
def ParseError.message : ParseError → String
  | sourceMismatch name expected found =>
    "section " ++ name.text ++ ": expected " ++ expected.label ++ " data, got " ++ found.label ++
      " data"
  | malformed text => "malformed section data: " ++ text

end MonitoringPlugins
