/-
**Check plug-ins.**

A check plug-in turns parsed sections into services and their states.  Its discovery function finds
the services of a host, its check function determines their states; each has its own default
parameters and ruleset.

Main definitions:

* `MonitoringPlugins.CheckPlugin`, `MonitoringPlugins.CheckDraft` — a definition, and the form in
  which it is asked for;
* `MonitoringPlugins.CheckDraft.build` — the definition of a draft;
* `MonitoringPlugins.CheckPlugin.description`, `MonitoringPlugins.CheckPlugin.discover` — using a
  plug-in.
-/

import MonitoringPlugins.Plugin.Parameters
import MonitoringPlugins.Plugin.Section
import MonitoringPlugins.Plugin.ServiceName

set_option autoImplicit false

namespace MonitoringPlugins

/-! ### Results -/

/-- The state of a service. -/
inductive State where
  | ok
  | warn
  | crit
  | unknown
  deriving DecidableEq

/-- The state, as reports call it. -/
def State.label : State → String
  | ok => "OK"
  | warn => "WARN"
  | crit => "CRIT"
  | unknown => "UNKNOWN"

/-- A service found on a host. -/
structure Service where
  item : Option String
  parameters : Parameters := []

/-- One result of checking a service. -/
structure CheckResult where
  state : State
  summary : String
  deriving DecidableEq

/-- Finds the services of a host. -/
abbrev DiscoveryFunction := Parameters → ParsedSections → List Service

/-- Determines the state of the service of an item, if it has one. -/
abbrev CheckFunction := Option String → Parameters → ParsedSections → List CheckResult

/-! ### Definitions -/

/-- A check plug-in. -/
structure CheckPlugin where
  name : CheckPluginName
  /-- The parsed sections that the plug-in subscribes to, in the declared order. -/
  sections : List ParsedSectionName
  /-- The template of the service descriptions. -/
  serviceName : String
  discovery : DiscoveryFunction
  discoveryDefaults : Option DefaultParameters
  check : CheckFunction
  checkDefaults : Option DefaultParameters

namespace CheckPlugin

/-- The ruleset that refines the parameters of discovery. -/
def discoveryRuleset (p : CheckPlugin) : Option RulesetName := p.discoveryDefaults.map (·.ruleset)

/-- The ruleset that refines the parameters of the check. -/
def checkRuleset (p : CheckPlugin) : Option RulesetName := p.checkDefaults.map (·.ruleset)

/-- Whether the services of the plug-in carry an item. -/
def hasItem (p : CheckPlugin) : Bool := ServiceName.hasItem p.serviceName

/-- The description of the service of an item. -/
def description (p : CheckPlugin) (item : Option String) : String :=
  ServiceName.describe p.serviceName item

/-- The parameters that the check runs with unless rules say otherwise. -/
def checkParameters (p : CheckPlugin) : Parameters := (p.checkDefaults.map (·.values)).getD []

/-- The services that discovery finds with its default parameters. -/
def discover (p : CheckPlugin) (sections : ParsedSections) : List Service :=
  p.discovery ((p.discoveryDefaults.map (·.values)).getD []) sections

/-- A plug-in on one line. -/
def describe (p : CheckPlugin) : String :=
  Text.partialRecord "CheckPlugin"
    [("name", p.name.describe),
      ("sections", Text.listing (p.sections.map Name.describe)),
      ("service_name", Text.quoted p.serviceName),
      ("discovery_ruleset_name", Text.optional (p.discoveryRuleset.map Name.describe)),
      ("check_ruleset_name", Text.optional (p.checkRuleset.map Name.describe))]

end CheckPlugin

/-! ### Drafts -/

/-- A check plug-in as it is asked for. -/
structure CheckDraft where
  name : CheckPluginName
  serviceName : String
  sections : List ParsedSectionName := []
  discovery : DiscoveryFunction
  discoveryDefaults : Option Parameters := none
  discoveryRuleset : Option RulesetName := none
  check : CheckFunction
  checkDefaults : Option Parameters := none
  checkRuleset : Option RulesetName := none

namespace CheckDraft

/-- Subscribes to further parsed sections. -/
def subscribe (draft : CheckDraft) (sections : List ParsedSectionName) : CheckDraft :=
  { draft with sections := draft.sections ++ sections }

/-- The definition of a draft: a service name has room for one item, no parsed section is subscribed
twice, and default parameters come with their ruleset. -/
def build (draft : CheckDraft) : Except DefinitionError CheckPlugin := do
  let plugin := draft.name.text
  if ServiceName.hasSeveralItems draft.serviceName then
    throw (.severalItems plugin draft.serviceName)
  let sections ← Subscription.of draft.name draft.sections
  let discoveryDefaults ←
    DefaultParameters.pair plugin .discovery draft.discoveryDefaults draft.discoveryRuleset
  let checkDefaults ←
    DefaultParameters.pair plugin .check draft.checkDefaults draft.checkRuleset
  return {
    name := draft.name
    sections
    serviceName := draft.serviceName
    discovery := draft.discovery
    discoveryDefaults
    check := draft.check
    checkDefaults }

end CheckDraft

end MonitoringPlugins
