/-
**Loading manifests into a registry.**

The definitions of a manifest are registered in a fixed order: first the sections with the rulesets
of their host labels, then the inventory plug-ins, then the check plug-ins, each after the ruleset
of its discovery, and the rules last.  Only a check plug-in can be refused; what comes before it
stays registered, and what comes after it is not reached.

Main definitions:

* `MonitoringPlugins.Linked.registrations` — what is registered, in order;
* `MonitoringPlugins.Registry.register` — registering the definitions of a manifest;
* `MonitoringPlugins.Registry.enter`, `MonitoringPlugins.Registry.load` — linking and registering a
  manifest, and reading it before.

Main results:

* `MonitoringPlugins.Registry.registry_register`, `MonitoringPlugins.Registry.conflict_register` —
  **registering a manifest is carrying out its registrations**, and fails when they do.
-/

import MonitoringPlugins.Manifest.Linked
import MonitoringPlugins.Manifest.Source
import MonitoringPlugins.Registry.Registration

set_option autoImplicit false

namespace MonitoringPlugins

/-! ### Registering definitions -/

namespace Linked

/-- The sections, those of the agent first. -/
def sections (l : Linked) : List Section :=
  l.agentSections.map Section.agent ++ l.snmpSections.map Section.snmp

/-- The rulesets that the sections name for their host labels, in the order of the sections.  The
order is a choice on which no result depends. -/
def hostLabelRulesets (l : Linked) : List RulesetName :=
  l.sections.filterMap (·.profile.hostLabelRuleset)

/-- What registering a check plug-in comes to: the ruleset of its discovery becomes known first. -/
def checkRegistrations (plugin : CheckPlugin) : List Registration :=
  (plugin.discoveryRuleset.map (Registration.declareRuleset .discovery)).toList ++
    [.addCheck plugin]

/-- What registering rules comes to. -/
def ruleRegistration (l : Linked) (entry : RulesetName × List Rule) : Registration :=
  .setRuleset (if entry.1 ∈ l.hostLabelRulesets then .hostLabel else .discovery) entry.1 entry.2

/-- **What is registered, in order.** -/
def registrations (l : Linked) : List Registration :=
  l.sections.map Registration.addSection ++
    l.hostLabelRulesets.map (Registration.declareRuleset .hostLabel) ++
    l.inventoryPlugins.map Registration.addInventory ++
    l.checkPlugins.flatMap checkRegistrations ++
    l.rulesets.map l.ruleRegistration

/-- What a complete registration leaves in the log. -/
def summary (l : Linked) : Event :=
  .manifestRegistered l.checkPlugins.length (Std.ExtTreeSet.ofList l.hostLabelRulesets).size
    l.rulesets.length

end Linked

/-- Registers the definitions of a manifest, up to the first conflict. -/
def Registry.register (r : Registry) (l : Linked) : Progress :=
  let progress := r.performAll l.registrations
  match progress.conflict with
  | some _ => progress
  | none => { progress with events := progress.events ++ [l.summary] }

/-- Registering the definitions of a manifest changes the registry as carrying them out does. -/
@[simp] theorem Registry.registry_register (r : Registry) (l : Linked) :
    (r.register l).registry = (r.performAll l.registrations).registry := by
  unfold register
  dsimp only
  split <;> rfl

/-- Registering the definitions of a manifest fails as carrying them out does. -/
@[simp] theorem Registry.conflict_register (r : Registry) (l : Linked) :
    (r.register l).conflict = (r.performAll l.registrations).conflict := by
  unfold register
  dsimp only
  split <;> rfl

/-! ### Loading manifests -/

/-- Why a manifest is not, or not completely, in a registry. -/
inductive ManifestError where
  | read (reason : ReadError)
  | link (reason : LinkError)
  | conflict (reason : ItemConflict)

/-- The wording of an error, where the format of manifests determines it. -/
def ManifestError.message? : ManifestError → Option String
  | read reason => reason.message?
  | link reason => some reason.message
  | conflict reason => some reason.message

/-- What loading a manifest comes to. -/
structure Loaded where
  registry : Registry
  /-- What loading leaves in the log. -/
  events : List Event := []
  error : Option ManifestError := none

namespace Registry

/-- Links and registers a manifest. -/
def enter (r : Registry) (handlers : HandlerTable) (firstSerial : Nat) (m : Manifest) : Loaded :=
  match m.link handlers firstSerial with
  | .error reason => { registry := r, error := some (.link reason) }
  | .ok l =>
    let progress := r.register l
    { registry := progress.registry
      events := progress.events
      error := progress.conflict.map .conflict }

/-- Reads, links and registers the manifest at a path. -/
def load (r : Registry) (handlers : HandlerTable) (firstSerial : Nat) (path : String)
    (file : ManifestFile) : Loaded :=
  match Manifest.ofFile file with
  | .error reason => { registry := r, error := some (.read reason) }
  | .ok m =>
    let loaded := r.enter handlers firstSerial m
    { loaded with events := .manifestLoaded path m.pluginCount :: loaded.events }

end Registry

end MonitoringPlugins
