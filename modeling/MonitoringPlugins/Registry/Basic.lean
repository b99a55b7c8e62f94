/-
**The registry.**

The registry knows the sections and plug-ins of a site by their names.  The last registration of a
name counts, whatever it replaces: a section may move from the agent to SNMP, or produce something
else than before.  Beside the four maps the registry keeps what can be derived from them and is
asked for often — the producers of each parsed section and the plug-ins of each check ruleset — and
the rulesets.

Main definitions:

* `MonitoringPlugins.Snapshot` — the registered sections and plug-ins, by name;
* `MonitoringPlugins.Registry` — the same with what is derived from them, and the rulesets;
* `MonitoringPlugins.Registry.addSection`, `MonitoringPlugins.Registry.addCheck`,
  `MonitoringPlugins.Registry.addInventory`, `MonitoringPlugins.Registry.declareRuleset`,
  `MonitoringPlugins.Registry.setRuleset` — registrations.

Main results:

* `MonitoringPlugins.Registry.addCheck_eq_error_iff` — **a check plug-in is refused exactly when it
  conflicts**, and then with that conflict.
-/

import MonitoringPlugins.Plugin.Inventory
import MonitoringPlugins.Registry.ItemConflict
import MonitoringPlugins.Registry.Rulesets
import MonitoringPlugins.Registry.SectionIndex

set_option autoImplicit false

namespace MonitoringPlugins

/-! ### Sections and plug-ins by name -/

/-- The registered sections and plug-ins, by name. -/
@[ext] structure Snapshot where
  agentSections : Std.ExtTreeMap SectionName AgentSection := ∅
  snmpSections : Std.ExtTreeMap SectionName SnmpSection := ∅
  checkPlugins : Std.ExtTreeMap CheckPluginName CheckPlugin := ∅
  inventoryPlugins : Std.ExtTreeMap InventoryPluginName InventoryPlugin := ∅

namespace Snapshot

/-- How many sections and plug-ins there are. -/
def size (s : Snapshot) : Nat :=
  s.agentSections.size + s.snmpSections.size + s.checkPlugins.size + s.inventoryPlugins.size

/-- The section of a name. -/
def findSection? (s : Snapshot) (name : SectionName) : Option Section :=
  (s.agentSections[name]?.map Section.agent).or (s.snmpSections[name]?.map Section.snmp)

theorem findSection?_eq_agent_iff {s : Snapshot} {name : SectionName} {found : AgentSection} :
    s.findSection? name = some (.agent found) ↔ s.agentSections[name]? = some found := by
  cases h : s.agentSections[name]? <;> simp [findSection?, h]

theorem findSection?_eq_snmp_iff {s : Snapshot} {name : SectionName} {found : SnmpSection} :
    s.findSection? name = some (.snmp found) ↔
      s.agentSections[name]? = none ∧ s.snmpSections[name]? = some found := by
  cases h : s.agentSections[name]? <;> simp [findSection?, h]

theorem findSection?_eq_none_iff {s : Snapshot} {name : SectionName} :
    s.findSection? name = none ↔ name ∉ s.agentSections ∧ name ∉ s.snmpSections := by
  simp [findSection?]

/-- Puts a section under its name among those of its source. -/
def insertSection (s : Snapshot) : Section → Snapshot
  | .agent new => { s with agentSections := s.agentSections.insert new.name new }
  | .snmp new => { s with snmpSections := s.snmpSections.insert new.name new }

/-- Takes a name out of the sections of one source. -/
def eraseSection (s : Snapshot) (name : SectionName) : SectionSource → Snapshot
  | .agent => { s with agentSections := s.agentSections.erase name }
  | .snmp => { s with snmpSections := s.snmpSections.erase name }

@[simp] theorem checkPlugins_insertSection (s : Snapshot) (new : Section) :
    (s.insertSection new).checkPlugins = s.checkPlugins := by cases new <;> rfl

@[simp] theorem inventoryPlugins_insertSection (s : Snapshot) (new : Section) :
    (s.insertSection new).inventoryPlugins = s.inventoryPlugins := by cases new <;> rfl

@[simp] theorem checkPlugins_eraseSection (s : Snapshot) (name : SectionName)
    (source : SectionSource) : (s.eraseSection name source).checkPlugins = s.checkPlugins := by
  cases source <;> rfl

@[simp] theorem inventoryPlugins_eraseSection (s : Snapshot) (name : SectionName)
    (source : SectionSource) :
    (s.eraseSection name source).inventoryPlugins = s.inventoryPlugins := by
  cases source <;> rfl

/-- How many sections and plug-ins there are of each kind, as fields of a record. -/
def counts (s : Snapshot) : List (String × String) :=
  [("agent_sections", toString s.agentSections.size),
    ("snmp_sections", toString s.snmpSections.size),
    ("check_plugins", toString s.checkPlugins.size),
    ("inventory_plugins", toString s.inventoryPlugins.size)]

/-- A snapshot on one line. -/
def describe (s : Snapshot) : String := Text.record "AgentBasedPlugins" s.counts

end Snapshot

/-! ### The registry -/

/-- The registered sections and plug-ins, with the rulesets, the plug-ins of each check ruleset and
the producers of each parsed section. -/
structure Registry extends Snapshot where
  rulesets : Rulesets := {}
  checkGroups : CheckGroups := ∅
  sectionIndex : SectionIndex := ∅

namespace Registry

/-- The registry without any registration. -/
def empty : Registry := {}

/-- The sections and plug-ins as registered so far. -/
def snapshot (r : Registry) : Snapshot := r.toSnapshot

/-- A registry on one line. -/
def describe (r : Registry) : String :=
  Text.record "PluginRegistry" (r.counts ++ [("rulesets", toString r.rulesets.size)])

/-! ### Registrations -/

/-- Drops what is held of an earlier definition of a section and would not be overwritten by the new
one: its place among the producers if the new definition produces something else, and its place
among the sections of its source if the new one has another source. -/
def forgetSection (r : Registry) (previous new : Section) : Registry :=
  { r with
    toSnapshot :=
      if previous.source = new.source then r.toSnapshot
      else r.toSnapshot.eraseSection previous.name previous.source
    sectionIndex :=
      if previous.parsedName = new.parsedName then r.sectionIndex
      else r.sectionIndex.withdraw previous.parsedName previous.name }

/-- The registry without what the earlier definition of a section leaves behind. -/
def forgetPrevious (r : Registry) (new : Section) : Registry :=
  match r.findSection? new.name with
  | some previous => r.forgetSection previous new
  | none => r

/-- Registers a section, in place of an earlier one of its name. -/
def addSection (r : Registry) (new : Section) : Registry :=
  let kept := r.forgetPrevious new
  { kept with
    toSnapshot := kept.toSnapshot.insertSection new
    sectionIndex := kept.sectionIndex.add new }

/-- The check ruleset groups without the earlier definition of a plug-in. -/
def groupsWithout (r : Registry) (name : CheckPluginName) : CheckGroups :=
  match r.checkPlugins[name]? with
  | some previous => r.checkGroups.withdraw previous.checkRuleset name
  | none => r.checkGroups

/-- Registers a check plug-in, in place of an earlier one of its name, unless it conflicts with the
other plug-ins of its check ruleset. -/
def addCheck (r : Registry) (new : CheckPlugin) : Except ItemConflict Registry :=
  match r.checkGroups.conflict? new with
  | some conflict => .error conflict
  | none =>
    .ok { r with
      checkPlugins := r.checkPlugins.insert new.name new
      checkGroups := (r.groupsWithout new.name).push new }

/-- Registers an inventory plug-in, in place of an earlier one of its name. -/
def addInventory (r : Registry) (new : InventoryPlugin) : Registry :=
  { r with inventoryPlugins := r.inventoryPlugins.insert new.name new }

/-- Makes a ruleset known; rules that it has are kept. -/
def declareRuleset (r : Registry) (_ : RulesetUse) (name : RulesetName) : Registry :=
  { r with rulesets := r.rulesets.declare name }

/-- Replaces the rules of a ruleset. -/
def setRuleset (r : Registry) (_ : RulesetUse) (name : RulesetName) (rules : List Rule) :
    Registry :=
  { r with rulesets := r.rulesets.set name rules }

/-! ### What registering a section leaves alone -/

@[simp] theorem checkPlugins_addSection (r : Registry) (new : Section) :
    (r.addSection new).checkPlugins = r.checkPlugins := by
  unfold addSection forgetPrevious forgetSection
  cases r.findSection? new.name with
  | none => simp
  | some previous =>
      dsimp only
      split <;> simp

@[simp] theorem inventoryPlugins_addSection (r : Registry) (new : Section) :
    (r.addSection new).inventoryPlugins = r.inventoryPlugins := by
  unfold addSection forgetPrevious forgetSection
  cases r.findSection? new.name with
  | none => simp
  | some previous =>
      dsimp only
      split <;> simp

@[simp] theorem checkGroups_addSection (r : Registry) (new : Section) :
    (r.addSection new).checkGroups = r.checkGroups := by
  unfold addSection forgetPrevious
  cases r.findSection? new.name <;> rfl

@[simp] theorem rulesets_addSection (r : Registry) (new : Section) :
    (r.addSection new).rulesets = r.rulesets := by
  unfold addSection forgetPrevious
  cases r.findSection? new.name <;> rfl

/-! ### Conflicts -/

/-- **A check plug-in is refused exactly when it conflicts**, and then with that conflict. -/
theorem addCheck_eq_error_iff {r : Registry} {new : CheckPlugin} {conflict : ItemConflict} :
    r.addCheck new = .error conflict ↔ r.checkGroups.conflict? new = some conflict := by
  unfold addCheck
  split <;> simp_all

/-- What an accepted check plug-in changes. -/
theorem addCheck_eq_ok_iff {r r' : Registry} {new : CheckPlugin} :
    r.addCheck new = .ok r' ↔ r.checkGroups.conflict? new = none ∧
      r' = { r with
        checkPlugins := r.checkPlugins.insert new.name new
        checkGroups := (r.groupsWithout new.name).push new } := by
  unfold addCheck
  split
  · next h => simp [h]
  · next h => simp [h, eq_comm]

end Registry

end MonitoringPlugins
