/-
**From manifests to definitions.**

The entries of a manifest hold plain texts.  Linking turns them into definitions: names are
validated, function names are resolved in a handler table, default parameters must be tables, and
the parts must fit together.  It stops at the first fault: entries are taken in the order agent
sections, SNMP sections, check plug-ins, inventory plug-ins, rulesets, and the parts of an entry in
a fixed order, too.

Main definitions:

* `MonitoringPlugins.LinkError`, `MonitoringPlugins.LinkError.message` — why a manifest cannot be
  linked;
* `MonitoringPlugins.SectionEntry.linkedDraft`, `MonitoringPlugins.CheckEntry.linkedDraft`,
  `MonitoringPlugins.InventoryEntry.linkedDraft` — what the definition of an entry is built from;
* `MonitoringPlugins.AgentSectionEntry.link`, `MonitoringPlugins.SnmpSectionEntry.link`,
  `MonitoringPlugins.CheckEntry.link`, `MonitoringPlugins.InventoryEntry.link` — the definition of
  an entry;
* `MonitoringPlugins.Linked`, `MonitoringPlugins.Manifest.link` — the definitions of a manifest.

Main results:

* `MonitoringPlugins.linkedName_eq_ok_iff` — **a text is linked to the name with that text**.
-/

import MonitoringPlugins.Handler.Table
import MonitoringPlugins.Manifest.Basic
import MonitoringPlugins.Registry.Rulesets

set_option autoImplicit false

namespace MonitoringPlugins

/-! ### Faults -/

/-- Why a manifest cannot be linked. -/
inductive LinkError where
  /-- There is no function of this kind and name. -/
  | missingHandler (plugin : String) (kind : HandlerKind) (handler : String)
  /-- Default parameters are given, but they are no table. -/
  | parametersNotTable (plugin : String) (stage : Stage)
  /-- A text is no name. -/
  | name (reason : NameError)
  /-- The parts of a definition do not fit together. -/
  | definition (reason : DefinitionError)
  deriving DecidableEq

/-- The wording of a fault. -/
def LinkError.message : LinkError → String
  | missingHandler plugin kind handler =>
    plugin ++ ": no " ++ kind.label ++ " named " ++ Text.quoted handler
  | parametersNotTable plugin stage =>
    plugin ++ ": " ++ stage.label ++ " default parameters must be a table"
  | name reason => reason.message
  | definition reason => reason.message

/-! ### Parts of entries -/

/-- The name with a given text. -/
def linkedName (kind : NameKind) (text : String) : Except LinkError (Name kind) :=
  (Name.ofText kind text).mapError .name

/-- The names with the given texts. -/
def linkedNames (kind : NameKind) (texts : List String) : Except LinkError (List (Name kind)) :=
  texts.mapM (linkedName kind)

/-- The name with a given text, if one is given. -/
def linkedName? (kind : NameKind) : Option String → Except LinkError (Option (Name kind))
  | none => .ok none
  | some text => (linkedName kind text).map some

/-- Default parameters, if they are given. -/
def linkedParameters (plugin : String) (stage : Stage) :
    Option Json → Except LinkError (Option Parameters)
  | none => .ok none
  | some (.obj fields) => .ok (some fields)
  | some _ => .error (.parametersNotTable plugin stage)

/-- **A text is linked to the name with that text.** -/
theorem linkedName_eq_ok_iff {kind : NameKind} {text : String} {n : Name kind} :
    linkedName kind text = .ok n ↔ IsNameText text ∧ n.text = text := by
  rw [← Name.ofText_eq_ok_iff]
  unfold linkedName
  cases Name.ofText kind text with
  | error reason => exact ⟨nofun, nofun⟩
  | ok m =>
    exact ⟨fun h => congrArg Except.ok (Except.ok.inj h),
      fun h => congrArg Except.ok (Except.ok.inj h)⟩

namespace HandlerTable

/-- The function that an entry refers to. -/
def resolve (handlers : HandlerTable) (kind : HandlerKind) (plugin handler : String) :
    Except LinkError kind.Function :=
  match handlers.lookup kind handler with
  | some function => .ok function
  | none => .error (.missingHandler plugin kind handler)

end HandlerTable

/-! ### Entries -/

/-- What the definition of a section needs, whatever its source. -/
def SectionEntry.linkedDraft (e : SectionEntry) : Except LinkError SectionDraft := do
  let name ← linkedName .rawSection e.name
  let supersedes ← linkedNames .rawSection e.supersedes
  let parsedName ← linkedName? .parsedSection e.parsedName
  let hostLabelRuleset ← linkedName? .ruleset e.hostLabelRuleset
  return { name, parsedName, hostLabelRuleset, supersedes }

/-- The definition of an agent section. -/
def AgentSectionEntry.link (handlers : HandlerTable) (serial : Nat) (e : AgentSectionEntry) :
    Except LinkError AgentSection := do
  let parse ← handlers.resolve .agentParse e.name e.parseFunction
  let draft ← e.linkedDraft
  (AgentSection.build serial draft parse).mapError .definition

/-- The definition of an SNMP section. -/
def SnmpSectionEntry.link (handlers : HandlerTable) (serial : Nat) (e : SnmpSectionEntry) :
    Except LinkError SnmpSection := do
  let parse ← handlers.resolve .snmpParse e.name e.parseFunction
  let draft ← e.linkedDraft
  (SnmpSection.build serial draft e.fetch e.detect parse).mapError .definition

/-- What the definition of a check plug-in needs. -/
def CheckEntry.linkedDraft (handlers : HandlerTable) (e : CheckEntry) :
    Except LinkError CheckDraft := do
  let name ← linkedName .checkPlugin e.name
  let discovery ← handlers.resolve .discovery e.name e.discoveryFunction
  let check ← handlers.resolve .check e.name e.checkFunction
  let sections ← linkedNames .parsedSection e.sections
  let discoveryDefaults ← linkedParameters e.name .discovery e.discoveryDefaults
  let discoveryRuleset ← linkedName? .ruleset e.discoveryRuleset
  let checkDefaults ← linkedParameters e.name .check e.checkDefaults
  let checkRuleset ← linkedName? .ruleset e.checkRuleset
  return {
    name, sections, discovery, discoveryDefaults, discoveryRuleset, check, checkDefaults,
    checkRuleset, serviceName := e.serviceName }

/-- The definition of a check plug-in. -/
def CheckEntry.link (handlers : HandlerTable) (e : CheckEntry) :
    Except LinkError CheckPlugin := do
  let draft ← e.linkedDraft handlers
  draft.build.mapError .definition

/-- What the definition of an inventory plug-in needs. -/
def InventoryEntry.linkedDraft (handlers : HandlerTable) (e : InventoryEntry) :
    Except LinkError InventoryDraft := do
  let name ← linkedName .inventoryPlugin e.name
  let inventory ← handlers.resolve .inventory e.name e.inventoryFunction
  let sections ← linkedNames .parsedSection e.sections
  let inventoryDefaults ← linkedParameters e.name .inventory e.inventoryDefaults
  let inventoryRuleset ← linkedName? .ruleset e.inventoryRuleset
  return { name, sections, inventory, inventoryDefaults, inventoryRuleset }

/-- The definition of an inventory plug-in. -/
def InventoryEntry.link (handlers : HandlerTable) (e : InventoryEntry) :
    Except LinkError InventoryPlugin := do
  let draft ← e.linkedDraft handlers
  draft.build.mapError .definition

/-! ### Manifests -/

/-- The definitions of a manifest, each list in the order of its entries, and its rules in the order
of the names of their rulesets. -/
structure Linked where
  agentSections : List AgentSection := []
  snmpSections : List SnmpSection := []
  checkPlugins : List CheckPlugin := []
  inventoryPlugins : List InventoryPlugin := []
  rulesets : List (RulesetName × List Rule) := []

/-- The rules of a ruleset. -/
def linkedRuleset (entry : String × List Rule) :
    Except LinkError (RulesetName × List Rule) :=
  (linkedName .ruleset entry.1).map (·, entry.2)

/-- **The definitions of a manifest.**  The sections are numbered from `firstSerial` on. -/
def Manifest.link (handlers : HandlerTable) (firstSerial : Nat) (m : Manifest) :
    Except LinkError Linked := do
  let agentSections ←
    (m.agentSections.zipIdx firstSerial).mapM fun (entry, serial) => entry.link handlers serial
  let snmpSections ←
    (m.snmpSections.zipIdx (firstSerial + m.agentSections.length)).mapM
      fun (entry, serial) => entry.link handlers serial
  let checkPlugins ← m.checkPlugins.mapM (CheckEntry.link handlers)
  let inventoryPlugins ← m.inventoryPlugins.mapM (InventoryEntry.link handlers)
  let rulesets ← m.rulesets.toList.mapM linkedRuleset
  return { agentSections, snmpSections, checkPlugins, inventoryPlugins, rulesets }

end MonitoringPlugins
