/-
**Asking the registry.**

Looking something up never fails: what is not there is `none`, or empty.  A check plug-in of a
management board need not be registered; it is derived from the plug-in of the host.  A section that
is not registered is taken to produce the parsed section of its own name.

Main definitions:

* `MonitoringPlugins.Registry.checkPlugin?` — a check plug-in, registered or derived;
* `MonitoringPlugins.Registry.producers`, `MonitoringPlugins.Registry.needsRedetection` — the
  producers of a parsed section, and whether they compete;
* `MonitoringPlugins.Registry.relevantSections` — the raw sections that may feed some plug-ins.

Main results:

* `MonitoringPlugins.Registry.checkPlugin?_of_registered` — **a registered plug-in is found as it
  is**.
-/

import MonitoringPlugins.Plugin.Management
import MonitoringPlugins.Registry.Basic
import MonitoringPlugins.Registry.Event

set_option autoImplicit false

namespace MonitoringPlugins.Registry

/-! ### Plug-ins -/

/-- The management board variant of the registered plug-in that a management name belongs to. -/
def derivedPlugin? (r : Registry) (name : CheckPluginName) : Option CheckPlugin := do
  let basicName ← (CheckPluginName.toBasic name).toOption
  let basic ← r.checkPlugins[basicName]?
  basic.managementVariant.toOption

/-- The check plug-in of a name: the registered one, or one derived from a registered one. -/
def checkPlugin? (r : Registry) (name : CheckPluginName) : Option CheckPlugin :=
  match r.checkPlugins[name]? with
  | some plugin => some plugin
  | none => r.derivedPlugin? name

/-- A derived plug-in is the variant of a registered one. -/
theorem derivedPlugin?_eq_some_iff {r : Registry} {name : CheckPluginName} {plugin : CheckPlugin} :
    r.derivedPlugin? name = some plugin ↔
      ∃ basicName basic, CheckPluginName.toBasic name = .ok basicName ∧
        r.checkPlugins[basicName]? = some basic ∧ basic.managementVariant = .ok plugin := by
  have htoOption {ε α : Type} {x : Except ε α} {a : α} : x.toOption = some a ↔ x = .ok a := by
    cases x <;> simp [Except.toOption]
  simp only [derivedPlugin?, Option.bind_eq_bind, Option.bind_eq_some_iff, htoOption,
    exists_and_left]

/-- Only the registration of the basic plug-in matters. -/
theorem derivedPlugin?_congr {r s : Registry} {name : CheckPluginName}
    (h : ∀ basicName, CheckPluginName.toBasic name = .ok basicName →
      s.checkPlugins[basicName]? = r.checkPlugins[basicName]?) :
    s.derivedPlugin? name = r.derivedPlugin? name := by
  unfold derivedPlugin?
  cases hbasic : CheckPluginName.toBasic name with
  | error reason => rfl
  | ok basicName =>
      simp only [Except.toOption, Option.bind_eq_bind, Option.bind_some, h basicName hbasic]

/-- A plug-in is found because it is registered, or because its basic plug-in is. -/
theorem checkPlugin?_cases {r : Registry} {name : CheckPluginName} {plugin : CheckPlugin}
    (h : r.checkPlugin? name = some plugin) :
    r.checkPlugins[name]? = some plugin ∨
      r.checkPlugins[name]? = none ∧ r.derivedPlugin? name = some plugin := by
  unfold checkPlugin? at h
  cases hr : r.checkPlugins[name]? with
  | none => exact .inr ⟨rfl, by simpa [hr] using h⟩
  | some found => exact .inl (by simpa [hr] using h)

/-- The inventory plug-in of a name. -/
def inventoryPlugin? (r : Registry) (name : InventoryPluginName) : Option InventoryPlugin :=
  r.inventoryPlugins[name]?

/-- **A registered plug-in is found as it is.** -/
theorem checkPlugin?_of_registered {r : Registry} {name : CheckPluginName} {plugin : CheckPlugin}
    (h : r.checkPlugins[name]? = some plugin) : r.checkPlugin? name = some plugin := by
  simp [checkPlugin?, h]

/-- Whether a check plug-in is registered under a name; derived plug-ins are not. -/
def IsCheckPlugin (r : Registry) (name : CheckPluginName) : Prop := name ∈ r.checkPlugins

theorem isCheckPlugin_iff {r : Registry} {name : CheckPluginName} :
    r.IsCheckPlugin name ↔ ∃ plugin, r.checkPlugins[name]? = some plugin := by
  rw [IsCheckPlugin, Std.ExtTreeMap.mem_iff_isSome_getElem?, Option.isSome_iff_exists]

theorem not_isCheckPlugin_iff {r : Registry} {name : CheckPluginName} :
    ¬r.IsCheckPlugin name ↔ r.checkPlugins[name]? = none := by
  rw [isCheckPlugin_iff, not_exists, Option.eq_none_iff_forall_ne_some]

/-- Whether an inventory plug-in is registered under a name. -/
def IsInventoryPlugin (r : Registry) (name : InventoryPluginName) : Prop :=
  name ∈ r.inventoryPlugins

/-- Whether a section is registered under a name. -/
def IsSection (r : Registry) (name : SectionName) : Prop :=
  name ∈ r.agentSections ∨ name ∈ r.snmpSections

instance (r : Registry) (name : CheckPluginName) : Decidable (r.IsCheckPlugin name) :=
  inferInstanceAs (Decidable (_ ∈ _))

instance (r : Registry) (name : InventoryPluginName) : Decidable (r.IsInventoryPlugin name) :=
  inferInstanceAs (Decidable (_ ∈ _))

instance (r : Registry) (name : SectionName) : Decidable (r.IsSection name) :=
  inferInstanceAs (Decidable (_ ∨ _))

/-! ### Rulesets -/

/-- Whether a ruleset is known. -/
def KnowsRuleset (r : Registry) (name : RulesetName) : Prop := r.rulesets.Knows name

instance (r : Registry) (name : RulesetName) : Decidable (r.KnowsRuleset name) :=
  inferInstanceAs (Decidable (Rulesets.Knows _ _))

/-- The rules of a ruleset; an unknown one has none. -/
def rules (r : Registry) (_ : RulesetUse) (name : RulesetName) : List Rule := r.rulesets.rules name

/-- The known rulesets, in the order of their first mention. -/
def rulesetNames (r : Registry) (_ : RulesetUse) : List RulesetName := r.rulesets.names

/-! ### Producers -/

/-- The names of the sections that produce a parsed section. -/
def producers (r : Registry) (parsed : ParsedSectionName) : List SectionName :=
  (r.sectionIndex.producers parsed).keys

/-- What a section produces. -/
def producedBy (r : Registry) (name : SectionName) : ParsedSectionName :=
  match r.findSection? name with
  | some s => s.parsedName
  | none => name.toParsedSection

/-- Whether what a section produces has more than one producer, so that it has to be found out anew
which of them supplies data. -/
def needsRedetection (r : Registry) (name : SectionName) : Bool :=
  1 < (r.sectionIndex.producers (r.producedBy name)).size

/-- What asking for redetection leaves in the log. -/
def redetectionEvents (r : Registry) (name : SectionName) : List Event :=
  if r.IsSection name then [] else [.unregisteredSection name]

/-! ### Relevant sections -/

/-- The parsed sections that some plug-ins subscribe to; unknown plug-ins are passed over. -/
def subscriptions (r : Registry) (checks : List CheckPluginName)
    (inventories : List InventoryPluginName) : List ParsedSectionName :=
  (checks.filterMap r.checkPlugin?).flatMap (·.sections) ++
    (inventories.filterMap r.inventoryPlugin?).flatMap (·.sections)

/-- **The raw sections that may feed some plug-ins**: all producers of all parsed sections that they
subscribe to.  Which of them supplies data is decided when they are fetched. -/
def relevantSections (r : Registry) (checks : List CheckPluginName)
    (inventories : List InventoryPluginName) : Std.ExtTreeMap SectionName Section :=
  (r.subscriptions checks inventories).foldl
    (fun found parsed => found ∪ r.sectionIndex.producers parsed) ∅

/-- What asking for relevant sections leaves in the log. -/
def relevanceEvents (r : Registry) (checks : List CheckPluginName)
    (inventories : List InventoryPluginName) : List Event :=
  (checks.filter fun name => (r.checkPlugin? name).isNone).map Event.unknownCheck ++
    (inventories.filter fun name => (r.inventoryPlugin? name).isNone).map Event.unknownInventory

end MonitoringPlugins.Registry
