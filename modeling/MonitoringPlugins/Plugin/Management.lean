/-
**Management board variants of check plug-ins.**

The services of a management board are found and checked by the same functions as those of the host
itself, but they are told apart by the name of the plug-in and by their descriptions.  A variant is
derived from the basic plug-in whenever it is asked for, so it always reflects the current
definition.

Main definitions:

* `MonitoringPlugins.managementServicePrefix` — what the descriptions of such services begin with;
* `MonitoringPlugins.CheckPlugin.managementVariant` — the variant of a basic plug-in.

Main results:

* `MonitoringPlugins.CheckPlugin.exists_managementVariant`,
  `MonitoringPlugins.CheckPlugin.managementVariant_of_isManagement` — which plug-ins have a variant;
* `MonitoringPlugins.CheckPlugin.hasItem_managementVariant` — **a variant has an item exactly if its
  basic plug-in has one**.
-/

import MonitoringPlugins.Name.Management
import MonitoringPlugins.Plugin.Check

set_option autoImplicit false

namespace MonitoringPlugins

/-- What the descriptions of management board services begin with. -/
def managementServicePrefix : String := "Management Interface: "

/-- The management board variant of a plug-in: only its name and service name differ.  A plug-in
with a management name has none. -/
def CheckPlugin.managementVariant (basic : CheckPlugin) : Except NameError CheckPlugin := do
  let name ← CheckPluginName.toManagement basic.name
  return { basic with name, serviceName := managementServicePrefix ++ basic.serviceName }

namespace CheckPlugin

variable {basic variant : CheckPlugin}

/-- What a variant is. -/
theorem managementVariant_eq_ok_iff : basic.managementVariant = .ok variant ↔
    ∃ name, CheckPluginName.toManagement basic.name = .ok name ∧
      variant = { basic with name, serviceName := managementServicePrefix ++ basic.serviceName } := by
  unfold managementVariant
  cases CheckPluginName.toManagement basic.name with
  | error reason => simp [bind, Except.bind]
  | ok name => simp [bind, Except.bind, pure, Except.pure, eq_comm]

/-- A plug-in with a management name is refused. -/
theorem managementVariant_of_isManagement (h : basic.name.IsManagement) :
    basic.managementVariant = .error (.alreadyManagement basic.name.text) := by
  rw [managementVariant, CheckPluginName.toManagement_of_isManagement h]
  rfl

/-- Any other plug-in has a variant. -/
theorem exists_managementVariant (h : ¬basic.name.IsManagement) :
    ∃ variant, basic.managementVariant = .ok variant := by
  obtain ⟨name, hname⟩ := CheckPluginName.exists_toManagement h
  exact ⟨_, managementVariant_eq_ok_iff.2 ⟨name, hname, rfl⟩⟩

/-- A variant belongs to the check ruleset of its basic plug-in. -/
theorem checkRuleset_managementVariant (h : basic.managementVariant = .ok variant) :
    variant.checkRuleset = basic.checkRuleset := by
  obtain ⟨name, -, rfl⟩ := managementVariant_eq_ok_iff.1 h
  rfl

/-- **A variant has an item exactly if its basic plug-in has one**: the prefix of its descriptions
neither makes nor breaks a placeholder. -/
theorem hasItem_managementVariant (h : basic.managementVariant = .ok variant) :
    variant.hasItem = basic.hasItem := by
  obtain ⟨name, -, rfl⟩ := managementVariant_eq_ok_iff.1 h
  exact ServiceName.hasItem_append (by decide) basic.serviceName

end CheckPlugin

end MonitoringPlugins
