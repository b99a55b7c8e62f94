/-
**Check plug-ins that share a ruleset.**

The rules of a check ruleset apply to the services of all plug-ins that name it.  A rule either
speaks about items or it does not, so the plug-ins of one ruleset agree on whether their services
carry an item.  A plug-in that would break the agreement is refused.  It is compared with the others
only: a plug-in that replaces an earlier definition of its own name does not conflict with it.

Main definitions:

* `MonitoringPlugins.CheckGroups` — plug-ins grouped by check ruleset;
* `MonitoringPlugins.ItemConflict`, `MonitoringPlugins.ItemConflict.message` — a broken agreement;
* `MonitoringPlugins.CheckGroups.conflict?` — the conflict of a plug-in with those present.

Main results:

* `MonitoringPlugins.CheckGroups.members_push` — a plug-in joins the end of its own group and of no
  other.
-/

import MonitoringPlugins.Plugin.Check

set_option autoImplicit false

namespace MonitoringPlugins

/-! ### Conflicts -/

/-- What the plug-ins of a ruleset agree on. -/
inductive ItemRequirement where
  /-- Every plug-in has an item. -/
  | requires
  /-- No plug-in has an item. -/
  | doesNotSupport
  deriving DecidableEq

/-- The agreement, as messages call it. -/
def ItemRequirement.label : ItemRequirement → String
  | requires => "requires"
  | doesNotSupport => "does not support"

/-- A plug-in that disagrees with the other plug-ins of its check ruleset. -/
structure ItemConflict where
  ruleset : RulesetName
  plugin : CheckPluginName
  /-- The other plug-ins of the ruleset, in the order of their registration. -/
  present : List CheckPluginName
  requirement : ItemRequirement
  deriving DecidableEq

/-- The wording of a conflict. -/
def ItemConflict.message (c : ItemConflict) : String :=
  "check ruleset " ++ c.ruleset.text ++ " has checks with and without item: it " ++
    c.requirement.label ++ " an item, offending plug-in: " ++ c.plugin.text ++
    ", present plug-ins: " ++ Text.commaSeparated (c.present.map (·.text))

/-! ### Groups -/

/-- Check plug-ins grouped by their check ruleset; those without one form a group, too. -/
abbrev CheckGroups := Std.ExtTreeMap (Option RulesetName) (List CheckPlugin)

namespace CheckGroups

/-- The plug-ins of a group, in the order of their registration. -/
def members (groups : CheckGroups) (ruleset : Option RulesetName) : List CheckPlugin :=
  groups.getD ruleset []

/-- Takes the plug-ins of a name out of a group.  A group that is there stays, even if it becomes
empty. -/
def withdraw (groups : CheckGroups) (ruleset : Option RulesetName) (name : CheckPluginName) :
    CheckGroups :=
  match groups[ruleset]? with
  | some group => groups.insert ruleset (group.filter (·.name ≠ name))
  | none => groups

/-- Puts a plug-in at the end of its group. -/
def push (groups : CheckGroups) (plugin : CheckPlugin) : CheckGroups :=
  groups.insert plugin.checkRuleset (groups.members plugin.checkRuleset ++ [plugin])

/-- The groups of some plug-ins, in order, whether they agree or not. -/
def ofPlugins (plugins : List CheckPlugin) : CheckGroups := plugins.foldl push ∅

/-- **The conflict of a plug-in with those present.**  Those present agree with each other, so the
first of them speaks for all. -/
def conflict? (groups : CheckGroups) (plugin : CheckPlugin) : Option ItemConflict := do
  let ruleset ← plugin.checkRuleset
  let present := (groups.members (some ruleset)).filter (·.name ≠ plugin.name)
  let first ← present.head?
  guard (plugin.hasItem ≠ first.hasItem)
  return {
    ruleset
    plugin := plugin.name
    present := present.map (·.name)
    requirement := if first.hasItem then .requires else .doesNotSupport }

/-- There is no conflict if the first of the others agrees. -/
theorem conflict?_eq_none_iff {groups : CheckGroups} {plugin : CheckPlugin} :
    groups.conflict? plugin = none ↔
      ∀ ruleset, plugin.checkRuleset = some ruleset →
        ∀ first ∈ ((groups.members (some ruleset)).filter (·.name ≠ plugin.name)).head?,
          plugin.hasItem = first.hasItem := by
  have hguard (p : Prop) [Decidable p] : (guard p : Option Unit) = if p then some () else none := rfl
  unfold conflict?
  simp only [↓hguard]
  cases hr : plugin.checkRuleset with
  | none => simp
  | some ruleset =>
      simp only [Option.bind_eq_bind, Option.bind_some, Option.some.injEq, forall_eq']
      generalize ((groups.members (some ruleset)).filter (·.name ≠ plugin.name)).head? = found
      cases found with
      | none => simp
      | some first => by_cases hi : plugin.hasItem = first.hasItem <;> simp [hi]

/-! ### Members -/

@[simp] theorem members_empty (ruleset : Option RulesetName) :
    members ∅ ruleset = [] := by
  simp [members]

/-- A plug-in joins the end of its own group and of no other. -/
theorem members_push (groups : CheckGroups) (plugin : CheckPlugin)
    (ruleset : Option RulesetName) :
    (groups.push plugin).members ruleset =
      if plugin.checkRuleset = ruleset then groups.members ruleset ++ [plugin]
      else groups.members ruleset := by
  simp only [members, push, Std.ExtTreeMap.getD_insert, Std.LawfulEqCmp.compare_eq_iff_eq]
  split
  · next h => rw [h]
  · rfl

/-- A withdrawal takes one name out of one group. -/
theorem members_withdraw (groups : CheckGroups) (ruleset other : Option RulesetName)
    (name : CheckPluginName) :
    (groups.withdraw ruleset name).members other =
      if ruleset = other then (groups.members other).filter (·.name ≠ name)
      else groups.members other := by
  unfold withdraw
  split
  · next group h =>
    simp only [members, Std.ExtTreeMap.getD_insert, Std.LawfulEqCmp.compare_eq_iff_eq]
    split
    · next hr =>
      subst hr
      rw [Std.ExtTreeMap.getD_eq_getD_getElem?, h]
      rfl
    · rfl
  · next h =>
    split
    · next hr =>
      subst hr
      simp [members, Std.ExtTreeMap.getD_eq_getD_getElem?, h]
    · rfl

end CheckGroups

end MonitoringPlugins
