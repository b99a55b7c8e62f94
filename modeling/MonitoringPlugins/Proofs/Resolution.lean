/-
**What a name resolves to.**

A check plug-in is looked up under its name, and a name that nothing is registered under may still
stand for the management board variant of another plug-in.  Three functions have a say in this: one
strips the prefix of the name, one looks for the basic plug-in, and one derives the variant.  Each
of them can fail.  This module puts them together to a relation that speaks of the texts of names
only, and shows that the look-up decides it.  A name is resolved by the plug-in registered under it,
and else by the variant of the plug-in whose name remains without the prefix, if that name has no
prefix itself.  Such a plug-in always has a variant.

Since only two registrations are looked at, a new one concerns two names only: its own, and the one
under a prefix.

Main definitions:

* `MonitoringPlugins.Registry.Resolves` — **the plug-ins that a name stands for**.

Main results:

* `MonitoringPlugins.Registry.Coherent.checkPlugin?_eq_some_iff` — **the look-up decides the
  relation**;
* `MonitoringPlugins.Registry.Coherent.exists_resolves_iff` — which names stand for a plug-in;
* `MonitoringPlugins.Registry.Coherent.checkPlugin?_addCheck` — **a registration concerns two names
  only**;
* `MonitoringPlugins.Registry.InUse.checkPlugin?_exact` — all this for the registries in use.
-/

import MonitoringPlugins.Proofs.StoredVariant

set_option autoImplicit false

namespace MonitoringPlugins.Registry

/-! ### The relation -/

/-- **The plug-in that a name stands for.** -/
inductive Resolves (r : Registry) (name : CheckPluginName) : CheckPlugin → Prop
  | registered {plugin : CheckPlugin} (found : r.checkPlugins[name]? = some plugin) :
      Resolves r name plugin
  /-- The variant of the basic plug-in, as that is registered now. -/
  | derived {basicName : CheckPluginName} {basic variant : CheckPlugin}
      (absent : ¬r.IsCheckPlugin name) (prefixed : name.text = managementPrefix ++ basicName.text)
      (once : ∀ rest : String, basicName.text ≠ managementPrefix ++ rest)
      (found : r.checkPlugins[basicName]? = some basic)
      (derives : basic.managementVariant = .ok variant) : Resolves r name variant

variable {r : Registry} {name : CheckPluginName}

namespace Coherent

/-- **The look-up decides what a name stands for.** -/
theorem checkPlugin?_eq_some_iff (h : r.Coherent) {plugin : CheckPlugin} :
    r.checkPlugin? name = some plugin ↔ r.Resolves name plugin := by
  constructor
  · intro hfound
    rcases checkPlugin?_cases hfound with hregistered | ⟨hnone, hderived⟩
    · exact .registered hregistered
    · obtain ⟨basicName, basic, hbasic, hregistered, hvariant⟩ :=
        derivedPlugin?_eq_some_iff.1 hderived
      have hbasicName := h.not_isManagement_of_managementVariant hregistered hvariant
      exact .derived (not_isCheckPlugin_iff.2 hnone) (CheckPluginName.toBasic_eq_ok_iff.1 hbasic)
        (CheckPluginName.not_isManagement_iff.1 hbasicName) hregistered hvariant
  · intro hresolves
    cases hresolves with
    | registered hfound => exact checkPlugin?_of_registered hfound
    | derived habsent hprefixed _ hfound hvariant =>
        rw [checkPlugin?, not_isCheckPlugin_iff.1 habsent]
        exact derivedPlugin?_eq_some_iff.2
          ⟨_, _, CheckPluginName.toBasic_eq_ok_iff.2 hprefixed, hfound, hvariant⟩

/-- **A name stands for a plug-in** if one is registered under it, or under what remains without a
single prefix. -/
theorem exists_resolves_iff (h : r.Coherent) :
    (∃ plugin, r.Resolves name plugin) ↔
      r.IsCheckPlugin name ∨ ∃ basicName : CheckPluginName,
        name.text = managementPrefix ++ basicName.text ∧
          (∀ rest : String, basicName.text ≠ managementPrefix ++ rest) ∧
            r.IsCheckPlugin basicName := by
  constructor
  · rintro ⟨plugin, hresolves⟩
    cases hresolves with
    | registered hfound => exact .inl (isCheckPlugin_iff.2 ⟨plugin, hfound⟩)
    | derived _ hprefixed honce hfound _ =>
        exact .inr ⟨_, hprefixed, honce, isCheckPlugin_iff.2 ⟨_, hfound⟩⟩
  · intro hname
    by_cases hregistered : r.IsCheckPlugin name
    · obtain ⟨plugin, hfound⟩ := isCheckPlugin_iff.1 hregistered
      exact ⟨plugin, .registered hfound⟩
    · obtain ⟨basicName, hprefixed, honce, hbasic⟩ := hname.resolve_left hregistered
      obtain ⟨basic, hfound⟩ := isCheckPlugin_iff.1 hbasic
      have hbasicName : ¬basic.name.IsManagement := by
        rw [h.checkKey basicName basic hfound]
        exact CheckPluginName.not_isManagement_iff.2 honce
      obtain ⟨variant, hvariant⟩ := CheckPlugin.exists_managementVariant hbasicName
      exact ⟨variant, .derived hregistered hprefixed honce hfound hvariant⟩

/-- A plug-in has the name that it is found under. -/
theorem name_of_checkPlugin? (h : r.Coherent) {plugin : CheckPlugin}
    (hfound : r.checkPlugin? name = some plugin) : plugin.name = name := by
  rcases checkPlugin?_cases hfound with hregistered | ⟨-, hderived⟩
  · exact h.checkKey name plugin hregistered
  · exact (h.name_of_derivedPlugin? hderived).1

/-! ### Registering a plug-in -/

/-- **A registration concerns two names only**, its own and the one under a prefix, and the latter
only if nothing is registered under it and no prefix is there already. -/
theorem checkPlugin?_addCheck (h : r.Coherent) {new : CheckPlugin} {s : Registry}
    (ok : r.addCheck new = .ok s) (hown : name ≠ new.name)
    (hvariant : name.text = managementPrefix ++ new.name.text →
      r.IsCheckPlugin name ∨ new.name.IsManagement) :
    s.checkPlugin? name = r.checkPlugin? name := by
  have hs : s.Coherent := h.perform (a := .addCheck new) ok
  obtain ⟨-, rfl⟩ := addCheck_eq_ok_iff.1 ok
  unfold checkPlugin?
  dsimp only
  rw [getElem?_insert_of_ne new hown]
  cases hfound : r.checkPlugins[name]? with
  | some plugin => rfl
  | none =>
      -- with nothing under the name itself the derivations have to agree
      refine h.derivedPlugin?_insert hs rfl ?_
      by_cases hprefixed : name.text = managementPrefix ++ new.name.text
      · exact .inl ((hvariant hprefixed).resolve_left (not_isCheckPlugin_iff.2 hfound))
      · exact .inr hprefixed

end Coherent

/-! ### Registries in use -/

/-- **A check plug-in is found exactly if its name stands for it.**  What is found bears the name,
what is derived is not stored, and no prefix is stripped twice.  A registration changes nothing else
than what is found under its own name and, unless something is registered there, under this name
with a prefix. -/
theorem InUse.checkPlugin?_exact (h : r.InUse) (name : CheckPluginName) :
    (∀ plugin, r.checkPlugin? name = some plugin ↔ r.Resolves name plugin) ∧
    ((∃ plugin, r.checkPlugin? name = some plugin) ↔
      r.IsCheckPlugin name ∨ ∃ basicName : CheckPluginName,
        name.text = managementPrefix ++ basicName.text ∧
          (∀ rest : String, basicName.text ≠ managementPrefix ++ rest) ∧
            r.IsCheckPlugin basicName) ∧
    (∀ plugin, r.checkPlugin? name = some plugin →
      plugin.name = name ∧
        (¬r.IsCheckPlugin name → ∀ other : CheckPluginName, r.checkPlugins[other]? ≠ some plugin)) ∧
    (∀ rest : String, name.text = managementPrefix ++ (managementPrefix ++ rest) →
      ¬r.IsCheckPlugin name → r.checkPlugin? name = none) ∧
    ∀ (new : CheckPlugin) (s : Registry), r.addCheck new = .ok s →
      s.checkPlugin? name ≠ r.checkPlugin? name →
        name = new.name ∨ name.text = managementPrefix ++ new.name.text ∧
          ¬r.IsCheckPlugin name ∧ ¬new.name.IsManagement := by
  have hr := h.reachable.coherent
  have hexists : (∃ plugin, r.checkPlugin? name = some plugin) ↔ _ :=
    (exists_congr fun _ => hr.checkPlugin?_eq_some_iff).trans hr.exists_resolves_iff
  refine ⟨fun plugin => hr.checkPlugin?_eq_some_iff, hexists, ?_, ?_, ?_⟩
  · intro plugin hfound
    have hname := hr.name_of_checkPlugin? hfound
    refine ⟨hname, ?_⟩
    intro habsent other hstored
    obtain rfl : plugin.name = other := hr.checkKey other plugin hstored
    rw [hname, not_isCheckPlugin_iff.1 habsent] at hstored
    cases hstored
  · intro rest htext habsent
    rw [Option.eq_none_iff_forall_ne_some]
    intro plugin hfound
    obtain ⟨basicName, hprefixed, honce, -⟩ := (hexists.1 ⟨plugin, hfound⟩).resolve_left habsent
    rw [htext, String.append_right_inj] at hprefixed
    exact honce rest hprefixed.symm
  · intro new s ok hchanged
    by_contra hnone
    rw [not_or, not_and, not_and, not_not] at hnone
    refine hchanged (hr.checkPlugin?_addCheck ok hnone.1 ?_)
    intro hprefixed
    by_cases hregistered : r.IsCheckPlugin name
    · exact .inl hregistered
    · exact .inr (hnone.2 hprefixed hregistered)

/-- A variant, which is not stored, and a name with two prefixes, which stands for nothing. -/
theorem InUse.checkPlugin?_exact_diskRun :
    (empty.run diskRun).InUse ∧
      (empty.run diskRun).Resolves diskBoardPlugin.name diskBoardPlugin ∧
      (∀ other : CheckPluginName,
        (empty.run diskRun).checkPlugins[other]? ≠ some diskBoardPlugin) ∧
      (empty.run diskRun).checkPlugin? ⟨"mgmt_mgmt_df", by decide⟩ = none := by
  have huse : (empty.run diskRun).InUse := .reached ⟨diskRun, rfl⟩
  have hfound : (empty.run diskRun).checkPlugin? diskBoardPlugin.name = some diskBoardPlugin := by
    rfl
  obtain ⟨hexact, -, hstores, -⟩ := huse.checkPlugin?_exact diskBoardPlugin.name
  obtain ⟨-, -, -, htwice, -⟩ := huse.checkPlugin?_exact ⟨"mgmt_mgmt_df", by decide⟩
  exact ⟨huse, (hexact _).1 hfound, (hstores _ hfound).2 (by decide),
    htwice "df" (by decide) (by decide)⟩

end MonitoringPlugins.Registry
