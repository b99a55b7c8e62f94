/-
**Refused check plug-ins.**

A new check plug-in is compared with one other plug-in only, the first of its check ruleset that has
another name.  This module says what the comparison comes to in a registry that operations lead to.
The plug-in is refused exactly if some registered plug-in of its ruleset disagrees with it, and then
all of them do: the plug-ins of a ruleset agree with each other, so it does not matter which of them
is asked.  The refusal names them all, in the order in which they were last registered, and says
what they agree on.

Main definitions:

* `MonitoringPlugins.Registry.IsSibling` — the other plug-ins of a check ruleset;
* `MonitoringPlugins.Registry.Explains` — what a refusal says about the registry.

Main results:

* `MonitoringPlugins.CheckGroups.conflict?_eq_some_iff` — what a conflict consists of;
* `MonitoringPlugins.Registry.Grouped.addCheck_refused_iff` — **every plug-in of a ruleset speaks
  for all**;
* `MonitoringPlugins.Registry.Grouped.explains` — a refusal describes the registry;
* `MonitoringPlugins.Registry.InUse.addCheck_refusals` — **check plug-ins are refused exactly on
  disagreement**, in every registry in use.
-/

import MonitoringPlugins.Proofs.Reload

set_option autoImplicit false

namespace MonitoringPlugins

/-! ### Conflicts of groups -/

/-- **A conflict consists of** a disagreement with the first of the others, and names them all. -/
theorem CheckGroups.conflict?_eq_some_iff {groups : CheckGroups} {new : CheckPlugin}
    {c : ItemConflict} :
    groups.conflict? new = some c ↔
      ∃ first ∈ ((groups.members (some c.ruleset)).filter (·.name ≠ new.name)).head?,
        new.checkRuleset = some c.ruleset ∧ new.hasItem ≠ first.hasItem ∧ c.plugin = new.name ∧
        c.present =
          ((groups.members (some c.ruleset)).filter (·.name ≠ new.name)).map CheckPlugin.name ∧
        c.requirement = if first.hasItem then .requires else .doesNotSupport := by
  have hguard (p : Prop) [Decidable p] : (guard p : Option Unit) = if p then some () else none := rfl
  unfold conflict?
  simp only [↓hguard, Option.bind_eq_bind, Option.bind_eq_some_iff]
  constructor
  · rintro ⟨ruleset, hruleset, first, hfirst, ⟨⟩, hdisagree, hc⟩
    obtain rfl := Option.some.inj hc
    have hne : new.hasItem ≠ first.hasItem := by
      by_contra hagree
      simp [hagree] at hdisagree
    exact ⟨first, hfirst, hruleset, hne, rfl, rfl, rfl⟩
  · rintro ⟨first, hfirst, hruleset, hne, hplugin, hpresent, hrequirement⟩
    refine ⟨c.ruleset, hruleset, first, hfirst, (), if_pos hne, congrArg some ?_⟩
    obtain ⟨ruleset, plugin, present, requirement⟩ := c
    rw [ItemConflict.mk.injEq]
    exact ⟨rfl, hplugin.symm, hpresent.symm, hrequirement.symm⟩

namespace Registry

/-! ### The other plug-ins of a ruleset -/

/-- `r.IsSibling new ruleset p` says that `p` is registered under another name than that of `new`,
and belongs to the check ruleset. -/
def IsSibling (r : Registry) (new : CheckPlugin) (ruleset : RulesetName) (p : CheckPlugin) : Prop :=
  r.checkPlugins[p.name]? = some p ∧ p.name ≠ new.name ∧ p.checkRuleset = some ruleset

/-- **What a refusal says about the registry**: the check ruleset, the new plug-in, the other
plug-ins of the ruleset in the order in which they were last registered, and what these agree on. -/
structure Explains (r : Registry) (new : CheckPlugin) (c : ItemConflict) : Prop where
  ruleset : new.checkRuleset = some c.ruleset
  plugin : c.plugin = new.name
  nodup : c.present.Nodup
  mem_present : ∀ name : CheckPluginName,
    name ∈ c.present ↔ ∃ p, r.IsSibling new c.ruleset p ∧ p.name = name
  ordered : ∀ done : List Registration, empty.Leads done r →
    c.present = ((latestCheckPlugins done).filter fun p =>
      p.checkRuleset = some c.ruleset ∧ p.name ≠ new.name).map CheckPlugin.name
  requires : c.requirement = .requires ↔ ∀ p, r.IsSibling new c.ruleset p → p.hasItem = true
  doesNotSupport :
    c.requirement = .doesNotSupport ↔ ∀ p, r.IsSibling new c.ruleset p → p.hasItem = false

section Grouped

variable {r : Registry} {order : List CheckPlugin} {new : CheckPlugin}

/-- The siblings of a plug-in are the others of its group. -/
theorem Grouped.mem_others_iff_isSibling (h : r.Grouped order) {ruleset : RulesetName}
    {p : CheckPlugin} :
    p ∈ (r.checkGroups.members (some ruleset)).filter (·.name ≠ new.name) ↔
      r.IsSibling new ruleset p := by
  rw [h.mem_others, IsSibling, h.registered]
  constructor
  · rintro ⟨hp, hruleset, hname⟩
    exact ⟨⟨hp, rfl⟩, hname, hruleset⟩
  · rintro ⟨⟨hp, -⟩, hname, hruleset⟩
    exact ⟨hp, hruleset, hname⟩

/-- Siblings agree with each other. -/
theorem Grouped.hasItem_eq_of_isSibling (h : r.Grouped order) {ruleset : RulesetName}
    {p q : CheckPlugin} (hp : r.IsSibling new ruleset p) (hq : r.IsSibling new ruleset q) :
    p.hasItem = q.hasItem := by
  have hpo : p ∈ order := ((h.registered p.name p).1 hp.1).1
  have hqo : q ∈ order := ((h.registered q.name q).1 hq.1).1
  exact h.agree p hpo q hqo ruleset hp.2.2 hq.2.2

/-- A plug-in that is refused disagrees with a sibling. -/
theorem Grouped.exists_isSibling_of_refused (h : r.Grouped order) {c : ItemConflict}
    (hc : r.addCheck new = .error c) :
    ∃ p, new.checkRuleset = some c.ruleset ∧ r.IsSibling new c.ruleset p ∧
      p.hasItem ≠ new.hasItem := by
  obtain ⟨first, hfirst, hruleset, hne, -⟩ :=
    CheckGroups.conflict?_eq_some_iff.1 (addCheck_eq_error_iff.1 hc)
  have hsibling := h.mem_others_iff_isSibling.1 (List.mem_of_head? hfirst)
  exact ⟨first, hruleset, hsibling, hne.symm⟩

/-- **Every plug-in of a ruleset speaks for all**: whichever of them a new plug-in is compared with,
it is refused exactly if it disagrees. -/
theorem Grouped.addCheck_refused_iff (h : r.Grouped order) {ruleset : RulesetName} {p : CheckPlugin}
    (hruleset : new.checkRuleset = some ruleset) (hp : r.IsSibling new ruleset p) :
    (∃ c, r.addCheck new = .error c) ↔ p.hasItem ≠ new.hasItem := by
  constructor
  · rintro ⟨c, hc⟩
    obtain ⟨q, hown, hq, hne⟩ := h.exists_isSibling_of_refused hc
    obtain rfl : ruleset = c.ruleset := Option.some.inj (hruleset.symm.trans hown)
    rwa [h.hasItem_eq_of_isSibling hp hq]
  · intro hne
    cases hnone : r.checkGroups.conflict? new with
    | some c => exact ⟨c, addCheck_eq_error_iff.2 hnone⟩
    | none =>
        have hagree := (h.conflict?_eq_none_iff new).1 hnone p ((h.registered p.name p).1 hp.1).1
        exact absurd (hagree hp.2.1 ruleset hruleset hp.2.2) hne

/-- **A refusal describes the registry.** -/
theorem Grouped.explains (h : r.Grouped order) {c : ItemConflict} (hc : r.addCheck new = .error c) :
    r.Explains new c := by
  obtain ⟨first, hfirst, hruleset, -, hplugin, hpresent, hrequirement⟩ :=
    CheckGroups.conflict?_eq_some_iff.1 (addCheck_eq_error_iff.1 hc)
  have hsibling := h.mem_others_iff_isSibling.1 (List.mem_of_head? hfirst)
  have hsame : ∀ p, r.IsSibling new c.ruleset p → p.hasItem = first.hasItem :=
    fun p hp => h.hasItem_eq_of_isSibling hp hsibling
  -- so what holds of the first of them holds of all
  have hall (b : Bool) :
      (∀ p, r.IsSibling new c.ruleset p → p.hasItem = b) ↔ first.hasItem = b :=
    ⟨fun hb => hb first hsibling, fun hb p hp => (hsame p hp).trans hb⟩
  constructor
  · exact hruleset
  · exact hplugin
  · rw [hpresent, h.members]
    exact h.nodup.sublist ((List.filter_sublist.trans List.filter_sublist).map _)
  · intro name
    rw [hpresent, List.mem_map]
    exact exists_congr fun p => and_congr_left fun _ => h.mem_others_iff_isSibling
  · -- whatever registrations lead here, the groups list the latest plug-ins in their order
    intro done hdone
    rw [hpresent, hdone.grouped.members, List.filter_filter]
    congr 2
    funext p
    simp [and_comm]
  · rw [hrequirement, hall true]
    cases first.hasItem <;> decide
  · rw [hrequirement, hall false]
    cases first.hasItem <;> decide

end Grouped

/-! ### In every registry in use -/

/-- **A check plug-in is refused exactly if a registered plug-in of its check ruleset, under another
name, disagrees with it about having an item.**  The refusal describes the registry, which stays as
it is.  Every other plug-in of the ruleset decides the matter by itself, and what is registered is
never refused when it is registered again. -/
theorem InUse.addCheck_refusals {r : Registry} (h : r.InUse) (new : CheckPlugin) :
    ((∃ c, r.addCheck new = .error c) ↔
      ∃ ruleset p, new.checkRuleset = some ruleset ∧ r.IsSibling new ruleset p ∧
        p.hasItem ≠ new.hasItem) ∧
    (∀ c, r.addCheck new = .error c →
      r.Explains new c ∧ (Operation.registration (.addCheck new)).apply r = r) ∧
    (∀ ruleset p, new.checkRuleset = some ruleset → r.IsSibling new ruleset p →
      ((∃ c, r.addCheck new = .error c) ↔ p.hasItem ≠ new.hasItem)) ∧
    ∀ (name : CheckPluginName) (p : CheckPlugin), r.checkPlugins[name]? = some p →
      ∃ r', r.addCheck p = .ok r' := by
  obtain ⟨done, hdone⟩ := reachable_iff_leads.1 h.reachable
  have hgrouped := hdone.grouped
  refine ⟨⟨?_, ?_⟩, ?_, ?_, ?_⟩
  · rintro ⟨c, hc⟩
    obtain ⟨p, hruleset, hp, hne⟩ := hgrouped.exists_isSibling_of_refused hc
    exact ⟨c.ruleset, p, hruleset, hp, hne⟩
  · rintro ⟨ruleset, p, hruleset, hp, hne⟩
    exact (hgrouped.addCheck_refused_iff hruleset hp).2 hne
  · intro c hc
    refine ⟨hgrouped.explains hc, ?_⟩
    have hperform : (Registration.addCheck new).perform r = .error c := hc
    simp only [Operation.apply, Registration.attempt, hperform]
  · intro ruleset p hruleset hp
    exact hgrouped.addCheck_refused_iff hruleset hp
  · intro name p hp
    have hmem : p ∈ latestCheckPlugins done := ((hgrouped.registered name p).1 hp).1
    exact ⟨_, addCheck_eq_ok_iff.2 ⟨hgrouped.conflict?_of_mem hmem, rfl⟩⟩

/-- A run after which a ruleset has two plug-ins, the first of them registered again. -/
def siblingRun : List Operation :=
  [.registration (.addCheck (.idle .df "Filesystem %s" .filesystems)),
    .registration (.addCheck (.idle .disk "Disk %s" .filesystems)),
    .registration (.addCheck (.idle .df "Filesystem %s" .filesystems))]

/-- A plug-in without item is refused; both plug-ins of the ruleset are named, the one that was
registered again last. -/
theorem InUse.addCheck_refusals_siblingRun :
    (empty.run siblingRun).InUse ∧
      ∃ c, (empty.run siblingRun).addCheck (.idle .mounts "Mounts" .filesystems) = .error c ∧
        (empty.run siblingRun).Explains (.idle .mounts "Mounts" .filesystems) c ∧
        c.present = [.disk, .df] ∧ c.requirement = .requires := by
  have huse : (empty.run siblingRun).InUse := .reached ⟨siblingRun, rfl⟩
  obtain ⟨hrefused, hexplains, -⟩ := huse.addCheck_refusals (.idle .mounts "Mounts" .filesystems)
  have hsibling : (empty.run siblingRun).IsSibling (.idle .mounts "Mounts" .filesystems) .filesystems
      (.idle .df "Filesystem %s" .filesystems) := ⟨by rfl, by decide, by rfl⟩
  obtain ⟨c, hc⟩ := hrefused.2 ⟨.filesystems, _, by rfl, hsibling, by decide⟩
  have hconflict : (empty.run siblingRun).addCheck (.idle .mounts "Mounts" .filesystems) =
      .error ⟨.filesystems, .mounts, [.disk, .df], .requires⟩ := by rfl
  obtain rfl := Except.error.inj (hc.symm.trans hconflict)
  exact ⟨huse, _, hc, (hexplains _ hc).1, rfl, rfl⟩

end Registry

end MonitoringPlugins
