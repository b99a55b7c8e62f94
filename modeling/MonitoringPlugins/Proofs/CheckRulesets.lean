/-
**The plug-ins of a check ruleset.**

Check plug-ins are grouped by their check ruleset, and a plug-in is compared with the first of its
group only.  That this is enough rests on two facts about every registry that operations lead to.
The groups hold what is registered: a plug-in that is registered again leaves the group of its
earlier definition and goes to the end of its own.  And the plug-ins of a ruleset agree on whether
their services have an item, so that the first of them speaks for all.

Both facts are statements about one list, the accepted check plug-ins in the order in which their
names were last registered.

Main definitions:

* `MonitoringPlugins.latestCheckPlugins` — the check plug-ins among registrations, each in its
  latest definition;
* `MonitoringPlugins.Agreeing` — plug-ins of one check ruleset agree on having an item;
* `MonitoringPlugins.Registry.Grouped` — **the invariant**: map and groups hold the plug-ins of a
  list, and they agree;
* `MonitoringPlugins.Registry.SameChecks` — two registries hold the same check plug-ins.

Main results:

* `MonitoringPlugins.Registry.Grouped.conflict?_eq_none_iff` — **the first of a group speaks for
  all**;
* `MonitoringPlugins.Registry.Leads.grouped` — **every operation keeps the invariant**, for the list
  of the latest accepted plug-ins;
* `MonitoringPlugins.Registry.SameChecks.performAll` — **check plug-ins are judged by each other**,
  whatever else is registered among them;
* `MonitoringPlugins.Registry.checkRulesets_exact_and_consistent` — groups are exact and ordered
  after every run, and all plug-ins of a ruleset agree, also the derived ones.
-/

import MonitoringPlugins.Proofs.Runs
import MonitoringPlugins.Registry.Query

set_option autoImplicit false

namespace MonitoringPlugins

/-! ### Check plug-ins among registrations -/

/-- The check plug-ins among some registrations, each in its latest definition, in the order in
which their names were last registered. -/
def latestCheckPlugins (done : List Registration) : List CheckPlugin :=
  latest CheckPlugin.name (checkPluginsOf done)

/-- A check plug-in replaces the earlier one of its name and goes to the end. -/
theorem latestCheckPlugins_append_addCheck (done : List Registration) (new : CheckPlugin) :
    latestCheckPlugins (done ++ [.addCheck new]) =
      (latestCheckPlugins done).filter (·.name ≠ new.name) ++ [new] := by
  have happend : checkPluginsOf (done ++ [.addCheck new]) = checkPluginsOf done ++ [new] :=
    checkPluginsOf_append done [.addCheck new]
  rw [latestCheckPlugins, happend, latest_append_singleton]
  rfl

/-- Other registrations do not count. -/
theorem latestCheckPlugins_append_other (done : List Registration) {a : Registration}
    (h : a.checkPlugin? = none) : latestCheckPlugins (done ++ [a]) = latestCheckPlugins done := by
  rw [latestCheckPlugins, checkPluginsOf, List.filterMap_append, List.filterMap_cons_none h]
  simp [latestCheckPlugins, checkPluginsOf]

/-- Plug-ins of one check ruleset agree on having an item. -/
def Agreeing (plugins : List CheckPlugin) : Prop :=
  ∀ p ∈ plugins, ∀ q ∈ plugins, ∀ ruleset : RulesetName,
    p.checkRuleset = some ruleset → q.checkRuleset = some ruleset → p.hasItem = q.hasItem

/-! ### The invariant -/

namespace Registry

/-- **The registered check plug-ins are those of a list**: by name, and in its order by check
ruleset. -/
structure Grouped (r : Registry) (order : List CheckPlugin) : Prop where
  /-- No two of them share a name. -/
  nodup : (order.map CheckPlugin.name).Nodup
  registered : ∀ (name : CheckPluginName) (plugin : CheckPlugin),
    r.checkPlugins[name]? = some plugin ↔ plugin ∈ order ∧ plugin.name = name
  members : ∀ ruleset : Option RulesetName,
    r.checkGroups.members ruleset = order.filter (·.checkRuleset = ruleset)
  agree : Agreeing order

theorem Grouped.empty : empty.Grouped [] where
  nodup := List.nodup_nil
  registered := by simp [Registry.empty]
  members := by simp [Registry.empty]
  agree := by simp [Agreeing]

namespace Grouped

variable {r : Registry} {order : List CheckPlugin}

/-- The plug-ins of a ruleset other than those of a name. -/
theorem mem_others (h : r.Grouped order) {ruleset : Option RulesetName} {name : CheckPluginName}
    {p : CheckPlugin} :
    p ∈ (r.checkGroups.members ruleset).filter (·.name ≠ name) ↔
      p ∈ order ∧ p.checkRuleset = ruleset ∧ p.name ≠ name := by
  rw [h.members, List.mem_filter, List.mem_filter]
  simp [and_assoc]

/-- **The first of a group speaks for all**: a plug-in is accepted exactly if it agrees with all
other plug-ins of its check ruleset. -/
theorem conflict?_eq_none_iff (h : r.Grouped order) (new : CheckPlugin) :
    r.checkGroups.conflict? new = none ↔
      ∀ p ∈ order, p.name ≠ new.name → ∀ ruleset : RulesetName,
        new.checkRuleset = some ruleset → p.checkRuleset = some ruleset →
          p.hasItem = new.hasItem := by
  rw [CheckGroups.conflict?_eq_none_iff]
  constructor
  · intro hfirst p hp hname ruleset hnew hruleset
    have hpresent := h.mem_others.2 ⟨hp, hruleset, hname⟩
    obtain ⟨first, hhead⟩ := Option.isSome_iff_exists.1
      (List.isSome_head?.2 (List.ne_nil_of_mem hpresent))
    obtain ⟨hmem, hsame, -⟩ := h.mem_others.1 (List.mem_of_head? hhead)
    -- the new plug-in agrees with the first, and everyone else does so already
    rw [hfirst ruleset hnew first hhead]
    exact h.agree p hp first hmem ruleset hruleset hsame
  · intro hall ruleset hnew first hhead
    obtain ⟨hmem, hsame, hname⟩ := h.mem_others.1 (List.mem_of_head? hhead)
    exact (hall first hmem hname ruleset hnew hsame).symm

/-! ### Accepting a plug-in -/

/-- An earlier definition leaves its group, and no other group lists its name. -/
theorem members_groupsWithout (h : r.Grouped order) (name : CheckPluginName)
    (ruleset : Option RulesetName) :
    (r.groupsWithout name).members ruleset =
      (order.filter (·.name ≠ name)).filter (·.checkRuleset = ruleset) := by
  have hcomm : (order.filter (·.name ≠ name)).filter (·.checkRuleset = ruleset) =
      (order.filter (·.checkRuleset = ruleset)).filter (·.name ≠ name) := by
    simp only [List.filter_filter, Bool.and_comm]
  rw [hcomm, ← h.members ruleset]
  -- a group without the name is not changed by taking the name out
  have habsent (hne : ∀ p, r.checkPlugins[name]? = some p → p.checkRuleset ≠ ruleset) :
      (r.checkGroups.members ruleset).filter (·.name ≠ name) = r.checkGroups.members ruleset := by
    rw [List.filter_eq_self, h.members]
    intro p hp
    obtain ⟨hmem, hruleset⟩ := List.mem_filter.1 hp
    have hname : p.name ≠ name := by
      intro he
      exact hne p ((h.registered name p).2 ⟨hmem, he⟩) (by simpa using hruleset)
    simpa using hname
  unfold groupsWithout
  cases hp : r.checkPlugins[name]? with
  | none => exact (habsent (by simp [hp])).symm
  | some previous =>
      dsimp only
      rw [CheckGroups.members_withdraw]
      split
      · rfl
      · next hne =>
        refine (habsent ?_).symm
        intro p hfound
        rw [hp] at hfound
        cases hfound
        exact hne

/-- **An accepted plug-in replaces the earlier definition of its name and goes to the end.** -/
theorem addCheck (h : r.Grouped order) {new : CheckPlugin} {r' : Registry}
    (ok : r.addCheck new = .ok r') :
    r'.Grouped (order.filter (·.name ≠ new.name) ++ [new]) := by
  obtain ⟨hnone, rfl⟩ := addCheck_eq_ok_iff.1 ok
  have hothers := (h.conflict?_eq_none_iff new).1 hnone
  have hmem {p : CheckPlugin} : p ∈ order.filter (·.name ≠ new.name) ++ [new] ↔
      (p ∈ order ∧ p.name ≠ new.name) ∨ p = new := by
    rw [List.mem_append, List.mem_filter, List.mem_singleton, decide_eq_true_iff]
  constructor
  · -- the new name is not among the others
    rw [List.map_append, List.nodup_append]
    refine ⟨h.nodup.sublist (List.filter_sublist.map _), by simp, ?_⟩
    intro a ha b hb hab
    obtain ⟨p, hp, rfl⟩ := List.mem_map.1 ha
    obtain rfl : b = new.name := by simpa using hb
    have hne := (List.mem_filter.1 hp).2
    simp [hab] at hne
  · intro name plugin
    rw [hmem, Std.ExtTreeMap.getElem?_insert]
    split
    · next he =>
      obtain rfl := Std.LawfulEqCmp.compare_eq_iff_eq.1 he
      constructor
      · intro hs
        cases hs
        exact ⟨.inr rfl, rfl⟩
      · rintro ⟨⟨-, hne⟩ | rfl, hname⟩
        · exact absurd hname hne
        · rfl
    · next he =>
      have hname : new.name ≠ name := fun e => he (Std.LawfulEqCmp.compare_eq_iff_eq.2 e)
      rw [h.registered]
      constructor
      · rintro ⟨hp, rfl⟩
        exact ⟨.inl ⟨hp, Ne.symm hname⟩, rfl⟩
      · rintro ⟨⟨hp, -⟩ | rfl, hfound⟩
        · exact ⟨hp, hfound⟩
        · exact absurd hfound hname
  · intro ruleset
    dsimp only
    rw [CheckGroups.members_push, h.members_groupsWithout, List.filter_append]
    split
    · next hr => simp [hr]
    · next hr => simp [hr]
  · intro p hp q hq ruleset hpr hqr
    rcases hmem.1 hp with ⟨hpo, hpn⟩ | hpnew <;> rcases hmem.1 hq with ⟨hqo, hqn⟩ | hqnew
    · exact h.agree p hpo q hqo ruleset hpr hqr
    · subst hqnew
      exact hothers p hpo hpn ruleset hqr hpr
    · subst hpnew
      exact (hothers q hqo hqn ruleset hpr hqr).symm
    · rw [hpnew, hqnew]

/-- The invariant speaks of check plug-ins only. -/
theorem of_eq (h : r.Grouped order) {r' : Registry} (hmap : r'.checkPlugins = r.checkPlugins)
    (hgroups : r'.checkGroups = r.checkGroups) : r'.Grouped order where
  nodup := h.nodup
  registered := by rw [hmap]; exact h.registered
  members := by rw [hgroups]; exact h.members
  agree := h.agree

/-- What an accepted registration does to the latest check plug-ins. -/
theorem perform {done : List Registration} (h : r.Grouped (latestCheckPlugins done))
    {a : Registration} {r' : Registry} (ok : a.perform r = .ok r') :
    r'.Grouped (latestCheckPlugins (done ++ [a])) := by
  cases a with
  | addCheck new =>
      rw [latestCheckPlugins_append_addCheck]
      exact h.addCheck ok
  | addSection new =>
      rw [latestCheckPlugins_append_other done rfl]
      cases ok
      exact h.of_eq (r.checkPlugins_addSection new) (r.checkGroups_addSection new)
  | addInventory new =>
      rw [latestCheckPlugins_append_other done rfl]
      cases ok
      exact h.of_eq rfl rfl
  | declareRuleset use name =>
      rw [latestCheckPlugins_append_other done rfl]
      cases ok
      exact h.of_eq rfl rfl
  | setRuleset use name rules =>
      rw [latestCheckPlugins_append_other done rfl]
      cases ok
      exact h.of_eq rfl rfl

end Grouped

/-- **Map and groups hold the latest accepted check plug-ins.** -/
theorem Leads.grouped {done : List Registration} {r : Registry} (h : empty.Leads done r) :
    r.Grouped (latestCheckPlugins done) := by
  induction h with
  | refl => exact Grouped.empty
  | step a _ ok ih => exact ih.perform ok

/-! ### What other registrations leave alone -/

/-- Two registries hold the same check plug-ins, in the same groups. -/
structure SameChecks (r s : Registry) : Prop where
  checkPlugins : r.checkPlugins = s.checkPlugins
  checkGroups : r.checkGroups = s.checkGroups

namespace SameChecks

variable {r s t : Registry}

theorem refl (r : Registry) : r.SameChecks r := ⟨rfl, rfl⟩

theorem symm (h : r.SameChecks s) : s.SameChecks r := ⟨h.checkPlugins.symm, h.checkGroups.symm⟩

theorem trans (h : r.SameChecks s) (h' : s.SameChecks t) : r.SameChecks t :=
  ⟨h.checkPlugins.trans h'.checkPlugins, h.checkGroups.trans h'.checkGroups⟩

theorem addCheck_eq_error_iff (h : r.SameChecks s) (new : CheckPlugin) (c : ItemConflict) :
    r.addCheck new = .error c ↔ s.addCheck new = .error c := by
  rw [Registry.addCheck_eq_error_iff, Registry.addCheck_eq_error_iff, h.checkGroups]

/-- The same plug-in is accepted by both, and they hold the same afterwards. -/
theorem addCheck (h : r.SameChecks s) {new : CheckPlugin} {r' : Registry}
    (ok : r.addCheck new = .ok r') : ∃ s', s.addCheck new = .ok s' ∧ r'.SameChecks s' := by
  obtain ⟨hnone, rfl⟩ := addCheck_eq_ok_iff.1 ok
  rw [h.checkGroups] at hnone
  refine ⟨_, addCheck_eq_ok_iff.2 ⟨hnone, rfl⟩, ?_, ?_⟩
  · dsimp only
    rw [h.checkPlugins]
  · simp only [groupsWithout, h.checkPlugins, h.checkGroups]

end SameChecks

/-- Whatever else is registered is accepted and leaves the check plug-ins alone. -/
theorem exists_perform_of_other (r : Registry) {a : Registration} (h : a.checkPlugin? = none) :
    ∃ r', a.perform r = .ok r' ∧ r.SameChecks r' := by
  cases a with
  | addSection new =>
      exact ⟨_, rfl, (r.checkPlugins_addSection new).symm, (r.checkGroups_addSection new).symm⟩
  | addCheck new => cases h
  | addInventory new => exact ⟨_, rfl, rfl, rfl⟩
  | declareRuleset use name => exact ⟨_, rfl, rfl, rfl⟩
  | setRuleset use name rules => exact ⟨_, rfl, rfl, rfl⟩

/-- **Check plug-ins are judged by each other**: what becomes of them, and whether one is refused,
is the same if nothing else is registered. -/
theorem SameChecks.performAll {r s : Registry} (h : r.SameChecks s) (todo : List Registration) :
    (r.performAll todo).registry.SameChecks
        (s.performAll ((checkPluginsOf todo).map .addCheck)).registry ∧
      (r.performAll todo).conflict =
        (s.performAll ((checkPluginsOf todo).map .addCheck)).conflict := by
  induction todo generalizing r s with
  | nil => exact ⟨h, rfl⟩
  | cons a rest ih =>
      cases ha : a.checkPlugin? with
      | none =>
          have hskip : checkPluginsOf (a :: rest) = checkPluginsOf rest := List.filterMap_cons_none ha
          obtain ⟨r', hr', hsame⟩ := r.exists_perform_of_other ha
          rw [hskip, performAll_cons_ok _ hr']
          exact ih (hsame.symm.trans h)
      | some new =>
          have hkeep : checkPluginsOf (a :: rest) = new :: checkPluginsOf rest :=
            List.filterMap_cons_some ha
          obtain rfl := Registration.checkPlugin?_eq_some_iff.1 ha
          rw [hkeep, List.map_cons]
          cases hr : (Registration.addCheck new).perform r with
          | error c =>
              have hs : (Registration.addCheck new).perform s = .error c :=
                (h.addCheck_eq_error_iff new c).1 hr
              rw [performAll_cons_error _ hr, performAll_cons_error _ hs]
              exact ⟨h, rfl⟩
          | ok r' =>
              obtain ⟨s', hs, hnext⟩ := h.addCheck hr
              have hperform : (Registration.addCheck new).perform s = .ok s' := hs
              rw [performAll_cons_ok _ hr, performAll_cons_ok _ hperform]
              exact ih hnext

/-- Lists with the same check plug-ins come to the same for these. -/
theorem sameChecks_performAll (r : Registry) {as bs : List Registration}
    (h : checkPluginsOf as = checkPluginsOf bs) :
    (r.performAll as).registry.SameChecks (r.performAll bs).registry ∧
      (r.performAll as).conflict = (r.performAll bs).conflict := by
  obtain ⟨has, hasc⟩ := (SameChecks.refl r).performAll as
  obtain ⟨hbs, hbsc⟩ := (SameChecks.refl r).performAll bs
  rw [h] at has hasc
  exact ⟨has.trans hbs.symm, hasc.trans hbsc.symm⟩

/-! ### Derived plug-ins -/

/-- Every plug-in that is found shares check ruleset and item convention with a registered one. -/
theorem exists_registered_of_checkPlugin? {r : Registry} {name : CheckPluginName}
    {plugin : CheckPlugin} (h : r.checkPlugin? name = some plugin) :
    ∃ (basicName : CheckPluginName) (basic : CheckPlugin),
      r.checkPlugins[basicName]? = some basic ∧
      plugin.checkRuleset = basic.checkRuleset ∧ plugin.hasItem = basic.hasItem := by
  rcases checkPlugin?_cases h with hregistered | ⟨-, hderived⟩
  · exact ⟨name, plugin, hregistered, rfl, rfl⟩
  · obtain ⟨basicName, basic, -, hbasic, hvariant⟩ := derivedPlugin?_eq_some_iff.1 hderived
    exact ⟨basicName, basic, hbasic, CheckPlugin.checkRuleset_managementVariant hvariant,
      CheckPlugin.hasItem_managementVariant hvariant⟩

/-- **The plug-ins that are found agree**, whether they are registered or derived. -/
theorem Grouped.hasItem_eq {r : Registry} {order : List CheckPlugin} (h : r.Grouped order)
    {n₁ n₂ : CheckPluginName} {p₁ p₂ : CheckPlugin} {ruleset : RulesetName}
    (h₁ : r.checkPlugin? n₁ = some p₁) (h₂ : r.checkPlugin? n₂ = some p₂)
    (hr₁ : p₁.checkRuleset = some ruleset) (hr₂ : p₂.checkRuleset = some ruleset) :
    p₁.hasItem = p₂.hasItem := by
  obtain ⟨b₁, q₁, hq₁, hruleset₁, hitem₁⟩ := exists_registered_of_checkPlugin? h₁
  obtain ⟨b₂, q₂, hq₂, hruleset₂, hitem₂⟩ := exists_registered_of_checkPlugin? h₂
  have hmem₁ := ((h.registered b₁ q₁).1 hq₁).1
  have hmem₂ := ((h.registered b₂ q₂).1 hq₂).1
  rw [hitem₁, hitem₂]
  exact h.agree q₁ hmem₁ q₂ hmem₂ ruleset (hruleset₁ ▸ hr₁) (hruleset₂ ▸ hr₂)

/-! ### After every run -/

/-- **After every run the group of a check ruleset, or of none, lists the registered plug-ins of the
ruleset**: each once, in the order in which their names were last registered.  **And all plug-ins of
a ruleset agree on having an item**, also those derived for management boards. -/
theorem checkRulesets_exact_and_consistent (ops : List Operation) :
    (∀ ruleset : Option RulesetName,
      ((empty.run ops).checkGroups.members ruleset =
        (latestCheckPlugins (empty.history ops)).filter (·.checkRuleset = ruleset)) ∧
      (((empty.run ops).checkGroups.members ruleset).map CheckPlugin.name).Nodup ∧
      ∀ plugin, plugin ∈ (empty.run ops).checkGroups.members ruleset ↔
        (∃ name : CheckPluginName, (empty.run ops).checkPlugins[name]? = some plugin) ∧
          plugin.checkRuleset = ruleset) ∧
    ∀ (n₁ n₂ : CheckPluginName) (p₁ p₂ : CheckPlugin) (ruleset : RulesetName),
      (empty.run ops).checkPlugin? n₁ = some p₁ → (empty.run ops).checkPlugin? n₂ = some p₂ →
        p₁.checkRuleset = some ruleset → p₂.checkRuleset = some ruleset →
          p₁.hasItem = p₂.hasItem := by
  have h := (empty.leads_run ops).grouped
  refine ⟨fun ruleset => ⟨h.members ruleset, ?_, fun plugin => ?_⟩, ?_⟩
  · rw [h.members]
    exact h.nodup.sublist (List.filter_sublist.map _)
  · rw [h.members, List.mem_filter, decide_eq_true_iff]
    constructor
    · rintro ⟨hmem, hruleset⟩
      exact ⟨⟨plugin.name, (h.registered _ _).2 ⟨hmem, rfl⟩⟩, hruleset⟩
    · rintro ⟨⟨name, hfound⟩, hruleset⟩
      exact ⟨((h.registered _ _).1 hfound).1, hruleset⟩
  · intro n₁ n₂ p₁ p₂ ruleset h₁ h₂ hr₁ hr₂
    exact h.hasItem_eq h₁ h₂ hr₁ hr₂

/-- A run in which a plug-in gets an item when it is registered again, so that one without item is
refused. -/
def diskRun : List Operation :=
  [.registration (.addCheck (.idle .df "Filesystems" .filesystems)),
    .registration (.addCheck (.idle .df "Filesystem %s" .filesystems)),
    .registration (.addCheck (.idle .mounts "Mounts" .filesystems))]

/-- The plug-in that the run registers. -/
def diskPlugin : CheckPlugin := .idle .df "Filesystem %s" .filesystems

/-- Its variant for management boards. -/
def diskBoardPlugin : CheckPlugin :=
  { diskPlugin with
    name := ⟨"mgmt_df", by decide⟩
    serviceName := "Management Interface: Filesystem %s" }

theorem checkRulesets_exact_and_consistent_diskRun :
    (empty.run diskRun).checkGroups.members (some .filesystems) = [diskPlugin] ∧
      (empty.run diskRun).checkPlugin? diskPlugin.name = some diskPlugin ∧
      (empty.run diskRun).checkPlugin? diskBoardPlugin.name = some diskBoardPlugin ∧
      diskPlugin.hasItem = diskBoardPlugin.hasItem := by
  obtain ⟨hgroups, hagree⟩ := checkRulesets_exact_and_consistent diskRun
  have hplugin : (empty.run diskRun).checkPlugin? diskPlugin.name = some diskPlugin := by rfl
  have hboard : (empty.run diskRun).checkPlugin? diskBoardPlugin.name = some diskBoardPlugin := by
    rfl
  exact ⟨(hgroups _).1.trans (by rfl), hplugin, hboard,
    hagree _ _ _ _ .filesystems hplugin hboard (by rfl) (by rfl)⟩

end Registry

end MonitoringPlugins
