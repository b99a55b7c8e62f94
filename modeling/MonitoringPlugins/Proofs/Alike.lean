/-
**Registries that cannot be told apart.**

A check ruleset that loses its last plug-in leaves an empty group behind, so two registries that
hold the same need not be equal.  What counts are the maps, the index, the rulesets and, for each
check ruleset, its plug-ins in their order: registries that share these are alike.  All answers are
the same then, and so are the responses to every operation: a plug-in is refused by both or by
neither, with the same conflict, and they stay alike afterwards.

Main definitions:

* `MonitoringPlugins.Registry.Alike` — two registries hold the same, up to empty groups;
* `MonitoringPlugins.Registry.SameResponses` — two registries respond alike to what is registered.

Main results:

* `MonitoringPlugins.Registry.Alike.perform`, `MonitoringPlugins.Registry.Alike.refused_iff` — **a
  registration is accepted by both or by neither**, and keeps them alike;
* `MonitoringPlugins.Registry.Alike.run` — **no run of operations tells them apart**;
* `MonitoringPlugins.Registry.Alike.sameAnswers`, `MonitoringPlugins.Registry.Alike.sameResponses` —
  what callers see of it.
-/

import MonitoringPlugins.Proofs.LoadOrder

set_option autoImplicit false

namespace MonitoringPlugins

/-- The conflict of a plug-in depends on the members of the groups only. -/
theorem CheckGroups.conflict?_congr {groups others : CheckGroups}
    (h : ∀ ruleset : Option RulesetName, groups.members ruleset = others.members ruleset)
    (plugin : CheckPlugin) : groups.conflict? plugin = others.conflict? plugin := by
  simp only [conflict?, h]

namespace Registry

/-- **Two registries hold the same**, up to groups of check plug-ins that became empty. -/
structure Alike (r s : Registry) : Prop where
  /-- The maps of sections and plug-ins. -/
  snapshot : r.snapshot = s.snapshot
  /-- The producers of each parsed section. -/
  sectionIndex : r.sectionIndex = s.sectionIndex
  /-- The known rulesets in their order, with their rules. -/
  rulesets : r.rulesets = s.rulesets
  /-- The plug-ins of each check ruleset, in their order. -/
  members : ∀ ruleset : Option RulesetName,
    r.checkGroups.members ruleset = s.checkGroups.members ruleset

/-- **Two registries respond alike** to a registration, to the definitions of a manifest and to the
manifest at a path: they refuse the same, for the same reason, and leave the same in the log. -/
structure SameResponses (r s : Registry) : Prop where
  refused_iff : ∀ (a : Registration) (c : ItemConflict),
    a.perform r = .error c ↔ a.perform s = .error c
  events : ∀ a : Registration, a.events r = a.events s
  register : ∀ l : Linked, (r.register l).conflict = (s.register l).conflict ∧
    (r.register l).events = (s.register l).events
  load : ∀ (handlers : HandlerTable) (firstSerial : Nat) (path : String) (file : ManifestFile),
    (r.load handlers firstSerial path file).error =
        (s.load handlers firstSerial path file).error ∧
      (r.load handlers firstSerial path file).events =
        (s.load handlers firstSerial path file).events

namespace Alike

variable {r s : Registry}

/-! ### One registration -/

theorem refused_iff (h : r.Alike s) (a : Registration) (c : ItemConflict) :
    a.perform r = .error c ↔ a.perform s = .error c := by
  cases a with
  | addCheck new =>
      change r.addCheck new = .error c ↔ s.addCheck new = .error c
      rw [addCheck_eq_error_iff, addCheck_eq_error_iff, CheckGroups.conflict?_congr h.members]
  | addSection new => exact ⟨nofun, nofun⟩
  | addInventory new => exact ⟨nofun, nofun⟩
  | declareRuleset use name => exact ⟨nofun, nofun⟩
  | setRuleset use name rules => exact ⟨nofun, nofun⟩

/-- Sections are registered by a look at the sections and their index only. -/
theorem addSection (h : r.Alike s) (new : Section) : (r.addSection new).Alike (s.addSection new) := by
  obtain ⟨snapshot, rulesets, groups, index⟩ := r
  obtain ⟨snapshot', rulesets', groups', index'⟩ := s
  obtain rfl : snapshot = snapshot' := h.snapshot
  obtain rfl : index = index' := h.sectionIndex
  refine ⟨?_, ?_, ?_, ?_⟩
  · simp only [Registry.addSection, forgetPrevious, Registry.snapshot]
    cases snapshot.findSection? new.name <;> rfl
  · simp only [Registry.addSection, forgetPrevious]
    cases snapshot.findSection? new.name <;> rfl
  · rw [rulesets_addSection, rulesets_addSection]
    exact h.rulesets
  · intro ruleset
    rw [checkGroups_addSection, checkGroups_addSection]
    exact h.members ruleset

theorem members_groupsWithout (h : r.Alike s) (name : CheckPluginName)
    (ruleset : Option RulesetName) :
    (r.groupsWithout name).members ruleset = (s.groupsWithout name).members ruleset := by
  have hmap : r.checkPlugins = s.checkPlugins := congrArg Snapshot.checkPlugins h.snapshot
  unfold groupsWithout
  rw [hmap]
  cases s.checkPlugins[name]? with
  | none => exact h.members ruleset
  | some previous =>
      dsimp only
      rw [CheckGroups.members_withdraw, CheckGroups.members_withdraw, h.members]

theorem addCheck (h : r.Alike s) {new : CheckPlugin} {r' : Registry} (ok : r.addCheck new = .ok r') :
    ∃ s', s.addCheck new = .ok s' ∧ r'.Alike s' := by
  obtain ⟨hnone, rfl⟩ := addCheck_eq_ok_iff.1 ok
  rw [CheckGroups.conflict?_congr h.members] at hnone
  refine ⟨_, addCheck_eq_ok_iff.2 ⟨hnone, rfl⟩, ?_, h.sectionIndex, h.rulesets, ?_⟩
  · exact congrArg (fun t : Snapshot =>
      { t with checkPlugins := t.checkPlugins.insert new.name new }) h.snapshot
  · intro ruleset
    dsimp only
    rw [CheckGroups.members_push, CheckGroups.members_push, h.members_groupsWithout]

/-- **A registration that one of them accepts is accepted by the other**, and they stay alike. -/
theorem perform (h : r.Alike s) {a : Registration} {r' : Registry} (ok : a.perform r = .ok r') :
    ∃ s', a.perform s = .ok s' ∧ r'.Alike s' := by
  cases a with
  | addSection new =>
      cases ok
      exact ⟨_, rfl, h.addSection new⟩
  | addCheck new => exact h.addCheck ok
  | addInventory new =>
      cases ok
      refine ⟨_, rfl, ?_, h.sectionIndex, h.rulesets, h.members⟩
      exact congrArg (fun t : Snapshot =>
        { t with inventoryPlugins := t.inventoryPlugins.insert new.name new }) h.snapshot
  | declareRuleset use name =>
      cases ok
      exact ⟨_, rfl, h.snapshot, h.sectionIndex, congrArg (·.declare name) h.rulesets, h.members⟩
  | setRuleset use name rules =>
      cases ok
      exact ⟨_, rfl, h.snapshot, h.sectionIndex, congrArg (·.set name rules) h.rulesets, h.members⟩

theorem events_eq (h : r.Alike s) (a : Registration) : a.events r = a.events s := by
  cases a with
  | addSection new =>
      have hfind : r.findSection? new.name = s.findSection? new.name :=
        congrArg (·.findSection? new.name) h.snapshot
      simp only [Registration.events, hfind]
  | addCheck new =>
      simp only [Registration.events]
      cases hr : r.addCheck new with
      | error c =>
          have hs : s.addCheck new = .error c := (h.refused_iff (.addCheck new) c).1 hr
          rw [hs]
      | ok r' =>
          obtain ⟨s', hs, -⟩ := h.addCheck hr
          rw [hs]
  | addInventory new => rfl
  | declareRuleset use name => rfl
  | setRuleset use name rules => rfl

/-! ### Any number of registrations -/

/-- Some registrations get equally far, and leave registries that are alike. -/
theorem performAll (h : r.Alike s) (todo : List Registration) :
    (r.performAll todo).registry.Alike (s.performAll todo).registry ∧
      (r.performAll todo).events = (s.performAll todo).events ∧
      (r.performAll todo).conflict = (s.performAll todo).conflict := by
  induction todo generalizing r s with
  | nil => exact ⟨h, rfl, rfl⟩
  | cons a rest ih =>
      cases ha : a.perform r with
      | error c =>
          rw [performAll_cons_error _ ha, performAll_cons_error _ ((h.refused_iff a c).1 ha)]
          exact ⟨h, h.events_eq a, rfl⟩
      | ok r' =>
          obtain ⟨s', hs, hnext⟩ := h.perform ha
          obtain ⟨hregistry, hevents, hconflict⟩ := ih hnext
          rw [performAll_cons_ok _ ha, performAll_cons_ok _ hs]
          refine ⟨hregistry, ?_, hconflict⟩
          dsimp only
          rw [h.events_eq, hevents]

/-- **No run of operations tells them apart.** -/
theorem run (h : r.Alike s) (ops : List Operation) : (r.run ops).Alike (s.run ops) := by
  induction ops generalizing r s with
  | nil => exact h
  | cons op rest ih =>
      rw [run_cons, run_cons, Operation.apply_eq, Operation.apply_eq]
      exact ih (h.performAll op.registrations).1

/-! ### What callers see -/

theorem register (h : r.Alike s) (l : Linked) :
    (r.register l).conflict = (s.register l).conflict ∧
      (r.register l).events = (s.register l).events := by
  obtain ⟨-, hevents, hconflict⟩ := h.performAll l.registrations
  refine ⟨?_, ?_⟩
  · rw [conflict_register, conflict_register, hconflict]
  · unfold Registry.register
    dsimp only
    rw [hconflict]
    split
    · exact hevents
    · dsimp only
      rw [hevents]

theorem load (h : r.Alike s) (handlers : HandlerTable) (firstSerial : Nat) (path : String)
    (file : ManifestFile) :
    (r.load handlers firstSerial path file).error =
        (s.load handlers firstSerial path file).error ∧
      (r.load handlers firstSerial path file).events =
        (s.load handlers firstSerial path file).events := by
  unfold Registry.load Registry.enter
  cases Manifest.ofFile file with
  | error reason => exact ⟨rfl, rfl⟩
  | ok m =>
      cases hl : m.link handlers firstSerial with
      | error reason => simp only [hl, and_self]
      | ok l =>
          obtain ⟨hconflict, hevents⟩ := h.register l
          simp only [hl, hconflict, hevents, and_self]

theorem sameResponses (h : r.Alike s) : r.SameResponses s where
  refused_iff := h.refused_iff
  events := h.events_eq
  register := h.register
  load := h.load

theorem sameContent (h : r.Alike s) : r.SameContent s where
  snapshot := h.snapshot
  sectionIndex := h.sectionIndex
  knows name := by rw [KnowsRuleset, KnowsRuleset, h.rulesets]
  rules name := by rw [h.rulesets]

theorem sameAnswers (h : r.Alike s) : r.SameAnswers s := h.sameContent.sameAnswers

theorem rulesetNames_eq (h : r.Alike s) (use : RulesetUse) :
    r.rulesetNames use = s.rulesetNames use :=
  congrArg Rulesets.names h.rulesets

end Alike

end Registry

end MonitoringPlugins
