/-
**Manifests that stop half-way.**

The registration of a manifest ends early at the first check plug-in that conflicts.  Where that is
can be said without the other rounds: check plug-ins are judged by each other, so it is the place at
which the same plug-ins stop if nothing else is registered.  All sections and inventory plug-ins are
registered by then, and the check plug-ins before the place; the discovery ruleset of the refused
plug-in is known already, because it is declared before the plug-in is tried.  Rules come last, so
none are stored.

Main definitions:

* `MonitoringPlugins.Registry.RefusedAt` — **the place at which check plug-ins stop**;
* `MonitoringPlugins.Linked.upTo` — a manifest up to one of its check plug-ins, without rules;
* `MonitoringPlugins.Registry.WithManifestUpTo` — **a registry with the definitions of a manifest up
  to a place**, and nothing else changed.

Main results:

* `MonitoringPlugins.Registry.RefusedAt.unique` — check plug-ins stop at one place, for one reason;
* `MonitoringPlugins.Registry.Leads.refusedAt` — what else is registered among them does not move
  the place;
* `MonitoringPlugins.Registry.InUse.register_stops` — **a manifest stops where its check plug-ins
  do**, and leaves what comes before.
-/

import MonitoringPlugins.Proofs.FailedManifest

set_option autoImplicit false

namespace MonitoringPlugins

namespace Registry

/-! ### The place of a refusal -/

/-- `r.RefusedAt plugins i c` says that the check plug-ins before place `i` are accepted one after
the other, on top of `r`, and that the one at `i` then conflicts, with `c`. -/
inductive RefusedAt : Registry → List CheckPlugin → Nat → ItemConflict → Prop
  | here {r : Registry} {p : CheckPlugin} {c : ItemConflict} (rest : List CheckPlugin)
      (refused : r.addCheck p = .error c) : RefusedAt r (p :: rest) 0 c
  | later {r r' : Registry} {p : CheckPlugin} {rest : List CheckPlugin} {i : Nat}
      {c : ItemConflict} (accepted : r.addCheck p = .ok r') (h : RefusedAt r' rest i c) :
      RefusedAt r (p :: rest) (i + 1) c

namespace RefusedAt

variable {r s : Registry} {plugins : List CheckPlugin} {i : Nat} {c : ItemConflict}

/-- **Check plug-ins stop at one place, for one reason.** -/
theorem unique (h : r.RefusedAt plugins i c) {j : Nat} {d : ItemConflict}
    (h' : r.RefusedAt plugins j d) : i = j ∧ c = d := by
  induction h generalizing j with
  | here rest refused =>
      cases h' with
      | here _ refused' => exact ⟨rfl, Except.error.inj (refused.symm.trans refused')⟩
      | later accepted' _ => exact absurd (refused.symm.trans accepted') nofun
  | later accepted _ ih =>
      cases h' with
      | here _ refused' => exact absurd (accepted.symm.trans refused') nofun
      | later accepted' hrest =>
          obtain rfl := Except.ok.inj (accepted.symm.trans accepted')
          obtain ⟨rfl, rfl⟩ := ih hrest
          exact ⟨rfl, rfl⟩

/-- Only the check plug-ins of a registry matter. -/
theorem of_sameChecks (h : r.RefusedAt plugins i c) (same : r.SameChecks s) :
    s.RefusedAt plugins i c := by
  induction h generalizing s with
  | here rest refused => exact .here rest ((same.addCheck_eq_error_iff _ _).1 refused)
  | later accepted _ ih =>
      obtain ⟨s', hs, hsame⟩ := same.addCheck accepted
      exact .later hs (ih hsame)

/-- Check plug-ins that stop at a place do so with its conflict. -/
theorem conflict_eq (h : r.RefusedAt plugins i c) :
    (r.performAll (plugins.map .addCheck)).conflict = some c := by
  induction h with
  | @here r p c rest refused =>
      have hperform : (Registration.addCheck p).perform r = .error c := refused
      rw [List.map_cons, performAll_cons_error _ hperform]
  | @later r r' p rest i c accepted _ ih =>
      have hperform : (Registration.addCheck p).perform r = .ok r' := accepted
      rw [List.map_cons, performAll_cons_ok _ hperform]
      exact ih

end RefusedAt

/-- **What else is registered does not move the place**: registrations that were all accepted bring
their check plug-ins to the front. -/
theorem Leads.refusedAt {r s : Registry} {done : List Registration} (h : r.Leads done s)
    {plugins : List CheckPlugin} {i : Nat} {c : ItemConflict} (hs : s.RefusedAt plugins i c) :
    r.RefusedAt (checkPluginsOf done ++ plugins) ((checkPluginsOf done).length + i) c := by
  induction h generalizing plugins i with
  | refl => simpa [checkPluginsOf] using hs
  | @step done s s' a hleads ok ih =>
      cases ha : a.checkPlugin? with
      | none =>
          obtain ⟨t, ht, hsame⟩ := s.exists_perform_of_other ha
          obtain rfl := Except.ok.inj (ok.symm.trans ht)
          have hskip : checkPluginsOf (done ++ [a]) = checkPluginsOf done := by
            rw [checkPluginsOf_append]
            simp [checkPluginsOf, ha]
          rw [hskip]
          exact ih (hs.of_sameChecks hsame.symm)
      | some p =>
          obtain rfl := Registration.checkPlugin?_eq_some_iff.1 ha
          have hkeep : checkPluginsOf (done ++ [.addCheck p]) = checkPluginsOf done ++ [p] :=
            checkPluginsOf_append done [.addCheck p]
          rw [hkeep, List.append_assoc, List.singleton_append, List.length_append,
            List.length_singleton, Nat.add_assoc, Nat.add_comm 1 i]
          exact ih (.later ok hs)

end Registry

/-! ### A manifest up to a place -/

namespace Linked

/-- A manifest up to one of its check plug-ins, without its rules. -/
def upTo (l : Linked) (i : Nat) : Linked :=
  { l with checkPlugins := l.checkPlugins.take i, rulesets := [] }

variable {l : Linked} {before after : List CheckPlugin} {refused : CheckPlugin}

/-- What comes before a refused plug-in is the manifest up to it, and the declaration of its
discovery ruleset. -/
theorem registrationsBefore_eq (h : l.checkPlugins = before ++ refused :: after) :
    l.registrationsBefore before refused =
      (l.upTo before.length).registrations ++ discoveryDeclaration refused := by
  have htake : l.checkPlugins.take before.length = before := by simp [h]
  rw [registrations_eq, upTo, htake, List.map_nil, List.append_nil]
  rfl

/-- The declaration of a discovery ruleset is no section, plug-in or rule. -/
theorem filterMap_registrationsBefore {α : Type} (pick : Registration → Option α)
    (hpick : ∀ name : RulesetName, pick (.declareRuleset .discovery name) = none)
    (h : l.checkPlugins = before ++ refused :: after) :
    (l.registrationsBefore before refused).filterMap pick =
      (l.upTo before.length).registrations.filterMap pick := by
  rw [registrationsBefore_eq h, List.filterMap_append, discoveryDeclaration]
  cases refused.discoveryRuleset with
  | none => simp
  | some name => simp [hpick]

theorem checkPlugins_registrationsBefore (h : l.checkPlugins = before ++ refused :: after) :
    checkPluginsOf (l.registrationsBefore before refused) = before := by
  rw [checkPluginsOf, filterMap_registrationsBefore _ (fun _ => rfl) h, ← checkPluginsOf,
    checkPlugins_registrations, upTo]
  simp [h]

/-- Rulesets are mentioned by sections, and for discovery by the check plug-ins up to the refused
one. -/
theorem mem_rulesets_registrationsBefore (h : l.checkPlugins = before ++ refused :: after)
    {name : RulesetName} :
    name ∈ (l.registrationsBefore before refused).filterMap Registration.ruleset? ↔
      (∃ x ∈ l.sections, x.profile.hostLabelRuleset = some name) ∨
        ∃ p ∈ l.checkPlugins.take (before.length + 1), p.discoveryRuleset = some name := by
  have htake : l.checkPlugins.take before.length = before := by simp [h]
  have htake' : l.checkPlugins.take (before.length + 1) = before ++ [refused] := by
    simp [h, List.take_append]
  have hdeclared : name ∈ (discoveryDeclaration refused).filterMap Registration.ruleset? ↔
      refused.discoveryRuleset = some name := by
    rw [discoveryDeclaration]
    cases refused.discoveryRuleset <;> simp [Registration.ruleset?, eq_comm]
  rw [registrationsBefore_eq h, List.filterMap_append, List.mem_append, hdeclared,
    mem_rulesets_registrations, htake']
  simp only [upTo, htake, List.not_mem_nil, exists_false, false_or, List.mem_append,
    List.mem_singleton, or_and_right, exists_or, exists_eq_left, or_assoc]
  rfl

end Linked

/-! ### What is left -/

namespace Registry

/-- **A registry with the definitions of a manifest up to a place.**  All sections and inventory
plug-ins of the manifest are there, and the check plug-ins before the place; the host label rulesets
of the sections are known, and the discovery rulesets of the check plug-ins up to the one at the
place.  All else is as before, the rules included. -/
structure WithManifestUpTo (r : Registry) (l : Linked) (i : Nat) (s : Registry) : Prop where
  findSection? : ∀ name : SectionName, s.findSection? name =
    ((lastOf (fun x : SnmpSection => x.name) l.snmpSections name).map Section.snmp).or
      (((lastOf (fun x : AgentSection => x.name) l.agentSections name).map Section.agent).or
        (r.findSection? name))
  /-- The producers are those of the sections that are found by name. -/
  coherent : s.Coherent
  inventoryPlugin? : ∀ name : InventoryPluginName, s.inventoryPlugin? name =
    (lastOf InventoryPlugin.name l.inventoryPlugins name).or (r.inventoryPlugin? name)
  /-- No plug-in from the place on is registered. -/
  checkPlugins : ∀ name : CheckPluginName, s.checkPlugins[name]? =
    (lastOf CheckPlugin.name (l.checkPlugins.take i) name).or r.checkPlugins[name]?
  members : ∀ ruleset : Option RulesetName, s.checkGroups.members ruleset =
    (r.checkGroups.members ruleset).filter
        (·.name ∉ (l.checkPlugins.take i).map CheckPlugin.name) ++
      (latest CheckPlugin.name (l.checkPlugins.take i)).filter (·.checkRuleset = ruleset)
  /-- No rules of the manifest are stored, and none are lost. -/
  rules : ∀ (use : RulesetUse) (name : RulesetName), s.rules use name = r.rules use name
  /-- The refused plug-in has its discovery ruleset declared. -/
  knowsRuleset : ∀ name : RulesetName, s.KnowsRuleset name ↔
    r.KnowsRuleset name ∨ (∃ x ∈ l.sections, x.profile.hostLabelRuleset = some name) ∨
      ∃ p ∈ l.checkPlugins.take (i + 1), p.discoveryRuleset = some name
  /-- The rulesets that were known keep their places. -/
  rulesetNames : ∀ use : RulesetUse, r.rulesetNames use <+: s.rulesetNames use

/-- What registrations before a refusal leave. -/
theorem Leads.withManifestUpTo {r s : Registry} (hr : r.Reachable) {l : Linked}
    {before after : List CheckPlugin} {refused : CheckPlugin}
    (hplugins : l.checkPlugins = before ++ refused :: after)
    (h : r.Leads (l.registrationsBefore before refused) s) :
    r.WithManifestUpTo l before.length s := by
  obtain ⟨done, hdone⟩ := reachable_iff_leads.1 hr
  have hcoherent := hr.coherent
  have htake : l.checkPlugins.take before.length = before := by simp [hplugins]
  constructor
  · intro name
    rw [h.findSection?_eq hcoherent,
      Linked.filterMap_registrationsBefore _ (fun _ => rfl) hplugins, Linked.sections_registrations,
      Linked.sections, lastOf_append, lastOf_map, lastOf_map, Option.or_assoc]
    rfl
  · exact h.coherent hcoherent
  · intro name
    refine (h.inventoryPlugins_eq hcoherent name).trans ?_
    rw [Linked.filterMap_registrationsBefore _ (fun _ => rfl) hplugins,
      Linked.inventoryPlugins_registrations]
    rfl
  · intro name
    rw [h.checkPlugins_eq hcoherent, Linked.checkPlugins_registrationsBefore hplugins, htake]
  · have hbefore := hdone.grouped
    have hafter := (hdone.trans h).grouped
    rw [latestCheckPlugins] at hbefore
    rw [latestCheckPlugins, checkPluginsOf_append,
      Linked.checkPlugins_registrationsBefore hplugins] at hafter
    rw [htake]
    exact hbefore.members_append hafter
  · intro use name
    refine (h.rules_eq hcoherent name).trans ?_
    rw [Linked.filterMap_registrationsBefore _ (fun _ => rfl) hplugins, Linked.rules_registrations]
    rfl
  · intro name
    rw [h.knows_iff, Linked.mem_rulesets_registrationsBefore hplugins]
  · intro use
    exact h.names_prefix

/-- A manifest that fails stops at the place where its check plug-ins do. -/
theorem exists_refusedAt_of_conflict {r : Registry} {l : Linked} {c : ItemConflict}
    (h : (r.register l).conflict = some c) :
    ∃ before refused after, l.checkPlugins = before ++ refused :: after ∧
      r.Leads (l.registrationsBefore before refused) (r.register l).registry ∧
      r.RefusedAt l.checkPlugins before.length c := by
  obtain ⟨before, refused, after, hplugins, hleads, herror⟩ := register_eq_conflict h
  have hplace := hleads.refusedAt (.here after herror)
  rw [Linked.checkPlugins_registrationsBefore hplugins, ← hplugins] at hplace
  exact ⟨before, refused, after, hplugins, hleads, hplace⟩

/-- **A manifest fails exactly if its check plug-ins stop at some place**, and with the conflict
there. -/
theorem conflict_register_iff {r : Registry} {l : Linked} {c : ItemConflict} :
    (r.register l).conflict = some c ↔ ∃ i, r.RefusedAt l.checkPlugins i c := by
  constructor
  · intro h
    obtain ⟨before, -, -, -, -, hplace⟩ := exists_refusedAt_of_conflict h
    exact ⟨before.length, hplace⟩
  · rintro ⟨i, h⟩
    rw [conflict_register, ((SameChecks.refl r).performAll l.registrations).2,
      Linked.checkPlugins_registrations]
    exact h.conflict_eq

/-- **A manifest stops where its check plug-ins do.**  It fails exactly if there is a place up to
which they are accepted, one after the other, and at which one then conflicts; the error is that
conflict, and what is left is the manifest up to that place, without any rules. -/
theorem InUse.register_stops {r : Registry} (h : r.InUse) (l : Linked) :
    (∀ c, (r.register l).conflict = some c ↔ ∃ i, r.RefusedAt l.checkPlugins i c) ∧
      ∀ i c, r.RefusedAt l.checkPlugins i c → r.WithManifestUpTo l i (r.register l).registry := by
  refine ⟨fun c => conflict_register_iff, ?_⟩
  intro i c hplace
  obtain ⟨before, refused, after, hplugins, hleads, hfound⟩ :=
    exists_refusedAt_of_conflict (conflict_register_iff.2 ⟨i, hplace⟩)
  obtain ⟨rfl, -⟩ := hplace.unique hfound
  exact hleads.withManifestUpTo h.reachable hplugins

/-- A run that sets rules and registers a plug-in without items. -/
def itemlessRun : List Operation :=
  [.registration (.setRuleset .hostLabel .groups [.obj []]),
    .registration (.addCheck (.idle .df "Filesystems" .filesystems))]

/-- A plug-in without items that has a ruleset for its discovery. -/
def mountsPlugin : CheckPlugin :=
  { CheckPlugin.idle .mounts "Mounts" .filesystems with discoveryDefaults := some ⟨.disk, []⟩ }

/-- A manifest that gives the registered plug-in an item, then has one without items, and defines
the first one as before at the end. -/
def waveringManifest : Linked where
  agentSections := [.silent .df .df,
    { AgentSection.silent .disk .disk with hostLabelRuleset := some .groups }]
  snmpSections := [.silent .df .mounts]
  checkPlugins := [.idle .df "Filesystem %s" .filesystems, mountsPlugin,
    .idle .df "Filesystems" .filesystems]
  rulesets := [(.groups, [.obj [], .obj []]), (.disk, [.obj []])]

/-- The plug-in with an item is kept, the one without is refused because of it, and its discovery
ruleset is known without the rules that the manifest has for it. -/
theorem InUse.register_stops_waveringManifest :
    (empty.run itemlessRun).InUse ∧
      (empty.run itemlessRun).RefusedAt waveringManifest.checkPlugins 1
        ⟨.filesystems, .mounts, [.df], .requires⟩ ∧
      ((empty.run itemlessRun).register waveringManifest).conflict =
        some ⟨.filesystems, .mounts, [.df], .requires⟩ ∧
      ((empty.run itemlessRun).register waveringManifest).registry.findSection? .df =
        some (.snmp (.silent .df .mounts)) ∧
      ((empty.run itemlessRun).register waveringManifest).registry.checkGroups.members
        (some .filesystems) = [.idle .df "Filesystem %s" .filesystems] ∧
      ((empty.run itemlessRun).register waveringManifest).registry.rules .hostLabel .groups =
        [.obj []] ∧
      ((empty.run itemlessRun).register waveringManifest).registry.KnowsRuleset .disk ∧
      ((empty.run itemlessRun).register waveringManifest).registry.rules .discovery .disk = [] := by
  have huse : (empty.run itemlessRun).InUse := .reached ⟨itemlessRun, rfl⟩
  have hplace : (empty.run itemlessRun).RefusedAt waveringManifest.checkPlugins 1
      ⟨.filesystems, .mounts, [.df], .requires⟩ := .later rfl (.here _ rfl)
  obtain ⟨hfails, hleft⟩ := huse.register_stops waveringManifest
  have hleft := hleft _ _ hplace
  refine ⟨huse, hplace, (hfails _).2 ⟨1, hplace⟩, (hleft.findSection? .df).trans (by rfl),
    (hleft.members _).trans (by rfl), (hleft.rules .hostLabel .groups).trans (by rfl), ?_,
    (hleft.rules .discovery .disk).trans (by rfl)⟩
  exact (hleft.knowsRuleset .disk).2 (.inr (.inr ⟨mountsPlugin, by simp [waveringManifest], rfl⟩))

end Registry

end MonitoringPlugins
