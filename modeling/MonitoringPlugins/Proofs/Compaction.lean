/-
**Compacting a history.**

A registry that was in use for long has seen many registrations that no longer count: of each
section and each plug-in only the last definition is in force.  The history may be compacted to
these, each in its place, together with everything that concerns rulesets, and carried out once more
on an empty registry.  Nothing is refused then, and the outcome cannot be told from the registry in
use.

That nothing is refused does not follow from the history, where a plug-in may have met definitions
that are replaced by now, and may have been accepted only because others had been replaced before.
It follows from the end: the definitions in force agree with each other.

Main definitions:

* `MonitoringPlugins.Slot` — a name under which one definition is in force at most;
* `MonitoringPlugins.compact` — the registrations that are not replaced by later ones.

Main results:

* `MonitoringPlugins.filterMap_compact` — **compacting keeps the last definition of each name**, for
  sections and plug-ins alike;
* `MonitoringPlugins.compact_sublist`, `MonitoringPlugins.nodup_slots_compact` — and it keeps the
  order, and no other definition;
* `MonitoringPlugins.Registry.Leads.exists_compact` — **a compacted history is accepted**;
* `MonitoringPlugins.Registry.replay_compact` — **a compacted history leads to the same registry**,
  as far as anyone can tell.
-/

import MonitoringPlugins.Proofs.Alike

set_option autoImplicit false

namespace MonitoringPlugins

/-! ### Compacting -/

/-- A name under which one definition is in force at most. -/
inductive Slot where
  | rawSection (name : SectionName)
  | check (name : CheckPluginName)
  | inventory (name : InventoryPluginName)
  deriving DecidableEq

/-- The slot that a registration fills; rulesets have none. -/
def Registration.slot? : Registration → Option Slot
  | addSection new => some (.rawSection new.name)
  | addCheck new => some (.check new.name)
  | addInventory new => some (.inventory new.name)
  | declareRuleset .. | setRuleset .. => none

/-- **The registrations without those that are replaced**: of each section, check plug-in and
inventory plug-in only the last one, in the order that they have. -/
def compact : List Registration → List Registration
  | [] => []
  | a :: rest =>
    match a.slot? with
    | none => a :: compact rest
    | some slot =>
      if slot ∈ rest.filterMap Registration.slot? then compact rest else a :: compact rest

theorem compact_sublist (as : List Registration) : (compact as).Sublist as := by
  induction as with
  | nil => exact .slnil
  | cons a rest ih =>
      unfold compact
      split
      · exact ih.cons_cons a
      · split
        · exact ih.cons a
        · exact ih.cons_cons a

/-- **Compacting keeps the last definition of each name.** -/
theorem filterMap_compact {α κ : Type} [DecidableEq κ] {key : α → κ}
    {pick : Registration → Option α} (slot : κ → Slot)
    (hslot : ∀ (a : Registration) (k : κ), a.slot? = some (slot k) ↔ (pick a).map key = some k)
    (as : List Registration) :
    (compact as).filterMap pick = latest key (as.filterMap pick) := by
  induction as with
  | nil => rfl
  | cons a rest ih =>
      have hreplaced (k : κ) : slot k ∈ rest.filterMap Registration.slot? ↔
          k ∈ (rest.filterMap pick).map key := by
        rw [List.map_filterMap, List.mem_filterMap, List.mem_filterMap]
        exact exists_congr fun b => and_congr_right fun _ => hslot b k
      cases hpick : pick a with
      | none =>
          -- kept or not, it is not about the names in question
          rw [List.filterMap_cons_none hpick, ← ih, compact]
          split
          · exact List.filterMap_cons_none hpick
          · split
            · rfl
            · exact List.filterMap_cons_none hpick
      | some x =>
          have hx : a.slot? = some (slot (key x)) := (hslot a (key x)).2 (by rw [hpick]; rfl)
          rw [List.filterMap_cons_some hpick, latest, compact, hx]
          dsimp only
          by_cases hlater : slot (key x) ∈ rest.filterMap Registration.slot?
          · rw [if_pos hlater, if_pos ((hreplaced _).1 hlater), ih]
          · rw [if_neg hlater, if_neg (mt (hreplaced _).2 hlater),
              List.filterMap_cons_some hpick, ih]

/-- One registration of each slot is left at most. -/
theorem nodup_slots_compact (as : List Registration) :
    ((compact as).filterMap Registration.slot?).Nodup := by
  have hslots : (compact as).filterMap Registration.slot? =
      latest id (as.filterMap Registration.slot?) :=
    filterMap_compact id (by
      intro a slot
      rw [Option.map_id_fun, id_eq]
      rfl) as
  rw [hslots, ← List.map_id (latest id _)]
  exact nodup_map_latest id _

theorem sections_compact (as : List Registration) :
    (compact as).filterMap Registration.section? =
      latest Section.name (as.filterMap Registration.section?) :=
  filterMap_compact .rawSection (by
    intro a name
    cases a <;> simp [Registration.slot?, Registration.section?]) as

theorem checkPluginsOf_compact (as : List Registration) :
    checkPluginsOf (compact as) = latestCheckPlugins as :=
  filterMap_compact .check (by
    intro a name
    cases a <;> simp [Registration.slot?, Registration.checkPlugin?]) as

theorem inventoryPlugins_compact (as : List Registration) :
    (compact as).filterMap Registration.inventoryPlugin? =
      latest InventoryPlugin.name (as.filterMap Registration.inventoryPlugin?) :=
  filterMap_compact .inventory (by
    intro a name
    cases a <;> simp [Registration.slot?, Registration.inventoryPlugin?]) as

/-! ### Rulesets -/

/-- What fills a slot leaves the rulesets alone. -/
theorem Registration.amend_of_slot {a : Registration} {slot : Slot} (h : a.slot? = some slot)
    (rulesets : Rulesets) : a.amend rulesets = rulesets := by
  cases a with
  | addSection new => rfl
  | addCheck new => rfl
  | addInventory new => rfl
  | declareRuleset use name => cases h
  | setRuleset use name rules => cases h

theorem foldl_amend_compact (as : List Registration) (rulesets : Rulesets) :
    (compact as).foldl Registration.amend rulesets = as.foldl Registration.amend rulesets := by
  induction as generalizing rulesets with
  | nil => rfl
  | cons a rest ih =>
      rw [compact]
      split
      · exact ih _
      · next slot hslot =>
        rw [List.foldl_cons, Registration.amend_of_slot hslot]
        split
        · exact ih rulesets
        · rw [List.foldl_cons, Registration.amend_of_slot hslot]
          exact ih rulesets

namespace Registry

/-! ### Carrying out a compacted history -/

/-- **A compacted history is accepted**, since the definitions that are in force at its end
agree. -/
theorem Leads.exists_compact {r : Registry} {done : List Registration}
    (h : empty.Leads done r) : ∃ s, empty.Leads (compact done) s := by
  have hgrouped := h.grouped
  refine exists_leads ?_ ?_
  · rw [checkPluginsOf_compact]
    exact hgrouped.nodup
  · rw [checkPluginsOf_compact]
    exact hgrouped.agree

/-- **And it leads to a registry that cannot be told from the one in use.** -/
theorem Leads.alike_compact {r s : Registry} {done : List Registration} (hr : empty.Leads done r)
    (hs : empty.Leads (compact done) s) : r.Alike s := by
  have hrulesets : r.rulesets = s.rulesets := by
    rw [hr.rulesets_eq, hs.rulesets_eq, foldl_amend_compact]
  have hcontent : r.SameContent s := by
    refine .of_lookups (hr.coherent .empty) (hs.coherent .empty) ?_ ?_ ?_ ?_ ?_
    · intro name
      rw [hr.findSection?_eq .empty, hs.findSection?_eq .empty, sections_compact, lastOf_latest]
    · intro name
      rw [hr.checkPlugins_eq .empty, hs.checkPlugins_eq .empty, checkPluginsOf_compact,
        latestCheckPlugins, lastOf_latest]
    · intro name
      rw [hr.inventoryPlugins_eq .empty, hs.inventoryPlugins_eq .empty, inventoryPlugins_compact,
        lastOf_latest]
    · intro name
      rw [KnowsRuleset, KnowsRuleset, hrulesets]
    · intro name
      rw [hrulesets]
  refine ⟨hcontent.snapshot, hcontent.sectionIndex, hrulesets, fun ruleset => ?_⟩
  -- the plug-ins in force, in the order of their last registration, determine all groups
  have horder : latestCheckPlugins (compact done) = latestCheckPlugins done := by
    rw [latestCheckPlugins, checkPluginsOf_compact, latest_eq_self _ hr.grouped.nodup]
  rw [hr.grouped.members, hs.grouped.members, horder]

/-- **A compacted history leads to the same registry**, as far as anyone can tell.  After any run,
the accepted registrations may be compacted, so that one of each section and plug-in is left, and
carried out on an empty registry: nothing is refused, and both registries hold the same.  Whatever
is done with both of them later, they answer every question alike and refuse the same registrations
for the same reasons. -/
theorem replay_compact (ops : List Operation) :
    ((compact (empty.history ops)).Sublist (empty.history ops) ∧
      ((compact (empty.history ops)).filterMap Registration.slot?).Nodup) ∧
    (empty.loadAll (compact (empty.history ops))).refusals = [] ∧
    (empty.run ops).Alike (empty.loadAll (compact (empty.history ops))).registry ∧
    ∀ later : List Operation,
      ((empty.run ops).run later).SameAnswers
          ((empty.loadAll (compact (empty.history ops))).registry.run later) ∧
        (∀ use : RulesetUse, ((empty.run ops).run later).rulesetNames use =
          ((empty.loadAll (compact (empty.history ops))).registry.run later).rulesetNames use) ∧
        ((empty.run ops).run later).SameResponses
          ((empty.loadAll (compact (empty.history ops))).registry.run later) := by
  have hrun := empty.leads_run ops
  obtain ⟨s, hs⟩ := hrun.exists_compact
  obtain ⟨hrefusals, hregistry⟩ := hs.loadAll_eq
  rw [hregistry]
  have halike := hrun.alike_compact hs
  refine ⟨⟨compact_sublist _, nodup_slots_compact _⟩, hrefusals, halike, fun later => ?_⟩
  have hlater := halike.run later
  exact ⟨hlater.sameAnswers, hlater.rulesetNames_eq, hlater.sameResponses⟩

/-- What is left of a run in which a section moves to SNMP, a plug-in is refused and another one is
registered again. -/
example :
    compact (empty.history
      [.registration (.addSection (.agent (.silent .df .df))),
        .registration (.addCheck (.idle .df "Filesystems" .filesystems)),
        .registration (.declareRuleset .hostLabel .groups),
        .registration (.addCheck (.idle .mounts "Mount %s" .filesystems)),
        .registration (.addSection (.snmp (.silent .df .disk))),
        .registration (.addCheck (.idle .df "Filesystem %s" .filesystems))]) =
      [.declareRuleset .hostLabel .groups,
        .addSection (.snmp (.silent .df .disk)),
        .addCheck (.idle .df "Filesystem %s" .filesystems)] := by rfl

end Registry

end MonitoringPlugins
