/-
**Why a draft is refused.**

A draft whose parts do not fit together may be wrong in several ways at once.  They are looked for
in a fixed order, and the first one found is reported.  This module lists, for each kind of
definition, the causes of a refusal in that order, each one said of the parts of the draft, and
proves that building fails by the first of them and by nothing else.  For plug-ins it follows what
the settings of a draft, in whatever order they are made, come to when it is built.

Main definitions:

* `MonitoringPlugins.SectionDraft.supersedesItself`, `MonitoringPlugins.SnmpSection.noTrees`,
  `MonitoringPlugins.SnmpSection.noColumns` — what may be wrong with a section;
* `MonitoringPlugins.ServiceName.severalItems`, `MonitoringPlugins.Subscription.repeats`,
  `MonitoringPlugins.DefaultParameters.unpaired` — what may be wrong with a plug-in;
* `MonitoringPlugins.CheckDraft.causes`, `MonitoringPlugins.InventoryDraft.causes` — **all of it, in
  the order in which it is looked for**.

Main results:

* `MonitoringPlugins.AgentSection.build_failsBy`, `MonitoringPlugins.SnmpSection.build_failsBy`,
  `MonitoringPlugins.CheckDraft.build_failsBy`, `MonitoringPlugins.InventoryDraft.build_failsBy` —
  **building fails by the first cause**;
* `MonitoringPlugins.build_setAll_exact` — **what settings come to**.
-/

import MonitoringPlugins.Plugin.Settings
import MonitoringPlugins.Proofs.Drafts
import MonitoringPlugins.Proofs.FirstFault
import MonitoringPlugins.Proofs.Runs

set_option autoImplicit false

namespace MonitoringPlugins

/-! ### Sections -/

/-- A section supersedes itself. -/
def SectionDraft.supersedesItself (draft : SectionDraft) : Cause DefinitionError := fun e =>
  draft.name ∈ draft.supersedes ∧ e = .supersedesItself draft.name

/-- There is nothing to fetch. -/
def SnmpSection.noTrees (name : SectionName) (fetch : List SnmpTree) : Cause DefinitionError :=
  fun e => fetch = [] ∧ e = .noTrees name

/-- Some tree has no columns; the first such tree is reported. -/
def SnmpSection.noColumns (name : SectionName) (fetch : List SnmpTree) : Cause DefinitionError :=
  fun e => ∃ before tree after, fetch = before ++ tree :: after ∧ (∀ t ∈ before, t.oids ≠ []) ∧
    tree.oids = [] ∧ e = .noColumns name tree.base

theorem SectionProfile.ofDraft_failsBy (draft : SectionDraft) :
    FailsBy (ofDraft draft) [draft.supersedesItself] := by
  refine .single ?_ ?_
  · rintro e ⟨hself, rfl⟩
    exact if_pos hself
  · intro habsent
    exact ⟨_, if_neg fun hself => habsent _ ⟨hself, rfl⟩⟩

/-- **An agent section is refused only if it supersedes itself.** -/
theorem AgentSection.build_failsBy (serial : Nat) (draft : SectionDraft) (parse : AgentParser) :
    FailsBy (build serial draft parse) [draft.supersedesItself] := by
  rw [build]
  exact (SectionProfile.ofDraft_failsBy draft).bindOk _

/-- **An SNMP section is refused** if it fetches nothing, else if it fetches a tree without columns,
else if it supersedes itself. -/
theorem SnmpSection.build_failsBy (serial : Nat) (draft : SectionDraft) (fetch : List SnmpTree)
    (detect : Detection) (parse : SnmpParser) :
    FailsBy (build serial draft fetch detect parse)
      [noTrees draft.name fetch, noColumns draft.name fetch, draft.supersedesItself] := by
  have hcolumns (tree : SnmpTree) : fetch.find? (·.oids = []) = some tree ↔ tree.oids = [] ∧
      ∃ before after, fetch = before ++ tree :: after ∧ ∀ t ∈ before, t.oids ≠ [] := by
    simp [List.find?_eq_some_iff_append]
  rw [build]
  dsimp only
  refine .cons ?_ fun hfetch => .cons ?_ fun hfound => ?_
  · rintro e ⟨hnil, rfl⟩
    exact if_pos hnil
  · rintro e ⟨before, tree, after, hsplit, hbefore, hoids, rfl⟩
    have hfind := (hcolumns tree).2 ⟨hoids, before, after, hsplit, hbefore⟩
    rw [if_neg fun hnil => hfetch _ ⟨hnil, rfl⟩, hfind]
    rfl
  · have hfind : fetch.find? (·.oids = []) = none := by
      rw [Option.eq_none_iff_forall_ne_some]
      intro tree htree
      obtain ⟨hoids, before, after, hsplit, hbefore⟩ := (hcolumns tree).1 htree
      exact hfound _ ⟨before, tree, after, hsplit, hbefore, hoids, rfl⟩
    rw [if_neg fun hnil => hfetch _ ⟨hnil, rfl⟩, hfind]
    exact (SectionProfile.ofDraft_failsBy draft).bindOk _

/-! ### Parts of plug-ins -/

/-- A service name has room for several items: the placeholder stands at two places. -/
def ServiceName.severalItems (plugin template : String) : Cause DefinitionError := fun e =>
  (∃ i j, i < j ∧ StandsAt template i ∧ StandsAt template j) ∧ e = .severalItems plugin template

theorem ServiceName.severalItems_absent_iff {plugin template : String} :
    (severalItems plugin template).Absent ↔
      ∀ i j, StandsAt template i → StandsAt template j → i = j := by
  constructor
  · intro h i j hi hj
    rcases Nat.lt_trichotomy i j with hij | hij | hij
    · exact absurd ⟨⟨i, j, hij, hi, hj⟩, rfl⟩ (h _)
    · exact hij
    · exact absurd ⟨⟨j, i, hij, hj, hi⟩, rfl⟩ (h _)
  · rintro h e ⟨⟨i, j, hij, hi, hj⟩, -⟩
    exact absurd (h i j hi hj) (Nat.ne_of_lt hij)

/-- A parsed section is subscribed again; the first one that stands behind an equal one is
reported. -/
def Subscription.repeats (plugin : String) (sections : List ParsedSectionName) :
    Cause DefinitionError := fun e =>
  ∃ parsed, RepeatedFirst sections parsed ∧ e = .repeatedSection plugin parsed

/-- Default parameters come without a ruleset, or a ruleset without default parameters. -/
def DefaultParameters.unpaired (plugin : String) (stage : Stage) (values : Option Parameters)
    (ruleset : Option RulesetName) : Cause DefinitionError := fun e =>
  (values.isSome ∧ ruleset = none ∧ e = .missingRuleset plugin stage) ∨
    (values = none ∧ ∃ name, ruleset = some name ∧ e = .missingDefaults plugin stage name)

/-- The parsed sections that a plug-in subscribes to: the declared ones, or the one of its own
name. -/
def Subscription.sections {kind : NameKind} (plugin : Name kind)
    (declared : List ParsedSectionName) : List ParsedSectionName :=
  if declared = [] then [plugin.toParsedSection] else declared

theorem Subscription.sections_ne_nil {kind : NameKind} (plugin : Name kind)
    (declared : List ParsedSectionName) : sections plugin declared ≠ [] := by
  rw [sections]
  split
  · exact List.cons_ne_nil _ _
  · assumption

theorem Subscription.repeats_absent_iff {plugin : String} {sections : List ParsedSectionName} :
    (repeats plugin sections).Absent ↔ sections.Nodup := by
  rw [← firstRepeated_eq_none_iff, Option.eq_none_iff_forall_ne_some]
  simp only [ne_eq, firstRepeated_eq_some_iff]
  constructor
  · intro h parsed hrepeated
    exact h _ ⟨parsed, hrepeated, rfl⟩
  · rintro h e ⟨parsed, hrepeated, -⟩
    exact h parsed hrepeated

theorem Subscription.of_failsBy {kind : NameKind} (plugin : Name kind)
    (declared : List ParsedSectionName) :
    FailsBy (of plugin declared) [repeats plugin.text (sections plugin declared)] := by
  rw [of]
  refine .single ?_ ?_
  · rintro e ⟨parsed, hrepeated, rfl⟩
    rw [← sections, firstRepeated_eq_some_iff.2 hrepeated]
  · intro habsent
    have hnone := firstRepeated_eq_none_iff.2 (repeats_absent_iff.1 habsent)
    refine ⟨sections plugin declared, ?_⟩
    rw [← sections, hnone]

theorem DefaultParameters.unpaired_absent_iff {plugin : String} {stage : Stage}
    {values : Option Parameters} {ruleset : Option RulesetName} :
    (unpaired plugin stage values ruleset).Absent ↔ (values.isSome ↔ ruleset.isSome) := by
  constructor
  · intro h
    cases values with
    | none =>
        cases ruleset with
        | none => rfl
        | some name => exact absurd (.inr ⟨rfl, name, rfl, rfl⟩) (h _)
    | some table =>
        cases ruleset with
        | none => exact absurd (.inl ⟨rfl, rfl, rfl⟩) (h _)
        | some name => exact ⟨fun _ => rfl, fun _ => rfl⟩
  · rintro h e (⟨hvalues, rfl, -⟩ | ⟨rfl, name, rfl, -⟩)
    · cases h.1 hvalues
    · cases h.2 rfl

theorem DefaultParameters.pair_failsBy (plugin : String) (stage : Stage)
    (values : Option Parameters) (ruleset : Option RulesetName) :
    FailsBy (pair plugin stage values ruleset) [unpaired plugin stage values ruleset] := by
  refine .single ?_ ?_
  · rintro e (⟨hvalues, rfl, rfl⟩ | ⟨rfl, name, rfl, rfl⟩)
    · obtain ⟨table, rfl⟩ := Option.isSome_iff_exists.1 hvalues
      rfl
    · rfl
  · intro habsent
    obtain ⟨both, hboth⟩ := exists_pair (Bool.eq_iff_iff.2 (unpaired_absent_iff.1 habsent))
    exact ⟨both, pair_eq_ok_iff.2 hboth⟩

/-! ### Plug-ins -/

/-- **What may be wrong with a check plug-in**, in the order in which it is looked for. -/
def CheckDraft.causes (draft : CheckDraft) : List (Cause DefinitionError) :=
  [ServiceName.severalItems draft.name.text draft.serviceName,
    Subscription.repeats draft.name.text (Subscription.sections draft.name draft.sections),
    DefaultParameters.unpaired draft.name.text .discovery draft.discoveryDefaults
      draft.discoveryRuleset,
    DefaultParameters.unpaired draft.name.text .check draft.checkDefaults draft.checkRuleset]

/-- **What may be wrong with an inventory plug-in**, in the order in which it is looked for. -/
def InventoryDraft.causes (draft : InventoryDraft) : List (Cause DefinitionError) :=
  [Subscription.repeats draft.name.text (Subscription.sections draft.name draft.sections),
    DefaultParameters.unpaired draft.name.text .inventory draft.inventoryDefaults
      draft.inventoryRuleset]

/-- **A check plug-in is refused for the first cause.** -/
theorem CheckDraft.build_failsBy (draft : CheckDraft) : FailsBy draft.build draft.causes := by
  have hitems : ServiceName.hasSeveralItems draft.serviceName = true ↔
      ∃ i j, i < j ∧ ServiceName.StandsAt draft.serviceName i ∧
        ServiceName.StandsAt draft.serviceName j :=
    ServiceName.hasSeveralItems_iff.trans ServiceName.holdsTwice_iff
  rw [build]
  dsimp only
  refine .cons ?_ fun hone => ?_
  · rintro e ⟨htwice, rfl⟩
    exact if_pos (hitems.2 htwice)
  · rw [if_neg fun h => hone _ ⟨hitems.1 h, rfl⟩]
    refine (Subscription.of_failsBy _ _).bind fun sections _ => ?_
    refine (DefaultParameters.pair_failsBy _ _ _ _).bind fun discoveryDefaults _ => ?_
    exact (DefaultParameters.pair_failsBy _ _ _ _).bindOk _

/-- **An inventory plug-in is refused for the first cause.** -/
theorem InventoryDraft.build_failsBy (draft : InventoryDraft) :
    FailsBy draft.build draft.causes := by
  rw [build]
  refine (Subscription.of_failsBy _ _).bind fun sections _ => ?_
  exact (DefaultParameters.pair_failsBy _ _ _ _).bindOk _

/-! ### Which drafts are accepted -/

/-- A template that holds the placeholder at one place at most has room for an item exactly if there
is such a place. -/
theorem ServiceName.hasItem_iff_existsUnique {template : String}
    (h : ∀ i j, StandsAt template i → StandsAt template j → i = j) :
    hasItem template = true ↔ ∃! i, StandsAt template i := by
  rw [hasItem_iff]
  exact ⟨fun ⟨i, hi⟩ => ⟨i, hi, fun j hj => h j i hj hi⟩, fun h => h.exists⟩

namespace CheckDraft

variable {draft : CheckDraft}

/-- **A check plug-in is accepted exactly if** the placeholder stands at no two places of its
service name, it subscribes to no parsed section twice, and at both stages default parameters and
ruleset are both there or both missing. -/
theorem exists_build_iff : (∃ p, draft.build = .ok p) ↔
    (∀ i j, ServiceName.StandsAt draft.serviceName i → ServiceName.StandsAt draft.serviceName j →
      i = j) ∧
    (Subscription.sections draft.name draft.sections).Nodup ∧
    (draft.discoveryDefaults.isSome ↔ draft.discoveryRuleset.isSome) ∧
    (draft.checkDefaults.isSome ↔ draft.checkRuleset.isSome) := by
  rw [draft.build_failsBy.exists_ok_iff, causes]
  simp only [List.forall_mem_cons, ServiceName.severalItems_absent_iff,
    Subscription.repeats_absent_iff, DefaultParameters.unpaired_absent_iff, List.not_mem_nil,
    false_imp_iff, implies_true, and_true]

/-- A check plug-in that was accepted has an item exactly if the placeholder stands at one place. -/
theorem hasItem_of_build {p : CheckPlugin} (h : draft.build = .ok p) :
    p.hasItem = true ↔ ∃! i, ServiceName.StandsAt draft.serviceName i := by
  rw [CheckPlugin.hasItem, (build_eq_ok_iff.1 h).2.serviceName]
  exact ServiceName.hasItem_iff_existsUnique (exists_build_iff.1 ⟨p, h⟩).1

end CheckDraft

namespace InventoryDraft

variable {draft : InventoryDraft}

/-- **An inventory plug-in is accepted exactly if** it subscribes to no parsed section twice, and
default parameters and ruleset are both there or both missing. -/
theorem exists_build_iff : (∃ p, draft.build = .ok p) ↔
    (Subscription.sections draft.name draft.sections).Nodup ∧
    (draft.inventoryDefaults.isSome ↔ draft.inventoryRuleset.isSome) := by
  rw [draft.build_failsBy.exists_ok_iff, causes]
  simp only [List.forall_mem_cons, Subscription.repeats_absent_iff,
    DefaultParameters.unpaired_absent_iff, List.not_mem_nil, false_imp_iff, implies_true, and_true]

end InventoryDraft

/-! ### What settings come to -/

/-- **What settings come to.**  The settings of a draft add up: all its parsed sections count, and
of everything else what is set last.  A check plug-in is accepted exactly if the placeholder stands
at no two places of its service name, no parsed section is subscribed twice — the one of its own
name counts if there is no other —, and at both stages there are default parameters exactly if there
is a ruleset; otherwise the first of these that is violated is reported.  What is accepted keeps the
order of the parsed sections, and has an item exactly if the placeholder stands at one place.  For
an inventory plug-in it is the same, but without a service name and with one stage. -/
theorem build_setAll_exact :
    (∀ (name : CheckPluginName) (serviceName : String) (discovery : DiscoveryFunction)
        (check : CheckFunction) (settings : List CheckDraft.Setting) (draft : CheckDraft),
      draft = (CheckDraft.start name serviceName discovery check).setAll settings →
        draft =
          { name, serviceName, discovery, check
            sections := settings.flatMap CheckDraft.Setting.addedSections
            discoveryDefaults :=
              (settings.filterMap CheckDraft.Setting.discoveryDefaults?).getLast?
            discoveryRuleset := (settings.filterMap CheckDraft.Setting.discoveryRuleset?).getLast?
            checkDefaults := (settings.filterMap CheckDraft.Setting.checkDefaults?).getLast?
            checkRuleset := (settings.filterMap CheckDraft.Setting.checkRuleset?).getLast? } ∧
        ((∃ p, draft.build = .ok p) ↔
          (∀ i j, ServiceName.StandsAt draft.serviceName i →
            ServiceName.StandsAt draft.serviceName j → i = j) ∧
          (Subscription.sections draft.name draft.sections).Nodup ∧
          (draft.discoveryDefaults.isSome ↔ draft.discoveryRuleset.isSome) ∧
          (draft.checkDefaults.isSome ↔ draft.checkRuleset.isSome)) ∧
        (∀ e, draft.build = .error e ↔ FirstOf draft.causes e) ∧
        ∀ p, draft.build = .ok p → draft.Gives p ∧
          p.sections = Subscription.sections draft.name draft.sections ∧ p.sections ≠ [] ∧
          (p.hasItem = true ↔ ∃! i, ServiceName.StandsAt draft.serviceName i)) ∧
    ∀ (name : InventoryPluginName) (inventory : InventoryFunction)
        (settings : List InventoryDraft.Setting) (draft : InventoryDraft),
      draft = (InventoryDraft.start name inventory).setAll settings →
        draft =
          { name, inventory
            sections := settings.flatMap InventoryDraft.Setting.addedSections
            inventoryDefaults :=
              (settings.filterMap InventoryDraft.Setting.inventoryDefaults?).getLast?
            inventoryRuleset :=
              (settings.filterMap InventoryDraft.Setting.inventoryRuleset?).getLast? } ∧
        ((∃ p, draft.build = .ok p) ↔
          (Subscription.sections draft.name draft.sections).Nodup ∧
          (draft.inventoryDefaults.isSome ↔ draft.inventoryRuleset.isSome)) ∧
        (∀ e, draft.build = .error e ↔ FirstOf draft.causes e) ∧
        ∀ p, draft.build = .ok p → draft.Gives p ∧
          p.sections = Subscription.sections draft.name draft.sections ∧ p.sections ≠ [] := by
  refine ⟨?_, ?_⟩
  · intro name serviceName discovery check settings draft hdraft
    have hsum := hdraft.trans (CheckDraft.setAll_start name serviceName discovery check settings)
    refine ⟨hsum, CheckDraft.exists_build_iff, draft.build_failsBy, ?_⟩
    intro p hp
    have hgives := (CheckDraft.build_eq_ok_iff.1 hp).2
    have hsections : p.sections = Subscription.sections draft.name draft.sections := hgives.sections
    exact ⟨hgives, hsections, hsections ▸ Subscription.sections_ne_nil _ _,
      CheckDraft.hasItem_of_build hp⟩
  · intro name inventory settings draft hdraft
    have hsum := hdraft.trans (InventoryDraft.setAll_start name inventory settings)
    refine ⟨hsum, InventoryDraft.exists_build_iff, draft.build_failsBy, ?_⟩
    intro p hp
    have hgives := (InventoryDraft.build_eq_ok_iff.1 hp).2
    have hsections : p.sections = Subscription.sections draft.name draft.sections := hgives.sections
    exact ⟨hgives, hsections, hsections ▸ Subscription.sections_ne_nil _ _⟩

/-- Settings that fit together, the ruleset of the check set twice. -/
def mountSettings : List CheckDraft.Setting :=
  [.checkRuleset .groups, .sections [.mounts], .checkDefaults [], .sections [.df, .disk],
    .checkRuleset .filesystems]

/-- Settings with two faults: a parsed section again, and default parameters without a ruleset. -/
def mountInventorySettings : List InventoryDraft.Setting :=
  [.sections [.mounts, .df], .inventoryDefaults [], .sections [.df, .mounts]]

/-- A check plug-in that is accepted, and an inventory plug-in that is refused for the first of its
faults. -/
theorem build_setAll_exact_mounts :
    (∃ p, ((CheckDraft.start .mounts "Mount %s" (fun _ _ => []) (fun _ _ _ => [])).setAll
        mountSettings).build = .ok p ∧
      p.sections = [.mounts, .df, .disk] ∧ p.checkRuleset = some .filesystems ∧
      p.hasItem = true) ∧
    ((InventoryDraft.start .mounts (fun _ _ => [])).setAll mountInventorySettings).build =
      .error (.repeatedSection "mounts" .df) := by
  obtain ⟨hcheck, hinventory⟩ := build_setAll_exact
  refine ⟨?_, ?_⟩
  · obtain ⟨-, -, -, hgives⟩ :=
      hcheck .mounts "Mount %s" (fun _ _ => []) (fun _ _ _ => []) mountSettings _ rfl
    have hbuilt : ∃ p, ((CheckDraft.start .mounts "Mount %s" (fun _ _ => [])
        (fun _ _ _ => [])).setAll mountSettings).build = .ok p := ⟨_, rfl⟩
    obtain ⟨p, hp⟩ := hbuilt
    obtain ⟨hparts, hsections, -, -⟩ := hgives p hp
    refine ⟨p, hp, hsections, hparts.checkRuleset, ?_⟩
    rw [CheckPlugin.hasItem, hparts.serviceName]
    decide
  · obtain ⟨-, -, hrefused, -⟩ :=
      hinventory .mounts (fun _ _ => []) mountInventorySettings _ rfl
    refine (hrefused _).2 ⟨[], _, _, rfl, nofun, .df, ?_, rfl⟩
    exact ⟨[.mounts, .df], [.mounts], rfl, by decide, by decide⟩

end MonitoringPlugins
