/-
**Which drafts are accepted.**

A draft holds the parts of a definition as they are asked for.  It is refused if they do not fit
together: a service name has room for two items, a parsed section is subscribed twice, default
parameters lack their ruleset or a ruleset its parameters, a section supersedes itself, or an SNMP
section has nothing to fetch.  These are looked for one after the other, and the first one found is
reported.  For acceptance the order makes no difference, and this module says so: a draft is
accepted exactly if nothing of the kind is the case, and the definition then has the parts of the
draft, each in its place.

Main definitions:

* `MonitoringPlugins.CheckDraft.Valid`, `MonitoringPlugins.InventoryDraft.Valid` — the parts of a
  draft fit together;
* `MonitoringPlugins.SectionDraft.Gives`, `MonitoringPlugins.CheckDraft.Gives`,
  `MonitoringPlugins.InventoryDraft.Gives` — a definition has the parts of a draft.

Main results:

* `MonitoringPlugins.AgentSection.build_eq_ok_iff`, `MonitoringPlugins.SnmpSection.build_eq_ok_iff`,
  `MonitoringPlugins.CheckDraft.build_eq_ok_iff`, `MonitoringPlugins.InventoryDraft.build_eq_ok_iff`
  — **what is accepted, and what it becomes**.
-/

import MonitoringPlugins.Plugin.Check
import MonitoringPlugins.Plugin.Inventory

set_option autoImplicit false

namespace MonitoringPlugins

/-! ### Steps that may fail -/

section Steps

variable {ε ε' α β : Type}

/-- Two steps succeed if the first one does and the second one does after it. -/
theorem bind_eq_ok_iff {x : Except ε α} {f : α → Except ε β} {b : β} :
    (x >>= f) = .ok b ↔ ∃ a, x = .ok a ∧ f a = .ok b := by
  cases x with
  | error e => exact ⟨nofun, nofun⟩
  | ok a =>
      constructor
      · intro h
        exact ⟨a, rfl, h⟩
      · rintro ⟨a', ha, h⟩
        cases ha
        exact h

theorem map_eq_ok_iff {x : Except ε α} {f : α → β} {b : β} :
    x.map f = .ok b ↔ ∃ a, x = .ok a ∧ f a = b := by
  cases x with
  | error e => exact ⟨nofun, nofun⟩
  | ok a => simp [Except.map]

/-- Reporting an error differently does not make it go away. -/
theorem mapError_eq_ok_iff {x : Except ε α} {f : ε → ε'} {a : α} :
    x.mapError f = .ok a ↔ x = .ok a := by
  cases x with
  | error e => exact ⟨nofun, nofun⟩
  | ok b => exact ⟨fun h => congrArg Except.ok (Except.ok.inj h),
      fun h => congrArg Except.ok (Except.ok.inj h)⟩

end Steps

/-! ### Subscriptions and parameters -/

/-- **A subscription is accepted exactly if nothing is repeated.** -/
theorem Subscription.of_eq_ok_iff {kind : NameKind} {plugin : Name kind}
    {declared sections : List ParsedSectionName} :
    Subscription.of plugin declared = .ok sections ↔ declared.Nodup ∧
      sections = if declared = [] then [plugin.toParsedSection] else declared := by
  have hone : (if declared = [] then [plugin.toParsedSection] else declared).Nodup ↔
      declared.Nodup := by
    split
    · next h => simp [h]
    · rfl
  rw [← hone, ← firstRepeated_eq_none_iff, Subscription.of]
  split
  · next parsed hrepeated => simp [hrepeated]
  · next hnone => simp [hnone, eq_comm]

/-- **Default parameters and ruleset are paired as they are given.**  Where one of them is missing,
there is no pair that has the other. -/
theorem DefaultParameters.pair_eq_ok_iff {plugin : String} {stage : Stage}
    {values : Option Parameters} {ruleset : Option RulesetName} {pair : Option DefaultParameters} :
    DefaultParameters.pair plugin stage values ruleset = .ok pair ↔
      pair.map (·.values) = values ∧ pair.map (·.ruleset) = ruleset := by
  cases values with
  | none =>
      cases ruleset with
      | none => cases pair <;> simp [DefaultParameters.pair]
      | some name => cases pair <;> simp [DefaultParameters.pair]
  | some table =>
      cases ruleset with
      | none => cases pair <;> simp [DefaultParameters.pair]
      | some name =>
          cases pair with
          | none => simp [DefaultParameters.pair]
          | some both =>
              obtain ⟨ruleset, values⟩ := both
              simp [DefaultParameters.pair, and_comm, eq_comm]

/-- There is a pair as soon as both are given or both are absent. -/
theorem DefaultParameters.exists_pair {values : Option Parameters} {ruleset : Option RulesetName}
    (h : values.isSome = ruleset.isSome) :
    ∃ pair : Option DefaultParameters,
      pair.map (·.values) = values ∧ pair.map (·.ruleset) = ruleset := by
  cases values with
  | none =>
      cases ruleset with
      | none => exact ⟨none, rfl, rfl⟩
      | some name => cases h
  | some table =>
      cases ruleset with
      | none => cases h
      | some name => exact ⟨some ⟨name, table⟩, rfl, rfl⟩

/-! ### Sections -/

/-- **A profile has the parts of a draft**: the parsed section is the one of its own name unless the
draft says otherwise, and superseded sections form a set. -/
structure SectionDraft.Gives (draft : SectionDraft) (p : SectionProfile) : Prop where
  name : p.name = draft.name
  parsedName : p.parsedName = draft.parsedName.getD draft.name.toParsedSection
  hostLabelRuleset : p.hostLabelRuleset = draft.hostLabelRuleset
  supersedes : ∀ name : SectionName, name ∈ p.supersedes ↔ name ∈ draft.supersedes

theorem SectionProfile.ofDraft_eq_ok_iff_gives {draft : SectionDraft} {p : SectionProfile} :
    SectionProfile.ofDraft draft = .ok p ↔ draft.name ∉ draft.supersedes ∧ draft.Gives p := by
  have hset (name : SectionName) :
      name ∈ Std.ExtTreeSet.ofList draft.supersedes ↔ name ∈ draft.supersedes := by
    rw [Std.ExtTreeSet.mem_ofList, List.contains_iff_mem]
  rw [SectionProfile.ofDraft_eq_ok_iff]
  refine and_congr_right fun _ => ?_
  constructor
  · rintro rfl
    exact ⟨rfl, rfl, rfl, hset⟩
  · intro h
    have hsupersedes : p.supersedes = Std.ExtTreeSet.ofList draft.supersedes :=
      Std.ExtTreeSet.ext_mem fun name => (h.supersedes name).trans (hset name).symm
    rw [← h.parsedName, ← h.name, ← h.hostLabelRuleset, ← hsupersedes]

theorem SectionDraft.exists_gives {draft : SectionDraft} (h : draft.name ∉ draft.supersedes) :
    ∃ p, draft.Gives p := by
  obtain ⟨p, hp⟩ : ∃ p, SectionProfile.ofDraft draft = .ok p := ⟨_, if_neg h⟩
  exact ⟨p, (SectionProfile.ofDraft_eq_ok_iff_gives.1 hp).2⟩

/-- **An agent section is accepted exactly if it does not supersede itself.** -/
theorem AgentSection.build_eq_ok_iff {serial : Nat} {draft : SectionDraft} {parse : AgentParser}
    {s : AgentSection} :
    AgentSection.build serial draft parse = .ok s ↔ draft.name ∉ draft.supersedes ∧
      draft.Gives s.toSectionProfile ∧ s.parse = parse ∧ s.serial = serial := by
  rw [AgentSection.build, bind_eq_ok_iff]
  constructor
  · rintro ⟨profile, hprofile, h⟩
    obtain ⟨hself, hgives⟩ := SectionProfile.ofDraft_eq_ok_iff_gives.1 hprofile
    cases h
    exact ⟨hself, hgives, rfl, rfl⟩
  · rintro ⟨hself, hgives, rfl, rfl⟩
    exact ⟨s.toSectionProfile, SectionProfile.ofDraft_eq_ok_iff_gives.2 ⟨hself, hgives⟩, rfl⟩

/-- **An SNMP section is accepted exactly if it does not supersede itself, fetches something, and
all that it fetches has columns.** -/
theorem SnmpSection.build_eq_ok_iff {serial : Nat} {draft : SectionDraft} {fetch : List SnmpTree}
    {detect : Detection} {parse : SnmpParser} {s : SnmpSection} :
    SnmpSection.build serial draft fetch detect parse = .ok s ↔
      (fetch ≠ [] ∧ (∀ tree ∈ fetch, tree.oids ≠ []) ∧ draft.name ∉ draft.supersedes) ∧
        draft.Gives s.toSectionProfile ∧ s.fetch = fetch ∧ s.detect = detect ∧ s.parse = parse ∧
          s.serial = serial := by
  have hcolumns : fetch.find? (·.oids = []) = none ↔ ∀ tree ∈ fetch, tree.oids ≠ [] := by
    simp
  rw [← hcolumns, SnmpSection.build]
  dsimp only
  by_cases hfetch : fetch = []
  · rw [if_pos hfetch]
    exact ⟨nofun, fun h => absurd hfetch h.1.1⟩
  · rw [if_neg hfetch]
    cases fetch.find? (·.oids = []) with
    | some tree => exact ⟨nofun, fun h => nomatch h.1.2.1⟩
    | none =>
        dsimp only
        rw [bind_eq_ok_iff]
        constructor
        · rintro ⟨profile, hprofile, h⟩
          obtain ⟨hself, hgives⟩ := SectionProfile.ofDraft_eq_ok_iff_gives.1 hprofile
          cases h
          exact ⟨⟨hfetch, rfl, hself⟩, hgives, rfl, rfl, rfl, rfl⟩
        · rintro ⟨⟨-, -, hself⟩, hgives, rfl, rfl, rfl, rfl⟩
          exact ⟨s.toSectionProfile, SectionProfile.ofDraft_eq_ok_iff_gives.2 ⟨hself, hgives⟩, rfl⟩

/-! ### Check plug-ins -/

namespace CheckDraft

/-- **The parts of a check plug-in fit together.** -/
structure Valid (draft : CheckDraft) : Prop where
  oneItem : ¬ServiceName.HoldsTwice draft.serviceName
  sections : draft.sections.Nodup
  discovery : draft.discoveryDefaults.isSome = draft.discoveryRuleset.isSome
  check : draft.checkDefaults.isSome = draft.checkRuleset.isSome

/-- **A check plug-in has the parts of a draft**, and subscribes to the parsed section of its own
name if the draft names none. -/
structure Gives (draft : CheckDraft) (p : CheckPlugin) : Prop where
  name : p.name = draft.name
  sections : p.sections =
    if draft.sections = [] then [draft.name.toParsedSection] else draft.sections
  serviceName : p.serviceName = draft.serviceName
  discovery : p.discovery = draft.discovery
  discoveryDefaults : p.discoveryDefaults.map (·.values) = draft.discoveryDefaults
  discoveryRuleset : p.discoveryRuleset = draft.discoveryRuleset
  check : p.check = draft.check
  checkDefaults : p.checkDefaults.map (·.values) = draft.checkDefaults
  checkRuleset : p.checkRuleset = draft.checkRuleset

/-- **A draft is accepted exactly if its parts fit together**, and becomes the plug-in that has
them. -/
theorem build_eq_ok_iff {draft : CheckDraft} {p : CheckPlugin} :
    draft.build = .ok p ↔ draft.Valid ∧ draft.Gives p := by
  rw [build]
  dsimp only
  by_cases hitems : ServiceName.hasSeveralItems draft.serviceName = true
  · rw [if_pos hitems]
    exact ⟨nofun, fun h => absurd (ServiceName.hasSeveralItems_iff.1 hitems) h.1.oneItem⟩
  · rw [if_neg hitems]
    constructor
    · intro h
      obtain ⟨sections, hsections, h⟩ := bind_eq_ok_iff.1 h
      obtain ⟨discovery, hdiscovery, h⟩ := bind_eq_ok_iff.1 h
      obtain ⟨check, hcheck, h⟩ := bind_eq_ok_iff.1 h
      cases h
      obtain ⟨hnodup, hsections⟩ := Subscription.of_eq_ok_iff.1 hsections
      obtain ⟨hdvalues, hdruleset⟩ := DefaultParameters.pair_eq_ok_iff.1 hdiscovery
      obtain ⟨hcvalues, hcruleset⟩ := DefaultParameters.pair_eq_ok_iff.1 hcheck
      refine ⟨⟨fun htwice => hitems (ServiceName.hasSeveralItems_iff.2 htwice), hnodup, ?_, ?_⟩,
        rfl, hsections, rfl, rfl, hdvalues, hdruleset, rfl, hcvalues, hcruleset⟩
      · rw [← hdvalues, ← hdruleset, Option.isSome_map, Option.isSome_map]
      · rw [← hcvalues, ← hcruleset, Option.isSome_map, Option.isSome_map]
    · rintro ⟨hvalid, hgives⟩
      refine bind_eq_ok_iff.2 ⟨p.sections,
        Subscription.of_eq_ok_iff.2 ⟨hvalid.sections, hgives.sections⟩, ?_⟩
      refine bind_eq_ok_iff.2 ⟨p.discoveryDefaults,
        DefaultParameters.pair_eq_ok_iff.2 ⟨hgives.discoveryDefaults, hgives.discoveryRuleset⟩, ?_⟩
      refine bind_eq_ok_iff.2 ⟨p.checkDefaults,
        DefaultParameters.pair_eq_ok_iff.2 ⟨hgives.checkDefaults, hgives.checkRuleset⟩, ?_⟩
      rw [← hgives.name, ← hgives.serviceName, ← hgives.discovery, ← hgives.check]
      rfl

theorem Valid.exists_gives {draft : CheckDraft} (h : draft.Valid) : ∃ p, draft.Gives p := by
  obtain ⟨discovery, hdvalues, hdruleset⟩ := DefaultParameters.exists_pair h.discovery
  obtain ⟨check, hcvalues, hcruleset⟩ := DefaultParameters.exists_pair h.check
  exact ⟨⟨draft.name, _, draft.serviceName, draft.discovery, discovery, draft.check, check⟩,
    rfl, rfl, rfl, rfl, hdvalues, hdruleset, rfl, hcvalues, hcruleset⟩

end CheckDraft

/-! ### Inventory plug-ins -/

namespace InventoryDraft

/-- **The parts of an inventory plug-in fit together.** -/
structure Valid (draft : InventoryDraft) : Prop where
  sections : draft.sections.Nodup
  inventory : draft.inventoryDefaults.isSome = draft.inventoryRuleset.isSome

/-- **An inventory plug-in has the parts of a draft**, and subscribes to the parsed section of its
own name if the draft names none. -/
structure Gives (draft : InventoryDraft) (p : InventoryPlugin) : Prop where
  name : p.name = draft.name
  sections : p.sections =
    if draft.sections = [] then [draft.name.toParsedSection] else draft.sections
  inventory : p.inventory = draft.inventory
  inventoryDefaults : p.inventoryDefaults.map (·.values) = draft.inventoryDefaults
  inventoryRuleset : p.inventoryRuleset = draft.inventoryRuleset

/-- **A draft is accepted exactly if its parts fit together**, and becomes the plug-in that has
them. -/
theorem build_eq_ok_iff {draft : InventoryDraft} {p : InventoryPlugin} :
    draft.build = .ok p ↔ draft.Valid ∧ draft.Gives p := by
  rw [build]
  constructor
  · intro h
    obtain ⟨sections, hsections, h⟩ := bind_eq_ok_iff.1 h
    obtain ⟨inventory, hinventory, h⟩ := bind_eq_ok_iff.1 h
    cases h
    obtain ⟨hnodup, hsections⟩ := Subscription.of_eq_ok_iff.1 hsections
    obtain ⟨hvalues, hruleset⟩ := DefaultParameters.pair_eq_ok_iff.1 hinventory
    refine ⟨⟨hnodup, ?_⟩, rfl, hsections, rfl, hvalues, hruleset⟩
    rw [← hvalues, ← hruleset, Option.isSome_map, Option.isSome_map]
  · rintro ⟨hvalid, hgives⟩
    refine bind_eq_ok_iff.2 ⟨p.sections,
      Subscription.of_eq_ok_iff.2 ⟨hvalid.sections, hgives.sections⟩, ?_⟩
    refine bind_eq_ok_iff.2 ⟨p.inventoryDefaults,
      DefaultParameters.pair_eq_ok_iff.2 ⟨hgives.inventoryDefaults, hgives.inventoryRuleset⟩, ?_⟩
    rw [← hgives.name, ← hgives.inventory]
    rfl

theorem Valid.exists_gives {draft : InventoryDraft} (h : draft.Valid) : ∃ p, draft.Gives p := by
  obtain ⟨inventory, hvalues, hruleset⟩ := DefaultParameters.exists_pair h.inventory
  exact ⟨⟨draft.name, _, draft.inventory, inventory⟩, rfl, rfl, rfl, hvalues, hruleset⟩

end InventoryDraft

end MonitoringPlugins
