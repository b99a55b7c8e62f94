/-
**Relevant raw sections.**

The sections that may feed some plug-ins are looked up in the index: the groups of all subscribed
parsed sections are put together.  Two groups might list one name, and then the later one would hide
the other; and the same parsed section is asked for as often as it is subscribed to.  In a coherent
registry neither matters, because every section stands in one group only, as it is found by name.
So what is relevant is said of each section by itself: it is registered, and what it produces is
subscribed to.

Main definitions:

* `MonitoringPlugins.Registry.Subscribes` — some plug-ins subscribe to a parsed section.

Main results:

* `MonitoringPlugins.Registry.Coherent.getElem?_relevantSections` — **a section is relevant exactly
  if it is registered and its parsed section is subscribed to**;
* `MonitoringPlugins.Registry.Coherent.size_relevantSections` — the relevant sections are as many as
  all producers of the subscribed parsed sections together;
* `MonitoringPlugins.Registry.InUse.relevantSections_exact` — both for all registries in use, with
  what follows for repeated, reordered and joined requests.
-/

import Mathlib.Algebra.BigOperators.Group.Finset.Basic
import MonitoringPlugins.Proofs.Coherence

set_option autoImplicit false

namespace MonitoringPlugins.Registry

/-! ### Subscriptions -/

/-- Whether some plug-ins subscribe to a parsed section.  A check plug-in may be registered or
derived for a management board; names without a plug-in do not count. -/
def Subscribes (r : Registry) (checks : List CheckPluginName)
    (inventories : List InventoryPluginName) (parsed : ParsedSectionName) : Prop :=
  (∃ name ∈ checks, ∃ plugin, r.checkPlugin? name = some plugin ∧ parsed ∈ plugin.sections) ∨
    ∃ name ∈ inventories, ∃ plugin,
      r.inventoryPlugin? name = some plugin ∧ parsed ∈ plugin.sections

section Subscribes

variable {r : Registry} {checks moreChecks : List CheckPluginName}
  {inventories moreInventories : List InventoryPluginName} {parsed : ParsedSectionName}

theorem mem_subscriptions :
    parsed ∈ r.subscriptions checks inventories ↔ r.Subscribes checks inventories parsed := by
  unfold subscriptions Subscribes
  rw [List.mem_append, List.mem_flatMap, List.mem_flatMap]
  constructor
  · rintro (⟨plugin, hp, hparsed⟩ | ⟨plugin, hp, hparsed⟩)
    · obtain ⟨name, hname, hfound⟩ := List.mem_filterMap.1 hp
      exact .inl ⟨name, hname, plugin, hfound, hparsed⟩
    · obtain ⟨name, hname, hfound⟩ := List.mem_filterMap.1 hp
      exact .inr ⟨name, hname, plugin, hfound, hparsed⟩
  · rintro (⟨name, hname, plugin, hfound, hparsed⟩ | ⟨name, hname, plugin, hfound, hparsed⟩)
    · exact .inl ⟨plugin, List.mem_filterMap.2 ⟨name, hname, hfound⟩, hparsed⟩
    · exact .inr ⟨plugin, List.mem_filterMap.2 ⟨name, hname, hfound⟩, hparsed⟩

/-- Only which plug-ins are named matters, not in which order or how often. -/
theorem subscribes_congr (hchecks : ∀ name, name ∈ checks ↔ name ∈ moreChecks)
    (hinventories : ∀ name, name ∈ inventories ↔ name ∈ moreInventories) :
    r.Subscribes checks inventories parsed ↔ r.Subscribes moreChecks moreInventories parsed := by
  simp only [Subscribes, hchecks, hinventories]

theorem subscribes_append :
    r.Subscribes (checks ++ moreChecks) (inventories ++ moreInventories) parsed ↔
      r.Subscribes checks inventories parsed ∨ r.Subscribes moreChecks moreInventories parsed := by
  constructor
  · rintro (⟨name, hname, hplugin⟩ | ⟨name, hname, hplugin⟩)
    · rcases List.mem_append.1 hname with h | h
      · exact .inl (.inl ⟨name, h, hplugin⟩)
      · exact .inr (.inl ⟨name, h, hplugin⟩)
    · rcases List.mem_append.1 hname with h | h
      · exact .inl (.inr ⟨name, h, hplugin⟩)
      · exact .inr (.inr ⟨name, h, hplugin⟩)
  · rintro ((⟨name, hname, hplugin⟩ | ⟨name, hname, hplugin⟩) |
      (⟨name, hname, hplugin⟩ | ⟨name, hname, hplugin⟩))
    · exact .inl ⟨name, List.mem_append_left _ hname, hplugin⟩
    · exact .inr ⟨name, List.mem_append_left _ hname, hplugin⟩
    · exact .inl ⟨name, List.mem_append_right _ hname, hplugin⟩
    · exact .inr ⟨name, List.mem_append_right _ hname, hplugin⟩

end Subscribes

/-! ### Groups put together -/

namespace Coherent

variable {r : Registry}

/-- A name is in one group at most, so putting groups together hides nothing. -/
theorem getElem?_foldl_union (h : r.Coherent) (parsedNames : List ParsedSectionName)
    (found : Std.ExtTreeMap SectionName Section) (name : SectionName) :
    (parsedNames.foldl (fun found parsed => found ∪ r.sectionIndex.producers parsed) found)[name]? =
      ((r.findSection? name).filter (·.parsedName ∈ parsedNames)).or found[name]? := by
  induction parsedNames generalizing found with
  | nil => cases r.findSection? name <;> simp
  | cons parsed rest ih =>
      rw [List.foldl_cons, ih, Std.ExtTreeMap.getElem?_union, h.getElem?_producers]
      cases r.findSection? name with
      | none => simp
      | some s =>
          by_cases hrest : s.parsedName ∈ rest
          · simp [Option.filter_some, hrest]
          · by_cases hparsed : s.parsedName = parsed
            · subst hparsed
              simp [Option.filter_some, hrest]
            · simp [Option.filter_some, hrest, hparsed]

/-- **A section is relevant exactly if it is registered and its parsed section is subscribed
to.** -/
theorem getElem?_relevantSections (h : r.Coherent) (checks : List CheckPluginName)
    (inventories : List InventoryPluginName) {name : SectionName} {s : Section} :
    (r.relevantSections checks inventories)[name]? = some s ↔
      r.findSection? name = some s ∧ r.Subscribes checks inventories s.parsedName := by
  rw [relevantSections, h.getElem?_foldl_union, Std.ExtTreeMap.getElem?_empty, Option.or_none,
    Option.filter_eq_some_iff, decide_eq_true_iff, mem_subscriptions]

theorem mem_relevantSections (h : r.Coherent) {checks : List CheckPluginName}
    {inventories : List InventoryPluginName} {name : SectionName} :
    name ∈ r.relevantSections checks inventories ↔
      ∃ parsed ∈ r.subscriptions checks inventories, name ∈ r.producers parsed := by
  rw [Std.ExtTreeMap.mem_iff_isSome_getElem?, Option.isSome_iff_exists]
  constructor
  · rintro ⟨s, hs⟩
    obtain ⟨hfound, hsubscribed⟩ := (h.getElem?_relevantSections checks inventories).1 hs
    exact ⟨s.parsedName, mem_subscriptions.2 hsubscribed, h.mem_producers.2 ⟨s, hfound, rfl⟩⟩
  · rintro ⟨parsed, hparsed, hname⟩
    obtain ⟨s, hfound, rfl⟩ := h.mem_producers.1 hname
    exact ⟨s, (h.getElem?_relevantSections checks inventories).2
      ⟨hfound, mem_subscriptions.1 hparsed⟩⟩

/-- **The relevant sections are as many as all producers of the subscribed parsed sections
together.**  Each parsed section counts once, however often it is subscribed to. -/
theorem size_relevantSections (h : r.Coherent) (checks : List CheckPluginName)
    (inventories : List InventoryPluginName) :
    (r.relevantSections checks inventories).size =
      ∑ parsed ∈ (r.subscriptions checks inventories).toFinset, (r.producers parsed).length := by
  have hkeys : (r.relevantSections checks inventories).keys.toFinset =
      (r.subscriptions checks inventories).toFinset.biUnion
        fun parsed => (r.producers parsed).toFinset := by
    ext name
    simp only [List.mem_toFinset, Std.ExtTreeMap.mem_keys, Finset.mem_biUnion,
      h.mem_relevantSections]
  rw [← card_keys, hkeys, Finset.card_biUnion]
  · refine Finset.sum_congr rfl fun parsed _ => ?_
    exact List.toFinset_card_of_nodup Std.ExtTreeMap.nodup_keys
  · -- two groups do not share a name, since a section produces one thing only
    intro parsed _ other _ hne
    rw [Function.onFun, Finset.disjoint_left]
    intro name hname hother
    obtain ⟨s, hs, rfl⟩ := h.mem_producers.1 (List.mem_toFinset.1 hname)
    obtain ⟨t, ht, rfl⟩ := h.mem_producers.1 (List.mem_toFinset.1 hother)
    rw [hs] at ht
    cases ht
    exact hne rfl

/-- Joined requests are answered by the two answers put together. -/
theorem relevantSections_append (h : r.Coherent) (checks more : List CheckPluginName)
    (inventories moreInventories : List InventoryPluginName) :
    r.relevantSections (checks ++ more) (inventories ++ moreInventories) =
      r.relevantSections checks inventories ∪ r.relevantSections more moreInventories := by
  ext name s
  rw [Std.ExtTreeMap.getElem?_union, h.getElem?_relevantSections, subscribes_append]
  cases hmore : (r.relevantSections more moreInventories)[name]? with
  | none =>
      rw [Option.none_or, h.getElem?_relevantSections]
      constructor
      · rintro ⟨hfound, hfirst | hsecond⟩
        · exact ⟨hfound, hfirst⟩
        · have hthere := (h.getElem?_relevantSections more moreInventories).2 ⟨hfound, hsecond⟩
          rw [hmore] at hthere
          cases hthere
      · rintro ⟨hfound, hfirst⟩
        exact ⟨hfound, .inl hfirst⟩
  | some t =>
      -- the second answer wins, but it holds the same section
      obtain ⟨hfound, hsecond⟩ := (h.getElem?_relevantSections more moreInventories).1 hmore
      rw [Option.some_or]
      constructor
      · rintro ⟨hs, -⟩
        rw [← hs, hfound]
      · intro ht
        cases ht
        exact ⟨hfound, .inr hsecond⟩

end Coherent

/-! ### All registries -/

/-- **The relevant sections are exactly the registered ones that produce what is subscribed to.**
All producers are there, each as it is registered, and none is counted twice; which plug-ins are
named matters, but not in which order or how often; and a joined request is answered by the two
answers put together. -/
theorem InUse.relevantSections_exact {r : Registry} (h : r.InUse) (checks : List CheckPluginName)
    (inventories : List InventoryPluginName) :
    (∀ (name : SectionName) (s : Section),
      (r.relevantSections checks inventories)[name]? = some s ↔
        r.findSection? name = some s ∧ r.Subscribes checks inventories s.parsedName) ∧
    (∀ parsed, r.Subscribes checks inventories parsed → ∀ (name : SectionName) (s : Section),
      (r.sectionIndex.producers parsed)[name]? = some s →
        (r.relevantSections checks inventories)[name]? = some s) ∧
    (r.relevantSections checks inventories).size =
      ∑ parsed ∈ (r.subscriptions checks inventories).toFinset, (r.producers parsed).length ∧
    (∀ (others : List CheckPluginName) (otherInventories : List InventoryPluginName),
      (∀ name, name ∈ checks ↔ name ∈ others) →
      (∀ name, name ∈ inventories ↔ name ∈ otherInventories) →
        r.relevantSections checks inventories = r.relevantSections others otherInventories) ∧
    ∀ (more : List CheckPluginName) (moreInventories : List InventoryPluginName),
      r.relevantSections (checks ++ more) (inventories ++ moreInventories) =
        r.relevantSections checks inventories ∪ r.relevantSections more moreInventories := by
  have hr := h.reachable.coherent
  refine ⟨fun name s => hr.getElem?_relevantSections checks inventories, ?_,
    hr.size_relevantSections checks inventories, ?_, ?_⟩
  · intro parsed hparsed name s hs
    obtain ⟨hfound, rfl⟩ := (hr.indexed parsed name s).1 hs
    exact (hr.getElem?_relevantSections checks inventories).2 ⟨hfound, hparsed⟩
  · intro others otherInventories hchecks hinventories
    ext name s
    rw [hr.getElem?_relevantSections, hr.getElem?_relevantSections,
      subscribes_congr hchecks hinventories]
  · intro more moreInventories
    exact hr.relevantSections_append checks more inventories moreInventories

/-- Two sections that compete, and a check plug-in that subscribes to what they produce; a section
that only an inventory plug-in asks for, and one that nobody asks for. -/
def competingRun : List Operation :=
  [.registration (.addSection (.agent (.silent .df .disk))),
    .registration (.addSection (.snmp (.silent .disk .disk))),
    .registration (.addSection (.agent (.silent .mounts .mounts))),
    .registration (.addSection (.agent (.silent .groups .groups))),
    .registration (.addCheck (.idle .disk "Filesystem %s" .filesystems)),
    .registration (.addInventory (.idle .mounts))]

/-- The plug-in of the management board, and one that nobody knows. -/
def competingRequest : List CheckPluginName := [⟨"mgmt_disk", by decide⟩, .groups]

/-- The inventory plug-in, after one that nobody knows. -/
def competingInventories : List InventoryPluginName := [.groups, .mounts]

/-- The competing sections are relevant and so is the one for the inventory, also if the plug-ins
are asked for repeatedly and in another order; the section with the name of the unknown plug-ins is
not. -/
theorem InUse.relevantSections_exact_competingRun :
    let r := empty.run competingRun
    let relevant := r.relevantSections competingRequest competingInventories
    r.InUse ∧ relevant[(.disk : SectionName)]? = some (.snmp (.silent .disk .disk)) ∧
      relevant[(.mounts : SectionName)]? = some (.agent (.silent .mounts .mounts)) ∧
      relevant[(.groups : SectionName)]? = none ∧ relevant.size = 3 ∧
      relevant = r.relevantSections (competingRequest.reverse ++ competingRequest)
        (competingInventories.reverse ++ competingInventories) := by
  have huse : (empty.run competingRun).InUse := .reached ⟨competingRun, rfl⟩
  obtain ⟨hexact, -, hsize, hcongr, -⟩ :=
    huse.relevantSections_exact competingRequest competingInventories
  have hdisk : (empty.run competingRun).Subscribes competingRequest competingInventories .disk :=
    .inl ⟨⟨"mgmt_disk", by decide⟩, List.mem_cons_self, _, rfl, List.mem_cons_self⟩
  have hmounts :
      (empty.run competingRun).Subscribes competingRequest competingInventories .mounts :=
    .inr ⟨.mounts, List.mem_cons_of_mem _ List.mem_cons_self, _, rfl, List.mem_cons_self⟩
  refine ⟨huse, (hexact _ _).2 ⟨by rfl, hdisk⟩, (hexact _ _).2 ⟨by rfl, hmounts⟩, by rfl,
    hsize.trans (by rfl), hcongr _ _ ?_ ?_⟩
  · intro name
    rw [List.mem_append, List.mem_reverse, or_self]
  · intro name
    rw [List.mem_append, List.mem_reverse, or_self]

end MonitoringPlugins.Registry
