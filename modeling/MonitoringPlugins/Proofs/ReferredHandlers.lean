/-
**The handlers that a manifest refers to.**

A handler table is filled by registrations, and a manifest reads it under a few names.  So two
things settle what linking sees of a table: for each kind of function and each name, the function
that was registered last, and of these only the ones that the manifest refers to.  Two tables that
agree there cannot be told apart by linking it, neither by the definitions nor by the error.

Main definitions:

* `MonitoringPlugins.Handler.kind`, `MonitoringPlugins.Handler.ofFunction` — handlers by their kind;
* `MonitoringPlugins.HandlerTable.Concerns` — a registration is about a name of a kind;
* `MonitoringPlugins.HandlerTable.RegisteredLast` — **the function that counts**;
* `MonitoringPlugins.Manifest.references` — what a manifest reads of a table.

Main results:

* `MonitoringPlugins.HandlerTable.lookup_ofHandlers_eq_some_iff`,
  `MonitoringPlugins.HandlerTable.lookup_ofHandlers_filter` — a name resolves to the function
  registered last, and other registrations do not matter;
* `MonitoringPlugins.Manifest.link_congr` — **linking reads nothing but the references**;
* `MonitoringPlugins.Manifest.link_by_references` — both together.
-/

import Mathlib.Data.List.Induction
import MonitoringPlugins.Handler.Stock
import MonitoringPlugins.Manifest.Linked

set_option autoImplicit false

namespace MonitoringPlugins

/-! ### Handlers by their kind -/

namespace Handler

/-- The kind of a handler. -/
def kind : Handler → HandlerKind
  | agentParse _ => .agentParse
  | snmpParse _ => .snmpParse
  | discovery _ => .discovery
  | check _ => .check
  | inventory _ => .inventory

/-- A function of a kind, as a handler. -/
def ofFunction : (kind : HandlerKind) → kind.Function → Handler
  | .agentParse, f => agentParse f
  | .snmpParse, f => snmpParse f
  | .discovery, f => discovery f
  | .check, f => check f
  | .inventory, f => inventory f

@[simp] theorem kind_ofFunction (k : HandlerKind) (f : k.Function) : (ofFunction k f).kind = k := by
  cases k <;> rfl

theorem as?_eq_some_iff {h : Handler} {k : HandlerKind} {f : k.Function} :
    h.as? k = some f ↔ h = ofFunction k f := by
  cases h <;> cases k <;> simp [as?, ofFunction]

theorem as?_eq_none_iff {h : Handler} {k : HandlerKind} : h.as? k = none ↔ h.kind ≠ k := by
  cases h <;> cases k <;> simp [as?, kind]

end Handler

/-! ### What a table resolves -/

namespace HandlerTable

/-- A registration is about a name of a kind. -/
def Concerns (k : HandlerKind) (name : String) (entry : String × Handler) : Prop :=
  entry.1 = name ∧ entry.2.kind = k

instance (k : HandlerKind) (name : String) (entry : String × Handler) :
    Decidable (Concerns k name entry) := inferInstanceAs (Decidable (_ ∧ _))

/-- **The function that counts**: it is registered under the name, and none of its kind is
registered under the name after it. -/
def RegisteredLast (handlers : List (String × Handler)) (k : HandlerKind) (name : String)
    (f : k.Function) : Prop :=
  ∃ before after, handlers = before ++ (name, .ofFunction k f) :: after ∧
    ∀ entry ∈ after, ¬Concerns k name entry

variable {handlers : List (String × Handler)} {k : HandlerKind} {name : String} {f : k.Function}

theorem ofHandlers_append_singleton (handlers : List (String × Handler))
    (entry : String × Handler) :
    ofHandlers (handlers ++ [entry]) = (ofHandlers handlers).register entry.1 entry.2 := by
  rw [ofHandlers, List.foldl_append]
  rfl

/-- One more registration counts for the name and kind that it is about. -/
theorem lookup_append_of_concerns {handler : Handler} (h : Concerns k name (name, handler)) :
    (ofHandlers (handlers ++ [(name, handler)])).lookup k name = handler.as? k := by
  rw [ofHandlers_append_singleton, lookup_register, if_pos rfl]
  cases hf : handler.as? k with
  | none => exact absurd h.2 (Handler.as?_eq_none_iff.1 hf)
  | some g => rfl

/-- For all others it changes nothing. -/
theorem lookup_append_of_not_concerns {entry : String × Handler} (h : ¬Concerns k name entry) :
    (ofHandlers (handlers ++ [entry])).lookup k name = (ofHandlers handlers).lookup k name := by
  rw [ofHandlers_append_singleton, lookup_register]
  split
  · next hname =>
    have hkind : entry.2.kind ≠ k := fun hkind => h ⟨hname, hkind⟩
    rw [Handler.as?_eq_none_iff.2 hkind, Option.none_or]
  · rfl

theorem lookup_append_of_forall_not_concerns {after : List (String × Handler)}
    (h : ∀ entry ∈ after, ¬Concerns k name entry) :
    (ofHandlers (handlers ++ after)).lookup k name = (ofHandlers handlers).lookup k name := by
  induction after generalizing handlers with
  | nil => rw [List.append_nil]
  | cons entry rest ih =>
      obtain ⟨hfirst, hrest⟩ := List.forall_mem_cons.1 h
      rw [← List.singleton_append, ← List.append_assoc, ih hrest,
        lookup_append_of_not_concerns hfirst]

/-- **A name resolves to the function that was registered last**, among those of its kind. -/
theorem lookup_ofHandlers_eq_some_iff :
    (ofHandlers handlers).lookup k name = some f ↔ RegisteredLast handlers k name f := by
  constructor
  · intro h
    induction handlers using List.reverseRecOn with
    | nil => exact absurd h (by simp [ofHandlers])
    | append_singleton rest entry ih =>
        by_cases hentry : Concerns k name entry
        · obtain ⟨other, handler⟩ := entry
          obtain rfl : other = name := hentry.1
          rw [lookup_append_of_concerns hentry] at h
          exact ⟨rest, [], by rw [Handler.as?_eq_some_iff.1 h], nofun⟩
        · rw [lookup_append_of_not_concerns hentry] at h
          obtain ⟨before, after, rfl, hafter⟩ := ih h
          refine ⟨before, after ++ [entry], by simp, ?_⟩
          intro e he
          rcases List.mem_append.1 he with he | he
          · exact hafter e he
          · obtain rfl := List.mem_singleton.1 he
            exact hentry
  · rintro ⟨before, after, rfl, hafter⟩
    have hlast : Concerns k name (name, .ofFunction k f) := ⟨rfl, Handler.kind_ofFunction k f⟩
    rw [List.append_cons, lookup_append_of_forall_not_concerns hafter,
      lookup_append_of_concerns hlast, Handler.as?_eq_some_iff]

/-- **Registrations under other names or of other kinds do not matter.** -/
theorem lookup_ofHandlers_filter :
    (ofHandlers (handlers.filter (Concerns k name ·))).lookup k name =
      (ofHandlers handlers).lookup k name := by
  induction handlers using List.reverseRecOn with
  | nil => rfl
  | append_singleton rest entry ih =>
      rw [List.filter_append]
      by_cases hentry : Concerns k name entry
      · have hkeep : [entry].filter (Concerns k name ·) = [entry] := by simp [hentry]
        obtain ⟨other, handler⟩ := entry
        obtain rfl : other = name := hentry.1
        rw [hkeep, lookup_append_of_concerns hentry, lookup_append_of_concerns hentry]
      · have hdrop : [entry].filter (Concerns k name ·) = [] := by simp [hentry]
        rw [hdrop, List.append_nil, ih, lookup_append_of_not_concerns hentry]

end HandlerTable

/-! ### What a manifest reads -/

/-- The functions that an entry refers to, by kind and name. -/
def AgentSectionEntry.references (e : AgentSectionEntry) : List (HandlerKind × String) :=
  [(.agentParse, e.parseFunction)]

/-- The functions that an entry refers to, by kind and name. -/
def SnmpSectionEntry.references (e : SnmpSectionEntry) : List (HandlerKind × String) :=
  [(.snmpParse, e.parseFunction)]

/-- The functions that an entry refers to, by kind and name. -/
def CheckEntry.references (e : CheckEntry) : List (HandlerKind × String) :=
  [(.discovery, e.discoveryFunction), (.check, e.checkFunction)]

/-- The functions that an entry refers to, by kind and name. -/
def InventoryEntry.references (e : InventoryEntry) : List (HandlerKind × String) :=
  [(.inventory, e.inventoryFunction)]

/-- **The functions that a manifest refers to**, by kind and name. -/
def Manifest.references (m : Manifest) : List (HandlerKind × String) :=
  m.agentSections.flatMap AgentSectionEntry.references ++
    m.snmpSections.flatMap SnmpSectionEntry.references ++
    m.checkPlugins.flatMap CheckEntry.references ++
    m.inventoryPlugins.flatMap InventoryEntry.references

namespace HandlerTable

/-- Two tables resolve some references alike: to the same functions, or both to none. -/
def AgreeOn (s t : HandlerTable) (references : List (HandlerKind × String)) : Prop :=
  ∀ reference ∈ references, s.lookup reference.1 reference.2 = t.lookup reference.1 reference.2

variable {s t : HandlerTable} {references : List (HandlerKind × String)}

theorem agreeOn_append {more : List (HandlerKind × String)} :
    s.AgreeOn t (references ++ more) ↔ s.AgreeOn t references ∧ s.AgreeOn t more :=
  List.forall_mem_append

theorem agreeOn_flatMap {α : Type} {entries : List α} {f : α → List (HandlerKind × String)} :
    s.AgreeOn t (entries.flatMap f) ↔ ∀ e ∈ entries, s.AgreeOn t (f e) := by
  simp only [AgreeOn, List.mem_flatMap]
  exact ⟨fun h e he r hr => h r ⟨e, he, hr⟩, fun h r ⟨e, he, hr⟩ => h e he r hr⟩

theorem AgreeOn.resolve_eq (h : s.AgreeOn t references) {k : HandlerKind} {handler : String}
    (hmem : (k, handler) ∈ references) (plugin : String) :
    s.resolve k plugin handler = t.resolve k plugin handler := by
  rw [resolve, resolve, h _ hmem]

end HandlerTable

/-! ### Linking -/

section Linking

variable {s t : HandlerTable}

theorem AgentSectionEntry.link_congr {e : AgentSectionEntry} (h : s.AgreeOn t e.references)
    (serial : Nat) : e.link s serial = e.link t serial := by
  rw [link, link, h.resolve_eq (by simp [references])]

theorem SnmpSectionEntry.link_congr {e : SnmpSectionEntry} (h : s.AgreeOn t e.references)
    (serial : Nat) : e.link s serial = e.link t serial := by
  rw [link, link, h.resolve_eq (by simp [references])]

theorem CheckEntry.linkedDraft_congr {e : CheckEntry} (h : s.AgreeOn t e.references) :
    e.linkedDraft s = e.linkedDraft t := by
  have hdiscovery : s.resolve .discovery e.name e.discoveryFunction =
      t.resolve .discovery e.name e.discoveryFunction := h.resolve_eq (by simp [references]) e.name
  have hcheck : s.resolve .check e.name e.checkFunction =
      t.resolve .check e.name e.checkFunction := h.resolve_eq (by simp [references]) e.name
  rw [linkedDraft, linkedDraft, hdiscovery, hcheck]

theorem CheckEntry.link_congr {e : CheckEntry} (h : s.AgreeOn t e.references) :
    e.link s = e.link t := by
  rw [link, link, linkedDraft_congr h]

theorem InventoryEntry.linkedDraft_congr {e : InventoryEntry} (h : s.AgreeOn t e.references) :
    e.linkedDraft s = e.linkedDraft t := by
  rw [linkedDraft, linkedDraft, h.resolve_eq (by simp [references])]

theorem InventoryEntry.link_congr {e : InventoryEntry} (h : s.AgreeOn t e.references) :
    e.link s = e.link t := by
  rw [link, link, linkedDraft_congr h]

/-- Steps that do the same on every element do the same on the list. -/
theorem mapM_congr {ε α β : Type} {f g : α → Except ε β} {xs : List α}
    (h : ∀ x ∈ xs, f x = g x) : xs.mapM f = xs.mapM g := by
  induction xs with
  | nil => rfl
  | cons x rest ih =>
      obtain ⟨hfirst, hrest⟩ := List.forall_mem_cons.1 h
      rw [List.mapM_cons, List.mapM_cons, hfirst, ih hrest]

/-- **Linking reads nothing but the references**: tables that agree on them give the same
definitions, or the same error. -/
theorem Manifest.link_congr {m : Manifest} (h : s.AgreeOn t m.references) (firstSerial : Nat) :
    m.link s firstSerial = m.link t firstSerial := by
  obtain ⟨h, hinventory⟩ := HandlerTable.agreeOn_append.1 h
  obtain ⟨h, hcheck⟩ := HandlerTable.agreeOn_append.1 h
  obtain ⟨hagent, hsnmp⟩ := HandlerTable.agreeOn_append.1 h
  have hagent := HandlerTable.agreeOn_flatMap.1 hagent
  have hsnmp := HandlerTable.agreeOn_flatMap.1 hsnmp
  have hcheck := HandlerTable.agreeOn_flatMap.1 hcheck
  have hinventory := HandlerTable.agreeOn_flatMap.1 hinventory
  unfold link
  rw [mapM_congr fun entry hentry => AgentSectionEntry.link_congr
      (hagent entry.1 (List.fst_mem_of_mem_zipIdx hentry)) entry.2,
    mapM_congr fun entry hentry => SnmpSectionEntry.link_congr
      (hsnmp entry.1 (List.fst_mem_of_mem_zipIdx hentry)) entry.2,
    mapM_congr fun e he => CheckEntry.link_congr (hcheck e he),
    mapM_congr fun e he => InventoryEntry.link_congr (hinventory e he)]

end Linking

namespace Manifest

/-- **Linking depends on the handlers that a manifest refers to only.**  A table resolves a name of
a kind to the function registered last under it, whatever is registered under other names and in
other kinds; and tables that resolve the references of a manifest alike link it alike, to the same
definitions or with the same error. -/
theorem link_by_references :
    (∀ (handlers : List (String × Handler)) (k : HandlerKind) (name : String),
      (∀ f, (HandlerTable.ofHandlers handlers).lookup k name = some f ↔
        HandlerTable.RegisteredLast handlers k name f) ∧
      (HandlerTable.ofHandlers (handlers.filter (HandlerTable.Concerns k name ·))).lookup k name =
        (HandlerTable.ofHandlers handlers).lookup k name) ∧
    ∀ (s t : HandlerTable) (m : Manifest) (firstSerial : Nat), s.AgreeOn t m.references →
      m.link s firstSerial = m.link t firstSerial := by
  refine ⟨?_, ?_⟩
  · intro handlers k name
    exact ⟨fun f => HandlerTable.lookup_ofHandlers_eq_some_iff,
      HandlerTable.lookup_ofHandlers_filter⟩
  · intro s t m firstSerial h
    exact link_congr h firstSerial

/-- Functions under one name, an agent parser among them that is registered twice. -/
def oneName : List (String × Handler) :=
  [("parse", .agentParse Stock.parseRows), ("parse", .snmpParse Stock.parseTables),
    ("parse", .agentParse Stock.parseTable), ("parse", .discovery Stock.discoverNone)]

/-- The later agent parser, before one of another name and another SNMP parser. -/
def twoNames : List (String × Handler) :=
  [("parse", .agentParse Stock.parseTable), ("count", .agentParse Stock.parseRows),
    ("parse", .snmpParse Stock.parseRowCounts)]

/-- A manifest with one agent section. -/
def oneSection : Manifest where
  agentSections := [{
    name := "df", parsedName := none, parseFunction := "parse", hostLabelRuleset := none,
    supersedes := [] }]
  snmpSections := []
  checkPlugins := []
  inventoryPlugins := []
  rulesets := ∅

theorem link_by_references_oneSection :
    HandlerTable.RegisteredLast oneName .agentParse "parse" Stock.parseTable ∧
      (HandlerTable.ofHandlers oneName).AgreeOn (HandlerTable.ofHandlers twoNames)
        oneSection.references ∧
      oneSection.link (HandlerTable.ofHandlers oneName) 0 =
        oneSection.link (HandlerTable.ofHandlers twoNames) 0 := by
  obtain ⟨hlookup, hlink⟩ := link_by_references
  have hone : HandlerTable.RegisteredLast oneName .agentParse "parse" Stock.parseTable :=
    ⟨[("parse", .agentParse Stock.parseRows), ("parse", .snmpParse Stock.parseTables)],
      [("parse", .discovery Stock.discoverNone)], rfl, by
        simp [HandlerTable.Concerns, Handler.kind]⟩
  have htwo : HandlerTable.RegisteredLast twoNames .agentParse "parse" Stock.parseTable :=
    ⟨[], [("count", .agentParse Stock.parseRows), ("parse", .snmpParse Stock.parseRowCounts)], rfl,
      by simp [HandlerTable.Concerns, Handler.kind]⟩
  have hagree : (HandlerTable.ofHandlers oneName).AgreeOn (HandlerTable.ofHandlers twoNames)
      oneSection.references := by
    intro reference hreference
    obtain rfl : reference = (.agentParse, "parse") := by
      simpa [references, oneSection, AgentSectionEntry.references] using hreference
    exact (((hlookup oneName _ _).1 _).2 hone).trans (((hlookup twoNames _ _).1 _).2 htwo).symm
  exact ⟨hone, hagree, hlink _ _ _ _ hagree⟩

end Manifest

end MonitoringPlugins
