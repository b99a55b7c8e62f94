/-
**The log tells what is registered.**

Whoever reads the log of a registry sees no registry, only entries.  Each accepted registration of a
section or plug-in leaves one entry of its own, a refused one leaves none, and a section that is
registered again under changed circumstances is warned about before.  This module proves that the
entries are enough: whoever writes down for each name what the last entry about it says ends up with
what is registered, after any history of moves, replacements and refusals.

The proof follows the registry step by step.  A directory that is right before a registration and
records the entries of the registration is right after it.

Main definitions:

* `MonitoringPlugins.Operation.events`, `MonitoringPlugins.Registry.log` — what operations leave in
  the log;
* `MonitoringPlugins.Directory`, `MonitoringPlugins.Directory.record`,
  `MonitoringPlugins.Directory.replay` — **a reader of the log**, for whom the last entry of a name
  counts;
* `MonitoringPlugins.Directory.Lists` — a directory lists what is registered;
* `MonitoringPlugins.Registration.warning?` — the warning of a change.

Main results:

* `MonitoringPlugins.Directory.replay_filter` — warnings do not matter to the reader;
* `MonitoringPlugins.Directory.Lists.perform`, `MonitoringPlugins.Directory.Lists.run` — **a
  directory that records the log stays right**, over one registration and over a run;
* `MonitoringPlugins.Registration.events_addSection` — what registering a section leaves in the log;
* `MonitoringPlugins.Registry.log_exact` — which entries there are, and **what they tell**.
-/

import MonitoringPlugins.Proofs.Contents

set_option autoImplicit false

namespace MonitoringPlugins

/-! ### The log of a run -/

/-- What an operation leaves in the log. -/
def Operation.events (r : Registry) : Operation → List Event
  | registration a => a.events r
  | manifest l => (r.register l).events
  | load handlers firstSerial path file => (r.load handlers firstSerial path file).events

namespace Registry

/-- What some operations leave in the log. -/
def log (r : Registry) : List Operation → List Event
  | [] => []
  | op :: rest => op.events r ++ (op.apply r).log rest

theorem log_append (r : Registry) (first second : List Operation) :
    r.log (first ++ second) = r.log first ++ (r.run first).log second := by
  induction first generalizing r with
  | nil => rfl
  | cons op rest ih => rw [List.cons_append, log, ih, log, List.append_assoc, run_cons]

/-- One more registration adds its own entries. -/
theorem log_append_registration (r : Registry) (ops : List Operation) (a : Registration) :
    r.log (ops ++ [.registration a]) = r.log ops ++ a.events (r.run ops) := by
  have hlast : (r.run ops).log [.registration a] = a.events (r.run ops) := List.append_nil _
  rw [log_append, hlast]

end Registry

/-! ### A reader of the log -/

/-- What a reader of the log knows of the sections and plug-ins by name. -/
structure Directory where
  /-- What the sections produce, and their sources. -/
  sections : Std.ExtTreeMap SectionName (ParsedSectionName × SectionSource) := ∅
  /-- The check rulesets of the check plug-ins. -/
  checkPlugins : Std.ExtTreeMap CheckPluginName (Option RulesetName) := ∅
  inventoryPlugins : Std.ExtTreeSet InventoryPluginName := ∅

namespace Directory

/-- Writes down what an entry about a registration says, in place of earlier entries of its name.
Other entries are passed over. -/
def record (d : Directory) : Event → Directory
  | .sectionRegistered name parsed source =>
    { d with sections := d.sections.insert name (parsed, source) }
  | .checkRegistered name ruleset => { d with checkPlugins := d.checkPlugins.insert name ruleset }
  | .inventoryRegistered name => { d with inventoryPlugins := d.inventoryPlugins.insert name }
  | .parsedNameChanged .. | .sourceChanged .. | .unregisteredSection _ | .unknownCheck _
  | .unknownInventory _ | .manifestLoaded .. | .manifestRegistered .. | .published _
  | .updated _ => d

/-- Reads a log from its beginning. -/
def replay (entries : List Event) : Directory := entries.foldl record {}

variable {d : Directory}

theorem record_of_level {e : Event} (h : e.level ≠ .debug) : d.record e = d := by
  cases e with
  | sectionRegistered name parsed source => exact absurd rfl h
  | checkRegistered name ruleset => exact absurd rfl h
  | inventoryRegistered name => exact absurd rfl h
  | _ => rfl

/-- **Warnings do not matter to the reader.** -/
theorem foldl_record_filter (d : Directory) (entries : List Event) :
    (entries.filter (·.level = .debug)).foldl record d = entries.foldl record d := by
  induction entries generalizing d with
  | nil => rfl
  | cons e rest ih =>
      rw [List.filter_cons]
      split
      · rw [List.foldl_cons, List.foldl_cons, ih]
      · next hlevel =>
        have hskip : d.record e = d := record_of_level (by simpa using hlevel)
        rw [List.foldl_cons, hskip, ih]

theorem replay_filter (entries : List Event) :
    replay (entries.filter (·.level = .debug)) = replay entries :=
  foldl_record_filter {} entries

/-- **A directory lists what is registered**: the sections with what they produce and their sources,
the check plug-ins with their check rulesets, and the inventory plug-ins. -/
structure Lists (d : Directory) (r : Registry) : Prop where
  sections : ∀ name : SectionName,
    d.sections[name]? = (r.findSection? name).map fun s => (s.parsedName, s.source)
  checkPlugins : ∀ name : CheckPluginName,
    d.checkPlugins[name]? = r.checkPlugins[name]?.map CheckPlugin.checkRuleset
  inventoryPlugins : ∀ name : InventoryPluginName,
    name ∈ d.inventoryPlugins ↔ r.IsInventoryPlugin name

theorem Lists.empty : ({} : Directory).Lists Registry.empty where
  sections name := by simp [Registry.empty, Snapshot.findSection?]
  checkPlugins name := by simp [Registry.empty]
  inventoryPlugins name := by simp [Registry.empty, Registry.IsInventoryPlugin]

end Directory

/-! ### What a registration leaves in the log -/

namespace Registration

/-- The warning of a change: there was something before, and it was different. -/
def warning? {α : Type} [DecidableEq α] (before : Option α) (now : α) (warning : α → Event) :
    Option Event :=
  (before.filter (· ≠ now)).map warning

theorem warning?_eq_some_iff {α : Type} [DecidableEq α] {before : Option α} {now : α}
    {warning : α → Event} {w : Event} :
    warning? before now warning = some w ↔
      ∃ old, before = some old ∧ old ≠ now ∧ w = warning old := by
  rw [warning?, Option.map_eq_some_iff]
  constructor
  · rintro ⟨old, hold, rfl⟩
    obtain ⟨hbefore, hne⟩ := Option.filter_eq_some_iff.1 hold
    exact ⟨old, hbefore, of_decide_eq_true hne, rfl⟩
  · rintro ⟨old, hbefore, hne, rfl⟩
    exact ⟨old, Option.filter_eq_some_iff.2 ⟨hbefore, decide_eq_true hne⟩, rfl⟩

/-- The warning that a section produces something else than before. -/
def parsedNameWarning? (before : Option Section) (new : Section) : Option Event :=
  warning? (before.map Section.parsedName) new.parsedName
    fun old => .parsedNameChanged new.name old new.parsedName

/-- The warning that a section has another source than before. -/
def sourceWarning? (before : Option Section) (new : Section) : Option Event :=
  warning? (before.map Section.source) new.source fun old => .sourceChanged new.name old new.source

theorem parsedNameWarning?_eq_some_iff {before : Option Section} {new : Section} {w : Event} :
    parsedNameWarning? before new = some w ↔
      ∃ old, before = some old ∧ old.parsedName ≠ new.parsedName ∧
        w = .parsedNameChanged new.name old.parsedName new.parsedName := by
  rw [parsedNameWarning?, warning?_eq_some_iff]
  cases before <;> simp

theorem sourceWarning?_eq_some_iff {before : Option Section} {new : Section} {w : Event} :
    sourceWarning? before new = some w ↔
      ∃ old, before = some old ∧ old.source ≠ new.source ∧
        w = .sourceChanged new.name old.source new.source := by
  rw [sourceWarning?, warning?_eq_some_iff]
  cases before <;> simp

/-- Both stand in the log as warnings. -/
theorem level_of_mem_warnings {before : Option Section} {new : Section} {w : Event}
    (h : w ∈ (parsedNameWarning? before new).toList ++ (sourceWarning? before new).toList) :
    w.level = .warn := by
  rcases List.mem_append.1 h with h | h
  · obtain ⟨old, -, -, rfl⟩ := parsedNameWarning?_eq_some_iff.1 (Option.mem_toList.1 h)
    rfl
  · obtain ⟨old, -, -, rfl⟩ := sourceWarning?_eq_some_iff.1 (Option.mem_toList.1 h)
    rfl

/-- **What registering a section leaves in the log**: a warning if it produced something else
before, a warning if it had another source before, and an entry for the registration. -/
theorem events_addSection (r : Registry) (new : Section) :
    (addSection new).events r =
      (parsedNameWarning? (r.findSection? new.name) new).toList ++
        (sourceWarning? (r.findSection? new.name) new).toList ++
        [.sectionRegistered new.name new.parsedName new.source] := by
  rw [events]
  cases r.findSection? new.name with
  | none => rfl
  | some previous =>
      simp only [replacementEvents, parsedNameWarning?, sourceWarning?, warning?, Option.map_some,
        Option.getD_some, Option.filter_some]
      by_cases hparsed : previous.parsedName = new.parsedName <;>
        by_cases hsource : previous.source = new.source <;>
          simp [hparsed, hsource]

/-- A refused registration leaves nothing. -/
theorem events_of_error {r : Registry} {a : Registration} {c : ItemConflict}
    (h : a.perform r = .error c) : a.events r = [] := by
  cases a with
  | addCheck new =>
      have hrefused : r.addCheck new = .error c := h
      rw [events, hrefused]
  | addSection new => cases h
  | addInventory new => cases h
  | declareRuleset use name => cases h
  | setRuleset use name rules => cases h

/-- An accepted check plug-in leaves one entry. -/
theorem events_addCheck_of_ok {r r' : Registry} {new : CheckPlugin} (h : r.addCheck new = .ok r') :
    (addCheck new).events r = [.checkRegistered new.name new.checkRuleset] := by
  rw [events, h]

end Registration

/-! ### Reading along -/

namespace Directory

theorem foldl_record_warnings (d : Directory) (before : Option Section) (new : Section) :
    ((Registration.parsedNameWarning? before new).toList ++
      (Registration.sourceWarning? before new).toList).foldl record d = d := by
  rw [← foldl_record_filter, List.filter_eq_nil_iff.2, List.foldl_nil]
  intro w hw
  simp [Registration.level_of_mem_warnings hw]

namespace Lists

variable {d : Directory} {r r' : Registry}

/-- A directory that records the entry of a section lists it. -/
theorem addSection (h : d.Lists r) (hr : r.Coherent) (new : Section) :
    (d.record (.sectionRegistered new.name new.parsedName new.source)).Lists
      (r.addSection new) where
  sections name := by
    rw [record, Std.ExtTreeMap.getElem?_insert, hr.findSection?_addSection, h.sections]
    simp only [Std.LawfulEqCmp.compare_eq_iff_eq]
    split <;> rfl
  checkPlugins name := by
    rw [Registry.checkPlugins_addSection]
    exact h.checkPlugins name
  inventoryPlugins name := by
    rw [Registry.IsInventoryPlugin, Registry.inventoryPlugins_addSection]
    exact h.inventoryPlugins name

/-- A directory that records the entry of an accepted check plug-in lists it. -/
theorem addCheck (h : d.Lists r) {new : CheckPlugin} (ok : r.addCheck new = .ok r') :
    (d.record (.checkRegistered new.name new.checkRuleset)).Lists r' := by
  obtain ⟨-, rfl⟩ := Registry.addCheck_eq_ok_iff.1 ok
  refine ⟨h.sections, ?_, h.inventoryPlugins⟩
  intro name
  rw [record, Std.ExtTreeMap.getElem?_insert, Std.ExtTreeMap.getElem?_insert, h.checkPlugins]
  split <;> rfl

/-- A directory that records the entry of an inventory plug-in lists it. -/
theorem addInventory (h : d.Lists r) (new : InventoryPlugin) :
    (d.record (.inventoryRegistered new.name)).Lists (r.addInventory new) := by
  refine ⟨h.sections, h.checkPlugins, ?_⟩
  intro name
  rw [record, Std.ExtTreeSet.mem_insert, Registry.IsInventoryPlugin, Registry.addInventory,
    Std.ExtTreeMap.mem_insert]
  exact or_congr Iff.rfl (h.inventoryPlugins name)

/-- **A directory that records the entries of an accepted registration stays right.** -/
theorem perform (h : d.Lists r) (hr : r.Coherent) {a : Registration} (ok : a.perform r = .ok r') :
    ((a.events r).foldl record d).Lists r' := by
  cases a with
  | addSection new =>
      cases ok
      -- the warnings come before the entry and are passed over
      rw [Registration.events_addSection, List.foldl_append, foldl_record_warnings]
      exact h.addSection hr new
  | addCheck new =>
      rw [Registration.events_addCheck_of_ok ok]
      exact h.addCheck ok
  | addInventory new =>
      cases ok
      exact h.addInventory new
  | declareRuleset use name =>
      cases ok
      exact ⟨h.sections, h.checkPlugins, h.inventoryPlugins⟩
  | setRuleset use name rules =>
      cases ok
      exact ⟨h.sections, h.checkPlugins, h.inventoryPlugins⟩

/-- Some registrations, up to the first one that is refused. -/
theorem performAll (h : d.Lists r) (hr : r.Coherent) (todo : List Registration) :
    ((r.performAll todo).events.foldl record d).Lists (r.performAll todo).registry := by
  induction todo generalizing d r with
  | nil => exact h
  | cons a rest ih =>
      cases ha : a.perform r with
      | error c =>
          rw [Registry.performAll_cons_error _ ha, Registration.events_of_error ha]
          exact h
      | ok r' =>
          rw [Registry.performAll_cons_ok _ ha, List.foldl_append]
          exact ih (h.perform hr ha) (hr.perform ha)

/-- The definitions of a manifest.  That it was registered is no entry about a name. -/
theorem register (h : d.Lists r) (hr : r.Coherent) (l : Linked) :
    ((r.register l).events.foldl record d).Lists (r.register l).registry := by
  have hall := h.performAll hr l.registrations
  rw [Registry.registry_register, Registry.register]
  split
  · exact hall
  · rw [List.foldl_append]
    exact hall

theorem load (h : d.Lists r) (hr : r.Coherent) (handlers : HandlerTable) (firstSerial : Nat)
    (path : String) (file : ManifestFile) :
    ((r.load handlers firstSerial path file).events.foldl record d).Lists
      (r.load handlers firstSerial path file).registry := by
  rw [Registry.load]
  cases Manifest.ofFile file with
  | error reason => exact h
  | ok m =>
      dsimp only
      rw [List.foldl_cons, Registry.enter]
      cases m.link handlers firstSerial with
      | error reason => exact h
      | ok l => exact h.register hr l

/-- Any operation. -/
theorem apply (h : d.Lists r) (hr : r.Coherent) (op : Operation) :
    ((op.events r).foldl record d).Lists (op.apply r) := by
  cases op with
  | registration a =>
      cases ha : a.perform r with
      | error c => simpa [Operation.events, Operation.apply, Registration.attempt, ha,
          Registration.events_of_error ha] using h
      | ok r' => simpa [Operation.events, Operation.apply, Registration.attempt, ha] using
          h.perform hr ha
  | manifest l => exact h.register hr l
  | load handlers firstSerial path file => exact h.load hr handlers firstSerial path file

/-- **A directory that records the log of a run stays right.** -/
theorem run (h : d.Lists r) (hr : r.Coherent) (ops : List Operation) :
    ((r.log ops).foldl record d).Lists (r.run ops) := by
  induction ops generalizing d r with
  | nil => exact h
  | cons op rest ih =>
      have hnext : (op.apply r).Coherent := (r.leads_run [op]).coherent hr
      rw [Registry.log, List.foldl_append, Registry.run_cons]
      exact ih (h.apply hr op) hnext

end Lists

end Directory

/-! ### All runs -/

namespace Registry

/-- A section is found under a name if it is the last one that was registered under it. -/
theorem findSection?_run_eq_some_iff {ops : List Operation} {name : SectionName} {s : Section} :
    (empty.run ops).findSection? name = some s ↔
      IsLast Section.name ((empty.history ops).filterMap Registration.section?) name s := by
  have hempty : empty.findSection? name = none := by simp [empty, Snapshot.findSection?]
  rw [(empty.leads_run ops).findSection?_eq Coherent.empty, hempty, Option.or_none,
    lastOf_eq_some_iff_isLast]

/-- **The log tells what is registered.**  After any run on an empty registry, a section that is
registered leaves a warning exactly if the last section of its name produced something else, then a
warning exactly if that one had the other source, and then one entry of its own.  An accepted check
plug-in leaves one entry and a refused one none, and an inventory plug-in leaves one.  And who reads
nothing but the entries that are no warnings, the last one of a name counting, knows exactly what is
registered. -/
theorem log_exact (ops : List Operation) :
    (∀ new : Section, ∃ moved switched : Option Event,
      empty.log (ops ++ [.registration (.addSection new)]) =
        empty.log ops ++ (moved.toList ++ switched.toList ++
          [.sectionRegistered new.name new.parsedName new.source]) ∧
      (∀ w, moved = some w ↔ ∃ old,
        IsLast Section.name ((empty.history ops).filterMap Registration.section?) new.name old ∧
          old.parsedName ≠ new.parsedName ∧
          w = .parsedNameChanged new.name old.parsedName new.parsedName) ∧
      (∀ w, switched = some w ↔ ∃ old,
        IsLast Section.name ((empty.history ops).filterMap Registration.section?) new.name old ∧
          old.source ≠ new.source ∧ w = .sourceChanged new.name old.source new.source) ∧
      ∀ w ∈ moved.toList ++ switched.toList, w.level = .warn) ∧
    (∀ new : CheckPlugin,
      ((∃ r', (empty.run ops).addCheck new = .ok r') →
        empty.log (ops ++ [.registration (.addCheck new)]) =
          empty.log ops ++ [.checkRegistered new.name new.checkRuleset]) ∧
      ((∃ c, (empty.run ops).addCheck new = .error c) →
        empty.log (ops ++ [.registration (.addCheck new)]) = empty.log ops)) ∧
    (∀ new : InventoryPlugin,
      empty.log (ops ++ [.registration (.addInventory new)]) =
        empty.log ops ++ [.inventoryRegistered new.name]) ∧
    (Directory.replay ((empty.log ops).filter (·.level = .debug))).Lists (empty.run ops) := by
  simp only [log_append_registration]
  refine ⟨?_, ?_, fun new => rfl, ?_⟩
  · intro new
    refine ⟨_, _, congrArg _ (Registration.events_addSection _ new), ?_, ?_, ?_⟩
    · intro w
      rw [Registration.parsedNameWarning?_eq_some_iff]
      simp only [findSection?_run_eq_some_iff]
    · intro w
      rw [Registration.sourceWarning?_eq_some_iff]
      simp only [findSection?_run_eq_some_iff]
    · intro w hw
      exact Registration.level_of_mem_warnings hw
  · intro new
    constructor
    · rintro ⟨r', hr'⟩
      rw [Registration.events_addCheck_of_ok hr']
    · rintro ⟨c, hc⟩
      have hrefused : (Registration.addCheck new).perform (empty.run ops) = .error c := hc
      rw [Registration.events_of_error hrefused, List.append_nil]
  · rw [Directory.replay_filter]
    exact Directory.Lists.empty.run Coherent.empty ops

/-- A run in which a section moves to SNMP and to another parsed section, and a check plug-in is
refused after another one. -/
def loggedRun : List Operation :=
  movingRun ++
    [.registration (.addCheck (.idle .df "Filesystem %s" .filesystems)),
      .registration (.addCheck (.idle .mounts "Mounts" .filesystems))]

/-- The move is warned about twice, the refusal leaves nothing, and the reader knows where the
section is. -/
theorem log_exact_loggedRun :
    empty.log loggedRun =
        [.sectionRegistered .df .df .agent, .parsedNameChanged .df .df .disk,
          .sourceChanged .df .agent .snmp, .sectionRegistered .df .disk .snmp,
          .checkRegistered .df (some .filesystems)] ∧
      (Directory.replay ((empty.log loggedRun).filter (·.level = .debug))).sections.get? .df =
        some (.disk, .snmp) ∧
      Name.mounts ∉
        (Directory.replay ((empty.log loggedRun).filter (·.level = .debug))).checkPlugins := by
  obtain ⟨-, -, -, hlists⟩ := log_exact loggedRun
  refine ⟨by rfl, (hlists.sections .df).trans (by rfl), ?_⟩
  intro hmem
  rw [Std.ExtTreeMap.mem_iff_isSome_getElem?, hlists.checkPlugins] at hmem
  cases hmem

end Registry

end MonitoringPlugins
