/-
**Runs of a registry.**

A registry is filled by single registrations and by manifests.  A refused registration changes
nothing; a manifest stops at the first refusal, but what it registered before stays.  So a run of
such operations does not say at once what got into the registry.  This module flattens it: every run
comes to the same as carrying out the registrations that were accepted, one after the other
(`MonitoringPlugins.Registry.leads_run`), and statements about all runs are proved by induction on
that list.

Main definitions:

* `MonitoringPlugins.Operation`, `MonitoringPlugins.Operation.apply` — what may change a registry,
  and how it does;
* `MonitoringPlugins.Registry.run`, `MonitoringPlugins.Registry.Reachable` — runs of operations, and
  the registries that they lead to;
* `MonitoringPlugins.Registry.history` — the registrations that a run of operations gets accepted;
* `MonitoringPlugins.Registry.Leads` — accepted registrations and where they lead;
* `MonitoringPlugins.Registration.section?` and its siblings — what a registration is about;
* `MonitoringPlugins.latest`, `MonitoringPlugins.lastOf`, `MonitoringPlugins.IsLast` — the elements
  of a list that no later one replaces, and the last one of a key.

Main results:

* `MonitoringPlugins.Operation.apply_eq` — **an operation is a list of registrations**, carried out
  up to the first conflict;
* `MonitoringPlugins.Registry.leads_run` — **a run leads where its accepted registrations lead**;
* `MonitoringPlugins.Registry.reachable_iff_leads` — reachable registries are those that accepted
  registrations lead to;
* `MonitoringPlugins.latest_append_singleton` — one more element replaces the earlier one of its key
  and goes to the end;
* `MonitoringPlugins.lastOf_perm` — if no two elements share a key, their order does not matter.
-/

import Mathlib.Data.List.Nodup
import MonitoringPlugins.Manifest.Loading

set_option autoImplicit false

namespace MonitoringPlugins

/-! ### Operations -/

/-- Carries out a registration; a refused one leaves the registry as it is. -/
def Registration.attempt (r : Registry) (a : Registration) : Registry :=
  match a.perform r with
  | .ok r' => r'
  | .error _ => r

/-- What may change a registry. -/
inductive Operation where
  /-- A single registration. -/
  | registration (a : Registration)
  /-- Registering the definitions of a manifest. -/
  | manifest (l : Linked)
  /-- Reading, linking and registering the manifest at a path. -/
  | load (handlers : HandlerTable) (firstSerial : Nat) (path : String) (file : ManifestFile)

namespace Operation

/-- The registry after an operation, whether it succeeds or fails. -/
def apply (r : Registry) : Operation → Registry
  | registration a => a.attempt r
  | manifest l => (r.register l).registry
  | load handlers firstSerial path file => (r.load handlers firstSerial path file).registry

/-- The registrations that an operation asks for; a manifest that cannot be read or linked asks for
none. -/
def registrations : Operation → List Registration
  | registration a => [a]
  | manifest l => l.registrations
  | load handlers firstSerial _ file =>
    match Manifest.ofFile file with
    | .error _ => []
    | .ok m =>
      match m.link handlers firstSerial with
      | .error _ => []
      | .ok l => l.registrations

/-- **An operation is a list of registrations**, carried out up to the first conflict. -/
theorem apply_eq (r : Registry) (op : Operation) :
    op.apply r = (r.performAll op.registrations).registry := by
  cases op with
  | registration a =>
      cases h : a.perform r with
      | error conflict =>
          simp [apply, registrations, Registration.attempt, Registry.performAll_cons_error _ h, h]
      | ok r' =>
          simp [apply, registrations, Registration.attempt, Registry.performAll_cons_ok _ h, h]
  | manifest l => exact Registry.registry_register r l
  | load handlers firstSerial path file =>
      simp only [apply, registrations, Registry.load, Registry.enter]
      cases Manifest.ofFile file with
      | error reason => rfl
      | ok m =>
          cases hl : m.link handlers firstSerial with
          | error reason => simp [hl]
          | ok l => simp [hl]

end Operation

namespace Registry

/-! ### Runs -/

/-- The registry after some operations. -/
def run (r : Registry) : List Operation → Registry
  | [] => r
  | op :: rest => (op.apply r).run rest

@[simp] theorem run_nil (r : Registry) : r.run [] = r := rfl

@[simp] theorem run_cons (r : Registry) (op : Operation) (rest : List Operation) :
    r.run (op :: rest) = (op.apply r).run rest := rfl

/-- A registry that a run of operations leads to. -/
def Reachable (r : Registry) : Prop := ∃ ops : List Operation, empty.run ops = r

/-- The first registrations of a list, up to the first one that is refused. -/
def accepted (r : Registry) : List Registration → List Registration
  | [] => []
  | a :: rest =>
    match a.perform r with
    | .ok r' => a :: r'.accepted rest
    | .error _ => []

@[simp] theorem accepted_nil (r : Registry) : r.accepted [] = [] := rfl

theorem accepted_cons_ok {r r' : Registry} {a : Registration} (rest : List Registration)
    (h : a.perform r = .ok r') : r.accepted (a :: rest) = a :: r'.accepted rest := by
  simp [accepted, h]

theorem accepted_cons_error {r : Registry} {a : Registration} {conflict : ItemConflict}
    (rest : List Registration) (h : a.perform r = .error conflict) :
    r.accepted (a :: rest) = [] := by
  simp [accepted, h]

/-- Without a refusal all of them are accepted. -/
theorem accepted_eq_self {r : Registry} {todo : List Registration}
    (h : (r.performAll todo).conflict = none) : r.accepted todo = todo := by
  induction todo generalizing r with
  | nil => rfl
  | cons a rest ih =>
      cases ha : a.perform r with
      | error conflict =>
          rw [performAll_cons_error _ ha] at h
          cases h
      | ok r' =>
          rw [performAll_cons_ok _ ha] at h
          rw [accepted_cons_ok _ ha, ih h]

/-- The registrations that a run of operations gets accepted, in order. -/
def history (r : Registry) : List Operation → List Registration
  | [] => []
  | op :: rest => r.accepted op.registrations ++ (op.apply r).history rest

/-! ### Accepted registrations -/

/-- `r.Leads done r'` says that the registrations `done`, all of them accepted, lead from `r` to
`r'`. -/
inductive Leads (r : Registry) : List Registration → Registry → Prop
  | refl : Leads r [] r
  | step {done : List Registration} {s s' : Registry} (a : Registration) (h : Leads r done s)
      (ok : a.perform s = .ok s') : Leads r (done ++ [a]) s'

namespace Leads

variable {r s : Registry} {done : List Registration}

/-- Carrying out registrations adds the accepted ones. -/
theorem performAll (h : r.Leads done s) (todo : List Registration) :
    r.Leads (done ++ s.accepted todo) (s.performAll todo).registry := by
  induction todo generalizing done s with
  | nil => simpa using h
  | cons a rest ih =>
      cases ha : a.perform s with
      | error conflict =>
          rw [accepted_cons_error _ ha, performAll_cons_error _ ha]
          simpa using h
      | ok s' =>
          rw [accepted_cons_ok _ ha, performAll_cons_ok _ ha]
          have hstep := ih (h.step a ha)
          rwa [List.append_assoc, List.singleton_append] at hstep

theorem trans {t : Registry} {later : List Registration} (h : r.Leads done s)
    (h' : s.Leads later t) : r.Leads (done ++ later) t := by
  induction h' with
  | refl => rwa [List.append_nil]
  | step a _ ok ih =>
      rw [← List.append_assoc]
      exact ih.step a ok

theorem run (h : r.Leads done s) (ops : List Operation) :
    r.Leads (done ++ s.history ops) (s.run ops) := by
  induction ops generalizing done s with
  | nil => simpa [history] using h
  | cons op rest ih =>
      have hop : r.Leads (done ++ s.accepted op.registrations) (op.apply s) := by
        rw [Operation.apply_eq]
        exact h.performAll op.registrations
      rw [run_cons, history, ← List.append_assoc]
      exact ih hop

end Leads

/-- **A run leads where its accepted registrations lead.** -/
theorem leads_run (r : Registry) (ops : List Operation) :
    r.Leads (r.history ops) (r.run ops) := by
  simpa using (Leads.refl (r := r)).run ops

theorem run_append (r : Registry) (first second : List Operation) :
    r.run (first ++ second) = (r.run first).run second := by
  induction first generalizing r with
  | nil => rfl
  | cons op rest ih => exact ih (op.apply r)

/-- Registrations without a refusal are all accepted. -/
theorem leads_performAll {r : Registry} {todo : List Registration}
    (h : (r.performAll todo).conflict = none) : r.Leads todo (r.performAll todo).registry := by
  have hleads := Leads.refl.performAll (r := r) todo
  rwa [accepted_eq_self h, List.nil_append] at hleads

/-- **The reachable registries are those that accepted registrations lead to.** -/
theorem reachable_iff_leads {r : Registry} : r.Reachable ↔ ∃ done, empty.Leads done r := by
  constructor
  · rintro ⟨ops, rfl⟩
    exact ⟨_, empty.leads_run ops⟩
  · rintro ⟨done, h⟩
    induction h with
    | refl => exact ⟨[], rfl⟩
    | step a _ ok ih =>
        obtain ⟨ops, rfl⟩ := ih
        refine ⟨ops ++ [.registration a], ?_⟩
        rw [run_append]
        simp [Operation.apply, Registration.attempt, ok]

end Registry

/-! ### What registrations are about -/

namespace Registration

def section? : Registration → Option Section
  | addSection new => some new
  | addCheck _ | addInventory _ | declareRuleset .. | setRuleset .. => none

def checkPlugin? : Registration → Option CheckPlugin
  | addCheck new => some new
  | addSection _ | addInventory _ | declareRuleset .. | setRuleset .. => none

def inventoryPlugin? : Registration → Option InventoryPlugin
  | addInventory new => some new
  | addSection _ | addCheck _ | declareRuleset .. | setRuleset .. => none

/-- The ruleset that is set, with its rules. -/
def rules? : Registration → Option (RulesetName × List Rule)
  | setRuleset _ name rules => some (name, rules)
  | addSection _ | addCheck _ | addInventory _ | declareRuleset .. => none

/-- The ruleset that is mentioned. -/
def ruleset? : Registration → Option RulesetName
  | declareRuleset _ name => some name
  | setRuleset _ name _ => some name
  | addSection _ | addCheck _ | addInventory _ => none

end Registration

/-- The check plug-ins among some registrations, in order. -/
def checkPluginsOf (as : List Registration) : List CheckPlugin :=
  as.filterMap Registration.checkPlugin?

theorem checkPluginsOf_append (as bs : List Registration) :
    checkPluginsOf (as ++ bs) = checkPluginsOf as ++ checkPluginsOf bs :=
  List.filterMap_append

theorem Registration.checkPlugin?_eq_some_iff {a : Registration} {new : CheckPlugin} :
    a.checkPlugin? = some new ↔ a = .addCheck new := by
  cases a <;> simp [checkPlugin?]

/-! ### The last of each key -/

section Latest

variable {α κ : Type} [DecidableEq κ] (key : α → κ)

/-- The elements of a list that no later element shares its key with. -/
def latest : List α → List α
  | [] => []
  | a :: rest => if key a ∈ rest.map key then latest rest else a :: latest rest

/-- In two parts, the second one replaces what it shares keys with in the first one. -/
theorem latest_append (first second : List α) :
    latest key (first ++ second) =
      (latest key first).filter (key · ∉ second.map key) ++ latest key second := by
  induction first with
  | nil => rfl
  | cons a rest ih =>
      have hmem : key a ∈ (rest ++ second).map key ↔
          key a ∈ rest.map key ∨ key a ∈ second.map key := by
        rw [List.map_append, List.mem_append]
      rw [List.cons_append, latest, ih]
      by_cases hrest : key a ∈ rest.map key
      · rw [if_pos (hmem.2 (.inl hrest)), latest, if_pos hrest]
      · rw [latest, if_neg hrest, List.filter_cons]
        by_cases hsecond : key a ∈ second.map key
        · rw [if_pos (hmem.2 (.inr hsecond)), if_neg (by simpa using hsecond)]
        · have hneither : key a ∉ (rest ++ second).map key := by
            rw [hmem, not_or]
            exact ⟨hrest, hsecond⟩
          rw [if_neg hneither, if_pos (by simpa using hsecond), List.cons_append]

/-- **One more element replaces the earlier one of its key and goes to the end.** -/
theorem latest_append_singleton (items : List α) (a : α) :
    latest key (items ++ [a]) = (latest key items).filter (key · ≠ key a) ++ [a] := by
  rw [latest_append]
  simp [latest]

/-- If no two elements share a key, none is replaced. -/
theorem latest_eq_self {items : List α} (h : (items.map key).Nodup) : latest key items = items := by
  induction items with
  | nil => rfl
  | cons a rest ih =>
      rw [List.map_cons, List.nodup_cons] at h
      rw [latest, if_neg h.1, ih h.2]

theorem latest_sublist (items : List α) : (latest key items).Sublist items := by
  induction items with
  | nil => exact .slnil
  | cons a rest ih =>
      rw [latest]
      split
      · exact ih.cons a
      · exact ih.cons_cons a

/-- One element of each key is left at most. -/
theorem nodup_map_latest (items : List α) : ((latest key items).map key).Nodup := by
  induction items with
  | nil => exact List.nodup_nil
  | cons a rest ih =>
      rw [latest]
      split
      · exact ih
      · next hlast =>
        rw [List.map_cons, List.nodup_cons]
        exact ⟨fun hmem => hlast (((latest_sublist key rest).map key).subset hmem), ih⟩

/-- The last element of a key. -/
def lastOf (items : List α) (k : κ) : Option α := items.reverse.find? (key · = k)

@[simp] theorem lastOf_nil (k : κ) : lastOf key [] k = none := rfl

@[simp] theorem lastOf_singleton (a : α) (k : κ) :
    lastOf key [a] k = if key a = k then some a else none := by
  by_cases h : key a = k <;> simp [lastOf, h]

/-- The last of a key in two parts is found in the second one first. -/
theorem lastOf_append (first second : List α) (k : κ) :
    lastOf key (first ++ second) k = (lastOf key second k).or (lastOf key first k) := by
  rw [lastOf, List.reverse_append, List.find?_append]
  rfl

theorem lastOf_cons (a : α) (rest : List α) (k : κ) :
    lastOf key (a :: rest) k = (lastOf key rest k).or (if key a = k then some a else none) := by
  rw [← List.singleton_append, lastOf_append, lastOf_singleton]

theorem lastOf_eq_none_iff {items : List α} {k : κ} :
    lastOf key items k = none ↔ k ∉ items.map key := by
  induction items with
  | nil => simp
  | cons a rest ih =>
      rw [lastOf_cons, Option.or_eq_none_iff, ih, List.map_cons, List.mem_cons, not_or, and_comm]
      refine and_congr_left fun _ => ?_
      by_cases h : key a = k
      · simp [h]
      · simp [h, Ne.symm h]

/-- An element is the last one of its key: none that comes after it has the same. -/
def IsLast (items : List α) (k : κ) (a : α) : Prop :=
  ∃ before after, items = before ++ a :: after ∧ key a = k ∧ ∀ b ∈ after, key b ≠ k

theorem lastOf_eq_some_iff_isLast {items : List α} {k : κ} {a : α} :
    lastOf key items k = some a ↔ IsLast key items k a := by
  rw [lastOf, List.find?_eq_some_iff_append]
  constructor
  · rintro ⟨hkey, later, earlier, hsplit, hlater⟩
    refine ⟨earlier.reverse, later.reverse, ?_, by simpa using hkey, ?_⟩
    · rw [← List.reverse_reverse items, hsplit]
      simp
    · intro b hb
      simpa using hlater b (List.mem_reverse.1 hb)
  · rintro ⟨before, after, rfl, hkey, hafter⟩
    refine ⟨by simpa using hkey, after.reverse, before.reverse, by simp, ?_⟩
    intro b hb
    simpa using hafter b (List.mem_reverse.1 hb)

/-- Dropping what is replaced does not change what is last. -/
theorem lastOf_latest (items : List α) (k : κ) :
    lastOf key (latest key items) k = lastOf key items k := by
  induction items with
  | nil => rfl
  | cons a rest ih =>
      rw [latest, lastOf_cons]
      split
      · next hreplaced =>
        rw [ih]
        split
        · next hk =>
          subst hk
          cases hlast : lastOf key rest (key a) with
          | none => exact absurd hreplaced ((lastOf_eq_none_iff key).1 hlast)
          | some b => rfl
        · rw [Option.or_none]
      · rw [lastOf_cons, ih]

theorem lastOf_map {β : Type} (f : β → α) (items : List β) (k : κ) :
    lastOf key (items.map f) k = (lastOf (fun b => key (f b)) items k).map f := by
  induction items with
  | nil => rfl
  | cons b rest ih =>
      rw [List.map_cons, lastOf_cons, lastOf_cons, ih]
      cases lastOf (fun b => key (f b)) rest k with
      | none => by_cases h : key (f b) = k <;> simp [h]
      | some c => rfl

/-- If no two elements share a key, the last one of a key is the only one. -/
theorem lastOf_eq_some_iff {items : List α} (h : (items.map key).Nodup) {k : κ} {a : α} :
    lastOf key items k = some a ↔ a ∈ items ∧ key a = k := by
  constructor
  · intro ha
    have hmem := List.mem_of_find?_eq_some ha
    exact ⟨List.mem_reverse.1 hmem, by simpa using List.find?_some ha⟩
  · rintro ⟨hmem, rfl⟩
    obtain ⟨b, hb⟩ : ∃ b, lastOf key items (key a) = some b := by
      rw [← Option.isSome_iff_exists, lastOf, List.find?_isSome]
      exact ⟨a, List.mem_reverse.2 hmem, by simp⟩
    have hkey : key b = key a := by simpa using List.find?_some hb
    have hmem' : b ∈ items := List.mem_reverse.1 (List.mem_of_find?_eq_some hb)
    rw [hb, List.inj_on_of_nodup_map h hmem' hmem hkey]

/-- If no two elements share a key, their order does not matter. -/
theorem lastOf_perm {items others : List α} (h : (items.map key).Nodup) (hperm : items.Perm others)
    (k : κ) : lastOf key items k = lastOf key others k := by
  have h' : (others.map key).Nodup := (hperm.map key).nodup_iff.1 h
  ext a
  rw [lastOf_eq_some_iff key h, lastOf_eq_some_iff key h', hperm.mem_iff]

end Latest

/-! ### Definitions for concrete runs -/

namespace Name

variable {kind : NameKind}

/-- Names of any kind, for sections and plug-ins alike. -/
def df : Name kind := ⟨"df", by decide⟩

def disk : Name kind := ⟨"disk", by decide⟩

def mounts : Name kind := ⟨"mounts", by decide⟩

def filesystems : Name kind := ⟨"filesystems", by decide⟩

def groups : Name kind := ⟨"groups", by decide⟩

end Name

/-- An agent section that parses everything to nothing. -/
def AgentSection.silent (name : SectionName) (parsedName : ParsedSectionName) : AgentSection where
  name := name
  parsedName := parsedName
  hostLabelRuleset := none
  supersedes := ∅
  parse _ := .ok none
  serial := 0

/-- An SNMP section that parses everything to nothing. -/
def SnmpSection.silent (name : SectionName) (parsedName : ParsedSectionName) : SnmpSection where
  name := name
  parsedName := parsedName
  hostLabelRuleset := none
  supersedes := ∅
  fetch := [⟨".1.3.6.1", ["1"]⟩]
  detect := []
  parse _ := .ok none
  serial := 0

/-- A check plug-in that finds no services. -/
def CheckPlugin.idle (name : CheckPluginName) (serviceName : String) (ruleset : RulesetName) :
    CheckPlugin where
  name := name
  sections := [name.toParsedSection]
  serviceName := serviceName
  discovery _ _ := []
  discoveryDefaults := none
  check _ _ _ := []
  checkDefaults := some ⟨ruleset, []⟩

/-- An inventory plug-in that finds no rows. -/
def InventoryPlugin.idle (name : InventoryPluginName) : InventoryPlugin where
  name := name
  sections := [name.toParsedSection]
  inventory _ _ := []
  inventoryDefaults := none

end MonitoringPlugins
