/-
**Rulesets as one ordered map.**

Rulesets are used in two ways, for discovery and for host labels, and each use has calls of its own
to make a ruleset known, to replace its rules and to read it.  Behind all of them there is one
store.  Its content and its order change by different rules.  What is stored under a name is said by
the last call that sets it, whichever use that call is for, and no declaration touches it.  The
place of a name is said by the first call that mentions it, and nothing that comes later moves it.

Main definitions:

* `MonitoringPlugins.RulesetCall`, `MonitoringPlugins.RulesetCall.perform` — the calls that change
  rulesets, and what they do to a registry;
* `MonitoringPlugins.RulesetCall.mentions`, `MonitoringPlugins.RulesetCall.replacements` — the names
  that calls mention, and the rules that they set, in order;
* `MonitoringPlugins.Registry.called` — the registry after some calls.

Main results:

* `MonitoringPlugins.Registry.Leads.names_firstMentioned` — **known rulesets stand in the order of
  their first mention**, whatever else is registered;
* `MonitoringPlugins.Registry.leads_called` — calls are registrations that are never refused;
* `MonitoringPlugins.Registry.rulesets_ordered_map` — **the store behaves as one ordered map**, for
  both uses.
-/

import MonitoringPlugins.Proofs.Contents

set_option autoImplicit false

namespace MonitoringPlugins

/-! ### The order of first mention -/

/-- The elements of a list stand in the order in which they come first in another one. -/
def InOrderOf {α : Type} [DecidableEq α] (mentions items : List α) : Prop :=
  items.Pairwise fun a b => mentions.idxOf a < mentions.idxOf b

section InOrderOf

variable {α : Type} [DecidableEq α] {mentions items : List α}

/-- No element comes first twice. -/
theorem InOrderOf.nodup (h : InOrderOf mentions items) : items.Nodup := by
  refine h.imp ?_
  rintro a b hlt rfl
  exact Nat.lt_irrefl _ hlt

/-- What is mentioned later changes no first mention. -/
theorem InOrderOf.append (h : InOrderOf mentions items) (hmem : ∀ a ∈ items, a ∈ mentions)
    (later : List α) : InOrderOf (mentions ++ later) items := by
  refine List.Pairwise.imp_of_mem ?_ h
  intro a b ha hb hlt
  rwa [List.idxOf_append_of_mem (hmem a ha), List.idxOf_append_of_mem (hmem b hb)]

/-- An element that is mentioned for the first time goes to the end. -/
theorem InOrderOf.append_singleton (h : InOrderOf mentions items)
    (hmem : ∀ a ∈ items, a ∈ mentions) {new : α} (hnew : new ∉ mentions) :
    InOrderOf (mentions ++ [new]) (items ++ [new]) := by
  refine List.pairwise_append.2 ⟨h.append hmem [new], List.pairwise_singleton _ _, ?_⟩
  intro a ha b hb
  obtain rfl := List.mem_singleton.1 hb
  rw [List.idxOf_append_of_mem (hmem a ha), List.idxOf_append_of_notMem hnew]
  have hlt := List.idxOf_lt_length_of_mem (hmem a ha)
  omega

end InOrderOf

/-! ### Mentions -/

namespace Registration

variable {rulesets : Rulesets} {a : Registration}

/-- A registration that mentions no ruleset changes none. -/
theorem amend_of_ruleset?_eq_none (h : a.ruleset? = none) : a.amend rulesets = rulesets := by
  cases a with
  | addSection new => rfl
  | addCheck new => rfl
  | addInventory new => rfl
  | declareRuleset use name => cases h
  | setRuleset use name rules => cases h

/-- One that does adds the ruleset to the end of the known ones, unless it is known already. -/
theorem names_amend {name : RulesetName} (h : a.ruleset? = some name) :
    (a.amend rulesets).names =
      if rulesets.Knows name then rulesets.names else rulesets.names ++ [name] := by
  cases a with
  | addSection new => cases h
  | addCheck new => cases h
  | addInventory new => cases h
  | declareRuleset use other =>
      cases h
      exact Rulesets.names_declare rulesets name
  | setRuleset use other rules =>
      cases h
      exact Rulesets.names_set rulesets name rules

end Registration

namespace Registry

/-- What is known is what was mentioned. -/
theorem Leads.knowsRuleset_iff {done : List Registration} {r : Registry} (h : empty.Leads done r)
    (name : RulesetName) :
    r.KnowsRuleset name ↔ name ∈ done.filterMap Registration.ruleset? := by
  have hempty : ¬empty.KnowsRuleset name := List.not_mem_nil
  rw [h.knows_iff]
  exact or_iff_right hempty

/-- **Known rulesets stand in the order of their first mention**, whatever else is registered. -/
theorem Leads.names_firstMentioned {done : List Registration} {r : Registry}
    (h : empty.Leads done r) :
    InOrderOf (done.filterMap Registration.ruleset?) r.rulesets.names := by
  induction h with
  | refl => exact List.Pairwise.nil
  | @step done s s' a hleads ok ih =>
      -- a ruleset that is not known yet has not been mentioned either, so this mention is the first
      have hknown (name : RulesetName) :
          name ∈ s.rulesets.names ↔ name ∈ done.filterMap Registration.ruleset? :=
        hleads.knowsRuleset_iff name
      rw [rulesets_perform ok, List.filterMap_append]
      cases hname : a.ruleset? with
      | none =>
          rw [List.filterMap_cons_none hname, List.filterMap_nil, List.append_nil,
            Registration.amend_of_ruleset?_eq_none hname]
          exact ih
      | some name =>
          rw [List.filterMap_cons_some hname, List.filterMap_nil, Registration.names_amend hname]
          split
          · exact ih.append (fun other => (hknown other).1) [name]
          · next hnew =>
            exact ih.append_singleton (fun other => (hknown other).1)
              fun hmentioned => hnew ((hknown name).2 hmentioned)

end Registry

/-! ### Calls -/

/-- A call that changes rulesets. -/
inductive RulesetCall where
  /-- Makes a ruleset known. -/
  | declare (use : RulesetUse) (name : RulesetName)
  /-- Replaces the rules of a ruleset. -/
  | set (use : RulesetUse) (name : RulesetName) (rules : List Rule)

namespace RulesetCall

/-- What a call does to a registry. -/
def perform (r : Registry) : RulesetCall → Registry
  | declare use name => r.declareRuleset use name
  | set use name rules => r.setRuleset use name rules

/-- The ruleset that a call mentions. -/
def name : RulesetCall → RulesetName
  | declare _ name | set _ name _ => name

/-- The rules that a call sets, with their ruleset. -/
def replacement? : RulesetCall → Option (RulesetName × List Rule)
  | declare .. => none
  | set _ name rules => some (name, rules)

/-- The rulesets that calls mention, in order. -/
def mentions (calls : List RulesetCall) : List RulesetName := calls.map name

/-- The rules that calls set, in order. -/
def replacements (calls : List RulesetCall) : List (RulesetName × List Rule) :=
  calls.filterMap replacement?

/-- A call as a registration. -/
def registration : RulesetCall → Registration
  | declare use name => .declareRuleset use name
  | set use name rules => .setRuleset use name rules

theorem perform_registration (r : Registry) (call : RulesetCall) :
    call.registration.perform r = .ok (call.perform r) := by
  cases call <;> rfl

theorem filterMap_ruleset?_registration (calls : List RulesetCall) :
    (calls.map registration).filterMap Registration.ruleset? = mentions calls := by
  have hname (call : RulesetCall) : call.registration.ruleset? = some call.name := by
    cases call <;> rfl
  rw [List.filterMap_map, mentions, ← List.filterMap_eq_map]
  exact congrArg (calls.filterMap ·) (funext hname)

theorem filterMap_rules?_registration (calls : List RulesetCall) :
    (calls.map registration).filterMap Registration.rules? = replacements calls := by
  have hrules (call : RulesetCall) : call.registration.rules? = call.replacement? := by
    cases call <;> rfl
  rw [List.filterMap_map, replacements]
  exact congrArg (calls.filterMap ·) (funext hrules)

end RulesetCall

namespace Registry

open RulesetCall

/-- The registry after some calls on an empty one. -/
def called (calls : List RulesetCall) : Registry := calls.foldl RulesetCall.perform empty

theorem called_append_singleton (calls : List RulesetCall) (call : RulesetCall) :
    called (calls ++ [call]) = call.perform (called calls) := by
  rw [called, List.foldl_append]
  rfl

/-- More calls lead on from where the first ones led. -/
theorem leads_called_append (calls later : List RulesetCall) :
    (called calls).Leads (later.map registration) (called (calls ++ later)) := by
  induction later using List.reverseRecOn with
  | nil =>
      rw [List.append_nil]
      exact .refl
  | append_singleton later call ih =>
      rw [← List.append_assoc, called_append_singleton, List.map_append]
      exact ih.step call.registration (perform_registration _ call)

/-- **Calls are registrations that are never refused.** -/
theorem leads_called (calls : List RulesetCall) :
    empty.Leads (calls.map registration) (called calls) :=
  leads_called_append [] calls

/-! ### The ordered map -/

/-- The rules of a ruleset are those that were set last, or none if they never were. -/
theorem rules_called_iff {calls : List RulesetCall} {use : RulesetUse} {name : RulesetName}
    {rules : List Rule} :
    (called calls).rules use name = rules ↔
      IsLast Prod.fst (replacements calls) name (name, rules) ∨
        (name ∉ (replacements calls).map Prod.fst ∧ rules = []) := by
  have hrules := (leads_called calls).rules_eq Coherent.empty name
  have hempty : empty.rulesets.rules name = [] := rfl
  rw [filterMap_rules?_registration, hempty] at hrules
  rw [Registry.rules, hrules, ← lastOf_eq_some_iff_isLast, ← lastOf_eq_none_iff]
  cases hlast : lastOf Prod.fst (replacements calls) name with
  | none => simp [eq_comm]
  | some entry =>
      have hkey : entry.1 = name := by
        obtain ⟨-, -, -, hkey, -⟩ := (lastOf_eq_some_iff_isLast _).1 hlast
        exact hkey
      obtain ⟨other, found⟩ := entry
      obtain rfl : other = name := hkey
      simp

/-- **The store behaves as one ordered map, for both uses.**  Either use reads the rules that were
set last, or none if there were never any set; a ruleset is known exactly if it was mentioned; and
either use lists the known rulesets once each, in the order of their first mention, in places that
no later call changes. -/
theorem rulesets_ordered_map (calls : List RulesetCall) :
    (∀ (use : RulesetUse) (name : RulesetName) (rules : List Rule),
      (called calls).rules use name = rules ↔
        IsLast Prod.fst (replacements calls) name (name, rules) ∨
          (name ∉ (replacements calls).map Prod.fst ∧ rules = [])) ∧
    (∀ name : RulesetName, (called calls).KnowsRuleset name ↔ name ∈ mentions calls) ∧
    ∀ use : RulesetUse,
      (∀ name : RulesetName,
        name ∈ (called calls).rulesetNames use ↔ (called calls).KnowsRuleset name) ∧
      ((called calls).rulesetNames use).Nodup ∧
      InOrderOf (mentions calls) ((called calls).rulesetNames use) ∧
      ∀ later : List RulesetCall,
        (called calls).rulesetNames use <+: (called (calls ++ later)).rulesetNames use := by
  have hleads := leads_called calls
  have horder : InOrderOf (mentions calls) (called calls).rulesets.names := by
    rw [← filterMap_ruleset?_registration]
    exact hleads.names_firstMentioned
  refine ⟨fun use name rules => rules_called_iff, ?_, ?_⟩
  · intro name
    rw [hleads.knowsRuleset_iff, filterMap_ruleset?_registration]
  · intro use
    exact ⟨fun name => Iff.rfl, horder.nodup, horder,
      fun later => Leads.names_prefix (leads_called_append calls later)⟩

/-- Declarations among replacements, for both uses: the rules are those that were set last, and the
rulesets stand where they were first mentioned. -/
example :
    let calls : List RulesetCall :=
      [.set .discovery .df [.null], .declare .hostLabel .disk, .set .hostLabel .df [.bool true],
        .declare .discovery .df, .set .discovery .mounts []]
    (called calls).rulesetNames .hostLabel = [.df, .disk, .mounts] ∧
      (called calls).rules .discovery .df = [.bool true] ∧
      (called calls).rules .hostLabel .disk = [] :=
  ⟨by decide, rfl, rfl⟩

end Registry

end MonitoringPlugins
