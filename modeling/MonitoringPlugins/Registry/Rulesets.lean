/-
**Rulesets.**

Discovery rulesets and host label rulesets live in one store: the host labels of a section and the
discovery of a plug-in may be refined by the same rules.  A ruleset is known from its first mention
on and keeps its place among the known ones; rules are replaced as a whole.

Main definitions:

* `MonitoringPlugins.Rulesets` — the known rulesets with their rules;
* `MonitoringPlugins.Rulesets.declare`, `MonitoringPlugins.Rulesets.set` — making a ruleset known,
  and replacing its rules;
* `MonitoringPlugins.Rulesets.names`, `MonitoringPlugins.Rulesets.rules` — what is known.

Main results:

* `MonitoringPlugins.Rulesets.rules_set`, `MonitoringPlugins.Rulesets.rules_declare` — **the rules
  change by being set only**;
* `MonitoringPlugins.Rulesets.names_set`, `MonitoringPlugins.Rulesets.names_declare` — a mention
  adds the name to the end of the known ones, unless it is known already;
* `MonitoringPlugins.Rulesets.knows_set`, `MonitoringPlugins.Rulesets.knows_declare` — either way of
  mentioning a ruleset makes it known.
-/

import MonitoringPlugins.Json.Basic
import MonitoringPlugins.Name.Basic

set_option autoImplicit false

namespace MonitoringPlugins

/-- One rule.  Rules are matched elsewhere; here they are only kept. -/
abbrev Rule := Json

/-- What a ruleset is used for.  The use makes no difference to the store. -/
inductive RulesetUse where
  | discovery
  | hostLabel
  deriving DecidableEq

/-- The known rulesets, in the order of their first mention, with their rules. -/
structure Rulesets where
  entries : List (RulesetName × List Rule) := []

namespace Rulesets

/-! ### Operations -/

/-- The names of the known rulesets, in the order of their first mention. -/
def names (r : Rulesets) : List RulesetName := r.entries.map (·.1)

/-- Whether a ruleset is known. -/
def Knows (r : Rulesets) (name : RulesetName) : Prop := name ∈ r.names

instance (r : Rulesets) (name : RulesetName) : Decidable (r.Knows name) :=
  inferInstanceAs (Decidable (_ ∈ _))

/-- How many rulesets are known. -/
def size (r : Rulesets) : Nat := r.entries.length

/-- The rules among some entries; a ruleset that is not there has none. -/
def rulesIn (name : RulesetName) : List (RulesetName × List Rule) → List Rule
  | [] => []
  | entry :: rest => if entry.1 = name then entry.2 else rulesIn name rest

/-- Replaces rules among some entries, at the end if they are not there. -/
def setIn (name : RulesetName) (rules : List Rule) :
    List (RulesetName × List Rule) → List (RulesetName × List Rule)
  | [] => [(name, rules)]
  | entry :: rest =>
    if entry.1 = name then (name, rules) :: rest else entry :: setIn name rules rest

/-- The rules of a ruleset; an unknown one has none. -/
def rules (r : Rulesets) (name : RulesetName) : List Rule := rulesIn name r.entries

/-- Makes a ruleset known and keeps the rules it has. -/
def declare (r : Rulesets) (name : RulesetName) : Rulesets :=
  if r.Knows name then r else ⟨r.entries ++ [(name, [])]⟩

/-- Replaces the rules of a ruleset and makes it known. -/
def set (r : Rulesets) (name : RulesetName) (rules : List Rule) : Rulesets :=
  ⟨setIn name rules r.entries⟩

/-! ### Known names -/

theorem map_setIn (name : RulesetName) (rules : List Rule)
    (entries : List (RulesetName × List Rule)) :
    (setIn name rules entries).map (·.1) =
      if name ∈ entries.map (·.1) then entries.map (·.1) else entries.map (·.1) ++ [name] := by
  induction entries with
  | nil => simp [setIn]
  | cons entry rest ih =>
    by_cases h : entry.1 = name
    · simp [setIn, h]
    · simp only [setIn, h, if_false, List.map_cons, ih, List.mem_cons, Ne.symm h, false_or]
      split <;> simp

/-- Setting rules adds the name to the end of the known ones, unless it is known already. -/
theorem names_set (r : Rulesets) (name : RulesetName) (rules : List Rule) :
    (r.set name rules).names = if r.Knows name then r.names else r.names ++ [name] :=
  map_setIn name rules r.entries

/-- A declaration adds the name to the end of the known ones, unless it is known already. -/
theorem names_declare (r : Rulesets) (name : RulesetName) :
    (r.declare name).names = if r.Knows name then r.names else r.names ++ [name] := by
  unfold declare
  split <;> simp [names]

theorem knows_set {r : Rulesets} {name other : RulesetName} {rules : List Rule} :
    (r.set name rules).Knows other ↔ r.Knows other ∨ name = other := by
  unfold Knows
  rw [names_set]
  split
  · next h =>
    constructor
    · exact .inl
    · rintro (hknown | rfl)
      · exact hknown
      · exact h
  · simp [eq_comm]

theorem knows_declare {r : Rulesets} {name other : RulesetName} :
    (r.declare name).Knows other ↔ r.Knows other ∨ name = other := by
  unfold Knows
  rw [names_declare, ← names_set r name []]
  exact knows_set

/-! ### Rules -/

theorem rulesIn_setIn (name other : RulesetName) (rules : List Rule)
    (entries : List (RulesetName × List Rule)) :
    rulesIn other (setIn name rules entries) =
      if name = other then rules else rulesIn other entries := by
  induction entries with
  | nil => simp [setIn, rulesIn]
  | cons entry rest ih =>
    by_cases h : entry.1 = name
    · by_cases ho : name = other <;> simp [setIn, rulesIn, h, ho]
    · by_cases ho : name = other
      · subst ho
        simp [setIn, rulesIn, h, ih]
      · simp [setIn, rulesIn, h, ih, ho]

theorem rulesIn_append_empty (name other : RulesetName)
    (entries : List (RulesetName × List Rule)) :
    rulesIn other (entries ++ [(name, [])]) = rulesIn other entries := by
  induction entries with
  | nil => simp [rulesIn]
  | cons entry rest ih => simp [rulesIn, ih]

/-- **Setting rules changes those of one ruleset.** -/
theorem rules_set (r : Rulesets) (name other : RulesetName) (new : List Rule) :
    (r.set name new).rules other = if name = other then new else r.rules other :=
  rulesIn_setIn name other new r.entries

/-- **A declaration changes no rules.** -/
@[simp] theorem rules_declare (r : Rulesets) (name other : RulesetName) :
    (r.declare name).rules other = r.rules other := by
  unfold declare rules
  split
  · rfl
  · exact rulesIn_append_empty name other r.entries

end Rulesets

end MonitoringPlugins
