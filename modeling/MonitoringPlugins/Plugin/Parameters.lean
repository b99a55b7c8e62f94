/-
**Parameters and subscriptions.**

Check and inventory plug-ins subscribe to parsed sections and run with parameters.  The rules of a
ruleset refine default parameters, so the two come together or not at all: a built plug-in carries
them as a pair.

Main definitions:

* `MonitoringPlugins.Parameters`, `MonitoringPlugins.DefaultParameters` — parameters, and default
  parameters with the ruleset that refines them;
* `MonitoringPlugins.DefaultParameters.pair` — the pair of what a draft gives;
* `MonitoringPlugins.firstRepeated`, `MonitoringPlugins.RepeatedFirst` — the first repetition in a
  list, as it is found and as it is;
* `MonitoringPlugins.Subscription.of` — the parsed sections that a draft subscribes to.

Main results:

* `MonitoringPlugins.firstRepeated_eq_none_iff` — **nothing is repeated exactly when the list has
  no duplicates**;
* `MonitoringPlugins.firstRepeated_eq_some_iff` — **what is found is the first repetition**.
-/

import MonitoringPlugins.Json.Basic
import MonitoringPlugins.Plugin.Error

set_option autoImplicit false

namespace MonitoringPlugins

universe u

/-! ### Parameters -/

/-- Parameters of a plug-in function. -/
abbrev Parameters := Table Json

/-- Default parameters with the ruleset whose rules refine them. -/
structure DefaultParameters where
  ruleset : RulesetName
  values : Parameters

/-- The pair of the default parameters and the ruleset that a draft gives, or neither. -/
def DefaultParameters.pair (plugin : String) (stage : Stage) :
    Option Parameters → Option RulesetName → Except DefinitionError (Option DefaultParameters)
  | none, none => .ok none
  | some values, some ruleset => .ok (some ⟨ruleset, values⟩)
  | some _, none => .error (.missingRuleset plugin stage)
  | none, some ruleset => .error (.missingDefaults plugin stage ruleset)

/-! ### Repetitions -/

/-- The first element that stands in `seen` or equals an earlier element. -/
def firstRepeatedAfter {α : Type u} [DecidableEq α] (seen : List α) : List α → Option α
  | [] => none
  | a :: rest => if a ∈ seen then some a else firstRepeatedAfter (a :: seen) rest

/-- The first element that equals an earlier one. -/
def firstRepeated {α : Type u} [DecidableEq α] (items : List α) : Option α :=
  firstRepeatedAfter [] items

theorem firstRepeatedAfter_eq_none_iff {α : Type u} [DecidableEq α] {seen items : List α} :
    firstRepeatedAfter seen items = none ↔ items.Nodup ∧ ∀ a ∈ items, a ∉ seen := by
  induction items generalizing seen with
  | nil => simp [firstRepeatedAfter]
  | cons a rest ih =>
    by_cases ha : a ∈ seen
    · simp [firstRepeatedAfter, ha]
    · simp only [firstRepeatedAfter, ha, if_false, ih, List.nodup_cons, List.mem_cons, not_or]
      constructor
      · rintro ⟨hn, hs⟩
        refine ⟨⟨fun h => (hs a h).1 rfl, hn⟩, fun b hb => ?_⟩
        rcases hb with rfl | hb
        · exact ha
        · exact (hs b hb).2
      · rintro ⟨⟨hr, hn⟩, hs⟩
        exact ⟨hn, fun b hb => ⟨fun e => hr (e ▸ hb), hs b (.inr hb)⟩⟩

/-- **Nothing is repeated exactly when the list has no duplicates.** -/
theorem firstRepeated_eq_none_iff {α : Type u} [DecidableEq α] {items : List α} :
    firstRepeated items = none ↔ items.Nodup := by
  simp [firstRepeated, firstRepeatedAfter_eq_none_iff]

/-- The first element of a list that equals an earlier one. -/
def RepeatedFirst {α : Type u} (items : List α) (a : α) : Prop :=
  ∃ before after, items = before ++ a :: after ∧ before.Nodup ∧ a ∈ before

theorem firstRepeatedAfter_eq_some_iff {α : Type u} [DecidableEq α] {seen items : List α} {a : α} :
    firstRepeatedAfter seen items = some a ↔ ∃ before after, items = before ++ a :: after ∧
      firstRepeatedAfter seen before = none ∧ (a ∈ before ∨ a ∈ seen) := by
  induction items generalizing seen with
  | nil => simp [firstRepeatedAfter]
  | cons b rest ih =>
    by_cases hb : b ∈ seen
    · rw [firstRepeatedAfter, if_pos hb, Option.some.injEq]
      constructor
      · rintro rfl
        exact ⟨[], rest, rfl, rfl, .inr hb⟩
      · rintro ⟨before, after, h, hnone, -⟩
        rcases List.cons_eq_append_iff.1 h with ⟨-, hhead⟩ | ⟨before, rfl, -⟩
        · exact (List.cons.inj hhead).1.symm
        · simp [firstRepeatedAfter, hb] at hnone
    · rw [firstRepeatedAfter, if_neg hb, ih]
      constructor
      · rintro ⟨before, after, rfl, hnone, ha⟩
        refine ⟨b :: before, after, rfl, by rwa [firstRepeatedAfter, if_neg hb], ?_⟩
        simpa [or_left_comm, or_assoc] using ha
      · rintro ⟨before, after, h, hnone, ha⟩
        rcases List.cons_eq_append_iff.1 h with ⟨rfl, hhead⟩ | ⟨before, rfl, rfl⟩
        · obtain rfl : a = b := (List.cons.inj hhead).1
          exact absurd ha (by simpa using hb)
        · rw [firstRepeatedAfter, if_neg hb] at hnone
          refine ⟨before, after, rfl, hnone, ?_⟩
          simpa [or_left_comm, or_assoc] using ha

/-- **What is found is the first element that equals an earlier one.** -/
theorem firstRepeated_eq_some_iff {α : Type u} [DecidableEq α] {items : List α} {a : α} :
    firstRepeated items = some a ↔ RepeatedFirst items a := by
  simp [firstRepeated, firstRepeatedAfter_eq_some_iff, firstRepeatedAfter_eq_none_iff,
    RepeatedFirst]

/-! ### Subscriptions -/

/-- The parsed sections that a plug-in subscribes to, in the declared order: the one of its own name
if it declares none, and none of them twice. -/
def Subscription.of {kind : NameKind} (plugin : Name kind) (declared : List ParsedSectionName) :
    Except DefinitionError (List ParsedSectionName) :=
  let sections := if declared = [] then [plugin.toParsedSection] else declared
  match firstRepeated sections with
  | some parsed => .error (.repeatedSection plugin.text parsed)
  | none => .ok sections

end MonitoringPlugins
