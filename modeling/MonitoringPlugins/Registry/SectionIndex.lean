/-
**The producers of parsed sections.**

Plug-ins ask for parsed sections, so the registered sections are indexed by what they produce.  A
parsed section without producers is not in the index.

Main definitions:

* `MonitoringPlugins.SectionIndex` — sections by what they produce, and then by name;
* `MonitoringPlugins.SectionIndex.producers` — the producers of a parsed section;
* `MonitoringPlugins.SectionIndex.add`, `MonitoringPlugins.SectionIndex.withdraw` — changes.

Main results:

* `MonitoringPlugins.SectionIndex.producers_add`,
  `MonitoringPlugins.SectionIndex.producers_withdraw` — **a change concerns the producers of one
  parsed section**.
-/

import MonitoringPlugins.Plugin.Section

set_option autoImplicit false

namespace MonitoringPlugins

/-- Sections by what they produce, and then by name. -/
abbrev SectionIndex := Std.ExtTreeMap ParsedSectionName (Std.ExtTreeMap SectionName Section)

namespace SectionIndex

/-! ### Operations -/

/-- The producers of a parsed section, by name. -/
def producers (index : SectionIndex) (parsed : ParsedSectionName) :
    Std.ExtTreeMap SectionName Section :=
  index.getD parsed ∅

/-- Makes a section a producer of what it parses into. -/
def add (index : SectionIndex) (s : Section) : SectionIndex :=
  index.insert s.parsedName ((index.producers s.parsedName).insert s.name s)

/-- Takes a section out of the producers of a parsed section, and the parsed section out of the
index if no producer is left. -/
def withdraw (index : SectionIndex) (parsed : ParsedSectionName) (name : SectionName) :
    SectionIndex :=
  let rest := (index.producers parsed).erase name
  if rest.isEmpty then index.erase parsed else index.insert parsed rest

/-! ### Producers -/

@[simp] theorem producers_empty (parsed : ParsedSectionName) : producers ∅ parsed = ∅ := by
  simp [producers]

/-- A section joins the producers of what it parses into, and no others. -/
theorem producers_add (index : SectionIndex) (s : Section) (parsed : ParsedSectionName) :
    (index.add s).producers parsed =
      if s.parsedName = parsed then (index.producers parsed).insert s.name s
      else index.producers parsed := by
  simp only [producers, add, Std.ExtTreeMap.getD_insert, Std.LawfulEqCmp.compare_eq_iff_eq]
  split
  · next h => rw [h]
  · rfl

/-- A withdrawal takes one name out of the producers of one parsed section. -/
theorem producers_withdraw (index : SectionIndex) (parsed other : ParsedSectionName)
    (name : SectionName) :
    (index.withdraw parsed name).producers other =
      if parsed = other then (index.producers other).erase name else index.producers other := by
  unfold withdraw
  dsimp only
  split
  · next h =>
    have he : (index.producers parsed).erase name = ∅ := by simpa using h
    by_cases ho : parsed = other
    · subst ho
      rw [if_pos rfl, he]
      simp [producers]
    · simp [producers, Std.ExtTreeMap.getD_erase, ho]
  · by_cases ho : parsed = other
    · subst ho
      simp [producers]
    · simp [producers, Std.ExtTreeMap.getD_insert, ho]

end SectionIndex

end MonitoringPlugins
