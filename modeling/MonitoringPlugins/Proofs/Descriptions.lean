/-
**Service descriptions keep items apart.**

The services of one plug-in are told apart by their descriptions alone, so two items must never be
described alike.  An item is a text of any kind.  It may be empty, it may hold the placeholder, and
where it meets the text around it the two may even make up a placeholder together.  None of this
matters.  A template that was accepted holds the placeholder at one place only, so the text before
it and the text after it are settled, and the item is all that is between them.

Main results:

* `MonitoringPlugins.ServiceName.parts_unique`, `MonitoringPlugins.ServiceName.split_eq_some_iff` —
  **a template that does not hold the placeholder twice has one split**, which is the one that is
  found;
* `MonitoringPlugins.ServiceName.describe_injective` — different items are described differently;
* `MonitoringPlugins.CheckDraft.descriptions_exact` — **what the services of an accepted plug-in are
  called**.
-/

import MonitoringPlugins.Proofs.Drafts

set_option autoImplicit false

namespace MonitoringPlugins

namespace ServiceName

variable {template : String}

/-! ### The parts of a template -/

/-- The placeholder between two texts, said of characters. -/
theorem eq_append_iff {front back : String} :
    template = front ++ "%s" ++ back ↔
      template.toList = front.toList ++ placeholder ++ back.toList := by
  rw [← String.toList_inj, String.toList_append, String.toList_append]
  rfl

/-- **A template that does not hold the placeholder twice has one split.** -/
theorem parts_unique (hone : ¬HoldsTwice template) {pre post pre' post' : List Char}
    (h : template.toList = pre ++ placeholder ++ post)
    (h' : template.toList = pre' ++ placeholder ++ post') : pre = pre' ∧ post = post' := by
  have hplace := standsAt_iff.2 ⟨pre, post, h, rfl⟩
  have hplace' := standsAt_iff.2 ⟨pre', post', h', rfl⟩
  have hlength : pre.length = pre'.length := by
    rcases Nat.lt_trichotomy pre.length pre'.length with hlt | heq | hgt
    · exact absurd (holdsTwice_iff.2 ⟨_, _, hlt, hplace, hplace'⟩) hone
    · exact heq
    · exact absurd (holdsTwice_iff.2 ⟨_, _, hgt, hplace', hplace⟩) hone
  have hsame : pre ++ placeholder ++ post = pre' ++ placeholder ++ post' := h.symm.trans h'
  have hfront : (pre ++ placeholder).length = (pre' ++ placeholder).length := by simp [hlength]
  obtain ⟨hpre, hpost⟩ := List.append_inj hsame hfront
  exact ⟨List.append_inj_left hpre hlength, hpost⟩

/-- The split that is found is that one. -/
theorem split_eq_some_iff (hone : ¬HoldsTwice template) {pre post : List Char} :
    split template.toList = some (pre, post) ↔ template.toList = pre ++ placeholder ++ post := by
  constructor
  · exact eq_of_split
  · intro h
    obtain ⟨front, back, hsplit, -⟩ := exists_split pre post
    rw [← h] at hsplit
    obtain ⟨rfl, rfl⟩ := parts_unique hone (eq_of_split hsplit) h
    exact hsplit

/-- **There is room for an item exactly if there is a split.** -/
theorem hasItem_iff_exists_parts :
    hasItem template = true ↔ ∃ front back : String, template = front ++ "%s" ++ back := by
  rw [hasItem_iff]
  constructor
  · rintro ⟨i, hi⟩
    obtain ⟨pre, post, htext, -⟩ := standsAt_iff.1 hi
    refine ⟨String.ofList pre, String.ofList post, eq_append_iff.2 ?_⟩
    rw [htext, String.toList_ofList, String.toList_ofList]
  · rintro ⟨front, back, htext⟩
    exact ⟨_, standsAt_iff.2 ⟨_, _, eq_append_iff.1 htext, rfl⟩⟩

/-! ### Descriptions -/

/-- The description of an item is the item between the parts. -/
theorem describe_of_parts (hone : ¬HoldsTwice template) {pre post : String}
    (h : template = pre ++ "%s" ++ post) (item : String) :
    describe template (some item) = pre ++ item ++ post := by
  have hsplit := (split_eq_some_iff hone).2 (eq_append_iff.1 h)
  rw [describe_of_split hsplit, ← String.toList_inj]
  simp

/-- **Different items are described differently**, as soon as there is room for one. -/
theorem describe_injective (h : hasItem template = true) :
    Function.Injective fun item : String => describe template (some item) := by
  obtain ⟨⟨pre, post⟩, hsplit⟩ := Option.isSome_iff_exists.1 h
  intro item other hsame
  dsimp only at hsame
  rw [describe_of_split hsplit, describe_of_split hsplit, String.ofList_inj] at hsame
  -- both parts are the same on both sides, so they cancel
  have hfront : pre ++ item.toList = pre ++ other.toList := List.append_cancel_right hsame
  exact String.toList_inj.1 (List.append_cancel_left hfront)

end ServiceName

/-! ### Accepted plug-ins -/

/-- **What the services of an accepted plug-in are called.**  With an item, there is one way to
split the service name at the placeholder, every item is described by itself between the two parts,
as it is, and different items are described differently; without its item such a service has the
template for a description.  Where there is no item, every description is the service name. -/
theorem CheckDraft.descriptions_exact {draft : CheckDraft} {p : CheckPlugin}
    (h : draft.build = .ok p) :
    (p.hasItem = true ↔ ∃ front back : String, p.serviceName = front ++ "%s" ++ back) ∧
    (p.hasItem = true →
      (∃ pre post : String,
        (∀ front back : String,
          p.serviceName = front ++ "%s" ++ back ↔ front = pre ∧ back = post) ∧
        ∀ item : String, p.description (some item) = pre ++ item ++ post) ∧
      (∀ item other : String, item ≠ other →
        p.description (some item) ≠ p.description (some other)) ∧
      p.description none = p.serviceName) ∧
    (p.hasItem = false → ∀ item : Option String, p.description item = p.serviceName) := by
  have hone : ¬ServiceName.HoldsTwice p.serviceName := by
    obtain ⟨hvalid, hgives⟩ := CheckDraft.build_eq_ok_iff.1 h
    rw [hgives.serviceName]
    exact hvalid.oneItem
  refine ⟨ServiceName.hasItem_iff_exists_parts, ?_, ?_⟩
  · intro hitem
    obtain ⟨pre, post, hparts⟩ := ServiceName.hasItem_iff_exists_parts.1 hitem
    refine ⟨⟨pre, post, ?_, ServiceName.describe_of_parts hone hparts⟩, ?_, rfl⟩
    · intro front back
      constructor
      · intro hother
        obtain ⟨hpre, hpost⟩ := ServiceName.parts_unique hone (ServiceName.eq_append_iff.1 hother)
          (ServiceName.eq_append_iff.1 hparts)
        exact ⟨String.toList_inj.1 hpre, String.toList_inj.1 hpost⟩
      · rintro ⟨rfl, rfl⟩
        exact hparts
    · intro item other hne hsame
      exact hne (ServiceName.describe_injective hitem hsame)
  · intro hnone item
    cases item with
    | none => rfl
    | some item => exact ServiceName.describe_of_not_hasItem hnone item

/-- A plug-in whose placeholder has a percent sign before it and a letter `s` after it. -/
def quotaDraft : CheckDraft where
  name := ⟨"quota", by decide⟩
  serviceName := "Quota %%ss"
  discovery _ _ := [{ item := some "%s" }]
  check _ _ _ := [⟨.ok, "fine"⟩]

/-- An item that is the placeholder is inserted as it is, and an empty item leaves one behind that
is not expanded again. -/
theorem CheckDraft.descriptions_exact_quotaDraft :
    ∃ p, quotaDraft.build = .ok p ∧ p.hasItem = true ∧
      (∀ front back : String,
        p.serviceName = front ++ "%s" ++ back ↔ front = "Quota %" ∧ back = "s") ∧
      p.description (some "%s") = "Quota %%ss" ∧ p.description (some "") = "Quota %s" := by
  have hbuilt : ∃ p, quotaDraft.build = .ok p := ⟨_, rfl⟩
  obtain ⟨p, hp⟩ := hbuilt
  have hname : p.serviceName = "Quota %" ++ "%s" ++ "s" :=
    (CheckDraft.build_eq_ok_iff.1 hp).2.serviceName
  obtain ⟨hiff, hitem, -⟩ := descriptions_exact hp
  have hhas : p.hasItem = true := hiff.2 ⟨_, _, hname⟩
  obtain ⟨⟨pre, post, hparts, hdescription⟩, -, -⟩ := hitem hhas
  obtain ⟨rfl, rfl⟩ := (hparts _ _).1 hname
  refine ⟨p, hp, hhas, hparts, ?_, ?_⟩
  · rw [hdescription]
    decide
  · rw [hdescription]
    decide

end MonitoringPlugins
