/-
**Names of management boards.**

A check plug-in can be addressed to the management board of a host instead of the host itself.  Its
name then carries a prefix, and mapping names to and fro is adding and stripping it once.  The bare
prefix has no basic counterpart, because a name is never empty; a name with the prefix is not
prefixed again.

Main definitions:

* `MonitoringPlugins.CheckPluginName.IsManagement` — the names that carry the prefix;
* `MonitoringPlugins.CheckPluginName.toManagement`, `MonitoringPlugins.CheckPluginName.toBasic` —
  adding and stripping the prefix.

Main results:

* `MonitoringPlugins.CheckPluginName.isManagement_iff` — management names are those that begin with
  the prefix;
* `MonitoringPlugins.CheckPluginName.isNameText_prefixed` — a prefixed name is in the grammar of
  names;
* `MonitoringPlugins.CheckPluginName.toManagement_eq_ok_iff`,
  `MonitoringPlugins.CheckPluginName.toBasic_eq_ok_iff` — **adding and stripping the prefix undo
  each other**, but a prefix is never added to a prefixed name.
-/

import MonitoringPlugins.Name.Basic

set_option autoImplicit false

namespace MonitoringPlugins

/-- What the names of plug-ins for management boards begin with. -/
def managementPrefix : String := "mgmt_"

/-- The characters of a text after the management prefix, if it begins with it. -/
def withoutManagementPrefix? : List Char → Option (List Char)
  | 'm' :: 'g' :: 'm' :: 't' :: '_' :: rest => some rest
  | _ => none

/-- **Only a text that begins with the prefix has a rest after it.** -/
theorem withoutManagementPrefix?_eq_some_iff {cs rest : List Char} :
    withoutManagementPrefix? cs = some rest ↔ cs = managementPrefix.toList ++ rest := by
  have hp : managementPrefix.toList = ['m', 'g', 'm', 't', '_'] := by decide
  rw [hp]
  constructor
  · intro h
    unfold withoutManagementPrefix? at h
    split at h
    · cases h
      rfl
    · cases h
  · rintro rfl
    rfl

namespace CheckPluginName

/-- Whether a name addresses a management board. -/
def IsManagement (n : CheckPluginName) : Prop :=
  (withoutManagementPrefix? n.text.toList).isSome = true

instance (n : CheckPluginName) : Decidable n.IsManagement :=
  inferInstanceAs (Decidable (_ = true))

/-- A management name begins with the prefix. -/
theorem isManagement_iff {n : CheckPluginName} :
    n.IsManagement ↔ ∃ rest : String, n.text = managementPrefix ++ rest := by
  rw [IsManagement, Option.isSome_iff_exists]
  constructor
  · rintro ⟨rest, hrest⟩
    refine ⟨String.ofList rest, ?_⟩
    rw [← String.toList_inj, String.toList_append, String.toList_ofList]
    exact withoutManagementPrefix?_eq_some_iff.1 hrest
  · rintro ⟨rest, htext⟩
    refine ⟨rest.toList, withoutManagementPrefix?_eq_some_iff.2 ?_⟩
    rw [htext, String.toList_append]

theorem not_isManagement_iff {n : CheckPluginName} :
    ¬n.IsManagement ↔ ∀ rest : String, n.text ≠ managementPrefix ++ rest := by
  rw [isManagement_iff, not_exists]

/-- The plug-in of the host that a management name belongs to. -/
def toBasic (n : CheckPluginName) : Except NameError CheckPluginName :=
  match withoutManagementPrefix? n.text.toList with
  | none => .error (.notManagement n.text)
  | some rest => Name.ofText .checkPlugin (String.ofList rest)

/-- A prefixed name is in the grammar of names. -/
theorem isNameText_prefixed {text : String} (h : IsNameText text) :
    IsNameText (managementPrefix ++ text) := by
  have hp : managementPrefix.toList = ['m', 'g', 'm', 't', '_'] := by decide
  constructor
  · intro he
    have := congrArg String.toList he
    simp [hp] at this
  · intro c hc
    simp only [String.toList_append, List.mem_append] at hc
    rcases hc with hc | hc
    · have hall : ['m', 'g', 'm', 't', '_'].all isNameChar = true := by decide
      rw [hp] at hc
      exact List.all_eq_true.1 hall c hc
    · exact h.2 c hc

/-- The plug-in for the management board that a basic name belongs to. -/
def toManagement (n : CheckPluginName) : Except NameError CheckPluginName :=
  if n.IsManagement then .error (.alreadyManagement n.text)
  else .ok ⟨managementPrefix ++ n.text, isNameText_prefixed n.isNameText⟩

/-- **A name is prefixed once.** -/
theorem toManagement_eq_ok_iff {n m : CheckPluginName} :
    toManagement n = .ok m ↔ ¬n.IsManagement ∧ m.text = managementPrefix ++ n.text := by
  unfold toManagement
  split
  · next h =>
    constructor
    · intro hm
      cases hm
    · intro hm
      exact absurd h hm.1
  · next h =>
    constructor
    · intro hm
      cases hm
      exact ⟨h, rfl⟩
    · rintro ⟨-, hm⟩
      exact congrArg Except.ok (Name.ext hm.symm)

/-- A name that has the prefix is refused. -/
theorem toManagement_of_isManagement {n : CheckPluginName} (h : n.IsManagement) :
    toManagement n = .error (.alreadyManagement n.text) :=
  if_pos h

theorem exists_toManagement {n : CheckPluginName} (h : ¬n.IsManagement) :
    ∃ m, toManagement n = .ok m :=
  ⟨_, if_neg h⟩

/-- **Stripping takes off what was added.** -/
theorem toBasic_eq_ok_iff {n basic : CheckPluginName} :
    toBasic n = .ok basic ↔ n.text = managementPrefix ++ basic.text := by
  have htext : n.text = managementPrefix ++ basic.text ↔
      withoutManagementPrefix? n.text.toList = some basic.text.toList := by
    rw [withoutManagementPrefix?_eq_some_iff, ← String.toList_append, String.toList_inj]
  rw [htext, toBasic]
  cases withoutManagementPrefix? n.text.toList with
  | none => exact ⟨nofun, nofun⟩
  | some rest =>
      dsimp only
      rw [Name.ofText_eq_ok_iff, Option.some.injEq]
      constructor
      · rintro ⟨-, hbasic⟩
        rw [hbasic, String.toList_ofList]
      · rintro rfl
        rw [String.ofList_toList]
        exact ⟨basic.isNameText, rfl⟩

theorem isManagement_of_toBasic {n basic : CheckPluginName} (h : toBasic n = .ok basic) :
    n.IsManagement :=
  isManagement_iff.2 ⟨basic.text, toBasic_eq_ok_iff.1 h⟩

end CheckPluginName

end MonitoringPlugins
