/-
**The mapping of names to management boards and back.**

A name is turned into that of a management board by a prefix, and back by taking the prefix off.
Either way may fail.  A prefix is not added twice, so a name that has it is refused; a name without
it has nothing to take off, and from the bare prefix nothing would be left.  One way validates its
result and the other does not.  This module settles for every name which of the two succeed and how
the others fail, and that the validation on the way back never finds a character to object to.

Between the names that a prefix may be added to and those that carry it once, the two ways undo each
other.  A name that carries it more often loses one prefix only, and does not come back.

Main definitions:

* `MonitoringPlugins.CheckPluginName.PrefixedOnce` — names that carry the prefix once;
* `MonitoringPlugins.CheckPluginName.boardEquiv` — **the mapping as a bijection**.

Main results:

* `MonitoringPlugins.CheckPluginName.toManagement_eq_error_iff`,
  `MonitoringPlugins.CheckPluginName.toBasic_eq_error_iff` — **how either way fails**;
* `MonitoringPlugins.CheckPluginName.exists_toBasic_iff` — which names have a basic counterpart;
* `MonitoringPlugins.CheckPluginName.toManagement_eq_ok_iff_toBasic` — **the two ways undo each
  other**;
* `MonitoringPlugins.CheckPluginName.managementNames_exact` — all of it together.
-/

import Mathlib.Logic.Equiv.Defs
import MonitoringPlugins.Name.Management

set_option autoImplicit false

namespace MonitoringPlugins.CheckPluginName

variable {n m b : CheckPluginName}

/-! ### Adding the prefix -/

/-- **Only a name that has the prefix is refused.** -/
theorem toManagement_eq_error_iff {e : NameError} :
    toManagement n = .error e ↔ n.IsManagement ∧ e = .alreadyManagement n.text := by
  constructor
  · intro h
    by_cases hn : n.IsManagement
    · rw [toManagement_of_isManagement hn] at h
      exact ⟨hn, (Except.error.inj h).symm⟩
    · obtain ⟨m, hm⟩ := exists_toManagement hn
      rw [hm] at h
      cases h
  · rintro ⟨hn, rfl⟩
    exact toManagement_of_isManagement hn

theorem exists_toManagement_iff : (∃ m, toManagement n = .ok m) ↔ ¬n.IsManagement := by
  constructor
  · rintro ⟨m, hm⟩
    exact (toManagement_eq_ok_iff.1 hm).1
  · exact exists_toManagement

/-- **Stripping undoes adding**, and adding undoes stripping where no prefix is left. -/
theorem toManagement_eq_ok_iff_toBasic :
    toManagement n = .ok m ↔ ¬n.IsManagement ∧ toBasic m = .ok n := by
  rw [toManagement_eq_ok_iff, toBasic_eq_ok_iff]

theorem isManagement_of_toManagement (h : toManagement n = .ok m) : m.IsManagement :=
  isManagement_of_toBasic (toManagement_eq_ok_iff_toBasic.1 h).2

/-! ### Taking it off -/

/-- What follows the prefix of a name is a name, unless nothing follows. -/
theorem isNameText_of_prefixed {rest : String} (hne : rest ≠ "")
    (h : IsNameText (managementPrefix ++ rest)) : IsNameText rest := by
  refine ⟨hne, fun c hc => h.2 c ?_⟩
  rw [String.toList_append, List.mem_append]
  exact .inr hc

theorem toBasic_of_not_isManagement (h : ¬m.IsManagement) :
    toBasic m = .error (.notManagement m.text) := by
  have hnone : withoutManagementPrefix? m.text.toList = none := by
    simpa [IsManagement] using h
  rw [toBasic, hnone]

/-- What is left after the prefix is validated as any other text. -/
theorem toBasic_of_text {rest : String} (h : m.text = managementPrefix ++ rest) :
    toBasic m = Name.ofText .checkPlugin rest := by
  have hrest : withoutManagementPrefix? m.text.toList = some rest.toList := by
    rw [withoutManagementPrefix?_eq_some_iff, h, String.toList_append]
  rw [toBasic, hrest]
  dsimp only
  rw [String.ofList_toList]

/-- **A name has a basic counterpart exactly if something follows its prefix.** -/
theorem exists_toBasic_iff :
    (∃ b, toBasic m = .ok b) ↔ ∃ rest : String, rest ≠ "" ∧ m.text = managementPrefix ++ rest := by
  constructor
  · rintro ⟨b, hb⟩
    exact ⟨b.text, b.isNameText.1, toBasic_eq_ok_iff.1 hb⟩
  · rintro ⟨rest, hne, htext⟩
    have hrest : IsNameText rest := isNameText_of_prefixed hne (htext ▸ m.isNameText)
    exact ⟨⟨rest, hrest⟩, toBasic_eq_ok_iff.2 htext⟩

/-- **A name has no basic counterpart because it lacks the prefix, or because it is the prefix.**
No character of a name is objected to. -/
theorem toBasic_eq_error_iff {e : NameError} :
    toBasic m = .error e ↔
      (¬m.IsManagement ∧ e = .notManagement m.text) ∨
        (m.text = managementPrefix ∧ e = .empty .checkPlugin) := by
  have hbare : m.text = managementPrefix → toBasic m = .error (.empty .checkPlugin) := by
    intro htext
    have happend : m.text = managementPrefix ++ "" := by rw [htext, String.append_empty]
    rw [toBasic_of_text happend]
    rfl
  constructor
  · intro h
    by_cases hm : m.IsManagement
    · obtain ⟨rest, htext⟩ := isManagement_iff.1 hm
      by_cases hne : rest = ""
      · have hself : m.text = managementPrefix := by rw [htext, hne, String.append_empty]
        rw [hbare hself] at h
        exact .inr ⟨hself, (Except.error.inj h).symm⟩
      · obtain ⟨b, hb⟩ := exists_toBasic_iff.2 ⟨rest, hne, htext⟩
        rw [hb] at h
        cases h
    · rw [toBasic_of_not_isManagement hm] at h
      exact .inl ⟨hm, (Except.error.inj h).symm⟩
  · rintro (⟨hm, rfl⟩ | ⟨htext, rfl⟩)
    · exact toBasic_of_not_isManagement hm
    · exact hbare htext

/-! ### The bijection -/

/-- **A name carries the prefix once**: something follows it that does not begin with it again.  The
bare prefix carries none, because nothing follows. -/
def PrefixedOnce (m : CheckPluginName) : Prop :=
  ∃ rest : String, rest ≠ "" ∧ m.text = managementPrefix ++ rest ∧
    ∀ later : String, rest ≠ managementPrefix ++ later

theorem prefixedOnce_iff : m.PrefixedOnce ↔ ∃ b, toBasic m = .ok b ∧ ¬b.IsManagement := by
  constructor
  · rintro ⟨rest, hne, htext, honce⟩
    obtain ⟨b, hb⟩ := exists_toBasic_iff.2 ⟨rest, hne, htext⟩
    have hrest : b.text = rest := by
      have happend := (toBasic_eq_ok_iff.1 hb).symm.trans htext
      rwa [String.append_right_inj] at happend
    exact ⟨b, hb, not_isManagement_iff.2 (hrest ▸ honce)⟩
  · rintro ⟨b, hb, hbasic⟩
    exact ⟨b.text, b.isNameText.1, toBasic_eq_ok_iff.1 hb, not_isManagement_iff.1 hbasic⟩

/-- The name of a management board that a name without the prefix belongs to. -/
def addPrefix (n : { n : CheckPluginName // ¬n.IsManagement }) :
    { m : CheckPluginName // m.PrefixedOnce } :=
  ⟨⟨managementPrefix ++ n.1.text, isNameText_prefixed n.1.isNameText⟩,
    prefixedOnce_iff.2 ⟨n.1, toBasic_eq_ok_iff.2 rfl, n.2⟩⟩

theorem toManagement_eq_addPrefix (n : { n : CheckPluginName // ¬n.IsManagement }) :
    toManagement n.1 = .ok (addPrefix n).1 :=
  toManagement_eq_ok_iff.2 ⟨n.2, rfl⟩

/-- The name without the prefix that the name of a management board belongs to. -/
def takePrefix (m : { m : CheckPluginName // m.PrefixedOnce }) :
    { n : CheckPluginName // ¬n.IsManagement } :=
  match h : toBasic m.1 with
  | .ok b => ⟨b, by
      obtain ⟨b', hb', hbasic⟩ := prefixedOnce_iff.1 m.2
      rw [h] at hb'
      cases hb'
      exact hbasic⟩
  | .error e => absurd (prefixedOnce_iff.1 m.2) (by simp [h])

theorem toBasic_eq_takePrefix (m : { m : CheckPluginName // m.PrefixedOnce }) :
    toBasic m.1 = .ok (takePrefix m).1 := by
  obtain ⟨b, hb, -⟩ := prefixedOnce_iff.1 m.2
  unfold takePrefix
  split
  · next h => exact h
  · next h =>
    rw [hb] at h
    cases h

/-- **Names without the prefix correspond to names that carry it once.** -/
def boardEquiv :
    { n : CheckPluginName // ¬n.IsManagement } ≃ { m : CheckPluginName // m.PrefixedOnce } where
  toFun := addPrefix
  invFun := takePrefix
  left_inv n := by
    have hback : toBasic (addPrefix n).1 = .ok n.1 :=
      (toManagement_eq_ok_iff_toBasic.1 (toManagement_eq_addPrefix n)).2
    rw [toBasic_eq_takePrefix] at hback
    exact Subtype.ext (Except.ok.inj hback)
  right_inv m := by
    have hforth : toManagement (takePrefix m).1 = .ok m.1 :=
      toManagement_eq_ok_iff_toBasic.2 ⟨(takePrefix m).2, toBasic_eq_takePrefix m⟩
    rw [toManagement_eq_addPrefix] at hforth
    exact Subtype.ext (Except.ok.inj hforth)

/-! ### All names -/

/-- **The mapping of names to management boards and back.**  Adding the prefix succeeds exactly for
names without it and gives a valid management name, which stripping leads back; all other names are
refused for having the prefix.  Stripping succeeds exactly for names with something after the
prefix; it fails for names without the prefix and for the bare prefix, each in its own way, and
never for a character.  What it gives is led back exactly if no prefix is left.  So the two are a
bijection of the names without the prefix and those that carry it once. -/
theorem managementNames_exact :
    (∀ n : CheckPluginName,
      ((∃ m, toManagement n = .ok m) ↔ ¬n.IsManagement) ∧
      (∀ m, toManagement n = .ok m → m.text = managementPrefix ++ n.text ∧ IsNameText m.text ∧
        m.IsManagement ∧ toBasic m = .ok n) ∧
      ∀ e, toManagement n = .error e ↔ n.IsManagement ∧ e = .alreadyManagement n.text) ∧
    (∀ m : CheckPluginName,
      (m.IsManagement ↔ ∃ rest : String, m.text = managementPrefix ++ rest) ∧
      ((∃ b, toBasic m = .ok b) ↔ ∃ rest : String, rest ≠ "" ∧ m.text = managementPrefix ++ rest) ∧
      (∀ e, toBasic m = .error e ↔
        (¬m.IsManagement ∧ e = .notManagement m.text) ∨
          (m.text = managementPrefix ∧ e = .empty .checkPlugin)) ∧
      (∀ (kind : NameKind) (text : String) (found : Char),
        toBasic m ≠ .error (.invalidCharacter kind text found)) ∧
      ∀ b, toBasic m = .ok b → (toManagement b = .ok m ↔ ¬b.IsManagement) ∧
        (b.IsManagement → toManagement b = .error (.alreadyManagement b.text))) ∧
    (∀ n : { n : CheckPluginName // ¬n.IsManagement }, toManagement n = .ok (boardEquiv n).1) ∧
    ∀ m : { m : CheckPluginName // m.PrefixedOnce }, toBasic m = .ok (boardEquiv.symm m).1 := by
  refine ⟨?_, ?_, toManagement_eq_addPrefix, toBasic_eq_takePrefix⟩
  · intro n
    refine ⟨exists_toManagement_iff, ?_, fun e => toManagement_eq_error_iff⟩
    intro m hm
    exact ⟨(toManagement_eq_ok_iff.1 hm).2, m.isNameText, isManagement_of_toManagement hm,
      (toManagement_eq_ok_iff_toBasic.1 hm).2⟩
  · intro m
    refine ⟨isManagement_iff, exists_toBasic_iff, fun e => toBasic_eq_error_iff, ?_, ?_⟩
    · intro kind text found h
      rcases toBasic_eq_error_iff.1 h with ⟨-, he⟩ | ⟨-, he⟩
      · cases he
      · cases he
    · intro b hb
      refine ⟨?_, toManagement_of_isManagement⟩
      rw [toManagement_eq_ok_iff_toBasic]
      exact and_iff_left hb

/-- The prefix without its underscore is a name like any other: prefixed, it begins as if the prefix
were doubled. -/
def mgmt : CheckPluginName := ⟨"mgmt", by decide⟩

/-- A name that carries the prefix twice. -/
def mgmtMgmtIpmi : CheckPluginName := ⟨"mgmt_mgmt_ipmi", by decide⟩

/-- The bare prefix. -/
def barePrefix : CheckPluginName := ⟨"mgmt_", by decide⟩

theorem managementNames_exact_mgmt :
    (∃ m, toManagement mgmt = .ok m ∧ m.text = "mgmt_mgmt" ∧ m.IsManagement ∧
      toBasic m = .ok mgmt) ∧
    (∃ b, toBasic mgmtMgmtIpmi = .ok b ∧ b.text = "mgmt_ipmi" ∧
      toManagement b = .error (.alreadyManagement "mgmt_ipmi")) ∧
    toBasic barePrefix = .error (.empty .checkPlugin) := by
  obtain ⟨hadd, htake, -⟩ := managementNames_exact
  refine ⟨?_, ?_, ?_⟩
  · obtain ⟨hexists, hprefixed, -⟩ := hadd mgmt
    obtain ⟨m, hm⟩ := hexists.2 (by decide)
    obtain ⟨htext, -, hmanagement, hback⟩ := hprefixed m hm
    exact ⟨m, hm, htext, hmanagement, hback⟩
  · obtain ⟨-, hexists, -, -, hagain⟩ := htake mgmtMgmtIpmi
    obtain ⟨b, hb⟩ := hexists.2 ⟨"mgmt_ipmi", by decide, by decide⟩
    have htext : b.text = "mgmt_ipmi" := by
      have happend : managementPrefix ++ "mgmt_ipmi" = managementPrefix ++ b.text :=
        toBasic_eq_ok_iff.1 hb
      rw [String.append_right_inj] at happend
      exact happend.symm
    refine ⟨b, hb, htext, ?_⟩
    rw [← htext]
    exact (hagain b hb).2 (isManagement_iff.2 ⟨"ipmi", htext⟩)
  · exact ((htake barePrefix).2.2.1 _).2 (.inr ⟨rfl, rfl⟩)

end MonitoringPlugins.CheckPluginName
