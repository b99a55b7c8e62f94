/-
**Validated names.**

Sections, parsed sections, check plug-ins, inventory plug-ins and rulesets are all known by names
of one grammar: one or more ASCII letters, digits and underscores.  The five families are kept
apart by their type, so that a section can never be looked up among the plug-ins, and the grammar is
part of the type, so that a name in circulation never has to be checked again.

Main definitions:

* `MonitoringPlugins.NameKind`, `MonitoringPlugins.Name` — the five families, and a name of one of
  them;
* `MonitoringPlugins.NameError`, `MonitoringPlugins.NameError.message` — why a text is no name;
* `MonitoringPlugins.Name.ofText` — the name with a given text;
* `MonitoringPlugins.Name.toParsedSection` — the parsed section of the same text.

Main results:

* `MonitoringPlugins.Name.ofText_text` — every name is read back from its text;
* `MonitoringPlugins.Name.ofText_eq_ok_iff` — **a text is a name exactly when it is in the
  grammar**, and then the name has that text;
* `MonitoringPlugins.Name.ofText_eq_error_iff` — what is reported of a text that is none.
-/

import MonitoringPlugins.Text.Quoted
import MonitoringPlugins.Text.Record

set_option autoImplicit false

namespace MonitoringPlugins

/-! ### The grammar -/

/-- What a name is the name of. -/
inductive NameKind where
  | rawSection
  | parsedSection
  | checkPlugin
  | inventoryPlugin
  | ruleset
  deriving DecidableEq

namespace NameKind

/-- The kind of name, as error messages call it. -/
def label : NameKind → String
  | rawSection => "section name"
  | parsedSection => "parsed section name"
  | checkPlugin => "check plug-in name"
  | inventoryPlugin => "inventory plug-in name"
  | ruleset => "ruleset name"

/-- The type of name, as one-line descriptions call it. -/
def typeName : NameKind → String
  | rawSection => "SectionName"
  | parsedSection => "ParsedSectionName"
  | checkPlugin => "CheckPluginName"
  | inventoryPlugin => "InventoryPluginName"
  | ruleset => "RuleSetName"

end NameKind

/-- Whether a character may occur in a name: an ASCII letter, an ASCII digit or the underscore. -/
def isNameChar (c : Char) : Bool := c.isAlphanum || c = '_'

/-- Whether a text is in the grammar of names. -/
def IsNameText (text : String) : Prop :=
  text ≠ "" ∧ ∀ c ∈ text.toList, isNameChar c = true

instance (text : String) : Decidable (IsNameText text) :=
  -- only the characters of the text are looked at, not all characters there are
  letI : Decidable (∀ c ∈ text.toList, isNameChar c = true) := List.decidableBAll _ _
  inferInstanceAs (Decidable (_ ∧ _))

/-- A name of the given kind. -/
structure Name (kind : NameKind) where
  text : String
  isNameText : IsNameText text
  deriving DecidableEq

/-- Name of a raw section. -/
abbrev SectionName := Name .rawSection

/-- Name of what one or more sections parse into. -/
abbrev ParsedSectionName := Name .parsedSection

/-- Name of a check plug-in. -/
abbrev CheckPluginName := Name .checkPlugin

/-- Name of an inventory plug-in. -/
abbrev InventoryPluginName := Name .inventoryPlugin

/-- Name of a ruleset. -/
abbrev RulesetName := Name .ruleset

/-! ### Errors -/

/-- Why a text is no name, or a name has no counterpart. -/
inductive NameError where
  /-- The text is empty. -/
  | empty (kind : NameKind)
  /-- The text holds a character outside the grammar; `found` is the first. -/
  | invalidCharacter (kind : NameKind) (text : String) (found : Char)
  /-- The name does not address a management board. -/
  | notManagement (text : String)
  /-- The name addresses a management board already. -/
  | alreadyManagement (text : String)
  deriving DecidableEq

/-- The wording of an error. -/
def NameError.message : NameError → String
  | empty kind => kind.label ++ " must not be empty"
  | invalidCharacter kind text found =>
    "invalid character " ++ Text.quotedChar found ++ " in " ++ kind.label ++ " " ++
      Text.quoted text
  | notManagement text => Text.quoted text ++ " is not a management plug-in name"
  | alreadyManagement text => Text.quoted text ++ " already is a management plug-in name"

namespace Name

variable {kind : NameKind}

/-! ### Order -/

@[ext] theorem ext {a b : Name kind} (h : a.text = b.text) : a = b := by
  cases a; cases b; simp_all

/-- Names are ordered by their texts. -/
instance : Ord (Name kind) := ⟨fun a b => compare a.text b.text⟩

theorem compare_eq (a b : Name kind) : compare a b = compare a.text b.text := rfl

instance : Std.TransOrd (Name kind) where
  eq_swap {a b} := (Std.OrientedCmp.eq_swap : compare a.text b.text = _)
  isLE_trans {a b c} h₁ h₂ :=
    (Std.TransCmp.isLE_trans (b := b.text) h₁ h₂ : (compare a.text c.text).isLE)

instance : Std.LawfulEqOrd (Name kind) where
  eq_of_compare {a b} h :=
    Name.ext (Std.compare_eq_iff_eq.1 ((compare_eq a b).symm.trans h))

/-! ### Names from texts -/

/-- The first character of a text that is outside the grammar. -/
def invalidChar? (text : String) : Option Char := text.toList.find? fun c => !isNameChar c

theorem invalidChar?_eq_none_iff {text : String} :
    invalidChar? text = none ↔ ∀ c ∈ text.toList, isNameChar c = true := by
  simp [invalidChar?]

/-- The name with a given text. -/
def ofText (kind : NameKind) (text : String) : Except NameError (Name kind) :=
  if empty : text = "" then .error (.empty kind)
  else
    match invalid : invalidChar? text with
    | some found => .error (.invalidCharacter kind text found)
    | none => .ok ⟨text, empty, invalidChar?_eq_none_iff.1 invalid⟩

/-- Every name is read back from its text. -/
@[simp] theorem ofText_text (n : Name kind) : ofText kind n.text = .ok n := by
  have h := invalidChar?_eq_none_iff.2 n.isNameText.2
  unfold ofText
  rw [dif_neg n.isNameText.1]
  split
  · simp_all
  · rfl

/-- **A text is a name exactly when it is in the grammar**, and then the name has that text. -/
theorem ofText_eq_ok_iff {text : String} {n : Name kind} :
    ofText kind text = .ok n ↔ IsNameText text ∧ n.text = text := by
  constructor
  · intro h
    unfold ofText at h
    split at h
    · cases h
    · split at h
      · cases h
      · cases h
        exact ⟨⟨‹_›, invalidChar?_eq_none_iff.1 ‹_›⟩, rfl⟩
  · rintro ⟨-, rfl⟩
    exact ofText_text n

/-- **Why a text is no name**: it is empty, or some character, of which the first counts, is outside
the grammar. -/
inductive Refused (kind : NameKind) (text : String) : NameError → Prop
  | empty (h : text = "") : Refused kind text (.empty kind)
  | invalidCharacter {before after : List Char} {found : Char}
      (htext : text.toList = before ++ found :: after)
      (hbefore : ∀ c ∈ before, isNameChar c = true) (hfound : isNameChar found = false) :
      Refused kind text (.invalidCharacter kind text found)

theorem invalidChar?_eq_some_iff {text : String} {found : Char} :
    invalidChar? text = some found ↔ isNameChar found = false ∧ ∃ before after,
      text.toList = before ++ found :: after ∧ ∀ c ∈ before, isNameChar c = true := by
  simp [invalidChar?, List.find?_eq_some_iff_append]

/-- **What is reported of a text that is no name.** -/
theorem ofText_eq_error_iff {text : String} {e : NameError} :
    ofText kind text = .error e ↔ Refused kind text e := by
  constructor
  · intro h
    unfold ofText at h
    split at h
    · cases h
      exact .empty ‹_›
    · split at h
      · cases h
        obtain ⟨hfound, before, after, htext, hbefore⟩ := invalidChar?_eq_some_iff.1 ‹_›
        exact .invalidCharacter htext hbefore hfound
      · cases h
  · intro h
    cases h with
    | empty h => exact dif_pos h
    | invalidCharacter htext hbefore hfound =>
      have hinvalid := invalidChar?_eq_some_iff.2 ⟨hfound, _, _, htext, hbefore⟩
      have hne : text ≠ "" := by
        rintro rfl
        simp at htext
      unfold ofText
      rw [dif_neg hne]
      split <;> simp_all

/-! ### Views -/

/-- A name on one line, with its type. -/
def describe (n : Name kind) : String := Text.wrapped kind.typeName (Text.quoted n.text)

/-- The name of another kind with the same text: all kinds share one grammar. -/
def recast (other : NameKind) (n : Name kind) : Name other := ⟨n.text, n.isNameText⟩

/-- The parsed section of the same text: what a section produces, and what a plug-in subscribes to,
unless they say otherwise. -/
def toParsedSection (n : Name kind) : ParsedSectionName := n.recast .parsedSection

@[simp] theorem text_toParsedSection (n : Name kind) : n.toParsedSection.text = n.text := rfl

end Name

end MonitoringPlugins
