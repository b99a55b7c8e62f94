/-
**Names in circulation.**

A name carries the proof that its text is in the grammar, so a conversion of names cannot leave the
grammar; one that did would not have been accepted.  What the conversions do to texts is not seen
in this.  Most of them do not validate anything.  The name of a section becomes that of a parsed
section as it is, and the prefix of management boards is put in front of whatever text there is.
This module takes the proofs away.  Texts are handed on as plain texts, and nothing is known of a
text but what was found where it was validated, however long ago.

How a name comes about is a tree: at its leaves texts and JSON values from outside, above them one
conversion after the other, and new constructions from texts of names in between.  With and without
the proofs, all of these trees have the same outcome, texts and errors alike.  So whatever comes
about without the proofs is in the grammar too, and can be validated again as a name of any kind.

Main definitions:

* `MonitoringPlugins.InAlphabet` — the characters of names, by their ranges;
* `MonitoringPlugins.Name.validated`, `MonitoringPlugins.Name.validatedJson`,
  `MonitoringPlugins.CheckPluginName.prefixedText`, `MonitoringPlugins.CheckPluginName.strippedText`
  — what is done to plain texts;
* `MonitoringPlugins.NameOrigin` — **how a name comes about**;
* `MonitoringPlugins.NameOrigin.name`, `MonitoringPlugins.NameOrigin.plainText` — the name, and
  its text without the proofs on the way.

Main results:

* `MonitoringPlugins.isNameText_iff` — the grammar of names, character by character;
* `MonitoringPlugins.Name.compress_toJson` — a name is written between quotes as it is;
* `MonitoringPlugins.Name.ofText_eq_error_iff_foreign` — what is reported of other texts;
* `MonitoringPlugins.NameOrigin.map_text_name` — **the proofs change no outcome**;
* `MonitoringPlugins.NameOrigin.isNameText_of_plainText` — **what comes about is in the grammar**;
* `MonitoringPlugins.names_in_grammar` — which texts are names, and that all names in circulation
  are.
-/

import MonitoringPlugins.Name.Json
import MonitoringPlugins.Name.Management
import MonitoringPlugins.Proofs.JsonStrings

set_option autoImplicit false

namespace MonitoringPlugins

/-! ### The alphabet -/

/-- **The characters of names**: the letters and digits of ASCII, and the underscore. -/
def InAlphabet (c : Char) : Prop :=
  ('a' ≤ c ∧ c ≤ 'z') ∨ ('A' ≤ c ∧ c ≤ 'Z') ∨ ('0' ≤ c ∧ c ≤ '9') ∨ c = '_'

instance : DecidablePred InAlphabet := fun _ => inferInstanceAs (Decidable (_ ∨ _))

theorem isNameChar_iff {c : Char} : isNameChar c = true ↔ InAlphabet c := by
  -- upper-case letters are tested in one go, lower-case letters and digits bound by bound
  have hranges : isNameChar c = (decide ('A' ≤ c ∧ c ≤ 'Z') || ('a' ≤ c && c ≤ 'z') ||
      ('0' ≤ c && c ≤ '9') || decide (c = '_')) := rfl
  simp only [hranges, InAlphabet, Bool.or_eq_true, Bool.and_eq_true, decide_eq_true_eq]
  constructor
  · intro h
    rcases h with ((h | h) | h) | h
    · exact .inr (.inl h)
    · exact .inl h
    · exact .inr (.inr (.inl h))
    · exact .inr (.inr (.inr h))
  · intro h
    rcases h with h | h | h | h
    · exact .inl (.inl (.inr h))
    · exact .inl (.inl (.inl h))
    · exact .inl (.inr h)
    · exact .inr h

theorem isNameChar_eq_false_iff {c : Char} : isNameChar c = false ↔ ¬InAlphabet c := by
  rw [← isNameChar_iff, Bool.not_eq_true]

/-- The grammar of names, character by character. -/
theorem isNameText_iff {text : String} :
    IsNameText text ↔ text ≠ "" ∧ ∀ c ∈ text.toList, InAlphabet c := by
  simp only [IsNameText, isNameChar_iff]

/-- No character of a name has to be escaped. -/
theorem escape_of_inAlphabet {c : Char} (h : InAlphabet c) : Json.escape c = [c] := by
  have hne (d : Char) (hd : ¬InAlphabet d) : c ≠ d := by
    rintro rfl
    exact hd h
  have hcontrol : ¬c.toNat < 0x20 := by
    intro hlow
    have hall : ∀ n < 0x20, ¬InAlphabet (Char.ofNat n) := by decide
    apply hall c.toNat hlow
    rwa [Char.ofNat_toNat]
  simp [Json.escape, hcontrol, hne '"' (by decide), hne '\\' (by decide),
    hne '\x08' (by decide), hne '\x0c' (by decide), hne '\n' (by decide),
    hne '\r' (by decide), hne '\t' (by decide)]

/-- A name is written between quotes as it is. -/
theorem Name.compress_toJson {kind : NameKind} (n : Name kind) :
    n.toJson.compress = "\"" ++ n.text ++ "\"" := by
  have hplain : ∀ c ∈ n.text.toList, Json.escape c = [c] := by
    intro c hc
    exact escape_of_inAlphabet ((isNameText_iff.1 n.isNameText).2 c hc)
  rw [toJson, Json.compress, Json.writeString_of_plain hplain]

/-! ### Why a text is no name -/

namespace Name

variable {kind : NameKind} {text : String}

theorem exists_ofText_iff : (∃ n, ofText kind text = .ok n) ↔ IsNameText text := by
  constructor
  · intro h
    obtain ⟨n, hn⟩ := h
    exact (ofText_eq_ok_iff.1 hn).1
  · intro h
    exact ⟨⟨text, h⟩, ofText_eq_ok_iff.2 ⟨h, rfl⟩⟩

/-- **What is reported of a text that is no name**: that it is empty, or else the first character
outside the alphabet. -/
theorem ofText_eq_error_iff_foreign {e : NameError} :
    ofText kind text = .error e ↔
      (text = "" ∧ e = .empty kind) ∨
        ∃ before found after, text.toList = before ++ found :: after ∧
          (∀ c ∈ before, InAlphabet c) ∧ ¬InAlphabet found ∧
          e = .invalidCharacter kind text found := by
  rw [ofText_eq_error_iff]
  constructor
  · intro h
    cases h with
    | empty h => exact .inl ⟨h, rfl⟩
    | invalidCharacter htext hbefore hfound =>
        refine .inr ⟨_, _, _, htext, ?_, isNameChar_eq_false_iff.1 hfound, rfl⟩
        intro c hc
        exact isNameChar_iff.1 (hbefore c hc)
  · intro h
    rcases h with ⟨hempty, rfl⟩ | ⟨before, found, after, htext, hbefore, hfound, rfl⟩
    · exact .empty hempty
    · refine .invalidCharacter htext ?_ (isNameChar_eq_false_iff.2 hfound)
      intro c hc
      exact isNameChar_iff.2 (hbefore c hc)

/-- A string of a JSON text is read as a name like the text that it writes. -/
theorem map_ofJson_writeString (kind : NameKind) (text : String) :
    (Json.ofText? (Json.writeString text)).map (ofJson kind) =
      some ((ofText kind text).mapError .noName) := by
  rw [Json.ofText?_writeString, Option.map_some, ofJson_str]

end Name

/-! ### Plain texts -/

section Steps

variable {ε ε' α β γ δ : Type}

theorem map_mapError {x : Except ε α} {f : ε → ε'} {g : α → β} :
    (x.mapError f).map g = (x.map g).mapError f := by
  cases x with
  | error e => rfl
  | ok a => rfl

/-- Two steps in a row commute with a view if the second one does. -/
theorem map_bind_of_map_eq {x : Except ε α} {f : α → Except ε β} {p : α → γ} {q : β → δ}
    {g : γ → Except ε δ} (h : ∀ a, (f a).map q = g (p a)) :
    (x >>= f).map q = x.map p >>= g := by
  cases x with
  | error e => rfl
  | ok a => exact h a

end Steps

namespace Name

/-- A text that is validated as a name of a kind, and stays a plain text. -/
def validated (kind : NameKind) (text : String) : Except NameError String :=
  if text = "" then .error (.empty kind)
  else
    match invalidChar? text with
    | some found => .error (.invalidCharacter kind text found)
    | none => .ok text

theorem map_text_ofText (kind : NameKind) (text : String) :
    (ofText kind text).map (·.text) = validated kind text := by
  unfold ofText validated
  by_cases hempty : text = ""
  · rw [dif_pos hempty, if_pos hempty]
    rfl
  · rw [dif_neg hempty, if_neg hempty]
    split
    · next found hfound =>
        rw [hfound]
        rfl
    · next hnone =>
        -- the proof that the name carries is about the text, so it has to go before rewriting
        change Except.ok text = _
        rw [hnone]

/-- The text of a JSON value, validated as a name of a kind. -/
def validatedJson (kind : NameKind) (v : Json) : Except NameReadError String := do
  let text ← (Data.text (.ofJson v)).mapError .noText
  (validated kind text).mapError .noName

theorem map_text_ofJson (kind : NameKind) (v : Json) :
    (ofJson kind v).map (·.text) = validatedJson kind v := by
  unfold ofJson validatedJson
  cases Data.text (.ofJson v) with
  | error fault => rfl
  | ok text =>
      change ((ofText kind text).mapError _).map _ = (validated kind text).mapError _
      rw [map_mapError, map_text_ofText]

end Name

namespace CheckPluginName

/-- A text with the management prefix put in front of it, unless it begins with it. -/
def prefixedText (text : String) : Except NameError String :=
  if (withoutManagementPrefix? text.toList).isSome then .error (.alreadyManagement text)
  else .ok (managementPrefix ++ text)

theorem map_text_toManagement (n : CheckPluginName) :
    (toManagement n).map (·.text) = prefixedText n.text := by
  by_cases h : n.IsManagement
  · have hbegins : (withoutManagementPrefix? n.text.toList).isSome = true := h
    rw [toManagement_of_isManagement h, prefixedText, if_pos hbegins]
    rfl
  · have hbegins : ¬(withoutManagementPrefix? n.text.toList).isSome = true := h
    rw [toManagement, if_neg h, prefixedText, if_neg hbegins]
    rfl

/-- What follows the management prefix of a text, validated as the name of a check plug-in. -/
def strippedText (text : String) : Except NameError String :=
  match withoutManagementPrefix? text.toList with
  | none => .error (.notManagement text)
  | some rest => Name.validated .checkPlugin (String.ofList rest)

theorem map_text_toBasic (n : CheckPluginName) :
    (toBasic n).map (·.text) = strippedText n.text := by
  unfold toBasic strippedText
  cases withoutManagementPrefix? n.text.toList with
  | none => rfl
  | some rest => exact Name.map_text_ofText .checkPlugin (String.ofList rest)

end CheckPluginName

/-! ### How names come about -/

/-- **How a name comes about.** -/
inductive NameOrigin : NameKind → Type
  /-- From a text. -/
  | text (kind : NameKind) (text : String) : NameOrigin kind
  /-- From a JSON value. -/
  | json (kind : NameKind) (v : Json) : NameOrigin kind
  /-- From the text of a name, of any kind. -/
  | again {kind : NameKind} (other : NameKind) (origin : NameOrigin kind) : NameOrigin other
  /-- From a name of any kind that was written as JSON. -/
  | stored {kind : NameKind} (other : NameKind) (origin : NameOrigin kind) : NameOrigin other
  /-- As the parsed section of a section or of a plug-in. -/
  | parsedSection {kind : NameKind} (origin : NameOrigin kind) : NameOrigin .parsedSection
  /-- As the plug-in for the management board. -/
  | management (origin : NameOrigin .checkPlugin) : NameOrigin .checkPlugin
  /-- As the plug-in that one for a management board belongs to. -/
  | basic (origin : NameOrigin .checkPlugin) : NameOrigin .checkPlugin

namespace NameOrigin

/-- The name that comes about. -/
def name : {kind : NameKind} → NameOrigin kind → Except NameReadError (Name kind)
  | _, text kind s => (Name.ofText kind s).mapError .noName
  | _, json kind v => Name.ofJson kind v
  | _, again other origin => do
    let n ← origin.name
    (Name.ofText other n.text).mapError .noName
  | _, stored other origin => do
    let n ← origin.name
    Name.ofJson other n.toJson
  | _, parsedSection origin => do
    let n ← origin.name
    return n.toParsedSection
  | _, management origin => do
    let n ← origin.name
    (CheckPluginName.toManagement n).mapError .noName
  | _, basic origin => do
    let n ← origin.name
    (CheckPluginName.toBasic n).mapError .noName

/-- The text that comes about, with nothing known of any text on the way. -/
def plainText : {kind : NameKind} → NameOrigin kind → Except NameReadError String
  | _, text kind s => (Name.validated kind s).mapError .noName
  | _, json kind v => Name.validatedJson kind v
  | _, again other origin => do
    let s ← origin.plainText
    (Name.validated other s).mapError .noName
  | _, stored other origin => do
    let s ← origin.plainText
    Name.validatedJson other (.str s)
  | _, parsedSection origin => origin.plainText
  | _, management origin => do
    let s ← origin.plainText
    (CheckPluginName.prefixedText s).mapError .noName
  | _, basic origin => do
    let s ← origin.plainText
    (CheckPluginName.strippedText s).mapError .noName

variable {kind : NameKind} {origin : NameOrigin kind}

/-- **The proofs change no outcome**: names that carry them have the texts, and the errors, that
come about without them. -/
theorem map_text_name (origin : NameOrigin kind) :
    origin.name.map (·.text) = origin.plainText := by
  -- each step does to the text of a name what it does to the name, and fails where that fails
  induction origin with
  | text kind s => rw [name, plainText, map_mapError, Name.map_text_ofText]
  | json kind v => exact Name.map_text_ofJson kind v
  | again other origin ih =>
      rw [name, plainText, ← ih]
      apply map_bind_of_map_eq
      intro n
      rw [map_mapError, Name.map_text_ofText]
  | stored other origin ih =>
      rw [name, plainText, ← ih]
      apply map_bind_of_map_eq
      intro n
      exact Name.map_text_ofJson other n.toJson
  | parsedSection origin ih =>
      rw [name, plainText, ← ih]
      cases origin.name with
      | error e => rfl
      | ok n => rfl
  | management origin ih =>
      rw [name, plainText, ← ih]
      apply map_bind_of_map_eq
      intro n
      rw [map_mapError, CheckPluginName.map_text_toManagement]
  | basic origin ih =>
      rw [name, plainText, ← ih]
      apply map_bind_of_map_eq
      intro n
      rw [map_mapError, CheckPluginName.map_text_toBasic]

theorem exists_name_of_plainText {s : String} (h : origin.plainText = .ok s) :
    ∃ n, origin.name = .ok n ∧ n.text = s := by
  rw [← map_text_name] at h
  cases hname : origin.name with
  | error e =>
      rw [hname] at h
      cases h
  | ok n =>
      rw [hname] at h
      exact ⟨n, rfl, Except.ok.inj h⟩

/-- **What comes about is in the grammar**, though hardly any step on the way looks at it. -/
theorem isNameText_of_plainText {s : String} (h : origin.plainText = .ok s) : IsNameText s := by
  obtain ⟨n, -, rfl⟩ := exists_name_of_plainText h
  exact n.isNameText

end NameOrigin

/-! ### All names -/

/-- **Which texts are names, and that all names in circulation are.**  A name is constructed from
exactly those texts that are not empty and have no character outside the alphabet, be it from the
text or from the JSON text that writes it.  It has that text, and is written as that text.  Any
other text is refused for being empty, or for the first character outside the alphabet.  However a
name comes about from there, by further constructions and by conversions, the outcome is the same
if no name carries any proof; and what comes about is in the grammar, and is a name of any kind
when it is validated again. -/
theorem names_in_grammar :
    (∀ (kind : NameKind) (s : String),
      ((∃ n, Name.ofText kind s = .ok n) ↔ s ≠ "" ∧ ∀ c ∈ s.toList, InAlphabet c) ∧
      (∀ n, Name.ofText kind s = .ok n →
        n.text = s ∧ n.toJson = .str s ∧ n.toJson.compress = "\"" ++ s ++ "\"") ∧
      (∀ e, Name.ofText kind s = .error e ↔
        (s = "" ∧ e = .empty kind) ∨
          ∃ before found after, s.toList = before ++ found :: after ∧
            (∀ c ∈ before, InAlphabet c) ∧ ¬InAlphabet found ∧
            e = .invalidCharacter kind s found) ∧
      (Json.ofText? (Json.writeString s)).map (Name.ofJson kind) =
        some ((Name.ofText kind s).mapError .noName)) ∧
    (∀ (kind : NameKind) (v : Json) (n : Name kind),
      Name.ofJson kind v = .ok n ↔ v = n.toJson) ∧
    ∀ (kind : NameKind) (origin : NameOrigin kind),
      origin.name.map (·.text) = origin.plainText ∧
      ∀ s, origin.plainText = .ok s →
        (s ≠ "" ∧ ∀ c ∈ s.toList, InAlphabet c) ∧
        ∀ other : NameKind, ∃ n : Name other, Name.ofText other s = .ok n ∧ n.text = s := by
  refine ⟨?_, ?_, ?_⟩
  · intro kind s
    refine ⟨?_, ?_, ?_, Name.map_ofJson_writeString kind s⟩
    · rw [Name.exists_ofText_iff, isNameText_iff]
    · intro n hn
      obtain ⟨-, rfl⟩ := Name.ofText_eq_ok_iff.1 hn
      exact ⟨rfl, rfl, n.compress_toJson⟩
    · intro e
      exact Name.ofText_eq_error_iff_foreign
  · intro kind v n
    exact Name.ofJson_eq_ok_iff
  · intro kind origin
    refine ⟨NameOrigin.map_text_name origin, ?_⟩
    intro s hs
    have htext : IsNameText s := NameOrigin.isNameText_of_plainText hs
    refine ⟨isNameText_iff.1 htext, ?_⟩
    intro other
    exact ⟨⟨s, htext⟩, Name.ofText_eq_ok_iff.2 ⟨htext, rfl⟩, rfl⟩

/-- A section name, taken as the name of a check plug-in, prefixed, and then handed on as the name
of a parsed section. -/
def boardSection : NameOrigin .parsedSection :=
  .parsedSection (.management (.again .checkPlugin (.json .rawSection (.str "mgmt"))))

theorem names_in_grammar_boardSection :
    boardSection.plainText = .ok "mgmt_mgmt" ∧
    (∃ n : RulesetName, Name.ofText .ruleset "mgmt_mgmt" = .ok n ∧
      n.toJson.compress = "\"mgmt_mgmt\"") ∧
    Name.ofText .checkPlugin "df.inodes" =
      .error (.invalidCharacter .checkPlugin "df.inodes" '.') := by
  obtain ⟨htexts, -, horigins⟩ := names_in_grammar
  have hplain : boardSection.plainText = .ok "mgmt_mgmt" := by rfl
  refine ⟨hplain, ?_, ?_⟩
  · obtain ⟨n, hn, -⟩ := ((horigins .parsedSection boardSection).2 _ hplain).2 .ruleset
    exact ⟨n, hn, ((htexts .ruleset "mgmt_mgmt").2.1 n hn).2.2⟩
  · refine ((htexts .checkPlugin "df.inodes").2.2.1 _).2
      (.inr ⟨['d', 'f'], '.', _, rfl, ?_, by decide, rfl⟩)
    intro c hc
    have hdf : c = 'd' ∨ c = 'f' := by simpa using hc
    rcases hdf with rfl | rfl
    · decide
    · decide

end MonitoringPlugins
