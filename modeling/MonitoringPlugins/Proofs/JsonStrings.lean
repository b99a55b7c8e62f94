/-
**Strings of JSON, written and read.**

Inside the quotes of a string most characters stand for themselves.  The quote and the backslash do
not, nor do the control characters; they are escaped, by a letter or by four digits.  The reader
takes one character after the other, escaped or not, and stops at the first quote that is not
escaped.

One step of the reader undoes what the writer has done to one character, whatever comes after it.
So the reader gets to the end of a string with all of its characters, and every string is read as it
was written, with any characters in it.

Main results:

* `MonitoringPlugins.Json.hexNumber?_hexDigits` — **a number is read from its digits**;
* `MonitoringPlugins.Json.unicodeEscape_hexDigits` — so is a control character;
* `MonitoringPlugins.Json.escape_cases` — the ways to write a character;
* `MonitoringPlugins.Json.stringBody_escape_append` — **one character is read as it was written**;
* `MonitoringPlugins.Json.stringBody_flatMap_escape` — so are all up to the closing quote;
* `MonitoringPlugins.Json.ofText?_writeString` — **every string is read as it was written**;
* `MonitoringPlugins.Json.writeString_of_plain` — a text without anything to escape is written
  between quotes as it is.
-/

import Mathlib.Data.List.Basic
import MonitoringPlugins.Json.Printer
import MonitoringPlugins.Json.Reader

set_option autoImplicit false

namespace MonitoringPlugins.Json

open Text

/-! ### Escapes by digits -/

@[simp] theorem length_hexDigits (k n : Nat) : (hexDigits k n).length = k := by
  induction k generalizing n with
  | zero => rfl
  | succ k ih => simp [hexDigits, ih]

theorem isHexDigit_digitChar : ∀ d < 16, isHexDigit (Nat.digitChar d) = true := by
  decide

theorem digitValue_digitChar : ∀ d < 16, digitValue (Nat.digitChar d) = d := by
  decide

theorem all_isHexDigit_hexDigits (k n : Nat) : (hexDigits k n).all isHexDigit = true := by
  induction k generalizing n with
  | zero => rfl
  | succ k ih =>
      have hlast : isHexDigit (Nat.digitChar (n % 16)) = true :=
        isHexDigit_digitChar _ (Nat.mod_lt n (by decide))
      rw [hexDigits, List.all_append, ih, List.all_cons, hlast, List.all_nil]
      rfl

/-- The last digits of a number tell the number up to a power of the base. -/
theorem numeral_hexDigits (k n : Nat) : numeral 16 (hexDigits k n) = n % Nat.pow 16 k := by
  induction k generalizing n with
  | zero => exact (Nat.mod_one n).symm
  | succ k ih =>
      have hlast : digitValue (Nat.digitChar (n % 16)) = n % 16 :=
        digitValue_digitChar _ (Nat.mod_lt n (by decide))
      have hpow : Nat.pow 16 (k + 1) = 16 * Nat.pow 16 k := Nat.mul_comm _ _
      rw [hexDigits, numeral_append, ih, hlast, hpow, Nat.mod_mul, Nat.mul_comm 16, Nat.add_comm]

/-- **A number is read from its digits**, if there are enough of them. -/
theorem hexNumber?_hexDigits {k n : Nat} (h : n < Nat.pow 16 k) :
    hexNumber? (hexDigits k n) = some n := by
  rw [hexNumber?, if_pos (all_isHexDigit_hexDigits k n), numeral_hexDigits, Nat.mod_eq_of_lt h]

theorem charOfCode?_toNat (c : Char) : charOfCode? c.toNat = some c := by
  have hvalid : c.toNat.isValidChar := c.valid
  rw [charOfCode?, dif_pos hvalid]
  exact congrArg some (Char.ext rfl)

/-- A control character is read from its digits. -/
theorem unicodeEscape_hexDigits {c : Char} (h : c.toNat < 0x20) (rest : List Char) :
    unicodeEscape (hexDigits 4 c.toNat ++ rest) = some (c, rest) := by
  have htake : (hexDigits 4 c.toNat ++ rest).take 4 = hexDigits 4 c.toNat :=
    List.take_left' (length_hexDigits 4 c.toNat)
  have hdrop : (hexDigits 4 c.toNat ++ rest).drop 4 = rest :=
    List.drop_left' (length_hexDigits 4 c.toNat)
  have hnumber : hexNumber? (hexDigits 4 c.toNat) = some c.toNat :=
    hexNumber?_hexDigits (Nat.lt_trans h (by decide))
  simp [unicodeEscape, htake, hdrop, hnumber, charOfCode?_toNat]

/-! ### The ways to write a character -/

/-- **What is written for a character**: a letter after a backslash that the reader takes for it,
four digits, or the character itself. -/
theorem escape_cases (c : Char) :
    (∃ e, shortEscape? e = some c ∧ escape c = ['\\', e]) ∨
      (c.toNat < 0x20 ∧ escape c = ['\\', 'u'] ++ hexDigits 4 c.toNat) ∨
      (c ≠ '"' ∧ c ≠ '\\' ∧ ¬c.toNat < 0x20 ∧ escape c = [c]) := by
  unfold escape
  split
  · next h =>
      rcases h with rfl | rfl
      · exact .inl ⟨'"', rfl, rfl⟩
      · exact .inl ⟨'\\', rfl, rfl⟩
  split
  · next h => exact .inl ⟨'b', h ▸ rfl, rfl⟩
  split
  · next h => exact .inl ⟨'f', h ▸ rfl, rfl⟩
  split
  · next h => exact .inl ⟨'n', h ▸ rfl, rfl⟩
  split
  · next h => exact .inl ⟨'r', h ▸ rfl, rfl⟩
  split
  · next h => exact .inl ⟨'t', h ▸ rfl, rfl⟩
  split
  · next h => exact .inr (.inl ⟨h, rfl⟩)
  · next hquoted _ _ _ _ _ hcontrol =>
      rw [not_or] at hquoted
      exact .inr (.inr ⟨hquoted.1, hquoted.2, hcontrol, rfl⟩)

theorem escape_ne_nil (c : Char) : escape c ≠ [] := by
  rcases escape_cases c with ⟨e, -, hc⟩ | ⟨-, hc⟩ | ⟨-, -, -, hc⟩ <;> rw [hc] <;>
    exact List.cons_ne_nil _ _

/-! ### One step of the reader -/

section Steps

variable {fuel : Nat} {c e : Char} {rest : List Char}

theorem stringBody_shortEscape (h : shortEscape? e = some c) :
    stringBody (fuel + 1) ('\\' :: e :: rest) =
      (stringBody fuel rest).map fun read => (c :: read.1, read.2) := by
  -- the letter before digits stands for no character
  have hdigits : e ≠ 'u' := by
    rintro rfl
    cases h
  rw [stringBody.eq_def]
  cases hread : stringBody fuel rest with
  | none => simp [h, hread]
  | some read => simp [h, hread]

theorem stringBody_unicodeEscape {cs : List Char} (h : unicodeEscape cs = some (c, rest)) :
    stringBody (fuel + 1) ('\\' :: 'u' :: cs) =
      (stringBody fuel rest).map fun read => (c :: read.1, read.2) := by
  rw [stringBody.eq_def]
  cases hread : stringBody fuel rest with
  | none => simp [h, hread]
  | some read => simp [h, hread]

theorem stringBody_plain (hquote : c ≠ '"') (hbackslash : c ≠ '\\')
    (hcontrol : ¬c.toNat < 0x20) :
    stringBody (fuel + 1) (c :: rest) =
      (stringBody fuel rest).map fun read => (c :: read.1, read.2) := by
  rw [stringBody.eq_def]
  cases hread : stringBody fuel rest with
  | none => simp [hbackslash, hcontrol, hread]
  | some read => simp [hbackslash, hcontrol, hread]

/-- **One character is read as it was written**, whatever comes after it. -/
theorem stringBody_escape_append (fuel : Nat) (c : Char) (rest : List Char) :
    stringBody (fuel + 1) (escape c ++ rest) =
      (stringBody fuel rest).map fun read => (c :: read.1, read.2) := by
  rcases escape_cases c with ⟨e, he, hc⟩ | ⟨hcontrol, hc⟩ | ⟨hquote, hbackslash, hcontrol, hc⟩
  · rw [hc]
    exact stringBody_shortEscape he
  · rw [hc, List.append_assoc]
    exact stringBody_unicodeEscape (unicodeEscape_hexDigits hcontrol rest)
  · rw [hc]
    exact stringBody_plain hquote hbackslash hcontrol

end Steps

/-! ### Strings -/

/-- All characters up to the closing quote are read as they were written. -/
theorem stringBody_flatMap_escape {fuel : Nat} {cs : List Char} (h : cs.length < fuel)
    (rest : List Char) :
    stringBody fuel (cs.flatMap escape ++ '"' :: rest) = some (cs, rest) := by
  induction cs generalizing fuel with
  | nil =>
      obtain ⟨k, rfl⟩ : ∃ k, fuel = k + 1 := ⟨fuel - 1, by omega⟩
      rfl
  | cons c cs ih =>
      obtain ⟨k, rfl⟩ : ∃ k, fuel = k + 1 := ⟨fuel - 1, by omega⟩
      have hk : cs.length < k := by simpa using h
      rw [List.flatMap_cons, List.append_assoc, stringBody_escape_append, ih hk]
      rfl

/-- No character is left out, so the characters that are written bound those that are read. -/
theorem length_le_length_flatMap_escape (cs : List Char) :
    cs.length ≤ (cs.flatMap escape).length := by
  induction cs with
  | nil => exact Nat.zero_le _
  | cons c cs ih =>
      have hc := List.length_pos_iff.2 (escape_ne_nil c)
      rw [List.flatMap_cons, List.length_append, List.length_cons]
      omega

/-- What is written for a string is read as the string. -/
theorem string_flatMap_escape (s : String) (rest : List Char) :
    string (s.toList.flatMap escape ++ '"' :: rest) = some (s, rest) := by
  have hfuel : s.toList.length < (s.toList.flatMap escape ++ '"' :: rest).length + 1 := by
    have hlength := length_le_length_flatMap_escape s.toList
    rw [List.length_append, List.length_cons]
    omega
  rw [string, stringBody_flatMap_escape hfuel, Option.map_some]
  dsimp only
  rw [String.ofList_toList]

/-- **Every string is read as it was written.** -/
theorem ofText?_writeString (s : String) : ofText? (writeString s) = some (.str s) := by
  have hcs : (writeString s).toList = '"' :: (s.toList.flatMap escape ++ ['"']) := by
    rw [writeString, String.toList_ofList]
    rfl
  have hvalue (fuel : Nat) :
      value (fuel + 1) ('"' :: (s.toList.flatMap escape ++ ['"'])) = some (.str s, []) := by
    have hblank : skipBlanks ('"' :: (s.toList.flatMap escape ++ ['"'])) =
        '"' :: (s.toList.flatMap escape ++ ['"']) := rfl
    rw [value, hblank]
    dsimp only
    rw [if_pos rfl, string_flatMap_escape]
    rfl
  rw [ofText?, hcs, hvalue]
  rfl

/-- A text without anything to escape is written between quotes as it is. -/
theorem writeString_of_plain {s : String} (h : ∀ c ∈ s.toList, escape c = [c]) :
    writeString s = "\"" ++ s ++ "\"" := by
  have hsame : s.toList.flatMap escape = s.toList := by
    rw [List.flatMap_congr h]
    exact List.flatMap_singleton' s.toList
  rw [writeString, hsame, String.ofList_append, String.ofList_append, String.ofList_toList]

end MonitoringPlugins.Json
