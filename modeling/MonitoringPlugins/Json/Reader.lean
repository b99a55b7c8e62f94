/-
**Reading JSON.**

A number without a fraction and without an exponent is an integer as long as it fits into a signed
or an unsigned 64-bit word; a larger one, and a negative zero, is a fractional number.  Of several
fields of an object under one key the last counts.  A lone surrogate is no character, so a text
that escapes one is refused.

Main definitions:

* `MonitoringPlugins.Json.ofText?` — the value that a text writes, if it writes one.
-/

import MonitoringPlugins.Json.Basic
import MonitoringPlugins.Text.Scan

set_option autoImplicit false

namespace MonitoringPlugins.Json

open Text

/-! ### Blanks -/

/-- Whether a character may stand between tokens. -/
def isBlank (c : Char) : Bool := c = ' ' || c = '\t' || c = '\n' || c = '\r'

/-- The characters after the blanks at the front. -/
def skipBlanks (cs : List Char) : List Char := cs.dropWhile isBlank

/-! ### Strings -/

/-- The character that a short escape stands for. -/
def shortEscape? (c : Char) : Option Char :=
  match c with
  | '"' => some '"'
  | '\\' => some '\\'
  | '/' => some '/'
  | 'b' => some '\x08'
  | 'f' => some '\x0c'
  | 'n' => some '\n'
  | 'r' => some '\r'
  | 't' => some '\t'
  | _ => none

/-- The code point of a pair of surrogates. -/
def pairCode? (high low : Nat) : Option Nat :=
  if 0xD800 ≤ high ∧ high < 0xDC00 ∧ 0xDC00 ≤ low ∧ low < 0xE000 then
    some (0x10000 + (high - 0xD800) * 0x400 + (low - 0xDC00))
  else none

/-- The character written by an escaped code unit and, for a pair of surrogates, the one after
it. -/
def unicodeEscape (cs : List Char) : Option (Char × List Char) := do
  let unit ← if 4 ≤ cs.length then hexNumber? (cs.take 4) else none
  let rest := cs.drop 4
  match charOfCode? unit with
  | some c => return (c, rest)
  | none =>
    let rest ← literal ['\\', 'u'] rest
    let low ← if 4 ≤ rest.length then hexNumber? (rest.take 4) else none
    let c ← charOfCode? (← pairCode? unit low)
    return (c, rest.drop 4)

/-- The characters of a string up to its closing quote. -/
def stringBody : Nat → List Char → Option (List Char × List Char)
  | 0, _ => none
  | fuel + 1, cs =>
    match cs with
    | [] => none
    | '"' :: rest => some ([], rest)
    | '\\' :: 'u' :: rest => do
      let (c, rest) ← unicodeEscape rest
      let (text, rest) ← stringBody fuel rest
      return (c :: text, rest)
    | '\\' :: e :: rest => do
      let c ← shortEscape? e
      let (text, rest) ← stringBody fuel rest
      return (c :: text, rest)
    | c :: rest =>
      if c.toNat < 0x20 ∨ c = '\\' then none
      else do
        let (text, rest) ← stringBody fuel rest
        return (c :: text, rest)

/-- A string, after its opening quote. -/
def string (cs : List Char) : Option (String × List Char) :=
  (stringBody (cs.length + 1) cs).map fun (text, rest) => (String.ofList text, rest)

/-! ### Numbers -/

/-- The number with the given sign and digits before the point, digits after it and exponent, each
of which may be missing. -/
def number? (negative : Bool) (whole : List Char) (fraction : Option (List Char))
    (exponent : Option Int) : Option Json :=
  let value : Int := if negative then -(numeral 10 whole : Int) else numeral 10 whole
  if fraction = none ∧ exponent = none ∧ fitsWord value ∧ ¬ (negative ∧ value = 0) then
    some (int value)
  else
    let places := fraction.getD []
    let e := exponent.getD 0 - places.length
    (Decimal.Binary64.ofDecimal negative (numeral 10 (whole ++ places)) e).map float

/-- The digits after a point, if there is one. -/
def fractionPart (cs : List Char) : Option (Option (List Char) × List Char) :=
  match cs with
  | '.' :: rest =>
    let (digits, rest) := digitRun rest
    if digits = [] then none else some (some digits, rest)
  | _ => some (none, cs)

/-- The exponent, if there is one. -/
def exponentPart (cs : List Char) : Option (Option Int × List Char) :=
  match cs with
  | [] => some (none, [])
  | c :: rest =>
    if c = 'e' ∨ c = 'E' then
      let negative := rest.head? = some '-'
      let rest := if rest.head? = some '-' ∨ rest.head? = some '+' then rest.drop 1 else rest
      let (digits, rest) := digitRun rest
      if digits = [] then none
      else
        let size : Int := numeral 10 digits
        some (some (if negative then -size else size), rest)
    else some (none, cs)

/-- A number. -/
def number (cs : List Char) : Option (Json × List Char) := do
  let negative := cs.head? = some '-'
  let (whole, rest) := digitRun (if negative then cs.drop 1 else cs)
  if whole = [] ∨ (1 < whole.length ∧ whole.head? = some '0') then none
  let (fraction, rest) ← fractionPart rest
  let (exponent, rest) ← exponentPart rest
  return (← number? negative whole fraction exponent, rest)

/-! ### Values -/

mutual

/-- A value, blanks before it allowed. -/
def value : Nat → List Char → Option (Json × List Char)
  | 0, _ => none
  | fuel + 1, cs =>
    match skipBlanks cs with
    | [] => none
    | c :: rest =>
      if c = '"' then (string rest).map fun (s, rest) => (str s, rest)
      else if c = '[' then
        match skipBlanks rest with
        | ']' :: rest => some (arr [], rest)
        | rest => (items fuel rest).map fun (vs, rest) => (arr vs, rest)
      else if c = '{' then
        match skipBlanks rest with
        | '}' :: rest => some (obj [], rest)
        | rest => (fields fuel rest).map fun (fs, rest) => (object fs, rest)
      else if c = 't' then (literal ['r', 'u', 'e'] rest).map (bool true, ·)
      else if c = 'f' then (literal ['a', 'l', 's', 'e'] rest).map (bool false, ·)
      else if c = 'n' then (literal ['u', 'l', 'l'] rest).map (null, ·)
      else number (c :: rest)

/-- The items of an array, of which there is at least one, and the closing bracket. -/
def items : Nat → List Char → Option (List Json × List Char)
  | 0, _ => none
  | fuel + 1, cs => do
    let (v, rest) ← value fuel cs
    match skipBlanks rest with
    | ',' :: rest =>
      let (vs, rest) ← items fuel rest
      return (v :: vs, rest)
    | ']' :: rest => return ([v], rest)
    | _ => none

/-- The fields of an object, of which there is at least one, and the closing brace. -/
def fields : Nat → List Char → Option (List (String × Json) × List Char)
  | 0, _ => none
  | fuel + 1, cs => do
    let rest ← expect '"' (skipBlanks cs)
    let (key, rest) ← string rest
    let rest ← expect ':' (skipBlanks rest)
    let (v, rest) ← value fuel rest
    match skipBlanks rest with
    | ',' :: rest =>
      let (fs, rest) ← fields fuel rest
      return ((key, v) :: fs, rest)
    | '}' :: rest => return ([(key, v)], rest)
    | _ => none

end

/-- **The value that a text writes.**  Every level of nesting and every further item takes up a
character, so the length of the text bounds the work. -/
def ofText? (text : String) : Option Json :=
  let cs := text.toList
  match value (cs.length + 1) cs with
  | some (v, rest) => if skipBlanks rest = [] then some v else none
  | none => none

end MonitoringPlugins.Json
