/-
**Writing JSON.**

The compact form: no spaces, the fields of an object in the order of their keys, text unescaped
except for what JSON requires — the quote, the backslash and the control characters, which have a
short escape or four lower-case hexadecimal digits.

Main definitions:

* `MonitoringPlugins.Json.floats` — how fractional numbers are laid out;
* `MonitoringPlugins.Json.escape` — a character inside a string;
* `MonitoringPlugins.Json.compress` — the compact form of a value.
-/

import MonitoringPlugins.Decimal.Layout
import MonitoringPlugins.Json.Basic

set_option autoImplicit false

namespace MonitoringPlugins.Json

/-! ### Leaves -/

/-- Fractional numbers are written positionally from `0.00001` to below `10 ^ 16`, and a tie goes to
the even digit. -/
def floats : Decimal.Layout := ⟨.within (-5) 15, .toEven⟩

/-- The last `k` hexadecimal digits of a number. -/
def hexDigits : Nat → Nat → List Char
  | 0, _ => []
  | k + 1, n => hexDigits k (n / 16) ++ [Nat.digitChar (n % 16)]

/-- A character as it stands inside a string. -/
def escape (c : Char) : List Char :=
  if c = '"' ∨ c = '\\' then ['\\', c]
  else if c = '\x08' then ['\\', 'b']
  else if c = '\x0c' then ['\\', 'f']
  else if c = '\n' then ['\\', 'n']
  else if c = '\r' then ['\\', 'r']
  else if c = '\t' then ['\\', 't']
  else if c.toNat < 0x20 then ['\\', 'u'] ++ hexDigits 4 c.toNat
  else [c]

/-- A string with its quotes. -/
def writeString (s : String) : String :=
  String.ofList (['"'] ++ s.toList.flatMap escape ++ ['"'])

/-! ### Values -/

/-- Texts joined by commas. -/
def commas (items : List String) : String := ",".intercalate items

mutual

/-- **The compact form of a value.** -/
def compress : Json → String
  | null => "null"
  | bool b => if b then "true" else "false"
  | int n => toString n
  | float x => floats.render x
  | str s => writeString s
  | arr items => "[" ++ commas (compressItems items) ++ "]"
  | obj fields => "\x7b" ++ commas (compressFields fields) ++ "\x7d"

/-- The compact forms of the items of an array. -/
def compressItems : List Json → List String
  | [] => []
  | v :: rest => compress v :: compressItems rest

/-- The compact forms of the fields of an object. -/
def compressFields : List (String × Json) → List String
  | [] => []
  | (key, v) :: rest => (writeString key ++ ":" ++ compress v) :: compressFields rest

end

end MonitoringPlugins.Json
