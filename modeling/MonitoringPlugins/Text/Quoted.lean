/-
**Quoted text.**

Error messages and one-line descriptions show foreign text between quotes, so that a reader can
tell where it ends and which characters it really holds.  Everything that is visible stays as it
is.  A quote of the kind that surrounds the text, a backslash, and the control characters that have
a short name are written with a backslash; a character that has no visible form, or that would be
drawn onto its neighbour, is written by its code point.

Main definitions:

* `MonitoringPlugins.Text.escape` — one character as it stands inside quotes;
* `MonitoringPlugins.Text.quoted`, `MonitoringPlugins.Text.quotedChar` — a text between double
  quotes, and a character between single ones.
-/

import MonitoringPlugins.Text.CharClass

set_option autoImplicit false

namespace MonitoringPlugins.Text

/-! ### One character -/

/-- A character written by its code point, in lower-case hexadecimal digits without leading
zeros. -/
def codePoint (c : Char) : List Char :=
  ['\\', 'u', '{'] ++ Nat.toDigits 16 c.toNat ++ ['}']

/-- Whether a character is shown by its code point rather than by itself. -/
def isHidden (c : Char) : Bool := isUnprintable c || isIgnorable c || extendsGrapheme c

/-- A character as it is written between quotes of the given kind. -/
def escape (quote c : Char) : List Char :=
  if c = '\x00' then ['\\', '0']
  else if c = '\t' then ['\\', 't']
  else if c = '\r' then ['\\', 'r']
  else if c = '\n' then ['\\', 'n']
  else if c = '\\' ∨ c = quote then ['\\', c]
  else if isHidden c then codePoint c
  else [c]

/-! ### Whole texts -/

/-- A text between double quotes. -/
def quoted (s : String) : String :=
  String.ofList (['"'] ++ s.toList.flatMap (escape '"') ++ ['"'])

/-- A character between single quotes. -/
def quotedChar (c : Char) : String :=
  String.ofList (['\''] ++ escape '\'' c ++ ['\''])

end MonitoringPlugins.Text
