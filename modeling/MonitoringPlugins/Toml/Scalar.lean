/-
**Unquoted TOML values.**

Numbers, truth values, dates and times are written without quotes and end where their characters
end, so they are read in one piece.  Digits may be grouped by single underscores.  A whole number is
written in decimal, without leading zeros, or without sign in one of three other bases.

Not every malformed integer spoils its document.  What starts with grouped decimal digits and has
digits around all of its underscores, and a base without any digits, are taken for integers, which
only cannot be read.

Main definitions:

* `MonitoringPlugins.Toml.groupedDigits?` — digits in groups;
* `MonitoringPlugins.Toml.startsGrouped` — what is taken for an integer with grouped digits;
* `MonitoringPlugins.Toml.Scalar.ofChars?` — the value that some characters write;
* `MonitoringPlugins.Toml.Scalar.scan` — the value at the front of a text.
-/

import MonitoringPlugins.Toml.Value

set_option autoImplicit false

namespace MonitoringPlugins.Toml

open Text

/-! ### Digits -/

/-- Digits in groups: each underscore stands between two digits. -/
def groupedDigits? (isDigit : Char → Bool) : List Char → Option (List Char)
  | [] => none
  | [c] => if isDigit c then some [c] else none
  | c :: '_' :: rest => if isDigit c then (groupedDigits? isDigit rest).map (c :: ·) else none
  | c :: rest => if isDigit c then (groupedDigits? isDigit rest).map (c :: ·) else none

/-- Decimal digits in groups without a leading zero. -/
def wholeDigits? (cs : List Char) : Option (List Char) := do
  let digits ← groupedDigits? Char.isDigit cs
  if digits.head? = some '0' ∧ 1 < digits.length then none else some digits

/-- A sign and what follows it; without a sign, a number is positive. -/
def splitSign : List Char → Bool × List Char
  | '-' :: rest => (true, rest)
  | '+' :: rest => (false, rest)
  | cs => (false, cs)

/-- Characters before and after the first one with a property, without that one. -/
def cutAt (p : Char → Bool) (cs : List Char) : List Char × Option (List Char) :=
  let (before, rest) := cs.span fun c => !p c
  (before, if rest = [] then none else some (rest.drop 1))

/-! ### Numbers -/

/-- An integer, unreadable if it does not fit into a 128-bit word. -/
def ofInt (n : Int) : Value := if fitsDoubleWord n then .integer n else .unreadable

/-- The digits of a base and the base, for an integer that is not written in decimal. -/
def based? : List Char → Option (Nat × (Char → Bool) × List Char)
  | '0' :: 'x' :: rest => some (16, isHexDigit, rest)
  | '0' :: 'o' :: rest => some (8, fun c => '0' ≤ c && c ≤ '7', rest)
  | '0' :: 'b' :: rest => some (2, fun c => c = '0' || c = '1', rest)
  | _ => none

/-- An integer; a base without digits is an unreadable one. -/
def integer? (cs : List Char) : Option Value :=
  match based? cs with
  | some (_, _, []) => some .unreadable
  | some (base, isDigit, rest) => do return ofInt (numeral base (← groupedDigits? isDigit rest))
  | none => do
    let (negative, rest) := splitSign cs
    let n := numeral 10 (← wholeDigits? rest)
    return ofInt (if negative then -(n : Int) else n)

/-- An exponent: digits with a sign, leading zeros allowed. -/
def exponent? (cs : List Char) : Option Int := do
  let (negative, rest) := splitSign cs
  let n := numeral 10 (← groupedDigits? Char.isDigit rest)
  return if negative then -(n : Int) else n

/-- A fractional number, unreadable beyond the greatest finite one: a point, an exponent or both
follow the whole part. -/
def fractional? (cs : List Char) : Option Value := do
  let (negative, rest) := splitSign cs
  let (mantissa, exponent) := cutAt (fun c => c = 'e' || c = 'E') rest
  let (whole, fraction) := cutAt (· = '.') mantissa
  if fraction = none ∧ exponent = none then none
  let whole ← wholeDigits? whole
  let places ← match fraction with
    | none => some []
    | some digits => groupedDigits? Char.isDigit digits
  let e ← match exponent with
    | none => some 0
    | some digits => exponent? digits
  let digits := numeral 10 (whole ++ places)
  match Decimal.Binary64.ofDecimal negative digits (e - places.length) with
  | some x => return .float x
  | none => return .unreadable

/-- A number that is not finite. -/
def special? (cs : List Char) : Option Value :=
  let (negative, rest) := splitSign cs
  if rest = ['i', 'n', 'f'] then some (.infinity negative)
  else if rest = ['n', 'a', 'n'] then some .notANumber
  else none

/-! ### Malformed numbers -/

/-- Whether each underscore stands between two hexadecimal digits; `before` is the character in
front. -/
def underscoresFit (before : Char) : List Char → Bool
  | [] => true
  | c :: rest =>
    (c ≠ '_' || (isHexDigit before && rest.head?.any isHexDigit)) && underscoresFit c rest

/-- Whether some characters are taken for an integer with grouped digits: decimal digits without a
leading zero and an underscore, then anything that makes no fractional number and leaves digits on
both sides of every underscore. -/
def startsGrouped (cs : List Char) : Bool :=
  match (splitSign cs).2 with
  | [] => false
  | c :: rest =>
    c.isDigit && c ≠ '0' && (rest.dropWhile Char.isDigit).head? = some '_' &&
      rest.all (fun c => c ≠ '.' && c ≠ 'e' && c ≠ 'E') && underscoresFit c rest

/-! ### All unquoted values -/

/-- A truth value. -/
def boolean? (cs : List Char) : Option Value :=
  if cs = ['t', 'r', 'u', 'e'] then some (.boolean true)
  else if cs = ['f', 'a', 'l', 's', 'e'] then some (.boolean false)
  else none

/-- **The value that some characters write** without quotes.  No two of the well-formed ones share a
text. -/
def Scalar.ofChars? (cs : List Char) : Option Value :=
  (boolean? cs).or ((special? cs).or (((DateTime.ofChars? cs).map .dateTime).or
    ((integer? cs).or ((fractional? cs).or
      (if startsGrouped cs then some .unreadable else none)))))

/-- Whether a character separates an unquoted value from what follows. -/
def isSeparator (c : Char) : Bool :=
  c = ' ' || c = '\t' || c = '\n' || c = '\r' || c = '#' || c = ',' || c = '=' ||
    c = '[' || c = ']' || c = '{' || c = '}'

/-- Whether more of an unquoted value stands after some tabs. -/
def continuesAfterTabs (cs : List Char) : Bool :=
  (cs.dropWhile (· = '\t')).head?.any fun c => !(isSeparator c || c = '.' || c = '"' || c = '\'')

/-- The characters of an unquoted value, and the rest.  Only a malformed one has tabs inside. -/
def scalarChars : List Char → List Char × List Char
  | [] => ([], [])
  | c :: rest =>
    if isSeparator c && !(c = '\t' && continuesAfterTabs rest) then ([], c :: rest)
    else
      let (word, rest) := scalarChars rest
      (c :: word, rest)

/-- An unquoted value at the front.  A blank may stand between a date and a time. -/
def Scalar.scan (cs : List Char) : Option (Value × List Char) :=
  let (word, rest) := scalarChars cs
  match Date.scan word, rest with
  | some (_, []), ' ' :: next :: more =>
    if next.isDigit then
      let (time, rest) := scalarChars (next :: more)
      (Scalar.ofChars? (word ++ [' '] ++ time)).map (·, rest)
    else (Scalar.ofChars? word).map (·, rest)
  | _, _ => (Scalar.ofChars? word).map (·, rest)

end MonitoringPlugins.Toml
