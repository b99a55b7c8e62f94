/-
**Scanning text.**

The readers of this library work on lists of characters.  A step of a reader takes the characters
that are left and answers with what it has read and what remains, or with nothing when the text is
not of the expected form.  The steps that several formats need are gathered here.

Main definitions:

* `MonitoringPlugins.Text.expect`, `MonitoringPlugins.Text.literal` — fixed characters;
* `MonitoringPlugins.Text.numeral` — the number written by digits;
* `MonitoringPlugins.Text.fitsWord`, `MonitoringPlugins.Text.fitsDoubleWord` — the integers that
  words of two sizes hold;
* `MonitoringPlugins.Text.charOfCode?`, `MonitoringPlugins.Text.hexNumber?` — escapes.

Main results:

* `MonitoringPlugins.Text.numeral_append` — **how digits add up to a number**.
-/

set_option autoImplicit false

namespace MonitoringPlugins.Text

/-! ### Fixed characters -/

/-- The characters after the expected one. -/
def expect (c : Char) : List Char → Option (List Char)
  | [] => none
  | d :: rest => if d = c then some rest else none

/-- The characters after the expected word. -/
def literal (word : List Char) (cs : List Char) : Option (List Char) :=
  match word with
  | [] => some cs
  | c :: word => (expect c cs).bind (literal word)

/-! ### Numbers -/

/-- The value of a digit of a base up to sixteen, of either case. -/
def digitValue (c : Char) : Nat :=
  if '0' ≤ c ∧ c ≤ '9' then c.toNat - '0'.toNat
  else if 'a' ≤ c ∧ c ≤ 'f' then c.toNat - 'a'.toNat + 10
  else c.toNat - 'A'.toNat + 10

/-- Whether a character is a hexadecimal digit. -/
def isHexDigit (c : Char) : Bool :=
  ('0' ≤ c && c ≤ '9') || ('a' ≤ c && c ≤ 'f') || ('A' ≤ c && c ≤ 'F')

/-- The number written by digits of a base, the first one counting most. -/
def numeral (base : Nat) (digits : List Char) : Nat :=
  digits.foldl (fun n c => n * base + digitValue c) 0

/-- **How digits add up to a number.** -/
theorem numeral_append (base : Nat) (digits : List Char) (c : Char) :
    numeral base (digits ++ [c]) = numeral base digits * base + digitValue c := by
  simp [numeral]

/-- Whether an integer fits into a signed or an unsigned 64-bit word. -/
def fitsWord (n : Int) : Bool := -9223372036854775808 ≤ n && n ≤ 18446744073709551615

/-- Whether an integer fits into a signed 128-bit word. -/
def fitsSignedDoubleWord (n : Int) : Bool :=
  -170141183460469231731687303715884105728 ≤ n && n ≤ 170141183460469231731687303715884105727

/-- Whether an integer fits into a signed or an unsigned 128-bit word. -/
def fitsDoubleWord (n : Int) : Bool :=
  fitsSignedDoubleWord n || (0 ≤ n && n ≤ 340282366920938463463374607431768211455)

/-- The decimal digits at the front of a text, and the rest. -/
def digitRun (cs : List Char) : List Char × List Char := cs.span Char.isDigit

/-! ### Escapes -/

/-- The character of a code point, unless the code point is a surrogate or too large. -/
def charOfCode? (n : Nat) : Option Char :=
  if h : n.isValidChar then some (Char.ofNatAux n h) else none

/-- The number written by hexadecimal digits, all of which must be such. -/
def hexNumber? (digits : List Char) : Option Nat :=
  if digits.all isHexDigit then some (numeral 16 digits) else none

end MonitoringPlugins.Text
