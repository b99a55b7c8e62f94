/-
**Finite binary64 numbers.**

Rules and plug-in parameters may hold fractional numbers.  Nothing is computed with them: they are
read from decimal text, kept, and written back.  So a number is kept as what the interchange format
binary64 makes of it — a sign, a biased exponent and a fraction — and reading is one exact division
of natural numbers, rounded to the nearest representable value.

Main definitions:

* `MonitoringPlugins.Decimal.Binary64` — a finite number, with its magnitude
  `significand * 2 ^ scale`;
* `MonitoringPlugins.Decimal.Tie`, `MonitoringPlugins.Decimal.roundDiv` — the integer nearest to a
  quotient, and which of two equally near ones;
* `MonitoringPlugins.Decimal.Binary64.ofRatio`, `MonitoringPlugins.Decimal.Binary64.ofDecimal` —
  the number nearest to a quotient, or to a decimal.
-/

set_option autoImplicit false

namespace MonitoringPlugins.Decimal

/-! ### The format -/

/-- The weight of the leading bit of a significand, the 52nd power of two. -/
def leadingBit : Nat := Nat.pow 2 52

/-- A finite number of the interchange format binary64: the all-ones exponent, which stands for
the infinities and for what is not a number, is left out. -/
structure Binary64 where
  /-- Whether the number carries a minus sign; zero may. -/
  negative : Bool
  /-- The biased exponent. -/
  exponent : Nat
  /-- The fraction, without the leading bit. -/
  fraction : Nat
  exponent_lt : exponent < 2047
  fraction_lt : fraction < leadingBit
  deriving DecidableEq

namespace Binary64

/-- Zero of the given sign. -/
def zero (negative : Bool) : Binary64 := ⟨negative, 0, 0, by decide, by decide⟩

/-- The integer significand: the least exponent marks the numbers without a leading bit. -/
def significand (x : Binary64) : Nat :=
  if x.exponent = 0 then x.fraction else leadingBit + x.fraction

/-- The power of two that the significand is multiplied by. -/
def scale (x : Binary64) : Int := (max x.exponent 1 : Nat) - 1075

end Binary64

/-! ### Rounding -/

/-- Which of two equally near integers is taken. -/
inductive Tie where
  /-- The even one. -/
  | toEven
  /-- The greater one. -/
  | up
  deriving DecidableEq

/-- Whether a tie between `q` and `q + 1` goes to `q`. -/
def Tie.keeps (tie : Tie) (q : Nat) : Bool :=
  match tie with
  | toEven => q % 2 = 0
  | up => false

/-- The integer nearest to `n / d`. -/
def roundDiv (tie : Tie) (n d : Nat) : Nat :=
  let q := n / d
  let r := n % d
  if 2 * r < d ∨ (2 * r = d ∧ tie.keeps q) then q else q + 1

/-- A power with an integer exponent as a fraction: `b ^ e` is the first component divided by the
second. -/
def powRatio (b : Nat) (e : Int) : Nat × Nat := (Nat.pow b e.toNat, Nat.pow b (-e).toNat)

namespace Binary64

/-- The number with the given significand, of at most twice the leading bit, and power of two; none
if the exponent is out of range. -/
def ofSignificand (negative : Bool) (m : Nat) (q : Int) : Option Binary64 :=
  let normal := if m = 2 * leadingBit then (leadingBit, q + 1) else (m, q)
  let exponent := if normal.1 < leadingBit then 0 else (normal.2 + 1075).toNat
  if h : exponent < 2047 then
    some ⟨negative, exponent, normal.1 % leadingBit, h, Nat.mod_lt _ (by decide)⟩
  else
    none

/-- The greatest `e` with `2 ^ e ≤ n / d`, for positive `n` and `d`. -/
def floorLog2 (n d : Nat) : Int :=
  let guess : Int := (n.log2 : Int) - (d.log2 : Int)
  let p := powRatio 2 guess
  if n * p.2 < d * p.1 then guess - 1 else guess

/-- The number nearest to `n / d`, ties to the even significand; none beyond the greatest finite
number. -/
def ofRatio (negative : Bool) (n d : Nat) : Option Binary64 :=
  if n = 0 then some (zero negative)
  else
    let q := max (floorLog2 n d - 52) (-1074)
    let p := powRatio 2 q
    ofSignificand negative (roundDiv .toEven (n * p.2) (d * p.1)) q

/-- The number nearest to `digits * 10 ^ e`; none beyond the greatest finite number.  Decimals far
outside the range of the format are answered without being expanded. -/
def ofDecimal (negative : Bool) (digits : Nat) (e : Int) : Option Binary64 :=
  let magnitude := (Nat.toDigits 10 digits).length + e
  if digits = 0 ∨ magnitude < -330 then some (zero negative)
  else if magnitude > 310 then none
  else
    let p := powRatio 10 e
    ofRatio negative (digits * p.1) p.2

end Binary64

end MonitoringPlugins.Decimal
