/-
**The shortest decimal that reads back.**

Of the many decimals that are rounded to a given binary64 number, the one with the fewest digits is
written; of several such, the one nearest to the number; and of two equally near ones, the one that
the format prefers.  The numbers that are rounded to `x` form an interval around it, whose ends
belong to it exactly when the significand of `x` is even.  A decimal with few digits is a multiple
of a large power of ten, so the search goes down the powers of ten and stops at the first that has a
multiple inside the interval; if any multiple lies inside, then one of the two next to `x` does.

Main definitions:

* `MonitoringPlugins.Decimal.Binary64.onGrid` — the multiple of a power of ten that is rounded to
  the number, if there is one;
* `MonitoringPlugins.Decimal.Binary64.shortest` — the digits and the power of ten.
-/

import MonitoringPlugins.Decimal.Binary64

set_option autoImplicit false

namespace MonitoringPlugins.Decimal.Binary64

/-! ### The interval of a number -/

/-- Four times the significand: in these units the ends of the interval are integers too. -/
def center (x : Binary64) : Nat := 4 * x.significand

/-- The lower end of the interval.  Below a power of two the grid of representable numbers is twice
as fine. -/
def lower (x : Binary64) : Nat :=
  x.center - (if x.fraction = 0 ∧ 1 < x.exponent then 1 else 2)

/-- The upper end of the interval. -/
def upper (x : Binary64) : Nat := x.center + 2

/-- Whether `c * b / a`, in units of the interval, is rounded to `x`. -/
def holds (x : Binary64) (a b c : Nat) : Bool :=
  if x.significand % 2 = 0 then x.lower * a ≤ c * b && c * b ≤ x.upper * a
  else x.lower * a < c * b && c * b < x.upper * a

/-! ### The search -/

/-- The multiplier of the multiple of `10 ^ k` that is rounded to `x` and lies nearest to it. -/
def onGrid (tie : Tie) (x : Binary64) (k : Int) : Option Nat :=
  let two := powRatio 2 (x.scale - 2)
  let ten := powRatio 10 k
  let a := two.1 * ten.2
  let b := two.2 * ten.1
  let below := x.center * a / b
  match holds x a b below, holds x a b (below + 1) with
  | true, true => some (roundDiv tie (x.center * a) b)
  | true, false => some below
  | false, true => some (below + 1)
  | false, false => none

/-- The first grid from `10 ^ k` downwards that holds a decimal for `x`. -/
def firstGrid (tie : Tie) (x : Binary64) : Nat → Int → Nat × Int
  | 0, k => (0, k)
  | fuel + 1, k =>
    match onGrid tie x k with
    | some digits => (digits, k)
    | none => firstGrid tie x fuel (k - 1)

/-- **The shortest decimal** that is rounded to the number, without its sign: digits and power of
ten.  The search starts above the number and seventeen digits always suffice. -/
def shortest (tie : Tie) (x : Binary64) : Nat × Int :=
  if x.significand = 0 then (0, 0)
  else firstGrid tie x 25 ((x.significand.log2 + 1 + x.scale) * 30103 / 100000 + 1)

end MonitoringPlugins.Decimal.Binary64
