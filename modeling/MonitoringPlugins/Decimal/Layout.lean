/-
**How a fractional number is laid out.**

The digits of a number are given by `MonitoringPlugins.Decimal.Binary64.shortest`.  What is left to
a format is which way a tie between two shortest decimals goes, and where the point stands: numbers
of moderate size are written positionally, the others with an exponent of ten.  A number written
positionally always shows a point, so that it cannot be taken for an integer.

Main definitions:

* `MonitoringPlugins.Decimal.Sizes`, `MonitoringPlugins.Decimal.Layout` — the sizes that are written
  positionally, and all that a format decides;
* `MonitoringPlugins.Decimal.Layout.render` — the text of a number.
-/

import MonitoringPlugins.Decimal.Shortest

set_option autoImplicit false

namespace MonitoringPlugins.Decimal

/-- A range of sizes: the power of ten at which the first digit of a number stands. -/
inductive Sizes where
  | all
  /-- The sizes between two bounds, both included. -/
  | within (lowest highest : Int)
  deriving DecidableEq

/-- Whether a size is in the range. -/
def Sizes.contains (sizes : Sizes) (e : Int) : Bool :=
  match sizes with
  | all => true
  | within lowest highest => lowest ≤ e && e ≤ highest

/-- What a format decides about its fractional numbers. -/
structure Layout where
  /-- The sizes that are written positionally. -/
  positional : Sizes
  /-- Which of two equally near shortest decimals is written. -/
  tie : Tie
  deriving DecidableEq

namespace Layout

/-- The digits `ds`, followed by `k` further places or with the point `-k` places before their
end. -/
def placePoint (ds : List Char) (k : Int) : List Char :=
  let before : Int := ds.length + k
  if 0 ≤ k then ds ++ List.replicate k.toNat '0' ++ ['.', '0']
  else if 0 < before then ds.take before.toNat ++ ['.'] ++ ds.drop before.toNat
  else ['0', '.'] ++ List.replicate (-before).toNat '0' ++ ds

/-- The digits `ds` with the point after the first one, times `10 ^ e`. -/
def withExponent (ds : List Char) (e : Int) : List Char :=
  ds.take 1 ++ (if ds.length ≤ 1 then [] else ['.'] ++ ds.drop 1) ++
    ['e', if e < 0 then '-' else '+'] ++ Nat.toDigits 10 e.natAbs

/-- **The text of a number.** -/
def render (layout : Layout) (x : Binary64) : String :=
  let decimal := x.shortest layout.tie
  let ds := Nat.toDigits 10 decimal.1
  let e := ds.length + decimal.2 - 1
  String.ofList <|
    (if x.negative then ['-'] else []) ++
      (if layout.positional.contains e then placePoint ds decimal.2 else withExponent ds e)

end Layout

end MonitoringPlugins.Decimal
