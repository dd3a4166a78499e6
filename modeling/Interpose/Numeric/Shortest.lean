/-
Module: Interpose.Numeric.Shortest
Purpose: Decimal text of floating point numbers, with the fewest digits that read back.
Main exports: Decimal, Binary64.shortest, Binary64.text
-/
import Interpose.Numeric.Binary64

namespace Interpose

/-- The number `digits · 10 ^ exponent`. -/
structure Decimal where
  digits : Nat
  exponent : Int
deriving DecidableEq, Repr, Inhabited

namespace Decimal

private def length (n : Nat) : Nat := if n = 0 then 0 else (Nat.toDigits 10 n).length

/-- Move trailing zeros of the digits into the exponent. -/
private def normalize : Nat → Decimal → Decimal
  | 0, decimal => decimal
  | steps + 1, ⟨digits, exponent⟩ =>
      if digits ≠ 0 ∧ digits % 10 = 0 then normalize steps ⟨digits / 10, exponent + 1⟩
      else ⟨digits, exponent⟩

end Decimal

namespace Binary64

/-- The decimal exponent of a positive fraction: the power of ten that is at
most the fraction, while ten times that power is above it. -/
private def decimalExponent (numerator denominator : Nat) : Int :=
  if denominator ≤ numerator then (Decimal.length (numerator / denominator) : Int) - 1
  else -(Decimal.length ((denominator + numerator - 1) / numerator - 1) : Int)

/-- Four times the significand of a positive finite number, and the distances
in the same unit to the two ends of the interval that rounds to the number.
The lower end is nearer below a power of two. -/
private def interval (x : Binary64) : Nat × Nat × Nat :=
  (4 * x.significand, if x.fraction == 0 && decide (1 < x.exponent) then 1 else 2, 2)

/-- Whether a decimal `digits · 10 ^ exponent` rounds to the positive finite
number `x`.  The ends of the interval belong to it when the significand is even. -/
private def readsBackFrom (x : Binary64) (decimal : Decimal) : Bool :=
  let (center, below, above) := x.interval
  -- both sides in units of `2 ^ (scale - 2)`, over a common denominator
  let (up, down) := if decimal.exponent < 0 then (1, Nat.pow 10 (-decimal.exponent).toNat)
    else (Nat.pow 10 decimal.exponent.toNat, 1)
  let candidate := (decimal.digits * up * 4) <<< x.scale.1
  let unit := down <<< x.scale.2
  let low := (center - below) * unit
  let high := (center + above) * unit
  if x.significand % 2 == 0 then decide (low ≤ candidate ∧ candidate ≤ high)
  else decide (low < candidate ∧ candidate < high)

/-- The nearer of the two neighbours of a positive finite number among the
decimals with `count` digits, if one of them reads back.  A tie goes up. -/
private def neighbour? (x : Binary64) (count : Nat) : Option Decimal :=
  let (numerator, denominator) := x.ratio
  let exponent := decimalExponent numerator denominator - ((count : Int) - 1)
  let (scaled, unit) := if exponent < 0 then
      (numerator * Nat.pow 10 (-exponent).toNat, denominator)
    else (numerator, denominator * Nat.pow 10 exponent.toNat)
  let low : Decimal := ⟨scaled / unit, exponent⟩
  let high : Decimal := ⟨scaled / unit + 1, exponent⟩
  let ordered := if 2 * (scaled % unit) < unit then [low, high] else [high, low]
  ordered.find? fun decimal => x.readsBackFrom decimal

/-- The decimal with the fewest digits that rounds to a positive finite number,
the nearest of those.  Seventeen digits always suffice. -/
private def shortest (x : Binary64) : Decimal :=
  let found := (List.range 17).findSome? fun count => x.neighbour? (count + 1)
  (found.getD ⟨0, 0⟩).normalize 20

/-- Digits with a point after the first `whole` of them; zeros fill what is missing. -/
private def positional (digits : List Char) (whole : Int) : String :=
  if whole ≤ 0 then
    "0." ++ String.ofList (List.replicate (-whole).toNat '0' ++ digits)
  else
    let count := whole.toNat
    let filled := digits ++ List.replicate (count - digits.length) '0'
    let fraction := filled.drop count
    String.ofList (filled.take count) ++ "." ++
      (if fraction.isEmpty then "0" else String.ofList fraction)

/-- Digits with a point after the first, and the power of ten. -/
private def scientific (digits : List Char) (exponent : Int) : String :=
  let fraction := digits.drop 1
  String.ofList (digits.take 1) ++
    (if fraction.isEmpty then "" else "." ++ String.ofList fraction) ++ "e" ++ toString exponent

/-- The text of a number.  From `10 ^ -4` up to below `10 ^ 16` it is positional
and keeps at least one digit after the point; beyond, it has a power of ten. -/
def text (x : Binary64) : String :=
  if x.isNaN then "NaN"
  else
    let sign := if x.isNegative then "-" else ""
    if x.isInfinite then sign ++ "inf"
    else if x.isZero then sign ++ "0.0"
    else
      let decimal := x.shortest
      let digits := Nat.toDigits 10 decimal.digits
      let whole : Int := decimal.exponent + digits.length
      sign ++ if -3 ≤ whole ∧ whole ≤ 16 then positional digits whole
        else scientific digits (whole - 1)

end Binary64

end Interpose
