/-
Module: Interpose.Numeric.Binary64
Purpose: 64-bit binary floating point numbers, held as their bits.
Main exports: Binary64, Binary64.equals, Binary64.ofRatio, Binary64.percent
Main statements: equality of numbers is not equality of bits, for NaN and for zero.
-/

namespace Interpose

/-- A double-precision number: one sign bit, eleven exponent bits, fifty-two
fraction bits. -/
structure Binary64 where
  bits : UInt64
deriving DecidableEq, Repr, Inhabited

namespace Binary64

def zero : Binary64 := ⟨0⟩

def isNegative (x : Binary64) : Bool := x.bits >>> 63 == 1

def exponent (x : Binary64) : Nat := ((x.bits >>> 52) &&& 0x7FF).toNat

def fraction (x : Binary64) : Nat := (x.bits &&& 0xFFFFFFFFFFFFF).toNat

def isNaN (x : Binary64) : Bool := x.exponent == 0x7FF && x.fraction != 0

def isInfinite (x : Binary64) : Bool := x.exponent == 0x7FF && x.fraction == 0

def isZero (x : Binary64) : Bool := x.exponent == 0 && x.fraction == 0

/-- The whole significand of a finite number. -/
def significand (x : Binary64) : Nat :=
  if x.exponent == 0 then x.fraction else x.fraction + 1 <<< 52

/-- The power of two that the significand of a finite number is scaled by, as
a number of halvings (first) or doublings (second) of which one is zero. -/
def scale (x : Binary64) : Nat × Nat :=
  let shifted := max x.exponent 1
  (1075 - shifted, shifted - 1075)

/-- The magnitude of a finite number as a fraction. -/
def ratio (x : Binary64) : Nat × Nat :=
  (x.significand <<< x.scale.2, 1 <<< x.scale.1)

/-- Equality as numbers: NaN differs from everything, the two zeros agree. -/
def equals (x y : Binary64) : Bool :=
  !x.isNaN && !y.isNaN && (x.bits == y.bits || (x.isZero && y.isZero))

/-- A quotient rounded to the nearest natural number, a half to the even one. -/
private def roundQuotient (numerator denominator : Nat) : Nat :=
  let quotient := numerator / denominator
  let twice := 2 * (numerator % denominator)
  if twice < denominator || (twice == denominator && quotient % 2 == 0) then quotient
  else quotient + 1

/-- The nonnegative number nearest to a fraction, a half going to the even
neighbour.  The significand is chosen by the binary length of the quotient; when
it rounds up to the next power of two, the addition carries into the exponent. -/
private def ofRatio (numerator denominator : Nat) : Binary64 :=
  if numerator == 0 || denominator == 0 then zero
  else
    -- `2 ^ power` is at most the quotient, and twice it is above
    let guess : Int := (Nat.log2 numerator : Int) - (Nat.log2 denominator : Int)
    let below : Bool :=
      if guess < 0 then numerator <<< (-guess).toNat < denominator
      else numerator < denominator <<< guess.toNat
    let power : Int := if below then guess - 1 else guess
    let lowest : Int := max (power - 52) (-1074)
    let significand :=
      if lowest < 0 then roundQuotient (numerator <<< (-lowest).toNat) denominator
      else roundQuotient numerator (denominator <<< lowest.toNat)
    if lowest > 971 then ⟨0x7FF0000000000000⟩
    else ⟨UInt64.ofNat (significand + (lowest + 1074).toNat <<< 52)⟩

def ofNat (n : Nat) : Binary64 := ofRatio n 1

/-- The quotient of two nonnegative finite numbers, rounded once. -/
def divide (x y : Binary64) : Binary64 :=
  ofRatio (x.ratio.1 * y.ratio.2) (x.ratio.2 * y.ratio.1)

/-- A hundred times a nonnegative finite number, rounded once. -/
def percent (x : Binary64) : Binary64 := ofRatio (100 * x.ratio.1) x.ratio.2

/-- A nonnegative finite number in units of a hundredth, rounded half to even. -/
def hundredths (x : Binary64) : Nat := roundQuotient (100 * x.ratio.1) x.ratio.2

/-- Not even NaN equals NaN. -/
theorem equals_self_iff (x : Binary64) : x.equals x = !x.isNaN := by
  simp [equals]

-- The two zeros have different bits and are equal numbers.
example : equals ⟨0⟩ ⟨0x8000000000000000⟩ = true := by decide

end Binary64

end Interpose
