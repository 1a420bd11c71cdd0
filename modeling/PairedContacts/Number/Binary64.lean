import PairedContacts.Number.Power

/-!
# Binary floating-point numbers

A number of 64 bits: a sign, eleven bits of exponent and fifty-two of fraction.  A finite number is
exactly `significand * 2 ^ scale`, and every conversion and comparison below is exact on that form
or rounds once to the nearest number, ties to the even significand.
-/

set_option autoImplicit false

namespace PairedContacts

structure Binary64 where
  bits : UInt64
  deriving DecidableEq, Repr

namespace Binary64

def isNegative (x : Binary64) : Bool :=
  wordBound ≤ x.bits.toNat

def exponentField (x : Binary64) : Nat :=
  x.bits.toNat / twoTo 52 % twoTo 11

def fractionField (x : Binary64) : Nat :=
  x.bits.toNat % twoTo 52

def isFinite (x : Binary64) : Bool :=
  x.exponentField != 2047

def isNaN (x : Binary64) : Bool :=
  !x.isFinite && x.fractionField != 0

def isInfinite (x : Binary64) : Bool :=
  !x.isFinite && x.fractionField == 0

def significand (x : Binary64) : Nat :=
  if x.exponentField = 0 then x.fractionField else twoTo 52 + x.fractionField

def scale (x : Binary64) : Int :=
  if x.exponentField = 0 then -1074 else (x.exponentField : Int) - 1075

/-- Whether the gap to the next smaller magnitude is half the gap to the next larger one. -/
def isNarrowBelow (x : Binary64) : Bool :=
  x.fractionField == 0 && 1 < x.exponentField

def infinity (negative : Bool) : Binary64 :=
  ⟨if negative then 0xFFF0000000000000 else 0x7FF0000000000000⟩

def nan : Binary64 :=
  ⟨0x7FF8000000000000⟩

def withSign (negative : Bool) (x : Binary64) : Binary64 :=
  ⟨if negative then x.bits ||| 0x8000000000000000 else x.bits⟩

/-- A ratio as a whole number: the nearest one, and of two the even one. -/
def roundRatio (numerator denominator : Nat) : Nat :=
  let whole := numerator / denominator
  let double := 2 * (numerator % denominator)
  if denominator < double || denominator == double && whole % 2 == 1 then whole + 1 else whole

/-- The magnitude nearest to a ratio, and of two the one with the even significand; infinity when
the ratio is too large. -/
def ofRatio (numerator denominator : Nat) : Binary64 :=
  -- Every finite number is a multiple of the least one above zero, `2 ^ (-1074)`.
  let units := numerator * twoTo 1074
  let shift := (units / denominator).log2 - 52
  let significand := roundRatio units (denominator * twoTo shift)
  -- A significand that is rounded up to fifty-four bits moves on to the next exponent.
  let bits := shift * twoTo 52 + significand
  if bits < 2047 * twoTo 52 then ⟨bits.toUInt64⟩ else infinity false

/-- The number nearest to `digits * 10 ^ exponent`.  Exponents far outside the range are cut off
before any power is computed. -/
def ofDecimal (negative : Bool) (digits : Nat) (exponent : Int) : Binary64 :=
  let magnitude : Binary64 :=
    if digits = 0 then ⟨0⟩
    else if 400 < exponent then infinity false
    else if exponent + (digits.log2 / 3 + 1 : Nat) < -400 then ⟨0⟩
    else ofRatio (digits * tenTo exponent.toNat) (tenTo (-exponent).toNat)
  withSign negative magnitude

def ofInt? (n : Int) : Option Binary64 :=
  let x := ofDecimal (n < 0) n.natAbs 0
  if x.isFinite then some x else none

def wholeMagnitude (x : Binary64) : Nat :=
  x.significand * twoTo x.scale.toNat / twoTo (-x.scale).toNat

def truncate (x : Binary64) : Int :=
  if x.isNegative then -x.wholeMagnitude else x.wholeMagnitude

def isWhole (x : Binary64) : Bool :=
  x.significand * twoTo x.scale.toNat % twoTo (-x.scale).toNat == 0

def isZero (x : Binary64) : Bool :=
  x.bits &&& 0x7FFFFFFFFFFFFFFF == 0

def equalsInt (x : Binary64) (n : Int) : Bool :=
  x.isFinite && x.isWhole && x.truncate == n

/-- Numerical equality: the zeros agree and no NaN agrees with anything. -/
def agrees (x y : Binary64) : Bool :=
  !x.isNaN && !y.isNaN && (x == y || x.isZero && y.isZero)

end Binary64

end PairedContacts
