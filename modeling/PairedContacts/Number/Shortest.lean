import PairedContacts.Number.Binary64

/-!
# Decimal digits of a binary number

Two ways to choose decimal digits for a finite positive number, both by exact arithmetic: digits
that still read back to the number, from the coarsest grid of powers of ten on, and a fixed count of
significant digits.
-/

set_option autoImplicit false

namespace PairedContacts

/-- The decimal `digits * 10 ^ exponent`. -/
structure Decimal where
  digits : Nat
  exponent : Int
  deriving DecidableEq, Repr

namespace Decimal

def stripZeros (d : Decimal) : Decimal :=
  if digitsLeft : d.digits ≠ 0 ∧ d.digits % 10 = 0 then
    stripZeros ⟨d.digits / 10, d.exponent + 1⟩
  else
    d
termination_by d.digits
decreasing_by omega

def leading (d : Decimal) : Int :=
  d.exponent + (Nat.toDigits 10 d.digits).length - 1

end Decimal

namespace Binary64

/-- Compares `a * 10 ^ i` with `b * 2 ^ j`. -/
def compareScaled (a : Nat) (i : Int) (b : Nat) (j : Int) : Ordering :=
  compare (a * tenTo i.toNat * twoTo (-j).toNat) (b * twoTo j.toNat * tenTo (-i).toNat)

/-- Whether a decimal rounds to the magnitude of `x`: it lies between the midpoints to the two
neighbours, which belong to the interval exactly when the significand is even. -/
def readsBack (x : Binary64) (d : Decimal) : Bool :=
  let low := if x.isNarrowBelow then 4 * x.significand - 1 else 4 * x.significand - 2
  let high := 4 * x.significand + 2
  let inclusive := x.significand % 2 == 0
  let atLow := compareScaled d.digits d.exponent low (x.scale - 2)
  let atHigh := compareScaled d.digits d.exponent high (x.scale - 2)
  (atLow == .gt || inclusive && atLow == .eq) && (atHigh == .lt || inclusive && atHigh == .eq)

def floorAt (x : Binary64) (exponent : Int) : Nat :=
  x.significand * twoTo x.scale.toNat * tenTo (-exponent).toNat /
    (twoTo (-x.scale).toNat * tenTo exponent.toNat)

def reaches (x : Binary64) (exponent : Int) : Bool :=
  0 < x.floorAt exponent

/-- The decimal exponent of the leading digit of a non-zero number, found upwards from an estimate
that is never too large. -/
def leadingExponent (x : Binary64) : Int :=
  let estimate : Int := (((x.significand.log2 : Int) + x.scale) * 30103).fdiv 100000 - 1
  if x.reaches (estimate + 2) then estimate + 2
  else if x.reaches (estimate + 1) then estimate + 1
  else estimate

/-- The nearer of the two neighbours of `x` on the grid of `10 ^ exponent` that read back; the
even one when both are equally near. -/
def candidateAt? (x : Binary64) (exponent : Int) : Option Decimal :=
  let below : Decimal := ⟨x.floorAt exponent, exponent⟩
  let above : Decimal := ⟨x.floorAt exponent + 1, exponent⟩
  match x.readsBack below, x.readsBack above with
  | true, true =>
      match compareScaled (below.digits + above.digits) exponent (2 * x.significand) x.scale with
      | .gt => some below
      | .lt => some above
      | .eq => some (if below.digits % 2 = 0 then below else above)
  | true, false => some below
  | false, true => some above
  | false, false => none

def exactDecimal (x : Binary64) : Decimal :=
  ⟨x.significand * twoTo x.scale.toNat * fiveTo (-x.scale).toNat, min x.scale 0⟩

/-- Digits that read back to the magnitude of a finite number: those of a neighbour on the coarsest
grid of powers of ten where one does. -/
def shortest (x : Binary64) : Decimal :=
  if x.isZero then ⟨0, 0⟩
  else
    let lead := x.leadingExponent
    let found := (List.range 17).findSome? fun (count : Nat) => x.candidateAt? (lead - count)
    (found.getD x.exactDecimal).stripZeros

/-- The magnitude of a finite number to `count` significant digits, a half going up. -/
def roundedTo (x : Binary64) (count : Nat) : Decimal :=
  if x.isZero then ⟨0, 0⟩
  else
    let exponent := x.leadingExponent + 1 - count
    let doubled : Nat :=
      2 * x.significand * twoTo x.scale.toNat * tenTo (-exponent).toNat /
        (twoTo (-x.scale).toNat * tenTo exponent.toNat)
    (Decimal.stripZeros ⟨(doubled + 1) / 2, exponent⟩)

end Binary64

end PairedContacts
