import PairedContacts.Number.Shortest

/-!
# Text of floating-point numbers

A style fixes how chosen digits are laid out: for which leading exponents the point is written in
place, how the exponent is written otherwise, and the texts of the values that are not numbers.
-/

set_option autoImplicit false

namespace PairedContacts

structure FloatStyle where
  /-- The leading exponents from `plainFrom` up to but not including `plainBelow` are written
  without an exponent. -/
  plainFrom : Int
  plainBelow : Int
  /-- Whether a single digit before an exponent is followed by `.0`. -/
  pointBeforeExponent : Bool
  plusSign : Bool
  exponentWidth : Nat
  nan : String
  infinity : String

namespace FloatStyle

def zeros (count : Nat) : List Char :=
  List.replicate count '0'

def exponentText (style : FloatStyle) (exponent : Int) : List Char :=
  let digits := Nat.toDigits 10 exponent.natAbs
  let sign := if exponent < 0 then ['-'] else if style.plusSign then ['+'] else []
  'e' :: (sign ++ zeros (style.exponentWidth - digits.length) ++ digits)

def layout (style : FloatStyle) (d : Decimal) : List Char :=
  let digits := Nat.toDigits 10 d.digits
  let lead := d.leading
  if style.plainFrom ≤ lead ∧ lead < style.plainBelow then
    if lead < 0 then
      ['0', '.'] ++ zeros (-lead - 1).toNat ++ digits
    else
      let whole := digits.take (lead + 1).toNat
      let part := digits.drop (lead + 1).toNat
      whole ++ zeros ((lead + 1).toNat - whole.length) ++ ['.'] ++
        (if part.isEmpty then ['0'] else part)
  else
    let part := digits.drop 1
    let point :=
      if part.isEmpty then (if style.pointBeforeExponent then ['.', '0'] else [])
      else '.' :: part
    digits.take 1 ++ point ++ style.exponentText lead

/-- The text of a number whose digits are chosen by `choose`. -/
def write (style : FloatStyle) (choose : Binary64 -> Decimal) (x : Binary64) : List Char :=
  if x.isNaN then style.nan.toList
  else
    let sign := if x.isNegative then ['-'] else []
    if x.isInfinite then sign ++ style.infinity.toList
    else sign ++ style.layout (choose x)

/-- Numbers in messages and in documents: `1e+16`, `1.5e-05`, `100000.0`. -/
def display : FloatStyle where
  plainFrom := -4
  plainBelow := 16
  pointBeforeExponent := false
  plusSign := true
  exponentWidth := 2
  nan := "nan"
  infinity := "inf"

/-- Numbers in a document: as displayed, with the names of the special values spelled out. -/
def document : FloatStyle :=
  { display with nan := "NaN", infinity := "Infinity" }

/-- Numbers in packets: `1e16`, `1.5e-6`; there is no text for the special values. -/
def wire : FloatStyle where
  plainFrom := -5
  plainBelow := 16
  pointBeforeExponent := false
  plusSign := false
  exponentWidth := 1
  nan := "null"
  infinity := "null"

/-- Numbers that a table stores as text: `3.0`, `1.0e+15`. -/
def stored : FloatStyle where
  plainFrom := -4
  plainBelow := 15
  pointBeforeExponent := true
  plusSign := true
  exponentWidth := 2
  nan := "NULL"
  infinity := "Inf"

end FloatStyle

namespace Binary64

def displayText (x : Binary64) : List Char :=
  FloatStyle.display.write shortest x

def documentText (x : Binary64) : List Char :=
  FloatStyle.document.write shortest x

/-- A special value is written as `null`, without a sign. -/
def wireText (x : Binary64) : List Char :=
  if x.isFinite then FloatStyle.wire.write shortest x else FloatStyle.wire.nan.toList

/-- Fifteen significant digits; a zero loses its sign. -/
def storedText (x : Binary64) : List Char :=
  FloatStyle.stored.write (fun y => y.roundedTo 15) (if x.isZero then ⟨0⟩ else x)

end Binary64

end PairedContacts
