import PairedContacts.Number.Binary64
import PairedContacts.Text.Blank
import PairedContacts.Text.DecimalDigit

/-!
# Reading and writing numerals

An integer numeral is an optional sign and decimal digits of any script, with single underscores
allowed between digits and blanks around the whole.  Numerals of more than 4300 digits are refused
in both directions.  A real numeral may have a point, an exponent, or be the name of a special
value.
-/

set_option autoImplicit false

namespace PairedContacts

namespace Numeral

def maxDigits : Nat := 4300

inductive Fault where
  | malformed
  | tooManyDigits (count : Nat)
  deriving DecidableEq, Repr

/-- The blanks of ASCII that may stand around a numeral; the information separators may not. -/
def isPlainBlank (c : Char) : Bool :=
  c = ' ' || '\t' ≤ c && c ≤ '\r'

/-- A numeral in ASCII: other blanks become spaces, digits of other scripts plain digits, and
characters that no numeral holds become question marks. -/
def plainChar (c : Char) : Char :=
  if c.toNat < 0x7F then c
  else if Text.isBlank c then ' '
  else
    match Text.digitValue? c with
    | some value => Char.ofNat (0x30 + value)
    | none => '?'

def plain (text : List Char) : List Char :=
  text.map plainChar

def splitSign : List Char -> Bool × List Char
  | '-' :: rest => (true, rest)
  | '+' :: rest => (false, rest)
  | rest => (false, rest)

def plainDigit? (c : Char) : Option Nat :=
  if '0' ≤ c ∧ c ≤ '9' then some (c.toNat - 0x30) else none

/-- Digits with single underscores between them, and what follows; `needDigit` says that the next
character has to be a digit. -/
def scanDigits (needDigit : Bool) : List Char -> Option (List Nat × List Char)
  | [] => if needDigit then none else some ([], [])
  | c :: rest =>
      match plainDigit? c with
      | some digit => (scanDigits false rest).map fun scanned => (digit :: scanned.1, scanned.2)
      | none =>
          if needDigit then none
          else if c = '_' then scanDigits true rest
          else some ([], c :: rest)

def valueOf (digits : List Nat) : Nat :=
  digits.foldl (fun value digit => 10 * value + digit) 0

def readInt (text : List Char) : Except Fault Int :=
  let (negative, unsigned) := splitSign ((plain text).dropWhile isPlainBlank)
  match scanDigits true unsigned with
  | none => .error .malformed
  | some (digits, rest) =>
      if maxDigits < digits.length then .error (.tooManyDigits digits.length)
      else if rest.all isPlainBlank then
        .ok (if negative then -(valueOf digits : Int) else valueOf digits)
      else .error .malformed

def writeInt (n : Int) : List Char :=
  (if n < 0 then ['-'] else []) ++ Nat.toDigits 10 n.natAbs

/-- Whether an integer has too many digits for a numeral. -/
@[irreducible] def isTooLong (n : Int) : Bool :=
  tenTo maxDigits ≤ n.natAbs

theorem isTooLong_eq_false_iff {n : Int} :
    isTooLong n = false ↔ n.natAbs < tenTo maxDigits := by
  unfold isTooLong
  rw [decide_eq_false_iff_not, Nat.not_le]

/-- Writes an integer unless it has too many digits. -/
def writeInt? (n : Int) : Option (List Char) :=
  if isTooLong n then none else some (writeInt n)

def toLowerCase (text : List Char) : List Char :=
  text.map Char.toLower

def scanFraction : List Char -> Option (List Nat × List Char)
  | '.' :: c :: rest =>
      if (plainDigit? c).isSome then scanDigits true (c :: rest) else some ([], c :: rest)
  | ['.'] => some ([], [])
  | rest => some ([], rest)

def scanExponent : List Char -> Option (Int × List Char)
  | c :: rest =>
      if c = 'e' ∨ c = 'E' then
        let (negative, unsigned) := splitSign rest
        (scanDigits true unsigned).map fun scanned =>
          (if negative then -(valueOf scanned.1 : Int) else valueOf scanned.1, scanned.2)
      else
        some (0, c :: rest)
  | [] => some (0, [])

def scanWhole (text : List Char) : Option (List Nat × List Char) :=
  match text with
  | '.' :: _ => some ([], text)
  | _ => scanDigits true text

def readMagnitude (negative : Bool) (text : List Char) : Option Binary64 := do
  let lower := toLowerCase text
  if lower = "inf".toList ∨ lower = "infinity".toList then
    return .infinity negative
  if lower = "nan".toList then
    return .nan
  let (whole, afterWhole) <- scanWhole text
  let (part, afterPart) <- scanFraction afterWhole
  if whole.isEmpty ∧ part.isEmpty then none
  let (exponent, rest) <- scanExponent afterPart
  if rest.isEmpty then
    some (.ofDecimal negative (valueOf (whole ++ part)) (exponent - part.length))
  else
    none

def readReal? (text : List Char) : Option Binary64 :=
  let (negative, unsigned) :=
    splitSign (Text.trimEnd isPlainBlank (Text.trimStart isPlainBlank (plain text)))
  readMagnitude negative unsigned

end Numeral

end PairedContacts
