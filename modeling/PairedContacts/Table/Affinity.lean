import PairedContacts.Cell

/-!
# Affinities

A column of a stored table prefers a type.  A value that is stored in it, or compared with it, is
converted to that type if nothing is lost: numbers become text in a text column, and texts that are
numerals become numbers in a numeric one.
-/

set_option autoImplicit false

namespace PairedContacts

/-- A stored cell; null is the absence of a value. -/
abbrev Stored := Option ColumnValue

inductive Affinity where
  | blob
  | text
  | numeric
  | integer
  | real
  deriving DecidableEq, Repr

namespace Affinity

def occursIn (word : String) : List Char -> Bool
  | [] => word.isEmpty
  | c :: rest => word.toList.isPrefixOf (c :: rest) || occursIn word rest

/-- The affinity of a declared type; the first rule that applies decides. -/
def ofType (declared : String) : Affinity :=
  let letters := declared.toList.map Char.toUpper
  let has (word : String) : Bool := occursIn word letters
  if has "INT" then integer
  else if has "CHAR" || has "CLOB" || has "TEXT" then text
  else if has "BLOB" || letters.isEmpty then blob
  else if has "REAL" || has "FLOA" || has "DOUB" then real
  else numeric

def isDigit (c : Char) : Bool :=
  (Numeral.plainDigit? c).isSome

def takeDigits (chars : List Char) : List Nat × List Char :=
  ((chars.takeWhile isDigit).filterMap Numeral.plainDigit?, chars.dropWhile isDigit)

/-- The integers that fit into a cell. -/
def fitsCell (n : Int) : Bool :=
  -(wordBound : Int) ≤ n && n < wordBound

/-- A number without a fraction is an integer if it is inside the range of cells. -/
def settle (x : Binary64) : ColumnValue :=
  let n := x.truncate
  if x.isFinite && x.isWhole && -(wordBound : Int) < n && n < (wordBound : Int) - 1 then
    .integer n
  else .real x

def readExponent? : List Char -> Option Int
  | [] => some 0
  | c :: rest =>
      if c = 'e' ∨ c = 'E' then
        let (negative, unsigned) := Numeral.splitSign rest
        match takeDigits unsigned with
        | ([], _) => none
        | (digits, []) =>
            some (if negative then -(Numeral.valueOf digits : Int) else Numeral.valueOf digits)
        | _ => none
      else none

def takeFraction : List Char -> List Nat × List Char
  | '.' :: rest => takeDigits rest
  | rest => ([], rest)

def readNumber? (chars : List Char) : Option ColumnValue :=
  let bare := Text.trimEnd Numeral.isPlainBlank (Text.trimStart Numeral.isPlainBlank chars)
  let (negative, unsigned) := Numeral.splitSign bare
  let (whole, afterWhole) := takeDigits unsigned
  let (part, afterPart) := takeFraction afterWhole
  if whole.isEmpty && part.isEmpty then none
  else
    match readExponent? afterPart with
    | none => none
    | some exponent =>
        let n : Int :=
          if negative then -(Numeral.valueOf whole : Int) else Numeral.valueOf whole
        if afterWhole.isEmpty && fitsCell n then some (.integer n)
        else
          some (settle
            (.ofDecimal negative (Numeral.valueOf (whole ++ part)) (exponent - part.length)))

def nearest (n : Int) : Binary64 :=
  .ofDecimal (n < 0) n.natAbs 0

def asReal : ColumnValue -> ColumnValue
  | .integer n => .real (nearest n)
  | other => other

def toNumber : ColumnValue -> ColumnValue
  | .text s => (readNumber? s.toList).getD (.text s)
  | .real x => settle x
  | other => other

def toText : ColumnValue -> ColumnValue
  | .integer n => .text (String.ofList (Numeral.writeInt n))
  | .real x => .text (String.ofList x.storedText)
  | other => other

def convert : Affinity -> ColumnValue -> ColumnValue
  | blob, value => value
  | text, value => toText value
  | numeric, value => toNumber value
  | integer, value => toNumber value
  | real, value => asReal (toNumber value)

/-- Converts a value that is compared with a column; an integer stays one. -/
def convertWanted : Affinity -> ColumnValue -> ColumnValue
  | real, value => toNumber value
  | affinity, value => convert affinity value

end Affinity

namespace Stored

/-- Two cells match if both have a value and the values are of one class and equal; all numbers are
of one class. -/
def isMatch (cell wanted : ColumnValue) : Bool :=
  cell.value.agrees wanted.value

/-- A finite number as a multiple of the least positive one; infinities lie beyond all others. -/
def position (x : Binary64) : Int :=
  let magnitude : Int :=
    if x.isFinite then (x.significand * twoTo (x.scale + 1074).toNat : Nat) else twoTo 2200
  if x.isNegative then -magnitude else magnitude

/-- The class of a cell in the order of cells: null, numbers, texts, blobs. -/
def rank : Stored -> Nat
  | none => 0
  | some (.integer _) | some (.real _) => 1
  | some (.text _) => 2
  | some (.blob _) => 3

def numberPosition : ColumnValue -> Int
  | .integer n => n * twoTo 1074
  | .real x => position x
  | _ => 0

def le (a b : Stored) : Bool :=
  if rank a ≠ rank b then decide (rank a < rank b)
  else
    match a, b with
    | some (.text s), some (.text t) => decide (s ≤ t)
    | some (.blob xs), some (.blob ys) => !List.lex ys xs
    | some x, some y => decide (numberPosition x ≤ numberPosition y)
    | _, _ => true

end Stored

end PairedContacts
