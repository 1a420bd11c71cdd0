import PairedContacts.Uid
import PairedContacts.Value.Display

/-!
# Cells and rows

A row gives each of its columns a raw value and a native type tag.  A cell is read by its tag: the
raw value is converted to the type that the tag announces, and a cell with no tag or no value is
absent.
-/

set_option autoImplicit false

namespace PairedContacts

structure Cell where
  tag : Option String
  value : Value

abbrev Row := KeyedList String Cell

namespace Row

def tag? (row : Row) (column : String) : Option String :=
  (KeyedList.get? row column).bind Cell.tag

def value (row : Row) (column : String) : Value :=
  ((KeyedList.get? row column).map Cell.value).getD .null

end Row

/-- The types that a cell can have; a null cell has a type tag but no value. -/
inductive ColumnKind where
  | integer
  | real
  | text
  | blob
  | null
  deriving DecidableEq, Repr

namespace ColumnKind

def name : ColumnKind -> String
  | integer => "integer"
  | real => "real"
  | text => "text"
  | blob => "blob"
  | null => "null"

def ofTag? (tag : String) : Option ColumnKind :=
  [integer, real, text, blob, null].find? fun kind => kind.name == tag

end ColumnKind

inductive ColumnValue where
  | integer (n : Int)
  | real (x : Binary64)
  | text (s : String)
  | blob (bytes : List UInt8)
  deriving DecidableEq, Repr

namespace ColumnValue

def kind : ColumnValue -> ColumnKind
  | integer _ => .integer
  | real _ => .real
  | text _ => .text
  | blob _ => .blob

def value : ColumnValue -> Value
  | integer n => .int n
  | real x => .real x
  | text s => .text s
  | blob bytes => .blob bytes

def integer? : ColumnValue -> Option Int
  | integer n => some n
  | _ => none

def text? : ColumnValue -> Option String
  | text s => some s
  | _ => none

def blob? : ColumnValue -> Option (List UInt8)
  | blob bytes => some bytes
  | _ => none

end ColumnValue

inductive CellFault where
  | unrecognizedTag (column tag : String)
  /-- The raw value has a kind that the announced type cannot be made from. -/
  | wrongKind
  | notAnInteger (shown : String)
  | notAReal (shown : String)
  | tooManyDigits (count : Nat)
  /-- An integer inside the raw value has too many digits to be written. -/
  | longInt
  | notANumber
  | negativeCount
  | byteOutOfRange
  /-- The number is too large for the announced type. -/
  | overflow

namespace CellFault

def message : CellFault -> String
  | unrecognizedTag column tag =>
      "Column " ++ Text.quote column ++ " has unrecognized type tag " ++ Text.quote tag
  | wrongKind => "wrong kind of value"
  | notAnInteger shown => "invalid literal for int() with base 10: " ++ shown
  | notAReal shown => "could not convert string to float: " ++ shown
  | tooManyDigits count =>
      "Exceeds the limit (4300 digits) for integer string conversion: value has " ++
        toString count ++ " digits; use sys.set_int_max_str_digits() to increase the limit"
  | longInt => UidFault.longInt.message
  | notANumber => "cannot convert float NaN to integer"
  | negativeCount => "negative count"
  | byteOutOfRange => "bytes must be in range(0, 256)"
  | overflow => "number out of range"

end CellFault

namespace Cell

/-- How many characters of an unreadable numeral a message shows. -/
def shownNumeral (shown : List Char) : String :=
  String.ofList (shown.take 200)

def readNumeral (chars shown : List Char) : Except CellFault Int :=
  match Numeral.readInt chars with
  | .ok n => .ok n
  | .error .malformed => .error (.notAnInteger (shownNumeral shown))
  | .error (.tooManyDigits count) => .error (.tooManyDigits count)

/-- Bytes are a numeral only in ASCII. -/
def asciiOfBytes (bytes : List UInt8) : List Char :=
  bytes.map fun byte => if byte.toNat < 0x80 then Char.ofNat byte.toNat else '?'

def toInteger : Value -> Except CellFault Int
  | .bool flag => .ok (if flag then 1 else 0)
  | .int n => .ok n
  | .real x =>
      if x.isNaN then .error .notANumber
      else if x.isFinite then .ok x.truncate
      else .error .overflow
  | .text s => readNumeral s.toList (Text.quoted s.toList)
  | .blob bytes => readNumeral (asciiOfBytes bytes) (Text.quotedBytes bytes)
  | _ => .error .wrongKind

def toReal : Value -> Except CellFault Binary64
  | .bool flag => .ok (if flag then ⟨0x3FF0000000000000⟩ else ⟨0⟩)
  | .int n => match Binary64.ofInt? n with
      | some x => .ok x
      | none => .error .overflow
  | .real x => .ok x
  | .text s => match Numeral.readReal? s.toList with
      | some x => .ok x
      | none => .error (.notAReal (Text.quote s))
  | .blob bytes => match Numeral.readReal? (asciiOfBytes bytes) with
      | some x => .ok x
      | none => .error (.notAReal (String.ofList (Text.quotedBytes bytes)))
  | _ => .error .wrongKind

def toText (value : Value) : Except CellFault String :=
  match value.asText? with
  | some chars => .ok (String.ofList chars)
  | none => .error .longInt

def maxCount : Int := wordBound - 1

def toByte (value : Value) : Except CellFault UInt8 :=
  match value.whole? with
  | some n => if 0 ≤ n ∧ n < 256 then .ok (UInt8.ofNat n.toNat) else .error .byteOutOfRange
  | none => .error .wrongKind

/-- A count stands for that many zero bytes, and a list for the bytes that it holds. -/
def toBlob : Value -> Except CellFault (List UInt8)
  | .blob bytes => .ok bytes
  | .list items => items.mapM toByte
  | .map [] => .ok []
  | .bool flag => .ok (List.replicate (if flag then 1 else 0) 0)
  | .int n =>
      if maxCount < n ∨ n < -maxCount - 1 then .error .overflow
      else if n < 0 then .error .negativeCount
      else .ok (List.replicate n.toNat 0)
  | _ => .error .wrongKind

/-- Converts a raw value to a type; a null cell has no value. -/
def convert (kind : ColumnKind) (value : Value) : Except CellFault (Option ColumnValue) :=
  match kind, value with
  | .null, _ => .ok none
  | _, .null => .ok none
  | .integer, value => (toInteger value).map (some ∘ .integer)
  | .real, value => (toReal value).map (some ∘ .real)
  | .text, value => (toText value).map (some ∘ .text)
  | .blob, value => (toBlob value).map (some ∘ .blob)

end Cell

namespace Row

def read (row : Row) (column : String) : Except CellFault (Option ColumnValue) :=
  match row.tag? column with
  | none => .ok none
  | some tag =>
      match ColumnKind.ofTag? tag with
      | none => .error (.unrecognizedTag column tag)
      | some kind => Cell.convert kind (row.value column)

end Row

inductive IdentityFault where
  | noValue (column : String)
  | unusable (column : String) (fault : UidFault)

namespace IdentityFault

def message : IdentityFault -> String
  | noValue column => "Row has no " ++ Text.quote column ++ " value"
  | unusable column fault =>
      "Row has an unusable " ++ Text.quote column ++ " value: " ++ fault.message

end IdentityFault

namespace Row

/-- The uID that a row carries in its lookup column, whatever the type of the cell. -/
def identity (row : Row) (lookupColumn : String) : Except IdentityFault Uid :=
  match row.tag? lookupColumn with
  | none => .error (.noValue lookupColumn)
  | some tag =>
      if tag = ColumnKind.null.name then .error (.noValue lookupColumn)
      else
        match Uid.ofValue (row.value lookupColumn) with
        | .ok uid => .ok uid
        | .error fault => .error (.unusable lookupColumn fault)

end Row

end PairedContacts
