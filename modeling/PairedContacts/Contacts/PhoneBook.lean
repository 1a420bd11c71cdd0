import PairedContacts.Bytes.Base64
import PairedContacts.Contacts.Layout
import PairedContacts.Projection
import PairedContacts.Text.DecimalDigit

/-!
# Looking up a phone number

The phone column holds numbers in a normal form: the digits, after a plus sign if the number begins
with one.  A number is looked up by its normal form, and the first row that has it answers.
-/

set_option autoImplicit false

namespace PairedContacts

namespace PhoneBook

def keeps (c : Char) : Bool :=
  Text.isDecimalDigit c || c = '+'

def normalizeChars (number : List Char) : List Char :=
  match number.filter keeps with
  | [] => []
  | first :: rest => first :: rest.filter fun c => c != '+'

def normalize (number : String) : String :=
  String.ofList (normalizeChars number.toList)

/-- A photo as text; there is no text for a photo without bytes. -/
def encodePhoto (photo : List UInt8) : String :=
  String.ofList (Base64.encode photo)

structure Entry where
  name : Option String
  photo : Option String
  deriving DecidableEq, Repr

def Entry.blank : Entry :=
  ⟨none, none⟩

def entryOf (layout : Layout) (record : Record) : Entry where
  name := (KeyedList.get? record layout.displayName).bind ColumnValue.text?
  photo :=
    ((KeyedList.get? record layout.photo).bind ColumnValue.blob?).bind fun bytes =>
      if bytes.isEmpty then none else some (encodePhoto bytes)

def query (layout : Layout) (number : String) : Query where
  table := layout.table
  columns := [layout.displayName, layout.photo]
  filter := [(layout.phone, .text number)]

def firstEntry (layout : Layout) : List Row -> Run Entry
  | [] => pure .blank
  | row :: _ => do
      let record <- Projection.readRecord row [layout.displayName, layout.photo]
      return entryOf layout record

/-- Looks up the owner of a number.  A source that is not available knows nobody. -/
def lookup (source : Source) (access : Option Access) (layout : Layout) (number : String) :
    Run Entry := do
  Access.demand access
  let normal := normalize number
  if normal.isEmpty then
    return .blank
  try
    source.reading (query layout normal) (firstEntry layout)
  catch failure =>
    if failure.kind = .sourceUnavailable then
      Run.note (.lookupFailed failure)
      return .blank
    else throw failure

end PhoneBook

end PairedContacts
