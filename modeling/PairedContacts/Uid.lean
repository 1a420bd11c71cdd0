import PairedContacts.Number.Numeral
import PairedContacts.Text.Quoted
import PairedContacts.Value

/-!
# Contact identities

A uID is the stable, opaque identity of a logical contact.  Rows that share it belong to one merge
group.  Texts and integers can be uIDs; an integer is its decimal numeral.
-/

set_option autoImplicit false

namespace PairedContacts

structure Uid where
  text : String
  deriving DecidableEq, Repr, Inhabited

inductive UidFault where
  | flag (value : Bool)
  | wrongKind (value : Value)
  /-- Empty, or with a blank at either end. -/
  | padded (text : String)
  | lineBreak (text : String)
  | reserved
  | longInt

namespace UidFault

def message : UidFault -> String
  | flag value => "Invalid uID: " ++ (if value then "True" else "False")
  | wrongKind value => "Invalid uID type: " ++ value.kindName
  | padded text => "Invalid uID: " ++ Text.quote text
  | lineBreak text => "uID contains a line break: " ++ Text.quote text
  | reserved => "uID collides with reserved key 'uids'"
  | longInt =>
      "Exceeds the limit (4300 digits) for integer string conversion; " ++
        "use sys.set_int_max_str_digits() to increase the limit"

end UidFault

namespace Uid

/-- The key that holds the list of uIDs in a packet; no contact may be called so. -/
def reservedKey : String := "uids"

/-- A text is a uID unless it is empty or padded with blanks, breaks the line by a line feed or a
carriage return, or is the reserved key. -/
def ofText (text : String) : Except UidFault Uid :=
  let chars := text.toList
  if chars.isEmpty ∨ Text.trim chars ≠ chars then .error (.padded text)
  else if chars.contains '\n' ∨ chars.contains '\r' then .error (.lineBreak text)
  else if text = reservedKey then .error .reserved
  else .ok ⟨text⟩

def ofValue (value : Value) : Except UidFault Uid :=
  match value with
  | .bool flag => .error (.flag flag)
  | .int n =>
      match Numeral.writeInt? n with
      | some digits => ofText (String.ofList digits)
      | none => .error .longInt
  | .text text => ofText text
  | other => .error (.wrongKind other)

/-- uIDs are ordered by the code points of their texts. -/
def le (a b : Uid) : Bool :=
  a.text ≤ b.text

def sort (uids : List Uid) : List Uid :=
  uids.mergeSort le

def sortEntries {ν : Type} (entries : KeyedList Uid ν) : KeyedList Uid ν :=
  entries.mergeSort fun a b => le a.1 b.1

end Uid

end PairedContacts
