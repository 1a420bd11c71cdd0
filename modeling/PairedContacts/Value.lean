import PairedContacts.KeyedList
import PairedContacts.Number.Binary64

/-!
# Values

What a cell of a table or a field of a packet may hold.  A packet never holds bytes; a cell may
hold anything.
-/

set_option autoImplicit false

namespace PairedContacts

inductive Value where
  | null
  | bool (flag : Bool)
  | int (n : Int)
  | real (x : Binary64)
  | text (s : String)
  | blob (bytes : List UInt8)
  | list (items : List Value)
  | map (fields : List (String × Value))
  deriving Repr, Inhabited

namespace Value

def kindName : Value -> String
  | null => "NoneType"
  | bool _ => "bool"
  | int _ => "int"
  | real _ => "float"
  | text _ => "str"
  | blob _ => "bytes"
  | list _ => "list"
  | map _ => "dict"

/-- The integer that a value counts as, if it is one exactly; a flag counts as one or zero. -/
def whole? : Value -> Option Int
  | bool flag => some (if flag then 1 else 0)
  | int n => some n
  | _ => none

mutual

/-- Equality of values by meaning: numbers agree by value whatever their kind, a flag counts as a
number, and the order of fields does not matter. -/
def agrees : Value -> Value -> Bool
  | null, null => true
  | real x, real y => x.agrees y
  | real x, other => other.whole?.any x.equalsInt
  | text s, text t => s == t
  | blob a, blob b => a == b
  | list xs, list ys => agreeItems xs ys
  | map fields, map others => fields.length == others.length && agreeFields fields others
  | value, real y => value.whole?.any y.equalsInt
  | value, other =>
      match value.whole?, other.whole? with
      | some m, some n => m == n
      | _, _ => false

def agreeItems : List Value -> List Value -> Bool
  | [], [] => true
  | x :: xs, y :: ys => agrees x y && agreeItems xs ys
  | _, _ => false

def agreeFields : List (String × Value) -> List (String × Value) -> Bool
  | [], _ => true
  | (key, value) :: rest, others =>
      (match KeyedList.get? others key with
      | some other => agrees value other
      | none => false) && agreeFields rest others

end

/-- Whether a value counts as false where a choice is made by it. -/
def isEmpty : Value -> Bool
  | null => true
  | bool flag => !flag
  | int n => n == 0
  | real x => x.isZero
  | text s => s.isEmpty
  | blob bytes => bytes.isEmpty
  | list items => items.isEmpty
  | map fields => fields.isEmpty

end Value

end PairedContacts
