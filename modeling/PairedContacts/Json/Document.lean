import PairedContacts.Number.Numeral
import PairedContacts.Text.Hex
import PairedContacts.Text.Loose
import PairedContacts.Value

/-!
# Documents

A document is a scalar or a text, or nests documents in lists and maps.  What its texts are depends
on who reads it: a dialect says this, how deep a document may nest, and how long an integer may be.
A document of texts of characters is a value.
-/

set_option autoImplicit false

namespace PairedContacts.Json

inductive Scalar where
  | null
  | bool (flag : Bool)
  | int (n : Int)
  | real (x : Binary64)
  deriving DecidableEq, Repr

def Scalar.value : Scalar -> Value
  | null => .null
  | bool flag => .bool flag
  | int n => .int n
  | real x => .real x

inductive Document (τ : Type) where
  | scalar (content : Scalar)
  | text (content : τ)
  | list (items : List (Document τ))
  | map (fields : List (τ × Document τ))

namespace Document

variable {τ : Type}

mutual

def value : Document String -> Value
  | .scalar content => content.value
  | .text content => .text content
  | .list items => .list (values items)
  | .map fields => .map (fieldValues fields)

def values : List (Document String) -> List Value
  | [] => []
  | item :: rest => value item :: values rest

def fieldValues : List (String × Document String) -> List (String × Value)
  | [] => []
  | (key, item) :: rest => (key, value item) :: fieldValues rest

end

mutual

/-- A value as a document of texts of some kind.  Bytes, which no packet holds, become hexadecimal
text. -/
def ofValue (embed : String -> τ) : Value -> Document τ
  | .null => .scalar .null
  | .bool flag => .scalar (.bool flag)
  | .int n => .scalar (.int n)
  | .real x => .scalar (.real x)
  | .text s => .text (embed s)
  | .blob bytes => .text (embed (String.ofList (Text.hexBytes bytes)))
  | .list items => .list (ofItems embed items)
  | .map fields => .map (ofFields embed fields)

def ofItems (embed : String -> τ) : List Value -> List (Document τ)
  | [] => []
  | item :: rest => ofValue embed item :: ofItems embed rest

def ofFields (embed : String -> τ) : List (String × Value) -> List (τ × Document τ)
  | [] => []
  | (key, value) :: rest => (embed key, ofValue embed value) :: ofFields embed rest

end

/-- Whether a document counts as false where a choice is made by it. -/
def isEmpty : Document JoinedText -> Bool
  | .scalar content => content.value.isEmpty
  | .text content => content.points.isEmpty
  | .list items => items.isEmpty
  | .map fields => fields.isEmpty

end Document

/-- How documents are read. -/
structure Dialect (τ : Type) where
  maxDepth : Option Nat
  /-- Whether the sign of an integer takes the place of a digit. -/
  countsSign : Bool
  /-- What a text is read as, if it can be read. -/
  text? : JoinedText -> Option τ

namespace Dialect

/-- How many digits an integer may have. -/
def room {τ : Type} (dialect : Dialect τ) (negative : Bool) : Nat :=
  if negative && dialect.countsSign then Numeral.maxDigits - 1 else Numeral.maxDigits

/-- Documents nested as deep as one likes, of texts of characters. -/
def standard : Dialect String :=
  ⟨none, false, fun text => text.plain?⟩

/-- The same with loose texts. -/
def loose : Dialect JoinedText :=
  ⟨none, false, some⟩

end Dialect

end PairedContacts.Json
