import PairedContacts.Number.Numeral
import PairedContacts.Value

/-!
# Validated fields

Packets and settings are built from values of any kind.  Each field has a rule that says which
values it takes, and an input that breaks rules is answered by the problem of every offending field.
A rule takes a value of another kind when that has one clear meaning: an integer may be written as a
numeral, and a switch as a word.
-/

set_option autoImplicit false

namespace PairedContacts

inductive FieldProblem where
  | missing
  | notText
  | tooShort (least : Nat)
  | tooLong (most : Nat)
  | notInteger
  | unreadableInteger
  | hugeInteger
  | fraction
  | notFinite
  | belowLeast (least : Int)
  | aboveMost (most : Int)
  | notFlag
  | unreadableFlag
  | notList
  | notMap
  /-- The whole input is not a map of fields. -/
  | notFields
  | notDocument
  | refused (reason : String)
  deriving DecidableEq, Repr

structure FieldFault where
  /-- The place of the value: a field, and inside a list also the index. -/
  place : List String
  problem : FieldProblem
  deriving DecidableEq, Repr

namespace FieldProblem

def code : FieldProblem -> String
  | missing => "missing"
  | notText => "string_type"
  | tooShort _ => "string_too_short"
  | tooLong _ => "string_too_long"
  | notInteger => "int_type"
  | unreadableInteger => "int_parsing"
  | hugeInteger => "int_parsing_size"
  | fraction => "int_from_float"
  | notFinite => "finite_number"
  | belowLeast _ => "greater_than_equal"
  | aboveMost _ => "less_than_equal"
  | notFlag => "bool_type"
  | unreadableFlag => "bool_parsing"
  | notList => "list_type"
  | notMap => "dict_type"
  | notFields => "model_attributes_type"
  | notDocument => "json_invalid"
  | refused _ => "value_error"

def characters (count : Nat) : String :=
  toString count ++ (if count = 1 then " character" else " characters")

def message : FieldProblem -> String
  | missing => "Field required"
  | notText => "Input should be a valid string"
  | tooShort least => "String should have at least " ++ characters least
  | tooLong most => "String should have at most " ++ characters most
  | notInteger => "Input should be a valid integer"
  | unreadableInteger =>
      "Input should be a valid integer, unable to parse string as an integer"
  | hugeInteger => "Unable to parse input string as an integer, exceeded maximum size"
  | fraction => "Input should be a valid integer, got a number with a fractional part"
  | notFinite => "Input should be a finite number"
  | belowLeast least => "Input should be greater than or equal to " ++ toString least
  | aboveMost most => "Input should be less than or equal to " ++ toString most
  | notFlag => "Input should be a valid boolean"
  | unreadableFlag => "Input should be a valid boolean, unable to interpret input"
  | notList => "Input should be a valid list"
  | notMap => "Input should be a valid dictionary"
  | notFields => "Input should be a valid dictionary or object to extract fields from"
  | notDocument => "JSON decode error"
  | refused reason => "Value error, " ++ reason

end FieldProblem

namespace Field

def text : Value -> Except FieldProblem String
  | .text s => .ok s
  | _ => .error .notText

/-- The white space of Unicode, without the information separators. -/
def isSpace (c : Char) : Bool :=
  Text.isBlank c && !('\x1c' ≤ c && c ≤ '\x1f')

/-- An unsigned numeral without its leading zeros; after a first zero underscores count as zeros. -/
def withoutLeadingZeros : List Char -> Option (List Char)
  | '0' :: rest =>
      match rest.dropWhile fun c => c = '0' || c = '_' with
      | [] => some [rest.getLast?.getD '0']
      | c :: more =>
          if c = '.' then
            let skipped := rest.takeWhile fun c => c = '0' || c = '_'
            some (skipped.getLast?.getD '0' :: c :: more)
          else if (Numeral.plainDigit? c).isSome then some (c :: more)
          else none
  | c :: rest => if (Numeral.plainDigit? c).isSome then some (c :: rest) else none
  | [] => none

def withoutZeroFraction (text : List Char) : List Char :=
  match text.dropWhile fun c => c != '.' with
  | _ :: zeros => if zeros.all fun c => c = '0' then text.takeWhile fun c => c != '.' else text
  | [] => text

/-- Reads a numeral of plain digits with single underscores between them. -/
def readDigits (text : List Char) : Option Nat :=
  match Numeral.scanDigits true text with
  | some (digits, []) => some (Numeral.valueOf digits)
  | _ => none

/-- An integer as text: an optional sign, digits, and no fraction but zero. -/
def readInteger (text : List Char) : Except FieldProblem Int :=
  let bare := Text.trimEnd isSpace (Text.trimStart isSpace text)
  if Numeral.maxDigits < (String.ofList bare).utf8ByteSize then .error .hugeInteger
  else
    let (negative, unsigned) := Numeral.splitSign bare
    match (withoutLeadingZeros unsigned).bind (readDigits ∘ withoutZeroFraction) with
    | some n => .ok (if negative then -(n : Int) else n)
    | none => .error .unreadableInteger

def wholeNumber (x : Binary64) : Except FieldProblem Int :=
  if !x.isFinite then .error .notFinite
  else if !x.isWhole then .error .fraction
  else if x.truncate.natAbs < wordBound then .ok x.truncate
  else .error .hugeInteger

def integer : Value -> Except FieldProblem Int
  | .bool flag => .ok (if flag then 1 else 0)
  | .int n => .ok n
  | .real x => wholeNumber x
  | .text s => readInteger s.toList
  | _ => .error .notInteger

def yesWords : List String := ["1", "on", "t", "true", "y", "yes"]
def noWords : List String := ["0", "off", "f", "false", "n", "no"]

def flagOfInteger (n : Int) : Except FieldProblem Bool :=
  if n = 0 then .ok false else if n = 1 then .ok true else .error .unreadableFlag

def flag : Value -> Except FieldProblem Bool
  | .bool b => .ok b
  | .int n => flagOfInteger n
  | .real x =>
      match wholeNumber x with
      | .ok n => flagOfInteger n
      | .error _ => .error .notFlag
  | .text s =>
      let word := String.ofList (s.toList.map Char.toLower)
      if yesWords.contains word then .ok true
      else if noWords.contains word then .ok false
      else .error .unreadableFlag
  | _ => .error .notFlag

def map : Value -> Except FieldProblem (KeyedList String Value)
  | .map fields => .ok fields
  | _ => .error .notMap

def faultsOf {α : Type} (name : String) : Except FieldProblem α -> List FieldFault
  | .ok _ => []
  | .error problem => [⟨[name], problem⟩]

end Field

end PairedContacts
