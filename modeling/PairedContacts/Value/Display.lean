import PairedContacts.Number.FloatText
import PairedContacts.Number.Numeral
import PairedContacts.Text.Quoted
import PairedContacts.Value

/-!
# Values as text

The text that stands for a value: a text stands for itself, and inside lists and maps every text is
quoted.  An integer with too many digits has no text.
-/

set_option autoImplicit false

namespace PairedContacts

namespace Value

def commaSeparated (parts : List (List Char)) : List Char :=
  (parts.intersperse [',', ' ']).flatten

mutual

/-- The text of a value as it stands inside a list, with quotes around texts. -/
def shown? : Value -> Option (List Char)
  | null => some "None".toList
  | bool flag => some (if flag then "True" else "False").toList
  | int n => Numeral.writeInt? n
  | real x => some x.displayText
  | text s => some (Text.quoted s.toList)
  | blob bytes => some (Text.quotedBytes bytes)
  | list items => (shownItems? items).map fun parts => '[' :: (commaSeparated parts ++ [']'])
  | map fields =>
      (shownFields? fields).map fun parts => '\x7b' :: (commaSeparated parts ++ ['\x7d'])

def shownItems? : List Value -> Option (List (List Char))
  | [] => some []
  | item :: rest => do
      let first <- shown? item
      let more <- shownItems? rest
      some (first :: more)

def shownFields? : List (String × Value) -> Option (List (List Char))
  | [] => some []
  | (key, value) :: rest => do
      let first <- shown? value
      let more <- shownFields? rest
      some ((Text.quoted key.toList ++ [':', ' '] ++ first) :: more)

end

def asText? : Value -> Option (List Char)
  | text s => some s.toList
  | value => value.shown?

end Value

end PairedContacts
