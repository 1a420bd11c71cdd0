import PairedContacts.Json.Document
import PairedContacts.Number.FloatText

/-!
# Writing documents

Two written forms.  On the wire a value takes no spaces, and a text escapes only what it must.  In a
file a document is indented by two spaces a level and written in ASCII alone, characters beyond the
basic plane as a pair of escapes and half of a pair as one.
-/

set_option autoImplicit false

namespace PairedContacts.Json

def escapeLetter? : Char -> Option Char
  | '\x22' => some '\x22'
  | '\\' => some '\\'
  | '\x08' => some 'b'
  | '\x0c' => some 'f'
  | '\n' => some 'n'
  | '\r' => some 'r'
  | '\t' => some 't'
  | _ => none

def unitEscape (unit : Nat) : List Char :=
  '\\' :: 'u' :: Text.hexPadded 4 unit

/-- A character of a text on the wire. -/
def wireChar (c : Char) : List Char :=
  match escapeLetter? c with
  | some letter => ['\\', letter]
  | none => if c.toNat < 0x20 then unitEscape c.toNat else [c]

/-- A character of a text in a file. -/
def asciiChar (c : Char) : List Char :=
  match escapeLetter? c with
  | some letter => ['\\', letter]
  | none =>
      if 0x20 ≤ c.toNat ∧ c.toNat < 0x7F then [c]
      else if c.toNat < 0x10000 then unitEscape c.toNat
      else
        unitEscape (0xD800 + (c.toNat - 0x10000) / 1024) ++
          unitEscape (0xDC00 + (c.toNat - 0x10000) % 1024)

/-- A point of a loose text in a file. -/
def asciiPoint : Point -> List Char
  | .char c => asciiChar c
  | .half half => unitEscape half.unit

def enclose {α : Type} (write : α -> List Char) (text : List α) : List Char :=
  '\x22' :: (text.flatMap write ++ ['\x22'])

def commas (parts : List (List Char)) : List Char :=
  (parts.intersperse [',']).flatten

mutual

/-- A value on the wire.  Bytes, which no packet holds, are written as hexadecimal text. -/
def wire : Value -> List Char
  | .null => "null".toList
  | .bool flag => (if flag then "true" else "false").toList
  | .int n => Numeral.writeInt n
  | .real x => x.wireText
  | .text s => enclose wireChar s.toList
  | .blob bytes => enclose wireChar (Text.hexBytes bytes)
  | .list items => '[' :: (commas (wireItems items) ++ [']'])
  | .map fields => '\x7b' :: (commas (wireFields fields) ++ ['\x7d'])

def wireItems : List Value -> List (List Char)
  | [] => []
  | item :: rest => wire item :: wireItems rest

def wireFields : List (String × Value) -> List (List Char)
  | [] => []
  | (key, value) :: rest =>
      (enclose wireChar key.toList ++ ':' :: wire value) :: wireFields rest

end

def lineStart (level : Nat) : List Char :=
  '\n' :: List.replicate (2 * level) ' '

/-- The parts of a list or map on lines of their own; an empty one takes no line. -/
def indentBlock (level : Nat) (opening closing : Char) (parts : List (List Char)) : List Char :=
  if parts.isEmpty then [opening, closing]
  else
    opening :: ((parts.map fun part => lineStart (level + 1) ++ part).intersperse [',']).flatten ++
      lineStart level ++ [closing]

def indentedScalar? : Scalar -> Option (List Char)
  | .null => some "null".toList
  | .bool flag => some (if flag then "true" else "false").toList
  | .int n => Numeral.writeInt? n
  | .real x => some x.documentText

mutual

/-- A document in a file, at a level of indentation; there is none when an integer is too long. -/
def indented? (level : Nat) : Document JoinedText -> Option (List Char)
  | .scalar content => indentedScalar? content
  | .text content => some (enclose asciiPoint content.points)
  | .list items => (indentedItems? (level + 1) items).map (indentBlock level '[' ']')
  | .map fields => (indentedFields? (level + 1) fields).map (indentBlock level '\x7b' '\x7d')

def indentedItems? (level : Nat) : List (Document JoinedText) -> Option (List (List Char))
  | [] => some []
  | item :: rest => do
      let first <- indented? level item
      let more <- indentedItems? level rest
      some (first :: more)

def indentedFields? (level : Nat) :
    List (JoinedText × Document JoinedText) -> Option (List (List Char))
  | [] => some []
  | (key, item) :: rest => do
      let first <- indented? level item
      let more <- indentedFields? level rest
      some ((enclose asciiPoint key.points ++ [':', ' '] ++ first) :: more)

end

def writeWire (value : Value) : String :=
  String.ofList (wire value)

def writeFile? (document : Document JoinedText) : Option String :=
  (indented? 0 document).map String.ofList

end PairedContacts.Json
