import PairedContacts.Text.Hex
import PairedContacts.Text.Printable

/-!
# Quoted text

The form in which messages show a text: between apostrophes, or between quotation marks when the
text holds an apostrophe and no quotation mark.  The mark and the backslash are escaped by a
backslash, line feed, carriage return and tab by a letter, and every other character that is not
printable by its code in two, four or eight hexadecimal digits.
-/

set_option autoImplicit false

namespace PairedContacts.Text

def apostrophe : Char := '\x27'
def quotationMark : Char := '\x22'

def markFor (hasApostrophe hasQuotationMark : Bool) : Char :=
  if hasApostrophe && !hasQuotationMark then quotationMark else apostrophe

def codeEscape (code : Nat) : List Char :=
  if code < 0x100 then '\\' :: 'x' :: hexPadded 2 code
  else if code < 0x10000 then '\\' :: 'u' :: hexPadded 4 code
  else '\\' :: 'U' :: hexPadded 8 code

def quotedChar (mark c : Char) : List Char :=
  if c = mark ∨ c = '\\' then ['\\', c]
  else if c = '\n' then ['\\', 'n']
  else if c = '\r' then ['\\', 'r']
  else if c = '\t' then ['\\', 't']
  else if isPrintable c then [c]
  else codeEscape c.toNat

def quoted (text : List Char) : List Char :=
  let mark := markFor (text.contains apostrophe) (text.contains quotationMark)
  mark :: (text.flatMap (quotedChar mark) ++ [mark])

/-- Bytes in the same form after a `b`; only printable ASCII stands for itself. -/
def quotedBytes (bytes : List UInt8) : List Char :=
  let chars := bytes.map fun byte => Char.ofNat byte.toNat
  let mark := markFor (chars.contains apostrophe) (chars.contains quotationMark)
  let escape (c : Char) : List Char :=
    if c.toNat < 0x7F then quotedChar mark c else codeEscape c.toNat
  'b' :: mark :: (chars.flatMap escape ++ [mark])

def quote (text : String) : String :=
  String.ofList (quoted text.toList)

end PairedContacts.Text
