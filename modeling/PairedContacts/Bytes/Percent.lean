/-!
# Percent encoding

A text written with letters, digits and `_.-~` alone: every other character is replaced by its
bytes in UTF-8, each as a percent sign and two upper-case hexadecimal digits.
-/

set_option autoImplicit false

namespace PairedContacts.Percent

def isPlain (c : Char) : Bool :=
  c.isAlphanum || c = '_' || c = '.' || c = '-' || c = '~'

/-- The upper-case hexadecimal digit of a value below sixteen. -/
def digit (value : Nat) : Char :=
  Char.ofNat (if value < 10 then 0x30 + value else 0x37 + value)

def escapeByte (byte : UInt8) : List Char :=
  ['%', digit (byte.toNat / 16), digit (byte.toNat % 16)]

def encodeChar (c : Char) : List Char :=
  if isPlain c then [c] else (String.utf8EncodeChar c).flatMap escapeByte

def encode (text : String) : String :=
  String.ofList (text.toList.flatMap encodeChar)

end PairedContacts.Percent
