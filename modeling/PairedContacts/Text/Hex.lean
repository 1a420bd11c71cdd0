/-!
# Hexadecimal digits
-/

set_option autoImplicit false

namespace PairedContacts.Text

def hexDigit (value : Nat) : Char :=
  Char.ofNat (if value < 10 then 0x30 + value else 0x57 + value)

/-- The last `width` hexadecimal digits of a number, leading zeros included. -/
def hexPadded : Nat -> Nat -> List Char
  | 0, _ => []
  | width + 1, value => hexPadded width (value / 16) ++ [hexDigit (value % 16)]

def hexValue? (c : Char) : Option Nat :=
  if '0' ≤ c ∧ c ≤ '9' then some (c.toNat - 0x30)
  else if 'a' ≤ c ∧ c ≤ 'f' then some (c.toNat - 0x57)
  else if 'A' ≤ c ∧ c ≤ 'F' then some (c.toNat - 0x37)
  else none

theorem hexValue?_hexDigit : ∀ value < 16, hexValue? (hexDigit value) = some value := by
  decide

def hexBytes (bytes : List UInt8) : List Char :=
  bytes.flatMap fun byte => hexPadded 2 byte.toNat

def bytesOfHex? : List Char -> Option (List UInt8)
  | [] => some []
  | high :: low :: rest => do
      let upper <- hexValue? high
      let lower <- hexValue? low
      let bytes <- bytesOfHex? rest
      some (UInt8.ofNat (16 * upper + lower) :: bytes)
  | [_] => none

end PairedContacts.Text
