import PairedContacts.Bytes.Base64

/-!
# Base64 is faithful

The bytes of a text in base64 can be read back from it, whatever they are.
-/

set_option autoImplicit false

namespace PairedContacts.Base64

/-- The value of a letter of the alphabet: capitals, small letters, digits, and two signs. -/
def value? (c : Char) : Option Nat :=
  if 'A' ≤ c ∧ c ≤ 'Z' then some (c.toNat - 0x41)
  else if 'a' ≤ c ∧ c ≤ 'z' then some (c.toNat - 0x61 + 26)
  else if '0' ≤ c ∧ c ≤ '9' then some (c.toNat - 0x30 + 52)
  else if c = '+' then some 62
  else if c = '/' then some 63
  else none

/-- The first byte of a group is in its first two letters, the second in the second and the third,
and the third in the last two. -/
def firstByte (first second : Nat) : UInt8 :=
  UInt8.ofNat (first * 4 + second / 16)

def secondByte (second third : Nat) : UInt8 :=
  UInt8.ofNat (second % 16 * 16 + third / 4)

def thirdByte (third fourth : Nat) : UInt8 :=
  UInt8.ofNat (third % 4 * 64 + fourth)

/-- The bytes of a text in base64.  Every four letters are three bytes; in the last group one or two
equals signs may stand for letters, each of them for a byte less, and then the bits that are left
over have to be zero. -/
def decode? : List Char -> Option (List UInt8)
  | [] => some []
  | a :: b :: c :: d :: rest => do
      let first <- value? a
      let second <- value? b
      if c = '=' ∧ d = '=' ∧ rest = [] then
        if second % 16 = 0 then some [firstByte first second] else none
      else
        let third <- value? c
        if d = '=' ∧ rest = [] then
          if third % 4 = 0 then some [firstByte first second, secondByte second third] else none
        else
          let fourth <- value? d
          let others <- decode? rest
          some (firstByte first second :: secondByte second third :: thirdByte third fourth ::
            others)
  | _ => none

theorem value?_letter : ∀ value < 64, value? (letter value) = some value := by
  decide

theorem letter_ne_equals : ∀ value < 64, letter value ≠ '=' := by
  decide

theorem firstByte_split (a : UInt8) (low : Nat) (small : low < 16) :
    firstByte (a.toNat / 4) (a.toNat % 4 * 16 + low) = a := by
  have joined : a.toNat / 4 * 4 + (a.toNat % 4 * 16 + low) / 16 = a.toNat := by omega
  unfold firstByte
  rw [joined, UInt8.ofNat_toNat]

theorem secondByte_split (b : UInt8) (high low : Nat) (small : low < 4) :
    secondByte (high * 16 + b.toNat / 16) (b.toNat % 16 * 4 + low) = b := by
  have bound : b.toNat < 256 := b.toNat_lt_size
  have joined : (high * 16 + b.toNat / 16) % 16 * 16 + (b.toNat % 16 * 4 + low) / 4 = b.toNat := by
    omega
  unfold secondByte
  rw [joined, UInt8.ofNat_toNat]

theorem thirdByte_split (c : UInt8) (high : Nat) :
    thirdByte (high * 4 + c.toNat / 64) (c.toNat % 64) = c := by
  have bound : c.toNat < 256 := c.toNat_lt_size
  have joined : (high * 4 + c.toNat / 64) % 4 * 64 + c.toNat % 64 = c.toNat := by omega
  unfold thirdByte
  rw [joined, UInt8.ofNat_toNat]

section Groups

variable {first second third fourth : Nat}

theorem decode?_oneByte (one : first < 64) (two : second < 64) (whole : second % 16 = 0) :
    decode? [letter first, letter second, '=', '='] = some [firstByte first second] := by
  simp [decode?, value?_letter, one, two, whole]

theorem decode?_twoBytes (one : first < 64) (two : second < 64) (three : third < 64)
    (whole : third % 4 = 0) :
    decode? [letter first, letter second, letter third, '='] =
      some [firstByte first second, secondByte second third] := by
  simp [decode?, value?_letter, letter_ne_equals, one, two, three, whole]

theorem decode?_threeBytes (one : first < 64) (two : second < 64) (three : third < 64)
    (four : fourth < 64) (rest : List Char) :
    decode? (letter first :: letter second :: letter third :: letter fourth :: rest) =
      (decode? rest).map fun others =>
        firstByte first second :: secondByte second third :: thirdByte third fourth :: others := by
  have notFilled : letter fourth ≠ '=' := letter_ne_equals fourth four
  simp only [decode?, value?_letter first one, value?_letter second two, value?_letter third three,
    value?_letter fourth four, notFilled, false_and, and_false, if_false, Option.bind_eq_bind,
    Option.bind_some]
  cases decode? rest <;> rfl

end Groups

/-- What is written in base64 is read back. -/
theorem decode?_encode (bytes : List UInt8) : decode? (encode bytes) = some bytes := by
  -- The cases are the ends of a text: no group, one filled up twice, one filled up once, a full one.
  induction bytes using encode.induct with
  | case1 => rfl
  | case2 a =>
      have bound : a.toNat < 256 := a.toNat_lt_size
      have byte : firstByte (a.toNat / 4) (a.toNat % 4 * 16) = a :=
        firstByte_split a 0 (by omega)
      rw [encode, decode?_oneByte (by omega) (by omega) (by omega), byte]
  | case3 a b =>
      have boundA : a.toNat < 256 := a.toNat_lt_size
      have boundB : b.toNat < 256 := b.toNat_lt_size
      have second : secondByte (a.toNat % 4 * 16 + b.toNat / 16) (b.toNat % 16 * 4) = b :=
        secondByte_split b (a.toNat % 4) 0 (by omega)
      rw [encode, decode?_twoBytes (by omega) (by omega) (by omega) (by omega),
        firstByte_split a _ (by omega), second]
  | case4 a b c rest ih =>
      have boundA : a.toNat < 256 := a.toNat_lt_size
      have boundB : b.toNat < 256 := b.toNat_lt_size
      have boundC : c.toNat < 256 := c.toNat_lt_size
      rw [encode, decode?_threeBytes (by omega) (by omega) (by omega) (by omega), ih,
        firstByte_split a _ (by omega), secondByte_split b _ _ (by omega), thirdByte_split]
      rfl

end PairedContacts.Base64
