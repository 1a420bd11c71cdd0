/-!
# Powers

Powers of two, five and ten, and the bound of the integers of 64 bits.
-/

set_option autoImplicit false

namespace PairedContacts

def twoTo (exponent : Nat) : Nat :=
  Nat.pow 2 exponent

def fiveTo (exponent : Nat) : Nat :=
  Nat.pow 5 exponent

def tenTo (exponent : Nat) : Nat :=
  Nat.pow 10 exponent

/-- The first number above the integers of 64 bits with a sign. -/
def wordBound : Nat := 0x8000000000000000

theorem tenTo_succ (exponent : Nat) : tenTo (exponent + 1) = tenTo exponent * 10 := rfl

theorem tenTo_add (m n : Nat) : tenTo (m + n) = tenTo m * tenTo n := Nat.pow_add 10 m n

theorem tenTo_le_tenTo {m n : Nat} (le : m ≤ n) : tenTo m ≤ tenTo n :=
  Nat.pow_le_pow_right (by decide) le

theorem tenTo_pos (exponent : Nat) : 0 < tenTo exponent := Nat.pow_pos (by decide)

theorem twoTo_succ (exponent : Nat) : twoTo (exponent + 1) = twoTo exponent * 2 := rfl

theorem twoTo_add (m n : Nat) : twoTo (m + n) = twoTo m * twoTo n := Nat.pow_add 2 m n

theorem twoTo_add_two (exponent : Nat) : twoTo (exponent + 2) = twoTo exponent * 4 :=
  twoTo_add exponent 2

theorem twoTo_le_twoTo {m n : Nat} (le : m ≤ n) : twoTo m ≤ twoTo n :=
  Nat.pow_le_pow_right (by decide) le

theorem twoTo_pos (exponent : Nat) : 0 < twoTo exponent := Nat.two_pow_pos exponent

end PairedContacts
