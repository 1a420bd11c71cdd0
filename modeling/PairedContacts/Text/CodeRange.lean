/-!
# Ranges of code points

A property of characters is given as a list of closed ranges of code points.
-/

set_option autoImplicit false

namespace PairedContacts.Text

/-- Closed ranges `(first, last)` of code points. -/
abbrev CodeRanges := List (Nat × Nat)

def CodeRanges.holds (ranges : CodeRanges) (c : Char) : Bool :=
  ranges.any fun range => range.1 ≤ c.toNat && c.toNat ≤ range.2

end PairedContacts.Text
