import PairedContacts.Text.CodeRange

/-!
# Blanks

The white space of Unicode together with the four information separators, and trimming a text at
either end.
-/

set_option autoImplicit false

namespace PairedContacts.Text

def blankRanges : CodeRanges :=
  [(0x09, 0x0D), (0x1C, 0x20), (0x85, 0x85), (0xA0, 0xA0), (0x1680, 0x1680), (0x2000, 0x200A),
   (0x2028, 0x2029), (0x202F, 0x202F), (0x205F, 0x205F), (0x3000, 0x3000)]

def isBlank (c : Char) : Bool :=
  blankRanges.holds c

def trimStart (drop : Char -> Bool) (text : List Char) : List Char :=
  text.dropWhile drop

def trimEnd (drop : Char -> Bool) (text : List Char) : List Char :=
  (text.reverse.dropWhile drop).reverse

def trim (text : List Char) : List Char :=
  trimEnd isBlank (trimStart isBlank text)

end PairedContacts.Text
