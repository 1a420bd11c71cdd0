/-!
# Host labels in ASCII

A label of a host name that is not ASCII is written as its ASCII characters, a dash, and the places
and codes of the others: they are inserted in the order of their codes, and each insertion is a
number that counts the steps from the one before it.  The base of the digits adapts to the numbers
seen so far.
-/

set_option autoImplicit false

namespace PairedContacts.Net.Punycode

/-- The digit of a value below 36: a letter, then a numeral. -/
def digit (value : Nat) : Char :=
  Char.ofNat (if value < 26 then 0x61 + value else 0x30 + (value - 26))

/-- How many values the digit at a position has below its threshold. -/
def threshold (position bias : Nat) : Nat :=
  if position ≤ bias then 1 else min 26 (position - bias)

/-- A number as digits; the digit below the threshold of its position is the last one. -/
def writeNumber (bias position value : Nat) : List Char :=
  let least := threshold position bias
  if small : value < least then [digit value]
  else
    digit (least + (value - least) % (36 - least)) ::
      writeNumber bias (position + 36) ((value - least) / (36 - least))
termination_by value
decreasing_by
  have positive : 0 < threshold position bias := by
    unfold threshold
    split <;> omega
  have := Nat.div_le_self (value - threshold position bias) (36 - threshold position bias)
  omega

def descend (position value : Nat) : Nat :=
  if value ≤ 455 then position + 36 * value / (value + 38)
  else descend (position + 36) (value / 35)
termination_by value

/-- The bias after an insertion into a text that then has `size` characters. -/
def adapt (step size : Nat) (isFirst : Bool) : Nat :=
  let damped := step / (if isFirst then 700 else 2)
  descend 0 (damped + damped / size)

structure Writer where
  /-- The steps since the last insertion. -/
  step : Nat
  bias : Nat
  /-- How many characters stand in the text so far. -/
  size : Nat
  /-- The least code that may still be inserted. -/
  code : Nat
  written : List Char

namespace Writer

def visit (basic code : Nat) (writer : Writer) (c : Char) : Writer :=
  if c.toNat < code then { writer with step := writer.step + 1 }
  else if c.toNat = code then
    { step := 0
      bias := adapt writer.step (writer.size + 1) (writer.size == basic)
      size := writer.size + 1
      code := writer.code
      written := writer.written ++ writeNumber writer.bias 36 writer.step }
  else writer

def insert (label : List Char) (basic : Nat) (writer : Writer) (code : Nat) : Writer :=
  let moved := { writer with step := writer.step + (code - writer.code) * (writer.size + 1) }
  let passed := label.foldl (visit basic code) moved
  { passed with step := passed.step + 1, code := code + 1 }

end Writer

def isBasic (c : Char) : Bool :=
  c.toNat < 0x80

def codes (label : List Char) : List Nat :=
  (((label.filter fun c => !isBasic c).map Char.toNat).mergeSort (· ≤ ·)).eraseDups

def encode (label : List Char) : List Char :=
  let basic := label.filter isBasic
  let start : Writer := ⟨0, 72, basic.length, 0x80, []⟩
  let written := ((codes label).foldl (Writer.insert label basic.length) start).written
  if basic.isEmpty then written else basic ++ '-' :: written

end PairedContacts.Net.Punycode
