import PairedContacts.Text.Hex

/-!
# Numeric addresses

Which texts are addresses of version 4 (four decimal numbers below 256) and of version 6 (eight
groups of up to four hexadecimal digits, of which one run of zeros may be left out, and of which the
last two may be written as an address of version 4).  An address of version 6 may name a zone.
-/

set_option autoImplicit false

namespace PairedContacts.Net

def splitAt (separator : Char) : List Char -> List (List Char)
  | [] => [[]]
  | c :: rest =>
      if c = separator then [] :: splitAt separator rest
      else
        match splitAt separator rest with
        | [] => [[c]]
        | part :: more => (c :: part) :: more

def cutAt (separator : Char) (text : List Char) : List Char × Option (List Char) :=
  match text.dropWhile fun c => c != separator with
  | [] => (text, none)
  | _ :: after => (text.takeWhile fun c => c != separator, some after)

def afterLast (separator : Char) (text : List Char) : List Char :=
  (text.reverse.takeWhile fun c => c != separator).reverse

def isPlainDigit (c : Char) : Bool :=
  '0' ≤ c && c ≤ '9'

/-- One number of an address of version 4, written without needless zeros. -/
def isOctet (text : List Char) : Bool :=
  !text.isEmpty && text.length ≤ 3 && text.all isPlainDigit &&
    (text.length = 1 || text.head? != some '0') &&
    text.foldl (fun value c => 10 * value + (c.toNat - 0x30)) 0 < 256

def isVersion4 (text : List Char) : Bool :=
  let parts := splitAt '.' text
  parts.length = 4 && parts.all isOctet

def isGroup (text : List Char) : Bool :=
  !text.isEmpty && text.length ≤ 4 && text.all fun c => (Text.hexValue? c).isSome

/-- The groups with an address of version 4 at their end counted as two groups. -/
def widen (parts : List (List Char)) : Option (List (List Char)) :=
  match parts.getLast? with
  | none => none
  | some last =>
      if last.contains '.' then
        if isVersion4 last then some (parts.dropLast ++ [['0'], ['0']]) else none
      else some parts

/-- Whether the groups on one side of a left-out run are groups; an empty group may stand only at
the outer end, and then alone. -/
def isSide (side : List (List Char)) (outerEnd : Option (List Char)) : Bool :=
  if outerEnd == some [] then side.length = 1 else side.all isGroup

def countOf (side : List (List Char)) : Nat :=
  if side == [[]] then 0 else side.length

def areGroups (parts : List (List Char)) : Bool :=
  let inner := (parts.drop 1).dropLast
  if inner.count [] = 0 then
    parts.length = 8 && parts.all isGroup
  else if inner.count [] = 1 then
    let before := parts.take 1 ++ inner.takeWhile fun part => part != []
    let after := parts.drop (before.length + 1)
    isSide before before.head? && isSide after after.getLast? && countOf before + countOf after < 8
  else false

def isPlainVersion6 (text : List Char) : Bool :=
  let parts := splitAt ':' text
  3 ≤ parts.length &&
    match widen parts with
    | none => false
    | some groups => groups.length ≤ 9 && areGroups groups

def isVersion6 (text : List Char) : Bool :=
  !text.contains '/' &&
    match cutAt '%' text with
    | (address, none) => isPlainVersion6 address
    | (address, some zone) => !zone.isEmpty && !zone.contains '%' && isPlainVersion6 address

end PairedContacts.Net
