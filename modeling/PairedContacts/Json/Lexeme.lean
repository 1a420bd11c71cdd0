import PairedContacts.Json.Document

/-!
# Lexemes of a document

A document is read lexeme by lexeme, in some dialect.  A stretch of text that begins no lexeme is
stray; a text or an integer that begins well and goes wrong says where or why.  Offsets count
characters.
-/

set_option autoImplicit false

namespace PairedContacts.Json

inductive Punctuation where
  | openList
  | closeList
  | openMap
  | closeMap
  | comma
  | colon
  deriving DecidableEq, Repr

inductive Lexeme (τ : Type) where
  | mark (p : Punctuation)
  | text (content : τ)
  | scalar (content : Scalar)
  /-- A text that breaks off; `offset` counts from its opening quotation mark. -/
  | badText (offset : Nat)
  | longInt (digits : Nat)
  | stray

def isSpace (c : Char) : Bool :=
  c = ' ' || c = '\t' || c = '\n' || c = '\r'

def unescape? : Char -> Option Char
  | '\x22' => some '\x22'
  | '\\' => some '\\'
  | '/' => some '/'
  | 'b' => some '\x08'
  | 'f' => some '\x0c'
  | 'n' => some '\n'
  | 'r' => some '\r'
  | 't' => some '\t'
  | _ => none

def codeUnit? (a b c d : Char) : Option Nat := do
  let a <- Text.hexValue? a
  let b <- Text.hexValue? b
  let c <- Text.hexValue? c
  let d <- Text.hexValue? d
  some (4096 * a + 256 * b + 16 * c + d)

/-- A text behind its opening quotation mark: its points, before halves are put together, and what
follows the closing mark, or the offset of the fault.  `opening` is the offset to report when the
text never ends, and `offset` that of the first character given. -/
def scanText (opening offset : Nat) : List Char -> Except Nat (List Point × List Char)
  | [] => .error opening
  | '\x22' :: rest => .ok ([], rest)
  | '\\' :: 'u' :: a :: b :: c :: d :: rest =>
      match codeUnit? a b c d with
      | none => .error (offset + 1)
      | some unit =>
          if rest.isEmpty then .error (offset + 1)
          else
            (scanText opening (offset + 6) rest).map fun scanned =>
              (.ofUnit unit :: scanned.1, scanned.2)
  | ['\\'] => .error opening
  | '\\' :: c :: rest =>
      if c = 'u' then .error (offset + 1)
      else
        match unescape? c with
        | none => .error offset
        | some plain =>
            (scanText opening (offset + 2) rest).map fun scanned =>
              (.char plain :: scanned.1, scanned.2)
  | c :: rest =>
      if c.toNat < 0x20 then .error offset
      else
        (scanText opening (offset + 1) rest).map fun scanned => (.char c :: scanned.1, scanned.2)

def isDigit (c : Char) : Bool :=
  '0' ≤ c && c ≤ '9'

/-- The digits in front of the point: a zero on its own, or digits that begin with another. -/
def scanWhole : List Char -> Option (List Char × List Char)
  | '0' :: rest => some (['0'], rest)
  | c :: rest =>
      if isDigit c then some (c :: rest.takeWhile isDigit, rest.dropWhile isDigit) else none
  | [] => none

/-- A point and at least one digit, or nothing. -/
def scanFraction : List Char -> List Char × List Char
  | '.' :: c :: rest =>
      if isDigit c then (c :: rest.takeWhile isDigit, rest.dropWhile isDigit)
      else ([], '.' :: c :: rest)
  | rest => ([], rest)

def scanPower (negative : Bool) : List Char -> Option (Int × List Char)
  | c :: rest =>
      if isDigit c then
        let value := Numeral.valueOf ((c :: rest.takeWhile isDigit).map fun d => d.toNat - 0x30)
        some (if negative then -(value : Int) else value, rest.dropWhile isDigit)
      else none
  | [] => none

/-- An exponent mark and at least one digit, or nothing. -/
def scanExponent (text : List Char) : Option (Int × List Char) :=
  match text with
  | c :: rest =>
      if c = 'e' ∨ c = 'E' then
        match rest with
        | '+' :: more => scanPower false more
        | '-' :: more => scanPower true more
        | more => scanPower false more
      else none
  | [] => none

def digitsOf (digits : List Char) : Nat :=
  Numeral.valueOf (digits.map fun d => d.toNat - 0x30)

section

variable {τ : Type}

def scanNumber (dialect : Dialect τ) (negative : Bool) (text : List Char) :
    Option (Lexeme τ × List Char) := do
  let (whole, afterWhole) <- scanWhole text
  let (part, afterPart) := scanFraction afterWhole
  let power := scanExponent afterPart
  if part.isEmpty ∧ power.isNone then
    if dialect.room negative < whole.length then
      some (.longInt whole.length, afterWhole)
    else
      let n : Int := digitsOf whole
      some (.scalar (.int (if negative then -n else n)), afterWhole)
  else
    let (exponent, rest) := power.getD (0, afterPart)
    let x := Binary64.ofDecimal negative (digitsOf (whole ++ part)) (exponent - part.length)
    some (.scalar (.real x), rest)

def dropWord? (word text : List Char) : Option (List Char) :=
  match word, text with
  | [], rest => some rest
  | w :: ws, c :: rest => if w = c then dropWord? ws rest else none
  | _ :: _, [] => none

def words : List (List Char × Scalar) :=
  [("null".toList, .null), ("true".toList, .bool true), ("false".toList, .bool false),
   ("NaN".toList, .real .nan), ("Infinity".toList, .real (.infinity false)),
   ("-Infinity".toList, .real (.infinity true))]

def scanWord (text : List Char) : Option (Lexeme τ × List Char) :=
  words.findSome? fun word => (dropWord? word.1 text).map fun rest => (.scalar word.2, rest)

def scanSigned (dialect : Dialect τ) : List Char -> Option (Lexeme τ × List Char)
  | '-' :: rest => scanNumber dialect true rest
  | text => scanNumber dialect false text

/-- The lexeme that begins with `c`, and what follows it. -/
def lexeme (dialect : Dialect τ) (c : Char) (rest : List Char) : Lexeme τ × List Char :=
  match c with
  | '[' => (.mark .openList, rest)
  | ']' => (.mark .closeList, rest)
  | '\x7b' => (.mark .openMap, rest)
  | '\x7d' => (.mark .closeMap, rest)
  | ',' => (.mark .comma, rest)
  | ':' => (.mark .colon, rest)
  | '\x22' =>
      match scanText 0 1 rest with
      | .error offset => (.badText offset, rest)
      | .ok (points, after) =>
          match dialect.text? (.ofPoints points) with
          | some content => (.text content, after)
          | none => (.badText 0, rest)
  | _ => ((scanWord (c :: rest)).or (scanSigned dialect (c :: rest))).getD (.stray, rest)

end

end PairedContacts.Json
