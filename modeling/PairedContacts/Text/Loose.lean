import PairedContacts.Text.Blank
import PairedContacts.Text.Quoted

/-!
# Loose texts

A character beyond the basic plane is a pair of code units, and a document can spell one half of a
pair without the other.  A loose text may hold such halves.  It has no bytes then, so it cannot be
said, and nobody can be sent it.  Where a document spells two halves behind each other as in a pair,
they are read as the character: what is read is a joined text.
-/

set_option autoImplicit false

namespace PairedContacts

/-- One code unit of a pair. -/
structure Half where
  unit : Nat
  isHalf : 0xD800 ≤ unit ∧ unit ≤ 0xDFFF
  deriving DecidableEq, Repr

namespace Half

/-- Whether a half comes first in a pair; otherwise it comes second. -/
def isHigh (half : Half) : Bool :=
  half.unit ≤ 0xDBFF

def join (high low : Half) : Char :=
  Char.ofNat (0x10000 + 1024 * (high.unit - 0xD800) + (low.unit - 0xDC00))

end Half

/-- A place in a loose text. -/
inductive Point where
  | char (c : Char)
  | half (half : Half)
  deriving DecidableEq, Repr

namespace Point

def code : Point -> Nat
  | char c => c.toNat
  | half lone => lone.unit

def char? : Point -> Option Char
  | char c => some c
  | half _ => none

def isHalf : Point -> Bool
  | char _ => false
  | half _ => true

def isBlank : Point -> Bool
  | char c => Text.isBlank c
  | half _ => false

/-- What a code unit is on its own. -/
def ofUnit (unit : Nat) : Point :=
  if isHalf : 0xD800 ≤ unit ∧ unit ≤ 0xDFFF then half ⟨unit, isHalf⟩ else char (Char.ofNat unit)

/-- Whether two points are a pair when one follows the other. -/
def pairs : Point -> Point -> Bool
  | half first, half second => first.isHigh && !second.isHigh
  | _, _ => false

/-- Puts a point in front of others; a high half and a low half become one character. -/
def attach (point : Point) (rest : List Point) : List Point :=
  match point, rest with
  | half first, half second :: more =>
      if first.isHigh && !second.isHigh then char (first.join second) :: more
      else half first :: half second :: more
  | point, rest => point :: rest

def areApart : List Point -> Bool
  | first :: second :: rest => !first.pairs second && areApart (second :: rest)
  | _ => true

theorem areApart_cons (point : Point) (rest : List Point) :
    areApart (point :: rest) = (!rest.head?.any point.pairs && areApart rest) := by
  cases rest with
  | nil => rfl
  | cons next more => rfl

theorem areApart_attach (point : Point) {rest : List Point} (apart : areApart rest = true) :
    areApart (attach point rest) = true := by
  unfold attach
  split
  · rename_i first second more
    rw [areApart_cons, Bool.and_eq_true] at apart
    split
    · rw [areApart_cons, apart.2]
      cases more.head? <;> rfl
    · rename_i unpaired
      have free : (half first).pairs (half second) = false := Bool.eq_false_iff.mpr unpaired
      rw [areApart, free, areApart_cons, apart.1, apart.2]
      rfl
  · rename_i unpaired
    rw [areApart_cons, apart]
    cases rest with
    | nil => rfl
    | cons next more =>
        cases point with
        | char c => rfl
        | half first =>
            cases next with
            | char c => rfl
            | half second => exact absurd rfl (unpaired first second more rfl)

end Point

structure LooseText where
  points : List Point
  deriving DecidableEq, Repr

namespace LooseText

def ofString (text : String) : LooseText :=
  ⟨text.toList.map .char⟩

/-- Whether a text holds half of a pair. -/
def isTorn (text : LooseText) : Bool :=
  text.points.any Point.isHalf

/-- The text as one of characters, unless it is torn. -/
def plain? (text : LooseText) : Option String :=
  if text.isTorn then none else some (String.ofList (text.points.filterMap Point.char?))

/-- Whether there is a blank at either end. -/
def isPadded (text : LooseText) : Bool :=
  text.points.head?.any Point.isBlank || text.points.getLast?.any Point.isBlank

/-- Whether a line feed or a carriage return stands in the text. -/
def breaksLine (text : LooseText) : Bool :=
  text.points.contains (.char '\n') || text.points.contains (.char '\r')

/-- Texts are ordered by their code points. -/
def le (a b : LooseText) : Bool :=
  !(b.points.map Point.code).lex (a.points.map Point.code) Nat.blt

def sort (texts : List LooseText) : List LooseText :=
  texts.mergeSort le

def quotedPoint (mark : Char) : Point -> List Char
  | .char c => Text.quotedChar mark c
  | .half half => Text.codeEscape half.unit

/-- The form in which messages show a text; no half of a pair is printable. -/
def quote (text : LooseText) : String :=
  let mark := Text.markFor (text.points.contains (.char Text.apostrophe))
    (text.points.contains (.char Text.quotationMark))
  String.ofList (mark :: (text.points.flatMap (quotedPoint mark) ++ [mark]))

theorem isTorn_ofString (text : String) : (ofString text).isTorn = false := by
  rw [isTorn, ofString, List.any_map, List.any_eq_false]
  intro c _
  simp [Point.isHalf]

theorem plain?_ofString (text : String) : (ofString text).plain? = some text := by
  have chars : (text.toList.map Point.char).filterMap Point.char? = text.toList := by
    rw [List.filterMap_map]
    exact List.filterMap_some
  rw [plain?, isTorn_ofString, ofString, chars, String.ofList_toList]
  rfl

end LooseText

/-- A loose text in which no half of a pair stands in front of the other half. -/
structure JoinedText extends LooseText where
  apart : Point.areApart points = true
  deriving DecidableEq, Repr

namespace JoinedText

instance : Inhabited JoinedText :=
  ⟨⟨⟨[]⟩, rfl⟩⟩

def ofString (text : String) : JoinedText where
  toLooseText := .ofString text
  apart := by
    rw [LooseText.ofString]
    induction text.toList with
    | nil => rfl
    | cons c rest ih =>
        rw [List.map_cons, Point.areApart_cons, ih]
        cases (rest.map Point.char).head? <;> rfl

/-- The text that is read where points are spelled one after another. -/
def ofPoints (points : List Point) : JoinedText where
  points := points.foldr Point.attach []
  apart := by
    induction points with
    | nil => rfl
    | cons point rest ih => exact Point.areApart_attach point ih

end JoinedText

/-- The text that is read where another is spelled. -/
def LooseText.join (text : LooseText) : JoinedText :=
  .ofPoints text.points

end PairedContacts
