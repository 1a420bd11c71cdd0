import PairedContacts.Json.Lexeme
import PairedContacts.Json.Printer
import PairedContacts.Proofs.Number.Decimal
import PairedContacts.Proofs.Text.Loose

/-!
# Lexemes that were written

A text that was written between quotation marks, part by part, is read as one lexeme, and so is an
integer in decimal that the dialect has room for, as long as nothing comes after it that would go on
with a number.
-/

set_option autoImplicit false

namespace PairedContacts.Json

open Numeral (isTooLong writeInt)

variable {τ : Type} {dialect : Dialect τ}

/-! ## Texts -/

/-- A way to write the parts of a text so that each is read as the points that it stands for,
whatever comes after it. -/
def IsFaithful {α : Type} (write : α -> List Char) (points : α -> List Point) : Prop :=
  ∀ (part : α) (opening offset : Nat) (rest : List Char), rest ≠ [] ->
    ∃ later, scanText opening offset (write part ++ rest) =
      (scanText opening later rest).map fun scanned => (points part ++ scanned.1, scanned.2)

section Faithful

variable {α : Type} {write : α -> List Char} {points : α -> List Point}

theorem scanText_flatMap (faithful : IsFaithful write points) (text : List α)
    (opening offset : Nat) (rest : List Char) :
    scanText opening offset (text.flatMap write ++ '\x22' :: rest) =
      .ok (text.flatMap points, rest) := by
  induction text generalizing offset with
  | nil => rw [List.flatMap_nil, List.nil_append, scanText, List.flatMap_nil]
  | cons part more ih =>
      have nonempty : more.flatMap write ++ '\x22' :: rest ≠ [] := by simp
      obtain ⟨later, scanned⟩ := faithful part opening offset _ nonempty
      rw [List.flatMap_cons, List.append_assoc, scanned, ih]
      rfl

theorem lexeme_enclose (faithful : IsFaithful write points) {text : List α} {content : τ}
    (known : dialect.text? (.ofPoints (text.flatMap points)) = some content) (rest : List Char) :
    lexeme dialect '\x22' (text.flatMap write ++ '\x22' :: rest) = (.text content, rest) := by
  rw [lexeme, scanText_flatMap faithful]
  simp only [known]

end Faithful

/-! ## Escapes -/

theorem unitEscape_eq (unit : Nat) :
    unitEscape unit =
      ['\\', 'u', Text.hexDigit (unit / 16 / 16 / 16 % 16), Text.hexDigit (unit / 16 / 16 % 16),
        Text.hexDigit (unit / 16 % 16), Text.hexDigit (unit % 16)] :=
  rfl

theorem codeUnit?_hexDigits {unit : Nat} (small : unit < 0x10000) :
    codeUnit? (Text.hexDigit (unit / 16 / 16 / 16 % 16)) (Text.hexDigit (unit / 16 / 16 % 16))
      (Text.hexDigit (unit / 16 % 16)) (Text.hexDigit (unit % 16)) = some unit := by
  have value (digit : Nat) : Text.hexValue? (Text.hexDigit (digit % 16)) = some (digit % 16) :=
    Text.hexValue?_hexDigit _ (Nat.mod_lt _ (by decide))
  have whole : 4096 * (unit / 16 / 16 / 16 % 16) + 256 * (unit / 16 / 16 % 16) +
      16 * (unit / 16 % 16) + unit % 16 = unit := by
    omega
  simp only [codeUnit?, value, Option.bind_eq_bind, Option.bind_some, whole]

theorem scanText_unitEscape {unit : Nat} (small : unit < 0x10000) (opening offset : Nat)
    {rest : List Char} (nonempty : rest ≠ []) :
    scanText opening offset (unitEscape unit ++ rest) =
      (scanText opening (offset + 6) rest).map fun scanned =>
        ([.ofUnit unit] ++ scanned.1, scanned.2) := by
  have more : rest.isEmpty = false := by simpa using nonempty
  rw [unitEscape_eq]
  simp only [List.cons_append, List.nil_append]
  rw [scanText, codeUnit?_hexDigits small]
  simp only [more, Bool.false_eq_true, if_false]

theorem scanText_escapeLetter {c letter : Char} (escaped : escapeLetter? c = some letter)
    (opening offset : Nat) (rest : List Char) :
    scanText opening offset ('\\' :: letter :: rest) =
      (scanText opening (offset + 2) rest).map fun scanned =>
        ([.char c] ++ scanned.1, scanned.2) := by
  rw [escapeLetter?.eq_def] at escaped
  split at escaped <;> cases escaped <;> simp [scanText, unescape?]

theorem scanText_plain {c : Char} (unescaped : escapeLetter? c = none) (printed : 0x20 ≤ c.toNat)
    (opening offset : Nat) (rest : List Char) :
    scanText opening offset (c :: rest) =
      (scanText opening (offset + 1) rest).map fun scanned =>
        ([.char c] ++ scanned.1, scanned.2) := by
  have notQuote : c ≠ '\x22' := by
    rintro rfl
    cases unescaped
  have notBackslash : c ≠ '\\' := by
    rintro rfl
    cases unescaped
  rw [scanText]
  · rw [if_neg (by omega)]
    rfl
  all_goals simp [notQuote, notBackslash]

theorem lt_of_escapeLetter? {c letter : Char} (escaped : escapeLetter? c = some letter) :
    c.toNat < 0x10000 := by
  rw [escapeLetter?.eq_def] at escaped
  split at escaped <;> cases escaped <;> decide

theorem split_of_lt {c : Char} (single : c.toNat < 0x10000) :
    Point.split (.char c) = [.char c] :=
  if_pos single

/-- A point in a file is read as what it is spelled by. -/
theorem isFaithful_asciiPoint : IsFaithful asciiPoint Point.split := by
  intro point opening offset rest nonempty
  cases point with
  | half lone =>
      have small : lone.unit < 0x10000 := by
        have bounds := lone.isHalf
        omega
      have scanned := scanText_unitEscape small opening offset nonempty
      rw [Point.ofUnit_unit] at scanned
      exact ⟨_, scanned⟩
  | char c =>
      rw [asciiPoint, asciiChar]
      cases escaped : escapeLetter? c with
      | some letter =>
          rw [split_of_lt (lt_of_escapeLetter? escaped)]
          exact ⟨_, scanText_escapeLetter escaped opening offset rest⟩
      | none =>
          simp only
          split
          · rename_i printed
            have single : c.toNat < 0x10000 := by omega
            rw [split_of_lt single]
            exact ⟨_, scanText_plain escaped printed.1 opening offset rest⟩
          · split
            · rename_i single
              have scanned := scanText_unitEscape single opening offset nonempty
              rw [Point.ofUnit_toNat, ← split_of_lt single] at scanned
              exact ⟨_, scanned⟩
            · rename_i pair
              have bound : c.toNat < 0x110000 := by
                have valid : c.toNat < 0xD800 ∨ 0xDFFF < c.toNat ∧ c.toNat < 0x110000 := c.valid
                omega
              refine ⟨offset + 6 + 6, ?_⟩
              rw [List.append_assoc, scanText_unitEscape (by omega) _ _ (by simp [unitEscape]),
                scanText_unitEscape (by omega) _ _ nonempty, Point.split, if_neg pair]
              cases scanText opening (offset + 6 + 6) rest <;> rfl

/-! ## Integers -/

/-- Whether a dialect has room for an integer. -/
def Dialect.admits (dialect : Dialect τ) (n : Int) : Bool :=
  n.natAbs < tenTo (dialect.room (n < 0))

theorem Dialect.admits_iff {n : Int} :
    dialect.admits n = true ↔ n.natAbs < tenTo (dialect.room (n < 0)) := by
  rw [admits, decide_eq_true_eq]

theorem Dialect.room_le (dialect : Dialect τ) (negative : Bool) :
    dialect.room negative ≤ Numeral.maxDigits := by
  rw [room]
  split
  · exact Nat.sub_le _ _
  · exact Nat.le_refl _

theorem Dialect.room_pos (dialect : Dialect τ) (negative : Bool) : 0 < dialect.room negative := by
  rw [room]
  split <;> decide

theorem Dialect.isTooLong_of_admits {n : Int} (admitted : dialect.admits n = true) :
    isTooLong n = false :=
  Numeral.isTooLong_eq_false_iff.mpr
    (Nat.lt_of_lt_of_le (admits_iff.mp admitted) (Numeral.tenTo_le (dialect.room_le _)))

/-- A dialect that leaves the sign out has room for every integer that has a numeral. -/
theorem Dialect.admits_of_unsigned (unsigned : dialect.countsSign = false) {n : Int}
    (short : isTooLong n = false) : dialect.admits n = true := by
  rw [admits_iff, room, unsigned, Bool.and_false, if_neg Bool.false_ne_true]
  exact Numeral.isTooLong_eq_false_iff.mp short

/-- Whether a text does not go on with a number in front of it. -/
def endsNumber (rest : List Char) : Bool :=
  rest.head?.all fun c => !isDigit c && c != '.' && c != 'e' && c != 'E'

theorem endsNumber_append {text rest : List Char} (apart : endsNumber text = true)
    (ends : endsNumber rest = true) : endsNumber (text ++ rest) = true := by
  cases text with
  | nil => exact ends
  | cons c more => exact apart

theorem isDigit_of_mem_toDigits {n : Nat} {c : Char} (member : c ∈ Nat.toDigits 10 n) :
    isDigit c = true := by
  have digit : c.isDigit = true := Nat.isDigit_of_mem_toDigits (by decide) (by decide) member
  simpa [isDigit, Char.isDigit, Char.le_def] using digit

theorem takeWhile_digits {digits rest : List Char} (all : ∀ c ∈ digits, isDigit c = true)
    (ends : endsNumber rest = true) :
    (digits ++ rest).takeWhile isDigit = digits ∧ (digits ++ rest).dropWhile isDigit = rest := by
  have stops : rest.takeWhile isDigit = [] ∧ rest.dropWhile isDigit = rest := by
    cases rest with
    | nil => exact ⟨rfl, rfl⟩
    | cons c more =>
        have other : isDigit c = false := by
          simp only [endsNumber, List.head?_cons, Option.all_some, Bool.and_eq_true,
            Bool.not_eq_true'] at ends
          exact ends.1.1.1
        simp [other]
  rw [List.takeWhile_append_of_pos all, List.dropWhile_append_of_pos all, stops.1, stops.2]
  simp

/-- Only zero is written with a zero in front. -/
theorem toDigits_zero_head {n : Nat} {rest : List Char} (written : Nat.toDigits 10 n = '0' :: rest) :
    rest = [] := by
  cases rest with
  | nil => rfl
  | cons second more =>
      have digits : ∀ c ∈ Nat.toDigits 10 n, c.isDigit = true := fun c member =>
        Nat.isDigit_of_mem_toDigits (by decide) (by decide) member
      have value := Numeral.valueOf_toDigits n
      rw [written] at digits value
      have decimal : ∀ digit ∈ (second :: more).map (fun c => c.toNat - 0x30), digit < 10 := by
        intro digit member
        obtain ⟨c, here, rfl⟩ := List.mem_map.mp member
        have bounds := Char.isDigit_iff_toNat.mp (digits c (List.mem_cons_of_mem _ here))
        have most : c.toNat ≤ 0x39 := bounds.2
        omega
      have below : n < tenTo (second :: more).length := by
        have bounded := Numeral.valueOf_lt decimal
        rw [List.length_map] at bounded
        have same : Numeral.valueOf (('0' :: second :: more).map fun c => c.toNat - 0x30) =
            Numeral.valueOf ((second :: more).map fun c => c.toNat - 0x30) := rfl
        rw [← value, same]
        exact bounded
      have short := Numeral.length_toDigits_of_lt (by simp) below
      rw [written, List.length_cons] at short
      omega

theorem scanWhole_toDigits (n : Nat) {rest : List Char} (ends : endsNumber rest = true) :
    scanWhole (Nat.toDigits 10 n ++ rest) = some (Nat.toDigits 10 n, rest) := by
  have digits : ∀ c ∈ Nat.toDigits 10 n, isDigit c = true := fun c member =>
    isDigit_of_mem_toDigits member
  cases written : Nat.toDigits 10 n with
  | nil => exact absurd written Nat.toDigits_ne_nil
  | cons c more =>
      by_cases zero : c = '0'
      · subst zero
        obtain rfl := toDigits_zero_head written
        rfl
      · rw [written] at digits
        obtain ⟨taken, left⟩ :=
          takeWhile_digits (fun d member => digits d (List.mem_cons_of_mem _ member)) ends
        rw [List.cons_append, scanWhole, if_pos (digits c (by simp)), taken, left]
        exact zero

theorem scanFraction_of_ends {rest : List Char} (ends : endsNumber rest = true) :
    scanFraction rest = ([], rest) := by
  rw [scanFraction.eq_def]
  split
  · simp [endsNumber] at ends
  · rfl

theorem scanExponent_of_ends {rest : List Char} (ends : endsNumber rest = true) :
    scanExponent rest = none := by
  cases rest with
  | nil => rfl
  | cons c more =>
      simp only [endsNumber, List.head?_cons, Option.all_some, Bool.and_eq_true, bne_iff_ne] at ends
      have noMark : ¬(c = 'e' ∨ c = 'E') := by simp [ends.1.2, ends.2]
      simp only [scanExponent, if_neg noMark]

theorem scanNumber_toDigits (negative : Bool) {n : Nat}
    (short : n < tenTo (dialect.room negative)) {rest : List Char}
    (ends : endsNumber rest = true) :
    scanNumber dialect negative (Nat.toDigits 10 n ++ rest) =
      some (.scalar (.int (if negative then -(n : Int) else n)), rest) := by
  have enough : (Nat.toDigits 10 n).length ≤ dialect.room negative :=
    Numeral.length_toDigits_of_lt (dialect.room_pos negative) short
  have value : digitsOf (Nat.toDigits 10 n) = n := Numeral.valueOf_toDigits n
  rw [scanNumber, scanWhole_toDigits n ends]
  simp only [Option.bind_eq_bind, Option.bind_some, scanFraction_of_ends ends,
    scanExponent_of_ends ends]
  rw [if_pos ⟨rfl, rfl⟩, if_neg (Nat.not_lt.mpr enough), value]

/-- The sign of a written integer is scanned in front of its digits. -/
theorem scanSigned_of_scanNumber {n : Int} {rest : List Char} {found : Lexeme τ}
    (number : scanNumber dialect (decide (n < 0)) (Nat.toDigits 10 n.natAbs ++ rest) =
      some (found, rest)) :
    scanSigned dialect (writeInt n ++ rest) = some (found, rest) := by
  by_cases negative : n < 0
  · rw [decide_eq_true negative] at number
    rw [writeInt, if_pos negative, List.append_assoc, List.singleton_append, scanSigned, number]
  · rw [decide_eq_false negative] at number
    rw [writeInt, if_neg negative, List.nil_append, ← number]
    cases written : Nat.toDigits 10 n.natAbs with
    | nil => exact absurd written Nat.toDigits_ne_nil
    | cons c more =>
        have digit : isDigit c = true := isDigit_of_mem_toDigits (by rw [written]; simp)
        refine scanSigned.eq_2 _ _ ?_
        rintro tail same
        rw [(List.cons.inj same).1] at digit
        revert digit
        decide

theorem scanSigned_writeInt {n : Int} (admitted : dialect.admits n = true) {rest : List Char}
    (ends : endsNumber rest = true) :
    scanSigned dialect (writeInt n ++ rest) = some (.scalar (.int n), rest) := by
  have signed : (if decide (n < 0) then -(n.natAbs : Int) else n.natAbs) = n := by
    split <;> rename_i sign <;> simp only [decide_eq_true_eq] at sign <;> omega
  have number :=
    scanNumber_toDigits (decide (n < 0)) (Dialect.admits_iff.mp admitted) ends
  rw [signed] at number
  exact scanSigned_of_scanNumber number

end PairedContacts.Json
