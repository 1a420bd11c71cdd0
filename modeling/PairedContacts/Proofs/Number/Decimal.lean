import PairedContacts.Number.Numeral
import PairedContacts.Proofs.Text.Trimming

/-!
# Decimal integers

An integer that is written in decimal reads back as itself, as long as it may be written at all.
What is written is one word: it has neither blanks nor line breaks.
-/

set_option autoImplicit false

namespace PairedContacts.Numeral

/-- What the reader and the other users of a numeral ask of its characters. -/
structure IsInk (c : Char) : Prop where
  plain : plainChar c = c
  notPlainBlank : isPlainBlank c = false
  notBlank : Text.isBlank c = false
  notLineBreak : Text.isLineBreak c = false

instance (c : Char) : Decidable (IsInk c) :=
  decidable_of_iff (plainChar c = c ∧ isPlainBlank c = false ∧ Text.isBlank c = false ∧
      Text.isLineBreak c = false)
    ⟨fun ⟨plain, first, second, third⟩ => ⟨plain, first, second, third⟩,
     fun ink => ⟨ink.plain, ink.notPlainBlank, ink.notBlank, ink.notLineBreak⟩⟩

theorem isInk_minus : IsInk '-' := by decide

theorem digit_facts : ∀ code < 0x3A, 0x30 ≤ code ->
    IsInk (Char.ofNat code) ∧ Char.ofNat code ≠ '-' ∧ Char.ofNat code ≠ '+' ∧
      plainDigit? (Char.ofNat code) = some (code - 0x30) := by
  decide +kernel

theorem facts_of_isDigit {c : Char} (digit : c.isDigit = true) :
    IsInk c ∧ c ≠ '-' ∧ c ≠ '+' ∧ plainDigit? c = some (c.toNat - 0x30) := by
  rw [Char.isDigit_iff_toNat] at digit
  have facts := digit_facts c.toNat (by have := digit.2; simp at this; omega)
    (by have := digit.1; simp at this; omega)
  rwa [Char.ofNat_toNat] at facts

section Ink

variable {chars : List Char} (ink : ∀ c ∈ chars, IsInk c)

include ink

theorem trim_of_isInk : Text.trim chars = chars := by
  rw [Text.trim_eq_self_iff]
  constructor
  · intro c first
    exact (ink c (List.mem_of_head? first)).notBlank
  · intro c last
    exact (ink c (List.mem_of_getLast? last)).notBlank

theorem plain_of_isInk : plain chars = chars := by
  rw [plain]
  conv => rhs; rw [← List.map_id chars]
  exact List.map_congr_left fun c member => (ink c member).plain

theorem dropWhile_isPlainBlank_of_isInk : chars.dropWhile isPlainBlank = chars := by
  cases chars with
  | nil => rfl
  | cons c rest =>
      exact List.dropWhile_cons_of_neg (by simp [(ink c List.mem_cons_self).notPlainBlank])

end Ink

theorem splitSign_digits {chars : List Char} (digits : ∀ c ∈ chars, c.isDigit = true) :
    splitSign chars = (false, chars) := by
  cases chars with
  | nil => rfl
  | cons c rest =>
      obtain ⟨-, notMinus, notPlus, -⟩ := facts_of_isDigit (digits c List.mem_cons_self)
      rw [splitSign.eq_3]
      · intro rest' same
        exact notMinus (List.cons.inj same).1
      · intro rest' same
        exact notPlus (List.cons.inj same).1

/-! ## The digits of a natural number -/

theorem scanDigits_digits {chars : List Char} (digits : ∀ c ∈ chars, c.isDigit = true) :
    scanDigits false chars = some (chars.map fun c => c.toNat - 0x30, []) := by
  induction chars with
  | nil => rfl
  | cons c rest ih =>
      have first := (facts_of_isDigit (digits c (by simp))).2.2.2
      have others := ih fun d member => digits d (by simp [member])
      simp [scanDigits, first, others]

theorem scanDigits_digits_of_ne_nil {chars : List Char} (nonempty : chars ≠ [])
    (digits : ∀ c ∈ chars, c.isDigit = true) :
    scanDigits true chars = some (chars.map fun c => c.toNat - 0x30, []) := by
  cases chars with
  | nil => exact absurd rfl nonempty
  | cons c rest =>
      have first := (facts_of_isDigit (digits c (by simp))).2.2.2
      have others := scanDigits_digits fun d (member : d ∈ rest) => digits d (by simp [member])
      simp [scanDigits, first, others]

theorem isDigit_of_mem_toDigits (n : Nat) : ∀ c ∈ Nat.toDigits 10 n, c.isDigit = true :=
  fun _ member => Nat.isDigit_of_mem_toDigits (by decide) (by decide) member

theorem scanDigits_toDigits (n : Nat) :
    scanDigits true (Nat.toDigits 10 n) =
      some ((Nat.toDigits 10 n).map fun c => c.toNat - 0x30, []) :=
  scanDigits_digits_of_ne_nil Nat.toDigits_ne_nil (isDigit_of_mem_toDigits n)

theorem valueOf_toDigits (n : Nat) :
    valueOf ((Nat.toDigits 10 n).map fun c => c.toNat - 0x30) = n := by
  rw [valueOf, List.foldl_map]
  have value : Nat.ofDigitChars 10 (Nat.toDigits 10 n) 0 = n := Nat.ofDigitChars_ten_toDigits
  rwa [Nat.ofDigitChars_eq_foldl] at value

theorem length_toDigits_of_lt {n bound : Nat} (positive : 0 < bound) (below : n < tenTo bound) :
    (Nat.toDigits 10 n).length ≤ bound :=
  (Nat.length_toDigits_le_iff (by decide) positive).mpr below

/-! ## The numeral of an integer -/

theorem isInk_of_mem_writeInt {n : Int} {c : Char} (member : c ∈ writeInt n) : IsInk c := by
  rw [writeInt, List.mem_append] at member
  rcases member with sign | digit
  · split at sign
    · obtain rfl := List.mem_singleton.mp sign
      exact isInk_minus
    · simp at sign
  · exact (facts_of_isDigit (Nat.isDigit_of_mem_toDigits (by decide) (by decide) digit)).1

theorem writeInt_ne_nil (n : Int) : writeInt n ≠ [] := by
  simp [writeInt]

theorem isUnbroken_writeInt (n : Int) : Text.isUnbroken (writeInt n) = true := by
  rw [Text.isUnbroken, List.all_eq_true]
  intro c member
  simp [(isInk_of_mem_writeInt member).notLineBreak]

theorem trim_writeInt (n : Int) : Text.trim (writeInt n) = writeInt n :=
  trim_of_isInk fun _ => isInk_of_mem_writeInt

theorem splitSign_writeInt (n : Int) :
    splitSign (writeInt n) = (decide (n < 0), Nat.toDigits 10 n.natAbs) := by
  rw [writeInt]
  by_cases negative : n < 0
  · simp [negative, splitSign]
  · simp only [negative, if_false, List.nil_append, decide_false]
    exact splitSign_digits (isDigit_of_mem_toDigits n.natAbs)

theorem readInt_writeInt {n : Int} (short : isTooLong n = false) :
    readInt (writeInt n) = .ok n := by
  have ink : ∀ c ∈ writeInt n, IsInk c := fun _ => isInk_of_mem_writeInt
  have enough : (Nat.toDigits 10 n.natAbs).length ≤ maxDigits :=
    length_toDigits_of_lt (by decide) (isTooLong_eq_false_iff.mp short)
  rw [readInt, plain_of_isInk ink, dropWhile_isPlainBlank_of_isInk ink, splitSign_writeInt]
  simp only [scanDigits_toDigits, List.length_map, valueOf_toDigits]
  rw [if_neg (by omega), if_pos (by rfl)]
  by_cases negative : n < 0
  · rw [decide_eq_true negative, if_pos rfl, Int.ofNat_natAbs_of_nonpos (Int.le_of_lt negative),
      Int.neg_neg]
  · rw [decide_eq_false negative, if_neg Bool.false_ne_true,
      Int.natAbs_of_nonneg (Int.not_lt.mp negative)]

/-! ## Numerals that are read -/

theorem lt_ten_of_plainDigit? {c : Char} {digit : Nat} (read : plainDigit? c = some digit) :
    digit < 10 := by
  rw [plainDigit?] at read
  split at read
  · rename_i within
    obtain rfl := Option.some.inj read
    have most : c.toNat ≤ '9'.toNat := within.2
    have last : '9'.toNat = 0x39 := rfl
    omega
  · cases read

theorem lt_ten_of_scanDigits {needDigit : Bool} {text rest : List Char} {digits : List Nat}
    (scanned : scanDigits needDigit text = some (digits, rest)) : ∀ digit ∈ digits, digit < 10 := by
  induction text generalizing needDigit digits with
  | nil =>
      cases needDigit with
      | true => cases scanned
      | false =>
          cases scanned
          simp
  | cons c tail ih =>
      rw [scanDigits] at scanned
      cases found : plainDigit? c with
      | some digit =>
          rw [found] at scanned
          obtain ⟨⟨others, after⟩, later, same⟩ := Option.map_eq_some_iff.mp scanned
          cases same
          intro other member
          rcases List.mem_cons.mp member with rfl | member
          · exact lt_ten_of_plainDigit? found
          · exact ih later other member
      | none =>
          rw [found] at scanned
          simp only at scanned
          split at scanned
          · cases scanned
          · split at scanned
            · exact ih scanned
            · cases scanned
              simp

theorem foldl_digits_lt {digits : List Nat} (decimal : ∀ digit ∈ digits, digit < 10)
    {value bound : Nat} (below : value < tenTo bound) :
    digits.foldl (fun value digit => 10 * value + digit) value < tenTo (bound + digits.length) := by
  induction digits generalizing value bound with
  | nil => exact below
  | cons digit rest ih =>
      have first : digit < 10 := decimal digit (by simp)
      have next : 10 * value + digit < tenTo (bound + 1) := by
        rw [tenTo_succ]
        omega
      have bounded := ih (fun other member => decimal other (List.mem_cons_of_mem _ member)) next
      rwa [Nat.add_assoc, Nat.add_comm 1] at bounded

theorem valueOf_lt {digits : List Nat} (decimal : ∀ digit ∈ digits, digit < 10) :
    valueOf digits < tenTo digits.length := by
  have bounded := foldl_digits_lt decimal (show 0 < tenTo 0 by decide)
  rwa [Nat.zero_add] at bounded

theorem tenTo_le {small great : Nat} (ordered : small ≤ great) : tenTo small ≤ tenTo great :=
  Nat.pow_le_pow_right (by decide) ordered

/-- An integer with no more digits than a numeral may have is short. -/
theorem isTooLong_of_natAbs {n : Int} {digits : List Nat} (magnitude : n.natAbs = valueOf digits)
    (decimal : ∀ digit ∈ digits, digit < 10) (enough : digits.length ≤ maxDigits) :
    isTooLong n = false := by
  rw [isTooLong_eq_false_iff, magnitude]
  exact Nat.lt_of_lt_of_le (valueOf_lt decimal) (tenTo_le enough)

theorem exists_of_readInt {text : List Char} {n : Int} (read : readInt text = .ok n) :
    ∃ negative unsigned digits rest,
      splitSign ((plain text).dropWhile isPlainBlank) = (negative, unsigned) ∧
        scanDigits true unsigned = some (digits, rest) ∧ digits.length ≤ maxDigits ∧
          n = if negative then -(valueOf digits : Int) else valueOf digits := by
  rw [readInt] at read
  generalize splitSign ((plain text).dropWhile isPlainBlank) = signed at read
  obtain ⟨negative, unsigned⟩ := signed
  simp only at read
  cases scanned : scanDigits true unsigned with
  | none =>
      rw [scanned] at read
      cases read
  | some pair =>
      obtain ⟨digits, rest⟩ := pair
      rw [scanned] at read
      simp only at read
      split at read
      · cases read
      · rename_i enough
        split at read
        · exact ⟨negative, unsigned, digits, rest, rfl, scanned, Nat.not_lt.mp enough,
            (Except.ok.inj read).symm⟩
        · cases read

/-- Whatever is read as an integer can be written again. -/
theorem isTooLong_of_readInt {text : List Char} {n : Int} (read : readInt text = .ok n) :
    isTooLong n = false := by
  obtain ⟨negative, unsigned, digits, rest, -, scanned, enough, rfl⟩ := exists_of_readInt read
  refine isTooLong_of_natAbs ?_ (lt_ten_of_scanDigits scanned) enough
  cases negative <;> simp

/-! ## Numerals that are written -/

theorem writeInt?_of_short {n : Int} (short : isTooLong n = false) :
    writeInt? n = some (writeInt n) := by
  rw [writeInt?, short]
  rfl

theorem eq_writeInt_of_writeInt? {n : Int} {digits : List Char}
    (written : writeInt? n = some digits) : digits = writeInt n := by
  rw [writeInt?] at written
  split at written
  · cases written
  · exact (Option.some.inj written).symm

theorem readInt_of_writeInt? {n : Int} {digits : List Char} (written : writeInt? n = some digits) :
    readInt (Text.trim digits) = .ok n := by
  rw [writeInt?] at written
  split at written
  · simp at written
  · rename_i short
    obtain rfl := Option.some.inj written
    rw [trim_writeInt, readInt_writeInt (by simpa using short)]

theorem isUnbroken_of_writeInt? {n : Int} {digits : List Char}
    (written : writeInt? n = some digits) : Text.isUnbroken digits = true := by
  rw [eq_writeInt_of_writeInt? written]
  exact isUnbroken_writeInt n

/-! ## Numerals that have lost their front -/

/-- A text of digits is read as a number that has no more digits than the text. -/
theorem bounds_of_readInt_digits {chars : List Char} (digits : ∀ c ∈ chars, c.isDigit = true)
    {n : Int} (read : readInt chars = .ok n) :
    chars ≠ [] ∧ 0 ≤ n ∧ n.natAbs < tenTo chars.length := by
  have ink : ∀ c ∈ chars, IsInk c := fun c member => (facts_of_isDigit (digits c member)).1
  obtain ⟨negative, unsigned, values, rest, signed, scanned, -, rfl⟩ := exists_of_readInt read
  rw [plain_of_isInk ink, dropWhile_isPlainBlank_of_isInk ink, splitSign_digits digits] at signed
  obtain ⟨rfl, rfl⟩ := Prod.mk.inj signed
  have nonempty : chars ≠ [] := by
    rintro rfl
    cases scanned
  have bound := valueOf_lt (lt_ten_of_scanDigits scanned)
  rw [scanDigits_digits_of_ne_nil nonempty digits] at scanned
  obtain ⟨rfl, -⟩ := Prod.mk.inj (Option.some.inj scanned)
  rw [List.length_map] at bound
  exact ⟨nonempty, Int.natCast_nonneg _, bound⟩

/-- What is left of a numeral without its front is not read as the same number. -/
theorem readInt_drop_writeInt {n : Int} {count : Nat} (lost : 0 < count) :
    readInt (Text.trim ((writeInt n).drop count)) ≠ .ok n := by
  have shape : ∃ skipped, (writeInt n).drop count = (Nat.toDigits 10 n.natAbs).drop skipped ∧
      (0 ≤ n -> skipped = count) := by
    rw [writeInt]
    by_cases negative : n < 0
    · refine ⟨count - 1, ?_, fun nonnegative => by omega⟩
      rw [if_pos negative, List.singleton_append, ← Nat.sub_add_cancel lost, List.drop_succ_cons,
        Nat.add_sub_cancel]
    · exact ⟨count, by rw [if_neg negative, List.nil_append], fun _ => rfl⟩
  obtain ⟨skipped, left, same⟩ := shape
  have digits : ∀ c ∈ (Nat.toDigits 10 n.natAbs).drop skipped, c.isDigit = true := fun c member =>
    isDigit_of_mem_toDigits n.natAbs c (List.mem_of_mem_drop member)
  rw [left, trim_of_isInk fun c member => (facts_of_isDigit (digits c member)).1]
  intro read
  obtain ⟨nonempty, nonnegative, below⟩ := bounds_of_readInt_digits digits read
  have short := length_toDigits_of_lt (List.length_pos_iff.mpr nonempty) below
  have some := List.length_pos_iff.mpr nonempty
  rw [List.length_drop, same nonnegative] at short some
  omega

end PairedContacts.Numeral
