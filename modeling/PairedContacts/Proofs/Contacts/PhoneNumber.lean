import PairedContacts.Contacts.PhoneBook
import PairedContacts.Proofs.Text.Trimming

/-!
# The normal form of a phone number

Of a phone number only its digits and plus signs count: its normal form is its digits, behind a plus
sign if that comes before every digit.  Whatever else is put into a number or taken out of it,
blanks around it included, does not show, and a normal form is its own normal form.
-/

set_option autoImplicit false

namespace PairedContacts

namespace Text

theorem exists_zero_of_isDecimalDigit {c : Char} (digit : isDecimalDigit c = true) :
    ∃ least ∈ zeros, least ≤ c.toNat ∧ c.toNat < least + 10 := by
  rw [isDecimalDigit, digitValue?] at digit
  split at digit
  · split at digit
    · rename_i plain
      refine ⟨0x30, by simp [zeros], ?_⟩
      have above : 0x30 ≤ c.toNat := plain.1
      have below : c.toNat ≤ 0x39 := plain.2
      omega
    · cases digit
  · rw [Option.isSome_map, List.find?_isSome] at digit
    obtain ⟨least, member, within⟩ := digit
    rw [Bool.and_eq_true, decide_eq_true_eq, decide_eq_true_eq] at within
    exact ⟨least, member, within⟩

theorem not_isDecimalDigit_of_isBlank {c : Char} (blank : isBlank c = true) :
    isDecimalDigit c = false := by
  have apart : ∀ range ∈ blankRanges, ∀ least ∈ zeros,
      range.2 < least ∨ least + 10 ≤ range.1 := by decide
  obtain ⟨range, blanks, within⟩ := List.any_eq_true.mp blank
  rw [Bool.and_eq_true, decide_eq_true_eq, decide_eq_true_eq] at within
  rw [Bool.eq_false_iff]
  intro digit
  obtain ⟨least, digits, above, below⟩ := exists_zero_of_isDecimalDigit digit
  rcases apart range blanks least digits with before | behind <;> omega

end Text

namespace PhoneBook

open Text (isDecimalDigit isBlank)

variable {number other : List Char}

theorem not_isDecimalDigit_plus : isDecimalDigit '+' = false := by decide

theorem not_keeps_of_isBlank {c : Char} (blank : isBlank c = true) : keeps c = false := by
  have notPlus : c ≠ '+' := by
    rintro rfl
    revert blank
    decide
  simp [keeps, Text.not_isDecimalDigit_of_isBlank blank, notPlus]

theorem toList_normalize (number : String) :
    (normalize number).toList = normalizeChars number.toList :=
  String.toList_ofList

/-! ## The form -/

/-- What is left of the kept characters without the plus signs are the digits. -/
theorem filter_notPlus_filter_keeps (number : List Char) :
    (number.filter keeps).filter (fun c => c != '+') = number.filter isDecimalDigit := by
  rw [List.filter_filter]
  refine List.filter_congr fun c _ => ?_
  by_cases plus : c = '+'
  · subst plus
    simp [not_isDecimalDigit_plus]
  · simp [keeps, plus]

theorem normalizeChars_eq (number : List Char) :
    normalizeChars number =
      (if number.find? keeps = some '+' then ['+'] else []) ++ number.filter isDecimalDigit := by
  rw [← filter_notPlus_filter_keeps, ← List.head?_filter, normalizeChars]
  cases number.filter keeps with
  | nil => rfl
  | cons first rest =>
      by_cases plus : first = '+'
      · simp [plus]
      · simp [plus]

theorem plus_not_mem_digits (number : List Char) : '+' ∉ number.filter isDecimalDigit := by
  rw [List.mem_filter, not_isDecimalDigit_plus]
  simp

theorem normalizeChars_normalizeChars (number : List Char) :
    normalizeChars (normalizeChars number) = normalizeChars number := by
  have digits : (number.filter isDecimalDigit).filter isDecimalDigit =
      number.filter isDecimalDigit := by
    rw [List.filter_filter]
    simp only [Bool.and_self]
  rw [normalizeChars_eq number]
  split
  · rw [normalizeChars_eq, List.singleton_append, List.find?_cons_of_pos (by decide), if_pos rfl,
      List.filter_cons_of_neg (by decide), digits]
    rfl
  · -- Of digits alone the first that is kept is no plus sign.
    have noPlus : (number.filter isDecimalDigit).find? keeps ≠ some '+' := fun found =>
      plus_not_mem_digits number (List.mem_of_find?_eq_some found)
    rw [List.nil_append, normalizeChars_eq, if_neg noPlus, digits, List.nil_append]

/-! ## What does not count -/

theorem filter_keeps_of_others {others : List Char} (dropped : ∀ c ∈ others, keeps c = false) :
    others.filter keeps = [] := by
  rw [List.filter_eq_nil_iff]
  intro c member
  rw [dropped c member]
  exact Bool.false_ne_true

theorem normalizeChars_congr (same : other.filter keeps = number.filter keeps) :
    normalizeChars other = normalizeChars number := by
  rw [normalizeChars, normalizeChars, same]

theorem filter_keeps_insert {others : List Char} (dropped : ∀ c ∈ others, keeps c = false)
    (front back : List Char) :
    (front ++ others ++ back).filter keeps = (front ++ back).filter keeps := by
  rw [List.filter_append, List.filter_append, filter_keeps_of_others dropped, List.append_nil,
    List.filter_append]

theorem filter_keeps_trim (number : List Char) :
    (Text.trim number).filter keeps = number.filter keeps := by
  obtain ⟨front, back, whole, opening, closing⟩ := Text.exists_trim_between number
  have before := filter_keeps_of_others fun c member => not_keeps_of_isBlank (opening c member)
  have behind := filter_keeps_of_others fun c member => not_keeps_of_isBlank (closing c member)
  conv => rhs; rw [whole]
  rw [List.filter_append, List.filter_append, before, behind, List.nil_append, List.append_nil]

/-- The normal form of a number is its decimal digits in their order, behind a plus sign exactly if
the first of the digits and plus signs is one.  So no plus sign stands farther behind, numbers with
the same digits and plus signs have one normal form, whatever else is put in or taken out anywhere,
and a normal form is its own normal form. -/
theorem only_digits_and_pluses_count (number : String) :
    (normalize number).toList =
        (if number.toList.find? keeps = some '+' then ['+'] else []) ++
          number.toList.filter isDecimalDigit ∧
      '+' ∉ (normalize number).toList.tail ∧
      (∀ other : String, other.toList.filter keeps = number.toList.filter keeps ->
        normalize other = normalize number) ∧
      (∀ front others back : String, number = front ++ back ->
        (∀ c ∈ others.toList, isDecimalDigit c = false ∧ c ≠ '+') ->
        normalize (front ++ others ++ back) = normalize number) ∧
      normalize (String.ofList (Text.trim number.toList)) = normalize number ∧
      normalize (normalize number) = normalize number := by
  have form : (normalize number).toList = _ := toList_normalize number
  have congr : ∀ other : String, other.toList.filter keeps = number.toList.filter keeps ->
      normalize other = normalize number := fun other same =>
    congrArg String.ofList (normalizeChars_congr same)
  refine ⟨form.trans (normalizeChars_eq _), ?_, congr, ?_, congr _ ?_, ?_⟩
  · rw [form, normalizeChars_eq]
    split
    · exact plus_not_mem_digits _
    · exact fun member => plus_not_mem_digits _ (List.mem_of_mem_tail member)
  · rintro front others back rfl dropped
    refine congr _ ?_
    rw [String.toList_append, String.toList_append, String.toList_append]
    refine filter_keeps_insert (fun c member => ?_) _ _
    obtain ⟨noDigit, noPlus⟩ := dropped c member
    simp [keeps, noDigit, noPlus]
  · rw [String.toList_ofList, filter_keeps_trim]
  · rw [normalize, form, normalizeChars_normalizeChars]
    rfl

/-- Digits of any script are kept, and a plus sign only in front of all of them. -/
theorem only_digits_and_pluses_count_spacedNumber :
    (normalize " (+4\u0663) 2+1 ").toList = ['+', '4', '\u0663', '2', '1'] ∧
      normalize (" (+4" ++ " - " ++ "\u0663) 2+1 ") = normalize " (+4\u0663) 2+1 " := by
  obtain ⟨form, -, -, insert, -, -⟩ := only_digits_and_pluses_count " (+4\u0663) 2+1 "
  constructor
  · rw [form]
    decide +kernel
  · refine insert " (+4" " - " "\u0663) 2+1 " rfl ?_
    simp [Text.isDecimalDigit, Text.digitValue?, Text.zeros]

end PhoneBook

end PairedContacts
