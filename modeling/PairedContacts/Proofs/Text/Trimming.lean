import Mathlib.Data.List.TakeWhile
import PairedContacts.Proofs.Text.Lines
import PairedContacts.Text.Blank

/-!
# Trimming

What trimming takes away, and the texts that it leaves alone: those that neither begin nor end with
a blank.  Every line break is a blank, so a trimmed line does not show how it was broken.
-/

set_option autoImplicit false

namespace PairedContacts.Text

variable {drop : Char -> Bool}

theorem isBlank_of_isLineBreak {c : Char} (breaks : isLineBreak c = true) : isBlank c = true :=
  of_isLineBreak (by decide) breaks

/-! ## One end of a text -/

theorem trimStart_eq_self_iff {text : List Char} :
    trimStart drop text = text ↔ ∀ c, text.head? = some c → drop c = false := by
  rw [trimStart]
  cases text with
  | nil => simp
  | cons c rest =>
      cases dropped : drop c with
      | false => simp [dropped]
      | true =>
          simp only [List.dropWhile_cons_of_pos dropped, List.head?_cons, Option.some.injEq,
            forall_eq', dropped, Bool.true_eq_false, iff_false]
          intro same
          have shorter : (rest.dropWhile drop).length ≤ rest.length :=
            (List.dropWhile_suffix drop).length_le
          rw [same, List.length_cons] at shorter
          omega

theorem trimEnd_append {text tail : List Char} (dropped : ∀ c ∈ tail, drop c = true) :
    trimEnd drop (text ++ tail) = trimEnd drop text := by
  have gone : tail.reverse.dropWhile drop = [] := by
    rw [List.dropWhile_eq_nil_iff]
    intro c member
    exact dropped c (List.mem_reverse.mp member)
  simp [trimEnd, List.dropWhile_append, gone]

theorem trimEnd_eq_self_iff {text : List Char} :
    trimEnd drop text = text ↔ ∀ c, text.getLast? = some c → drop c = false := by
  rw [trimEnd, List.reverse_eq_iff, ← List.head?_reverse]
  exact trimStart_eq_self_iff

theorem exists_trimEnd_append (drop : Char -> Bool) (text : List Char) :
    ∃ tail, text = trimEnd drop text ++ tail ∧ ∀ c ∈ tail, drop c = true := by
  refine ⟨(text.reverse.takeWhile drop).reverse, ?_, ?_⟩
  · rw [trimEnd, ← List.reverse_append, List.takeWhile_append_dropWhile, List.reverse_reverse]
  · intro c member
    exact List.mem_takeWhile_imp (List.mem_reverse.mp member)

/-! ## Both ends -/

/-- Trimming takes nothing but blanks away, and only at the ends. -/
theorem exists_trim_between (text : List Char) :
    ∃ front back, text = front ++ trim text ++ back ∧ (∀ c ∈ front, isBlank c = true) ∧
      ∀ c ∈ back, isBlank c = true := by
  obtain ⟨back, ended, closing⟩ := exists_trimEnd_append isBlank (trimStart isBlank text)
  refine ⟨text.takeWhile isBlank, back, ?_, fun _ => List.mem_takeWhile_imp, closing⟩
  rw [List.append_assoc, trim, ← ended, trimStart, List.takeWhile_append_dropWhile]

theorem trim_eq_nil_iff {text : List Char} :
    trim text = [] ↔ ∀ c ∈ text, isBlank c = true := by
  constructor
  · intro trimmed
    obtain ⟨front, back, whole, opening, closing⟩ := exists_trim_between text
    rw [trimmed, List.append_nil] at whole
    intro c member
    rw [whole] at member
    exact (List.mem_append.mp member).elim (opening c) (closing c)
  · intro blank
    rw [trim, trimStart, List.dropWhile_eq_nil_iff.mpr blank]
    rfl

theorem trim_append_blank {text : List Char} {c : Char} (blank : isBlank c = true) :
    trim (text ++ [c]) = trim text := by
  rw [trim, trim, trimStart, trimStart, List.dropWhile_append]
  split
  · rename_i empty
    rw [List.isEmpty_iff.mp empty, List.dropWhile_cons_of_pos blank]
    rfl
  · exact trimEnd_append (by simpa using blank)

theorem trim_cons {c : Char} {rest : List Char} (inked : isBlank c = false) :
    ∃ tail, trim (c :: rest) = c :: tail := by
  rw [trim, trimStart, List.dropWhile_cons_of_neg (by simp [inked])]
  obtain ⟨tail, whole, blanks⟩ := exists_trimEnd_append isBlank (c :: rest)
  cases trimmed : trimEnd isBlank (c :: rest) with
  | nil =>
      rw [trimmed, List.nil_append] at whole
      have blank := blanks c (by rw [← whole]; simp)
      simp [inked] at blank
  | cons d more =>
      rw [trimmed, List.cons_append] at whole
      exact ⟨more, by rw [(List.cons.inj whole).1]⟩

theorem trim_eq_self_iff {text : List Char} :
    trim text = text ↔ (∀ c, text.head? = some c → isBlank c = false) ∧
      ∀ c, text.getLast? = some c → isBlank c = false := by
  have shortened : (trimEnd isBlank (trimStart isBlank text)).length ≤
      (trimStart isBlank text).length := by
    obtain ⟨tail, whole, -⟩ := exists_trimEnd_append isBlank (trimStart isBlank text)
    conv => rhs; rw [whole]
    simp
  constructor
  · intro same
    rw [trim] at same
    have started : trimStart isBlank text = text := by
      refine (List.dropWhile_suffix isBlank).eq_of_length_le ?_
      rwa [same] at shortened
    rw [started] at same
    exact ⟨trimStart_eq_self_iff.mp started, trimEnd_eq_self_iff.mp same⟩
  · rintro ⟨opens, closes⟩
    rw [trim, trimStart_eq_self_iff.mpr opens]
    exact trimEnd_eq_self_iff.mpr closes

end PairedContacts.Text
