import PairedContacts.Proofs.KeyedList
import PairedContacts.Proofs.Number.Decimal
import PairedContacts.Uid

/-!
# Proper uIDs and their order

A uID is proper if its text is read as itself.  Whatever is read as a uID is proper, so a uID that
is written down can be read again.  A contact is named by the text of its uID, and by an integer
whose numeral this is.  Distinct uIDs have one order.
-/

set_option autoImplicit false

namespace PairedContacts.Uid

/-- A uID whose text is read as the uID itself. -/
def IsProper (uid : Uid) : Prop :=
  ofText uid.text = .ok uid

def breaksLine (uid : Uid) : Bool :=
  !Text.isUnbroken uid.text.toList

theorem ofText_eq_ok_iff {text : String} {uid : Uid} :
    ofText text = .ok uid ↔ text.toList ≠ [] ∧ Text.trim text.toList = text.toList ∧
      '\n' ∉ text.toList ∧ '\r' ∉ text.toList ∧ text ≠ reservedKey ∧ uid = ⟨text⟩ := by
  simp only [ofText]
  split
  · rename_i padded
    simp only [reduceCtorEq, false_iff]
    rintro ⟨nonempty, trimmed, -⟩
    rcases padded with empty | untrimmed
    · exact nonempty (List.isEmpty_iff.mp empty)
    · exact untrimmed trimmed
  · rename_i fitting
    simp only [not_or, Bool.not_eq_true, ne_eq, Decidable.not_not] at fitting
    split
    · rename_i breaks
      simp only [List.contains_iff_mem] at breaks
      simp only [reduceCtorEq, false_iff]
      rintro ⟨-, -, noFeed, noReturn, -⟩
      rcases breaks with feed | carriageReturn
      · exact noFeed feed
      · exact noReturn carriageReturn
    · rename_i single
      simp only [List.contains_iff_mem, not_or] at single
      split
      · rename_i taken
        simp only [reduceCtorEq, false_iff]
        rintro ⟨-, -, -, -, free, -⟩
        exact free taken
      · rename_i free
        rw [Except.ok.injEq]
        constructor
        · rintro rfl
          exact ⟨by simpa using fitting.1, fitting.2, single.1, single.2, free, rfl⟩
        · rintro ⟨-, -, -, -, -, rfl⟩
          rfl

theorem isProper_of_ofText {text : String} {uid : Uid} (read : ofText text = .ok uid) :
    uid.IsProper := by
  obtain ⟨-, -, -, -, -, rfl⟩ := ofText_eq_ok_iff.mp read
  exact read

theorem exists_writeInt?_of_ofValue_int {n : Int} {uid : Uid}
    (read : ofValue (.int n) = .ok uid) :
    ∃ digits, Numeral.writeInt? n = some digits ∧ ofText (String.ofList digits) = .ok uid := by
  rw [ofValue] at read
  cases written : Numeral.writeInt? n with
  | none =>
      rw [written] at read
      cases read
  | some digits =>
      rw [written] at read
      exact ⟨digits, rfl, read⟩

theorem isProper_of_ofValue {value : Value} {uid : Uid} (read : ofValue value = .ok uid) :
    uid.IsProper := by
  cases value with
  | int n =>
      obtain ⟨digits, -, read⟩ := exists_writeInt?_of_ofValue_int read
      exact isProper_of_ofText read
  | text text => exact isProper_of_ofText read
  | _ => cases read

theorem IsProper.text_facts {uid : Uid} (proper : uid.IsProper) :
    uid.text.toList ≠ [] ∧ Text.trim uid.text.toList = uid.text.toList ∧
      '\n' ∉ uid.text.toList ∧ '\r' ∉ uid.text.toList ∧ uid.text ≠ reservedKey := by
  obtain ⟨nonempty, trimmed, noFeed, noReturn, free, -⟩ := ofText_eq_ok_iff.mp proper
  exact ⟨nonempty, trimmed, noFeed, noReturn, free⟩

theorem IsProper.noLineFeed {uid : Uid} (proper : uid.IsProper) : '\n' ∉ uid.text.toList :=
  proper.text_facts.2.2.1

theorem IsProper.noCarriageReturn {uid : Uid} (proper : uid.IsProper) : '\r' ∉ uid.text.toList :=
  proper.text_facts.2.2.2.1

theorem IsProper.notReserved {uid : Uid} (proper : uid.IsProper) : uid.text ≠ reservedKey :=
  proper.text_facts.2.2.2.2

theorem breaksLine_of_ofValue_int {n : Int} {uid : Uid} (read : ofValue (.int n) = .ok uid) :
    uid.breaksLine = false := by
  obtain ⟨digits, written, read⟩ := exists_writeInt?_of_ofValue_int read
  obtain ⟨-, -, -, -, -, rfl⟩ := ofText_eq_ok_iff.mp read
  simp [breaksLine, Numeral.isUnbroken_of_writeInt? written]

/-! ## What names a contact -/

/-- The numeral of an integer is a uID. -/
theorem ofText_writeInt (n : Int) :
    ofText (String.ofList (Numeral.writeInt n)) = .ok ⟨String.ofList (Numeral.writeInt n)⟩ := by
  have unbroken := Numeral.isUnbroken_writeInt n
  have noBreak : ∀ c, Text.isLineBreak c = true -> c ∉ Numeral.writeInt n := by
    intro c breaks member
    rw [Text.not_isLineBreak_of_isUnbroken unbroken member] at breaks
    cases breaks
  rw [ofText_eq_ok_iff, String.toList_ofList]
  refine ⟨Numeral.writeInt_ne_nil n, Numeral.trim_writeInt n,
    noBreak _ Text.isLineBreak_lineFeed, noBreak _ Text.isLineBreak_carriageReturn, ?_, rfl⟩
  intro reserved
  have letter : 'u' ∈ Numeral.writeInt n := by
    rw [← String.toList_ofList (l := Numeral.writeInt n), reserved]
    decide
  rw [Numeral.writeInt, List.mem_append] at letter
  rcases letter with sign | digit
  · split at sign <;> simp at sign
  · have isDigit := Nat.isDigit_of_mem_toDigits (by decide) (by decide) digit
    revert isDigit
    decide

/-- Two kinds of values name a contact: a text that is not padded, not broken by a line feed or a
carriage return and not reserved names the contact with this uID, and an integer that can be written
names the contact with its numeral. -/
inductive IsNamedBy : Uid -> Value -> Prop where
  | text {uid : Uid} (nonempty : uid.text.toList ≠ [])
      (trimmed : Text.trim uid.text.toList = uid.text.toList) (noLineFeed : '\n' ∉ uid.text.toList)
      (noCarriageReturn : '\r' ∉ uid.text.toList) (free : uid.text ≠ reservedKey) :
      IsNamedBy uid (.text uid.text)
  | int {n : Int} (short : Numeral.isTooLong n = false) :
      IsNamedBy ⟨String.ofList (Numeral.writeInt n)⟩ (.int n)

theorem ofValue_eq_ok_iff {value : Value} {uid : Uid} :
    ofValue value = .ok uid ↔ uid.IsNamedBy value := by
  constructor
  · intro read
    cases value with
    | text text =>
        obtain ⟨nonempty, trimmed, noLineFeed, noCarriageReturn, free, rfl⟩ :=
          ofText_eq_ok_iff.mp read
        exact .text nonempty trimmed noLineFeed noCarriageReturn free
    | int n =>
        obtain ⟨digits, written, read⟩ := exists_writeInt?_of_ofValue_int read
        rw [Numeral.writeInt?] at written
        split at written
        · cases written
        · rename_i short
          obtain rfl := Option.some.inj written
          rw [ofText_writeInt] at read
          obtain rfl := Except.ok.inj read
          exact .int (Bool.eq_false_iff.mpr short)
    | _ => cases read
  · rintro (⟨nonempty, trimmed, noLineFeed, noCarriageReturn, free⟩ | ⟨short⟩)
    · exact ofText_eq_ok_iff.mpr ⟨nonempty, trimmed, noLineFeed, noCarriageReturn, free, rfl⟩
    · rw [ofValue, Numeral.writeInt?_of_short short]
      exact ofText_writeInt _

/-! ## Order -/

theorem le_iff {a b : Uid} : le a b = true ↔ a.text ≤ b.text :=
  decide_eq_true_iff

theorem eq_of_text {a b : Uid} (same : a.text = b.text) : a = b := by
  cases a
  cases b
  exact congrArg Uid.mk same

theorem le_trans (a b c : Uid) (first : le a b = true) (second : le b c = true) :
    le a c = true :=
  le_iff.mpr (String.le_trans (le_iff.mp first) (le_iff.mp second))

theorem le_total (a b : Uid) : (le a b || le b a) = true := by
  rw [Bool.or_eq_true, le_iff, le_iff]
  exact String.le_total a.text b.text

theorem le_antisymm {a b : Uid} (first : le a b = true) (second : le b a = true) : a = b :=
  eq_of_text (String.le_antisymm (le_iff.mp first) (le_iff.mp second))

def Ascending (uids : List Uid) : Prop :=
  uids.Pairwise fun a b => a.text < b.text

theorem Ascending.nodup {uids : List Uid} (ascending : Ascending uids) : uids.Nodup := by
  refine List.Pairwise.imp ?_ ascending
  rintro a _ below rfl
  exact String.lt_irrefl a.text below

theorem Ascending.sorted {uids : List Uid} (ascending : Ascending uids) :
    uids.Pairwise (fun a b => le a b = true) :=
  List.Pairwise.imp (fun below => le_iff.mpr (Std.le_of_lt below)) ascending

theorem ascending_of_sorted {uids : List Uid} (sorted : uids.Pairwise (fun a b => le a b = true))
    (once : uids.Nodup) : Ascending uids := by
  refine (List.Pairwise.and sorted once).imp ?_
  intro a b ⟨below, different⟩
  exact Std.lt_of_le_of_ne (le_iff.mp below) fun same => different (eq_of_text same)

theorem Ascending.filter {uids : List Uid} (ascending : Ascending uids) (keep : Uid -> Bool) :
    Ascending (uids.filter keep) :=
  List.Pairwise.filter keep ascending

theorem ascending_sort {uids : List Uid} (once : uids.Nodup) : Ascending (sort uids) :=
  ascending_of_sorted (List.pairwise_mergeSort le_trans le_total uids)
    ((List.mergeSort_perm uids le).symm.nodup once)

/-- There is one ascending list with given members. -/
theorem Ascending.eq_of_mem_iff {first second : List Uid} (one : Ascending first)
    (other : Ascending second) (same : ∀ uid, uid ∈ first ↔ uid ∈ second) : first = second := by
  have perm := (List.perm_ext_iff_of_nodup one.nodup other.nodup).mpr same
  refine perm.eq_of_pairwise ?_ one.sorted other.sorted
  intro a b _ _ below above
  exact le_antisymm below above

variable {ν : Type}

theorem sortEntries_perm (entries : KeyedList Uid ν) : (sortEntries entries).Perm entries :=
  List.mergeSort_perm entries _

theorem nodup_keys_sortEntries {entries : KeyedList Uid ν} (once : entries.keys.Nodup) :
    (KeyedList.keys (sortEntries entries)).Nodup :=
  ((sortEntries_perm entries).map Prod.fst).symm.nodup once

theorem sorted_sortEntries (entries : KeyedList Uid ν) :
    (sortEntries entries).Pairwise fun a b => le a.1 b.1 = true := by
  refine List.pairwise_mergeSort ?_ ?_ entries
  · intro a b c
    exact le_trans a.1 b.1 c.1
  · intro a b
    exact le_total a.1 b.1

theorem ascending_keys_sortEntries {entries : KeyedList Uid ν} (once : entries.keys.Nodup) :
    Ascending (KeyedList.keys (sortEntries entries)) :=
  ascending_of_sorted (List.pairwise_map.mpr (sorted_sortEntries entries))
    (nodup_keys_sortEntries once)

/-- The order of the entries of a map does not show when they are sorted. -/
theorem sortEntries_eq_of_perm {entries others : KeyedList Uid ν} (once : entries.keys.Nodup)
    (same : entries.Perm others) : sortEntries entries = sortEntries others := by
  have perm : (sortEntries entries).Perm (sortEntries others) :=
    (sortEntries_perm entries).trans (same.trans (sortEntries_perm others).symm)
  refine perm.eq_of_pairwise ?_ (sorted_sortEntries entries) (sorted_sortEntries others)
  intro a b first second below above
  have key : a.1 = b.1 := le_antisymm below above
  have here : (a.1, a.2) ∈ entries := (sortEntries_perm entries).mem_iff.mp first
  have there : (a.1, b.2) ∈ entries := by
    rw [key]
    exact same.mem_iff.mpr ((sortEntries_perm others).mem_iff.mp second)
  have value : a.2 = b.2 :=
    Option.some.inj ((KeyedList.get?_of_mem once here).symm.trans
      (KeyedList.get?_of_mem once there))
  exact Prod.ext key value

theorem get?_sortEntries {entries : KeyedList Uid ν} (once : entries.keys.Nodup) (uid : Uid) :
    KeyedList.get? (sortEntries entries) uid = KeyedList.get? entries uid :=
  KeyedList.get?_perm once (sortEntries_perm entries).symm uid

theorem sortEntries_of_ascending {entries : KeyedList Uid ν}
    (ascending : Ascending entries.keys) : sortEntries entries = entries := by
  refine List.mergeSort_of_pairwise ?_
  exact List.pairwise_map.mp ascending.sorted

end PairedContacts.Uid
