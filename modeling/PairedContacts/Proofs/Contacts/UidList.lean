import PairedContacts.Proofs.Contacts.Message

/-!
# Cleaning a list of uIDs

The list of uIDs in a packet may hold anything.  What is read of it is every uID that an entry
names, once, in the order in which the uIDs are first named; an entry that names nobody is dropped
and remarked upon.  What was read before decides only which uIDs of the rest are new, and a list of
what was read is clean.
-/

set_option autoImplicit false

namespace PairedContacts

/-- What comes first in two lists, one behind the other, is what comes first in the one, and then
what is new in the other. -/
theorem firstOccurrences_append {α : Type} [DecidableEq α] (xs ys : List α) :
    firstOccurrences (xs ++ ys) =
      firstOccurrences xs ++ (firstOccurrences ys).filter fun y => y ∉ firstOccurrences xs := by
  induction xs with
  | nil => exact (List.filter_eq_self.mpr fun _ _ => rfl).symm
  | cons x rest ih =>
      have fresh : ∀ y, (decide (y ≠ x) && decide (y ∉ firstOccurrences rest)) =
          decide (y ∉ firstOccurrences (x :: rest)) := by
        intro y
        by_cases same : y = x <;> simp [firstOccurrences, same]
      rw [List.cons_append, firstOccurrences, ih, List.filter_append, List.filter_filter]
      simp only [fresh]
      rfl

namespace Message

/-- Before any entry that names the second uID there is one that names the first. -/
def Precedes (raw : List Value) (first second : Uid) : Prop :=
  ∃ before value behind, raw = before ++ value :: behind ∧ first.IsNamedBy value ∧
    ∀ earlier ∈ before, ¬second.IsNamedBy earlier

/-- The uIDs that the entries of a list name, each once and in the order in which they are first
named. -/
structure Cleans (raw : List Value) (uids : List Uid) : Prop where
  once : uids.Nodup
  members : ∀ uid, uid ∈ uids ↔ ∃ value ∈ raw, uid.IsNamedBy value
  inOrder : uids.Pairwise (Precedes raw)

/-- What is remarked upon an entry that names nobody. -/
def complaint? (value : Value) : Option Notice :=
  match Uid.ofValue value with
  | .ok _ => none
  | .error fault => some (.malformedUid value fault)

variable {raw : List Value} {value : Value} {uid first second : Uid}

theorem complaint?_eq_none_iff : complaint? value = none ↔ ∃ uid : Uid, uid.IsNamedBy value := by
  simp only [complaint?, ← Uid.ofValue_eq_ok_iff]
  cases Uid.ofValue value <;> simp

theorem level_of_complaint? {notice : Notice} (remarked : complaint? value = some notice) :
    notice.level = .warning := by
  rw [complaint?] at remarked
  split at remarked
  · cases remarked
  · cases remarked
    rfl

/-! ## Order -/

theorem Precedes.cons (precedes : Precedes raw first second) (other : ¬second.IsNamedBy value) :
    Precedes (value :: raw) first second := by
  obtain ⟨before, entry, behind, rfl, named, notBefore⟩ := precedes
  exact ⟨value :: before, entry, behind, rfl, named, List.forall_mem_cons.mpr ⟨other, notBefore⟩⟩

theorem distinctUids_cons_ok (read : Uid.ofValue value = .ok uid) (raw : List Value) :
    distinctUids (value :: raw) = uid :: (distinctUids raw).filter fun other => other ≠ uid := by
  rw [distinctUids, List.filterMap_cons, read]
  rfl

theorem distinctUids_cons_error {fault : UidFault} (refused : Uid.ofValue value = .error fault)
    (raw : List Value) : distinctUids (value :: raw) = distinctUids raw := by
  rw [distinctUids, List.filterMap_cons, refused]
  rfl

theorem pairwise_precedes_distinctUids (raw : List Value) :
    (distinctUids raw).Pairwise (Precedes raw) := by
  induction raw with
  | nil => exact List.Pairwise.nil
  | cons value rest ih =>
      cases read : Uid.ofValue value with
      | error fault =>
          rw [distinctUids_cons_error read]
          refine ih.imp fun precedes => precedes.cons ?_
          rw [← Uid.ofValue_eq_ok_iff, read]
          simp
      | ok uid =>
          have named : uid.IsNamedBy value := Uid.ofValue_eq_ok_iff.mp read
          -- What this entry names is left out of the rest, so it names nobody there.
          have foreign {other : Uid} (different : other ≠ uid) : ¬other.IsNamedBy value := by
            rw [← Uid.ofValue_eq_ok_iff, read, Except.ok.injEq]
            exact different.symm
          rw [distinctUids_cons_ok read, List.pairwise_cons]
          constructor
          · intro other member
            exact ⟨[], value, rest, rfl, named, by simp⟩
          · refine (ih.filter _).imp_of_mem ?_
            intro first second _ among precedes
            exact precedes.cons (foreign (by simpa using (List.mem_filter.mp among).2))

theorem cleans_distinctUids (raw : List Value) : Cleans raw (distinctUids raw) where
  once := nodup_distinctUids raw
  members := by
    intro uid
    simp only [mem_distinctUids_iff, Uid.ofValue_eq_ok_iff]
  inOrder := pairwise_precedes_distinctUids raw

/-! ## Remarks -/

theorem events_readUids (raw : List Value) :
    (readUids raw).events = (raw.filterMap complaint?).map Event.notice := by
  induction raw with
  | nil => rfl
  | cons value rest ih =>
      rw [readUids, List.filterMap_cons, complaint?]
      cases Uid.ofValue value with
      | ok uid =>
          simp only
          rw [Run.bind_ok (outcome_readUids rest), ih]
          exact List.append_nil _
      | error fault =>
          simp only
          rw [Run.bind_ok rfl, ih]
          rfl

theorem events_parseUids (raw : List Value) :
    (parseUids raw).events = (raw.filterMap complaint?).map Event.notice := by
  rw [parseUids, Run.bind_ok (outcome_readUids raw), events_readUids]
  exact List.append_nil _

/-! ## The whole list -/

theorem distinctUids_append (raw others : List Value) :
    distinctUids (raw ++ others) =
      distinctUids raw ++ (distinctUids others).filter fun uid => uid ∉ distinctUids raw := by
  rw [distinctUids, List.filterMap_append, firstOccurrences_append]
  rfl

/-- Reading a list of uIDs always succeeds.  It gives the uIDs that the entries name, each once and
in the order in which they are first named; there is a warning for each entry that names nobody, and
nothing else happens.  With more entries behind it a list gives the same and then what is new in
these, and what was read is read again as it is, without a warning. -/
theorem lists_are_cleaned (raw : List Value) :
    ∃ uids, (parseUids raw).outcome = .ok uids ∧ Cleans raw uids ∧
      (parseUids raw).events = (raw.filterMap complaint?).map Event.notice ∧
      (∀ value, complaint? value = none ↔ ∃ uid : Uid, uid.IsNamedBy value) ∧
      (∀ notice ∈ raw.filterMap complaint?, notice.level = .warning) ∧
      (∀ others, ∃ further, (parseUids others).outcome = .ok further ∧
        (parseUids (raw ++ others)).outcome =
          .ok (uids ++ further.filter fun uid => uid ∉ uids)) ∧
      parseUids (uids.map fun uid => .text uid.text) = pure uids := by
  refine ⟨distinctUids raw, outcome_parseUids raw, cleans_distinctUids raw, events_parseUids raw,
    fun _ => complaint?_eq_none_iff, ?_, ?_, ?_⟩
  · intro notice member
    obtain ⟨value, -, remarked⟩ := List.mem_filterMap.mp member
    exact level_of_complaint? remarked
  · intro others
    refine ⟨distinctUids others, outcome_parseUids others, ?_⟩
    rw [outcome_parseUids, distinctUids_append]
  · exact parseUids_texts (fun _ => isProper_of_mem_distinctUids) (nodup_distinctUids raw)

/-- An integer and its numeral name one contact; a flag, a list, and texts that are padded, broken or
reserved name nobody. -/
def oddEntries : List Value :=
  [.int 17, .bool true, .text "b", .text "17", .text " b", .text "a\nb", .text "uids", .null,
    .list [.text "c"], .text "b"]

theorem lists_are_cleaned_oddEntries :
    (parseUids oddEntries).outcome = .ok [⟨"17"⟩, ⟨"b"⟩] ∧
      Cleans oddEntries [⟨"17"⟩, ⟨"b"⟩] ∧
      (parseUids oddEntries).events.length = 6 ∧
      parseUids [.text "17", .text "b"] = pure [⟨"17"⟩, ⟨"b"⟩] := by
  obtain ⟨uids, read, cleans, remarks, -, -, -, again⟩ := lists_are_cleaned oddEntries
  have found : distinctUids oddEntries = [⟨"17"⟩, ⟨"b"⟩] := by decide +kernel
  have refused : (oddEntries.filterMap complaint?).length = 6 := by decide +kernel
  obtain rfl : uids = [⟨"17"⟩, ⟨"b"⟩] := by
    rw [outcome_parseUids, found] at read
    exact (Except.ok.inj read).symm
  refine ⟨read, cleans, ?_, again⟩
  rw [remarks, List.length_map, refused]

end Message

end PairedContacts
