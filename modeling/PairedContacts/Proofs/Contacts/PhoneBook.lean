import PairedContacts.Proofs.Bytes.Base64
import PairedContacts.Proofs.Contacts.QueryDiscipline

/-!
# Who owns a number

A lookup is answered by the first row, in the order of the rows, whose phone is the normal form of the
number: by its name if that is a text, and by its photo in base64 if that has any bytes.  Rows behind
it do not show.  Of a number only its normal form counts, and a source that is not available knows
nobody.
-/

set_option autoImplicit false

namespace PairedContacts

theorem Value.agrees_text_iff {value : Value} {s : String} :
    value.agrees (.text s) = true ↔ value = .text s := by
  cases value <;> simp [agrees, whole?]

namespace PhoneBook

/-- The first of some rows that has a number in its phone column. -/
def IsFirstMatch (layout : Layout) (rows : List Row) (number : String) (row : Row) : Prop :=
  ∃ before behind, rows = before ++ row :: behind ∧ row.value layout.phone = .text number ∧
    ∀ other ∈ before, other.value layout.phone ≠ .text number

/-- What an entry tells of a row: the name if it is a text, and the photo if it has any bytes, as a
text in base64 that stands for just these bytes. -/
structure Entry.Tells (entry : Entry) (layout : Layout) (row : Row) : Prop where
  name : ∀ name, entry.name = some name ↔ row.content? layout.displayName = some (.text name)
  hasPhoto : (∃ shown, entry.photo = some shown) ↔
    ∃ bytes, bytes ≠ [] ∧ row.content? layout.photo = some (.blob bytes)
  photo : ∀ shown, entry.photo = some shown -> ∃ bytes,
    row.content? layout.photo = some (.blob bytes) ∧ Base64.decode? shown.toList = some bytes

variable {source : Source} {access : Option Access} {layout : Layout} {number : String}
variable {rows : List Row} {row : Row}

/-! ## The rows with a number -/

theorem meets_query_iff :
    row.meets (query layout number).filter = true ↔ row.value layout.phone = .text number := by
  simp [Row.meets, query, Value.agrees_text_iff]

theorem select_of_firstMatch (found : IsFirstMatch layout rows number row) :
    ∃ behind, (Source.ofRows rows).select (query layout number) = .ok (row :: behind) := by
  obtain ⟨before, behind, rfl, here, notBefore⟩ := found
  refine ⟨behind.filter fun other => other.meets (query layout number).filter, ?_⟩
  have passed : before.filter (fun other => other.meets (query layout number).filter) = [] := by
    rw [List.filter_eq_nil_iff]
    intro other member met
    exact notBefore other member (meets_query_iff.mp met)
  show Except.ok ((before ++ row :: behind).filter _) = _
  rw [List.filter_append, passed, List.nil_append, List.filter_cons,
    if_pos (meets_query_iff.mpr here)]

theorem select_of_noMatch (missing : ∀ row ∈ rows, row.value layout.phone ≠ .text number) :
    (Source.ofRows rows).select (query layout number) = .ok [] := by
  have none : rows.filter (fun row => row.meets (query layout number).filter) = [] := by
    rw [List.filter_eq_nil_iff]
    intro row member met
    exact missing row member (meets_query_iff.mp met)
  exact congrArg Except.ok none

/-! ## The entry of a row -/

/-- The entry that a typed row answers with. -/
def entryFor (layout : Layout) (row : Row) : Entry :=
  entryOf layout (Projection.recordOf row [layout.displayName, layout.photo])

theorem outcome_firstEntry (typed : row.isTyped = true) (behind : List Row) :
    (firstEntry layout (row :: behind)).outcome = .ok (entryFor layout row) := by
  have read : (Projection.readRecord row [layout.displayName, layout.photo]).outcome =
      .ok (Projection.recordOf row [layout.displayName, layout.photo]) := by
    rw [Projection.outcome_readRecord]
    simp [Row.failure?_of_isTyped typed]
  unfold firstEntry
  rw [Run.outcome_bind_ok read]
  rfl

theorem name_entryFor (typed : row.isTyped = true) (layout : Layout) :
    (entryFor layout row).name =
      (row.content? layout.displayName).bind ColumnValue.text? := by
  simp [entryFor, entryOf, Projection.get?_recordOf, Row.cell?_of_isTyped typed]

theorem photo_entryFor (typed : row.isTyped = true) (layout : Layout) :
    (entryFor layout row).photo =
      ((row.content? layout.photo).bind ColumnValue.blob?).bind fun bytes =>
        if bytes.isEmpty then none else some (encodePhoto bytes) := by
  simp [entryFor, entryOf, Projection.get?_recordOf, Row.cell?_of_isTyped typed]

theorem decode?_encodePhoto (bytes : List UInt8) :
    Base64.decode? (encodePhoto bytes).toList = some bytes := by
  unfold encodePhoto
  rw [String.toList_ofList, Base64.decode?_encode]

theorem tells_entryFor (typed : row.isTyped = true) (layout : Layout) :
    (entryFor layout row).Tells layout row where
  name := by
    intro name
    rw [name_entryFor typed]
    cases row.content? layout.displayName with
    | none => simp
    | some content => cases content <;> simp [ColumnValue.text?]
  hasPhoto := by
    rw [photo_entryFor typed]
    cases row.content? layout.photo with
    | none => simp
    | some content => cases content <;> simp [ColumnValue.blob?]
  photo := by
    intro shown told
    rw [photo_entryFor typed] at told
    obtain ⟨bytes, held, told⟩ := Option.bind_eq_some_iff.mp told
    obtain ⟨content, read, blob⟩ := Option.bind_eq_some_iff.mp held
    cases content with
    | blob own =>
        obtain rfl := Option.some.inj blob
        split at told
        · cases told
        · obtain rfl := Option.some.inj told
          exact ⟨own, read, decode?_encodePhoto own⟩
    | _ => cases blob

/-! ## Lookups -/

/-- What a lookup makes of the outcome of its reading. -/
def recovered : Except Failure Entry -> Except Failure Entry
  | .ok entry => .ok entry
  | .error failure =>
      if failure.kind = .sourceUnavailable then .ok .blank else .error failure

theorem outcome_lookup (opens : Access.opens access = true) (source : Source) (layout : Layout)
    (number : String) :
    (lookup source access layout number).outcome =
      if normalize number = "" then .ok .blank
      else recovered
        (source.reading (query layout (normalize number)) (firstEntry layout)).outcome := by
  rw [lookup, Access.demand_of_opens opens, pure_bind]
  dsimp only
  by_cases empty : normalize number = ""
  · rw [empty]
    rfl
  · have notEmpty : (normalize number).isEmpty = false := by simpa using empty
    rw [notEmpty, if_neg Bool.false_ne_true, if_neg empty]
    cases ended :
        (source.reading (query layout (normalize number)) (firstEntry layout)).outcome with
    | ok entry =>
        rw [Run.tryCatch_ok (Run.outcome_bind_ok ended _),
          Run.outcome_bind_ok (Run.outcome_bind_ok ended _)]
        rfl
    | error failure =>
        rw [Run.bind_error ended, Run.tryCatch_error rfl, recovered]
        by_cases unavailable : failure.kind = .sourceUnavailable
        · rw [if_pos unavailable, if_pos unavailable]
          rfl
        · rw [if_neg unavailable, if_neg unavailable]
          rfl

theorem queries_lookup (opens : Access.opens access = true) (source : Source) (layout : Layout)
    (number : String) :
    (lookup source access layout number).queries =
      if normalize number = "" then [] else [query layout (normalize number)] := by
  have dealt : (lookup source access layout number).dealings = _ :=
    dealings_lookup opens layout number
  by_cases empty : normalize number = ""
  · rw [if_pos empty]
    rw [if_pos (by simp [empty])] at dealt
    exact Run.queries_of_dealings dealt
  · rw [if_neg empty]
    rw [if_neg (by simpa using empty)] at dealt
    exact Run.queries_of_dealings (dealt.trans (List.flatMap_singleton _ _).symm)

/-- With access a lookup depends on a number by its normal form alone, and asks the source once
for that form, or not at all if nothing is left of the number.  Over the rows of a source it is
answered by the first row that has the normal form as its phone, wherever in a table this row comes
first, and the answer tells the name and the photo of this row; without such a row, without a normal
form and from a source that is not available there is nothing in the answer. -/
theorem first_match_answers (layout : Layout) (opens : Access.opens access = true) :
    (∀ row : Row, row.isTyped = true -> ∃ entry : Entry, entry.Tells layout row ∧
      ∀ (rows : List Row) (number : String), normalize number ≠ "" ->
        IsFirstMatch layout rows (normalize number) row ->
        (lookup (Source.ofRows rows) access layout number).outcome = .ok entry) ∧
    (∀ (rows : List Row) (number : String),
      (∀ row ∈ rows, row.value layout.phone ≠ .text (normalize number)) ->
      (lookup (Source.ofRows rows) access layout number).outcome = .ok .blank) ∧
    ∀ (source : Source) (number : String),
      (normalize number = "" -> (lookup source access layout number).outcome = .ok .blank) ∧
      (∀ failure, source.select (query layout (normalize number)) = .error failure ->
        failure.kind = .sourceUnavailable ->
        (lookup source access layout number).outcome = .ok .blank) ∧
      (lookup source access layout number).queries =
        (if normalize number = "" then [] else [query layout (normalize number)]) ∧
      ∀ other, normalize other = normalize number ->
        lookup source access layout other = lookup source access layout number := by
  refine ⟨?_, ?_, ?_⟩
  · intro row typed
    refine ⟨entryFor layout row, tells_entryFor typed layout, ?_⟩
    intro rows number given found
    obtain ⟨behind, selected⟩ := select_of_firstMatch found
    rw [outcome_lookup opens, if_neg given, Source.reading, selected]
    exact congrArg recovered (outcome_firstEntry typed behind)
  · intro rows number missing
    rw [outcome_lookup opens, Source.reading, select_of_noMatch missing]
    split <;> rfl
  · intro source number
    refine ⟨?_, ?_, queries_lookup opens source layout number, ?_⟩
    · intro empty
      rw [outcome_lookup opens, if_pos empty]
    · intro failure refused unavailable
      have failed : (throw failure : Run Entry).outcome = .error failure := rfl
      rw [outcome_lookup opens, Source.reading, refused, failed, recovered, if_pos unavailable]
      split <;> rfl
    · intro other same
      unfold lookup
      rw [same]

/-- The row of another number, and two rows of one number, with a name that is no text behind. -/
def twoOwners : List Row :=
  [[("phone_number", ⟨some "text", .text "12"⟩), ("display_name", ⟨some "text", .text "Bob"⟩)],
    [("phone_number", ⟨some "text", .text "+12"⟩), ("display_name", ⟨some "text", .text "Alice"⟩),
      ("photo", ⟨some "blob", .blob [1, 255]⟩)],
    [("phone_number", ⟨some "text", .text "+12"⟩), ("display_name", ⟨some "blob", .blob [65]⟩)]]

theorem first_match_answers_twoOwners :
    (∃ entry : Entry,
      (lookup (Source.ofRows twoOwners) (Access.grant true) .standard " +1 (2)").outcome =
        .ok entry ∧
      entry.name = some "Alice" ∧
      ∃ shown, entry.photo = some shown ∧ Base64.decode? shown.toList = some [1, 255]) ∧
    (lookup (Source.ofRows twoOwners) (Access.grant true) .standard "+3").outcome =
      .ok .blank ∧
    (lookup (Source.refusing (.noTable "raw_contacts")) (Access.grant true) .standard
      "+12").outcome = .ok .blank ∧
    lookup (Source.ofRows twoOwners) (Access.grant true) .standard "+1-2" =
      lookup (Source.ofRows twoOwners) (Access.grant true) .standard " +1 (2)" := by
  have opens : Access.opens (Access.grant true) = true := rfl
  have form : normalize " +1 (2)" = "+12" := by decide +kernel
  have otherForm : normalize "+3" = "+3" := by decide +kernel
  obtain ⟨matched, missed, always⟩ := first_match_answers .standard opens
  refine ⟨?_, ?_, ?_, ?_⟩
  · obtain ⟨entry, tells, answered⟩ := matched twoOwners[1] (by decide)
    have found : IsFirstMatch .standard twoOwners (normalize " +1 (2)") twoOwners[1] := by
      rw [form]
      refine ⟨[twoOwners[0]], [twoOwners[2]], rfl, rfl, ?_⟩
      simp [twoOwners, Row.value, KeyedList.get?, Layout.standard]
    refine ⟨entry, answered twoOwners _ (by rw [form]; decide) found, (tells.name _).mpr rfl, ?_⟩
    obtain ⟨shown, told⟩ := tells.hasPhoto.mpr ⟨[1, 255], by decide, rfl⟩
    obtain ⟨bytes, held, read⟩ := tells.photo shown told
    obtain rfl : [1, 255] = bytes := ColumnValue.blob.inj (Option.some.inj held)
    exact ⟨shown, told, read⟩
  · apply missed
    rw [otherForm]
    simp [twoOwners, Row.value, KeyedList.get?, Layout.standard]
  · exact (always _ "+12").2.1 (.noTable "raw_contacts") rfl rfl
  · exact (always _ " +1 (2)").2.2.2 "+1-2" (by rw [form]; decide +kernel)

end PhoneBook

end PairedContacts
