import PairedContacts.Proofs.Contacts.Cards

/-!
# Bad rows

Whatever is in the rows of a table, a reading passes over the rows that carry no identity and leaves
out the cells that cannot be read; its result is that of the table tidied of both.  Two kinds of
numbers it cannot get past: one that the type of its cell cannot hold, in a cell that is asked for,
and the newest timestamp of a record that has too many digits for a footer.
-/

set_option autoImplicit false

namespace PairedContacts

namespace Row

/-- A row without the cells that cannot be read; the cell that identifies the row stays. -/
def legible (lookupColumn : String) (row : Row) : Row :=
  row.filter fun entry => entry.1 = lookupColumn || (row.read entry.1).toBool

variable {lookupColumn : String} {row : Row}

theorem get?_legible (lookupColumn : String) (row : Row) (column : String) :
    KeyedList.get? (row.legible lookupColumn) column =
      if column = lookupColumn || (row.read column).toBool then KeyedList.get? row column
      else none :=
  KeyedList.get?_filter (fun name => name = lookupColumn || (row.read name).toBool) row column

theorem get?_legible_lookup :
    KeyedList.get? (row.legible lookupColumn) lookupColumn = KeyedList.get? row lookupColumn := by
  rw [get?_legible, decide_eq_true rfl, Bool.true_or, if_pos rfl]

theorem identity_legible :
    (row.legible lookupColumn).identity lookupColumn = row.identity lookupColumn := by
  rw [identity, identity, tag?, tag?, value, value, get?_legible_lookup]

theorem read_congr {other : Row} {column : String}
    (same : KeyedList.get? other column = KeyedList.get? row column) :
    other.read column = row.read column := by
  rw [read, read, tag?, tag?, value, value, same]

/-- A cell is as it was, or it could not be read and is gone. -/
theorem read_legible (lookupColumn : String) (row : Row) (column : String) :
    (row.legible lookupColumn).read column = row.read column ∨
      (∃ fault, row.read column = .error fault) ∧
        (row.legible lookupColumn).read column = .ok none := by
  have found := get?_legible lookupColumn row column
  cases read : row.read column with
  | ok value =>
      rw [if_pos (by simp [read, Except.toBool])] at found
      exact .inl ((read_congr found).trans read)
  | error fault =>
      by_cases own : column = lookupColumn
      · rw [if_pos (by simp [own])] at found
        exact .inl ((read_congr found).trans read)
      · rw [if_neg (by simp [own, read, Except.toBool])] at found
        refine .inr ⟨⟨fault, rfl⟩, ?_⟩
        rw [Row.read, tag?, found]
        rfl

theorem cell?_legible (lookupColumn : String) (row : Row) (column : String) :
    (row.legible lookupColumn).cell? column = row.cell? column := by
  rw [cell?, cell?]
  rcases read_legible lookupColumn row column with same | ⟨⟨fault, fails⟩, gone⟩
  · rw [same]
  · rw [fails, gone]
    rfl

theorem failure?_legible {column : String} (readable : row.failure? column = none) :
    (row.legible lookupColumn).failure? column = none := by
  rw [failure?_eq_none_iff] at readable ⊢
  rcases read_legible lookupColumn row column with same | ⟨-, gone⟩
  · rwa [same]
  · simp [gone]

end Row

/-- The rows of a table that carry an identity, each without the cells that cannot be read. -/
def tidy (lookupColumn : String) (rows : List Row) : List Row :=
  (rows.filter fun row => (row.identity lookupColumn).toBool).map (Row.legible lookupColumn)

namespace Projection

variable {selection : Selection} {σ : Type} {step : σ -> Uid -> Record -> σ} {rows : List Row}

theorem pairOf_legible (row : Row) :
    pairOf selection (row.legible selection.lookupColumn) = pairOf selection row := by
  have records : recordOf (row.legible selection.lookupColumn) selection.columns =
      recordOf row selection.columns := by
    have enters : enter (row.legible selection.lookupColumn) = enter row := by
      funext record column
      rw [enter, enter, Row.cell?_legible]
    rw [recordOf, recordOf, enters]
  rw [pairOf, pairOf, Row.identity_legible, records]

theorem filterMap_pairOf_tidy (selection : Selection) (rows : List Row) :
    (tidy selection.lookupColumn rows).filterMap (pairOf selection) =
      rows.filterMap (pairOf selection) := by
  induction rows with
  | nil => rfl
  | cons row rest ih =>
      rw [tidy] at ih ⊢
      rw [List.filter_cons, List.filterMap_cons]
      cases carried : row.identity selection.lookupColumn with
      | error fault =>
          have none : pairOf selection row = none := by rw [pairOf, carried]
          rw [if_neg (by simp [Except.toBool]), ih, none]
      | ok uid =>
          rw [if_pos (by simp [Except.toBool]), List.map_cons, List.filterMap_cons, pairOf_legible,
            ih]

theorem foldl_turn (start : σ) : rows.foldl (turn selection step) start =
    (rows.filterMap (pairOf selection)).foldl (fun state pair => step state pair.1 pair.2)
      start := by
  induction rows generalizing start with
  | nil => rfl
  | cons row rest ih =>
      rw [List.foldl_cons, ih, turn, List.filterMap_cons]
      cases pairOf selection row <;> rfl

theorem foldl_turn_tidy (start : σ) :
    (tidy selection.lookupColumn rows).foldl (turn selection step) start =
      rows.foldl (turn selection step) start := by
  rw [foldl_turn, foldl_turn, filterMap_pairOf_tidy]

theorem findSome?_failure?_tidy (readable : rows.findSome? (failure? selection) = none) :
    (tidy selection.lookupColumn rows).findSome? (failure? selection) = none := by
  rw [List.findSome?_eq_none_iff] at readable ⊢
  intro tidied member
  obtain ⟨row, held, rfl⟩ := List.mem_map.mp member
  have read := readable row (List.mem_filter.mp held).1
  rw [failure?] at read ⊢
  rw [Row.identity_legible]
  cases carried : row.identity selection.lookupColumn with
  | error fault => rfl
  | ok uid =>
      rw [carried] at read
      simp only [Except.toOption, Option.bind_some] at read ⊢
      by_cases wanted : selection.wants uid = true
      · rw [if_pos wanted, List.findSome?_eq_none_iff] at read ⊢
        exact fun column asked => Row.failure?_legible (read column asked)
      · rw [if_neg wanted]

end Projection

namespace MergeGroup

variable {layout : Layout} {rows : List Row}

-- What a merge group says is what a manifest or a collection over the rows finds, and their folds are
-- known to be the same for the tidied rows.
theorem newest_tidy (uid : Uid) :
    newest layout (tidy layout.lookup rows) uid = newest layout rows uid := by
  have manifests : Manifest.ofRows layout none (tidy layout.lookup rows) =
      Manifest.ofRows layout none rows :=
    Projection.foldl_turn_tidy []
  rw [← Manifest.get?_ofRows_all, ← Manifest.get?_ofRows_all, manifests]

theorem lastText_tidy (uid : Uid) :
    lastText layout (tidy layout.lookup rows) uid = lastText layout rows uid := by
  have findings : Cards.findingsOf layout [uid] (tidy layout.lookup rows) =
      Cards.findingsOf layout [uid] rows :=
    Projection.foldl_turn_tidy (Cards.Findings.mk [] [])
  have wanted : uid ∈ [uid] := List.mem_singleton_self uid
  rw [← Cards.get?_texts_findingsOf wanted, ← Cards.get?_texts_findingsOf wanted, findings]

theorem card_tidy (sender : Sender) :
    card layout sender (tidy layout.lookup rows) = card layout sender rows := by
  funext uid
  rw [card, card, newest_tidy, lastText_tidy]

end MergeGroup

theorem Cards.failure?_tidy (layout : Layout) (rows : List Row) :
    Cards.failure? layout (tidy layout.lookup rows) = Cards.failure? layout rows := by
  funext uid
  rw [Cards.failure?, Cards.failure?, MergeGroup.newest_tidy, MergeGroup.lastText_tidy]

/-! ## Results -/

/-- What an operation makes of the rows of a source, bad ones among them: it fails as foretold, or
it gives the result that it gives for the tidied rows. -/
structure Contains {α : Type} (operation : Source -> Run α) (lookupColumn : String)
    (rows : List Row) (failure? : Option Failure) (result : α) : Prop where
  ends : ∀ source : Source, source.Gives rows ->
    (operation source).outcome = failure?.elim (.ok result) .error
  tidied : failure? = none -> ∀ source : Source, source.Gives (tidy lookupColumn rows) ->
    (operation source).outcome = .ok result

theorem Projection.contains_visitRows {σ : Type} {visit : σ -> Uid -> Record -> Run σ}
    {step : σ -> Uid -> Record -> σ} {access : Option Access} (selection : Selection)
    (opens : Access.opens access = true)
    (steps : ∀ state uid record, (visit state uid record).outcome = .ok (step state uid record))
    (start : σ) (rows : List Row) :
    Contains (fun source => visitRows source access selection visit start) selection.lookupColumn
      rows (rows.findSome? (failure? selection)) (rows.foldl (turn selection step) start) where
  ends source gives := outcome_visitRows_any opens gives steps start
  tidied readable source gives := by
    rw [outcome_visitRows_any opens gives steps, findSome?_failure?_tidy readable, foldl_turn_tidy]
    rfl

theorem Projection.contains_rows {access : Option Access} (selection : Selection)
    (opens : Access.opens access = true) (rows : List Row) :
    Contains (fun source => Projection.rows source access selection) selection.lookupColumn rows
      (rows.findSome? (failure? selection)) (rows.filterMap (pairOf selection)) := by
  have all : rows.foldl (turn selection fun pairs uid record => pairs ++ [(uid, record)]) [] =
      rows.filterMap (pairOf selection) := by
    rw [foldl_turn, List.foldl_append_eq_append, List.nil_append, ← List.flatMap_def]
    exact List.flatMap_singleton' _
  rw [← all]
  exact contains_visitRows selection opens (fun _ _ _ => rfl) [] rows

theorem Projection.contains_records {access : Option Access} (selection : Selection)
    (opens : Access.opens access = true) (rows : List Row) :
    Contains (fun source => Projection.records source access selection) selection.lookupColumn rows
      (rows.findSome? (failure? selection))
      ((rows.filterMap (pairOf selection)).foldl (fun known pair => merge known pair.1 pair.2)
        []) := by
  rw [← foldl_turn]
  exact contains_visitRows selection opens (fun _ _ _ => rfl) [] rows

theorem Cards.contains_collect {access : Option Access} (layout : Layout) {sender : Sender}
    (opens : Access.opens access = true)
    (admitted : VCard.admitsDevice sender.deviceId.toList = true) (uids : List Uid)
    (rows : List Row) :
    Contains (fun source => collect source access layout sender uids) layout.lookup rows
      ((rows.findSome? (Projection.failure? (selection layout uids))).or
        (uids.findSome? (failure? layout rows)))
      (uids.foldl (add (MergeGroup.card layout sender rows)) []) where
  ends source gives := outcome_collect_any opens gives admitted uids
  tidied succeeds source gives := by
    obtain ⟨readable, writable⟩ := Option.or_eq_none_iff.mp succeeds
    have tidyReadable := Projection.findSome?_failure?_tidy readable
    rw [outcome_collect_any opens gives admitted, Cards.failure?_tidy, MergeGroup.card_tidy,
      writable]
    rw [show (selection layout uids).lookupColumn = layout.lookup from rfl] at tidyReadable
    rw [tidyReadable]
    rfl

/-- Rows with any cells are read as if the bad ones were not there: a projection gives the records
of the rows that carry an identity, a manifest their timestamps and a collection the vCards of their
merge groups.  What keeps an operation from its result is a number out of the range of the type of a
wanted cell, and in a collection a timestamp with too many digits for the footer. -/
theorem bad_rows_stay_contained {access : Option Access} {sender : Sender}
    (opens : Access.opens access = true)
    (admitted : VCard.admitsDevice sender.deviceId.toList = true) (rows : List Row) :
    (∀ selection : Selection,
      Contains (fun source => Projection.rows source access selection) selection.lookupColumn rows
        (rows.findSome? (Projection.failure? selection))
        (rows.filterMap (Projection.pairOf selection))) ∧
    (∀ selection : Selection,
      Contains (fun source => Projection.records source access selection) selection.lookupColumn
        rows (rows.findSome? (Projection.failure? selection))
        ((rows.filterMap (Projection.pairOf selection)).foldl
          (fun known pair => Projection.merge known pair.1 pair.2) [])) ∧
    (∀ (layout : Layout) (wanted : Option (List Uid)),
      Contains (fun source => Manifest.build source access layout wanted) layout.lookup rows
        (rows.findSome? (Projection.failure? (Manifest.selection layout wanted)))
        (Manifest.ofRows layout wanted rows)) ∧
    ∀ (layout : Layout) (uids : List Uid),
      Contains (fun source => Cards.collect source access layout sender uids) layout.lookup rows
        ((rows.findSome? (Projection.failure? (Cards.selection layout uids))).or
          (uids.findSome? (Cards.failure? layout rows)))
        (uids.foldl (Cards.add (MergeGroup.card layout sender rows)) []) := by
  refine ⟨?_, ?_, ?_, ?_⟩
  · intro selection
    exact Projection.contains_rows selection opens rows
  · intro selection
    exact Projection.contains_records selection opens rows
  · intro layout wanted
    exact Projection.contains_visitRows (Manifest.selection layout wanted) opens
      (Manifest.outcome_visit layout) [] rows
  · intro layout uids
    exact Cards.contains_collect layout opens admitted uids rows

/-- A row whose timestamp is a NaN, one without an identity, one whose identity is a list, and the
row of a contact with a timestamp and with a cell of an unknown type. -/
def spoiltRows : List Row :=
  [[("lookup_key", ⟨some "text", .text "a"⟩),
    ("last_updated_timestamp", ⟨some "integer", .real ⟨0x7FF8000000000000⟩⟩)],
   [("last_updated_timestamp", ⟨some "integer", .int 4⟩)],
   [("lookup_key", ⟨some "text", .list []⟩)],
   [("lookup_key", ⟨some "text", .text "b"⟩),
    ("vcard", ⟨some "cord", .text "x"⟩),
    ("last_updated_timestamp", ⟨some "integer", .int 5⟩)]]

/-- A row whose timestamp is an infinity. -/
def infiniteRow : Row :=
  [("lookup_key", ⟨some "text", .text "c"⟩),
   ("last_updated_timestamp", ⟨some "integer", .real ⟨0x7FF0000000000000⟩⟩)]

theorem bad_rows_stay_contained_spoiltRows :
    (Manifest.build (Source.ofRows spoiltRows) (Access.grant true) .standard none).outcome =
        .ok [(⟨"b"⟩, 5)] ∧
      (Manifest.build (Source.ofRows (infiniteRow :: spoiltRows)) (Access.grant true) .standard
        none).outcome = .error (.cell .overflow) := by
  have opens : Access.opens (Access.grant true) = true := by decide
  have admitted : VCard.admitsDevice (Sender.mk "phone" "x").deviceId.toList = true := by decide
  have contained := bad_rows_stay_contained opens admitted
  constructor
  · rw [((contained spoiltRows).2.2.1 .standard none).ends _ (Source.ofRows_gives _)]
    rfl
  · rw [((contained (infiniteRow :: spoiltRows)).2.2.1 .standard none).ends _
      (Source.ofRows_gives _)]
    rfl

end PairedContacts
