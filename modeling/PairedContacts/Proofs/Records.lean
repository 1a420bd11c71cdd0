import Mathlib.Data.List.Basic
import PairedContacts.Proofs.Contacts.MergeGroup

/-!
# Merged records

A projection has a record for every wanted identity that some row carries.  In each column that is
asked for, the record has what the last row of the identity with something in that column has
there: a row without it does not erase it, and a later row with it does.  Nothing but the cells of
the rows of the identity shows in its record.
-/

set_option autoImplicit false

namespace PairedContacts

/-! ## Records over one another -/

theorem get?_foldl_putAll {column : String} {records : List Record}
    (once : ∀ record ∈ records, (KeyedList.keys record).Nodup) (start : Record) :
    KeyedList.get? (records.foldl KeyedList.putAll start) column =
      (records.filterMap fun record => KeyedList.get? record column).getLast?.or
        (KeyedList.get? start column) := by
  induction records generalizing start with
  | nil => rfl
  | cons record rest ih =>
      have later : ∀ other ∈ rest, (KeyedList.keys other).Nodup := by
        intro other member
        exact once other (List.mem_cons_of_mem _ member)
      rw [List.foldl_cons, ih later, KeyedList.get?_putAll (once record List.mem_cons_self),
        List.filterMap_cons]
      -- What this record has is kept only if no later one has something in the column.
      cases KeyedList.get? record column with
      | none => simp
      | some value =>
          cases last : (rest.filterMap fun other => KeyedList.get? other column).getLast? <;>
            simp [List.getLast?_cons, last]

theorem nodup_keys_foldl_putAll (records : List Record) {start : Record}
    (once : (KeyedList.keys start).Nodup) :
    (KeyedList.keys (records.foldl KeyedList.putAll start)).Nodup := by
  induction records generalizing start with
  | nil => exact once
  | cons record rest ih => exact ih (KeyedList.nodup_keys_putAll once record)

namespace Projection

/-- The record that has these contents in its columns. -/
def recordWith (columns : List String) (contents : List (Option ColumnValue)) : Record :=
  (columns.zip contents).foldl (fun record held => held.2.elim record (record.put held.1)) []

theorem recordOf_eq_recordWith {row : Row} (typed : row.isTyped = true) (columns : List String) :
    recordOf row columns = recordWith columns (columns.map row.content?) := by
  unfold recordOf recordWith
  rw [← List.map_prod_left_eq_zip, List.foldl_map]
  congr 1
  funext record column
  unfold enter
  rw [Row.cell?_of_isTyped typed]
  cases row.content? column <;> rfl

theorem nodup_keys_recordOf (row : Row) (columns : List String) :
    (KeyedList.keys (recordOf row columns)).Nodup := by
  have kept : ∀ (record : Record), (KeyedList.keys record).Nodup ->
      (KeyedList.keys (columns.foldl (enter row) record)).Nodup := by
    induction columns with
    | nil => exact fun record once => once
    | cons column rest ih =>
        intro record once
        apply ih
        unfold enter
        cases row.cell? column with
        | none => exact once
        | some value => exact KeyedList.nodup_keys_put once column value
  exact kept [] List.nodup_nil

/-- What the rows of an identity hold in the requested columns, row by row. -/
def holdings (selection : Selection) (rows : List Row) (uid : Uid) :
    List (List (Option ColumnValue)) :=
  (mergeGroup selection.lookupColumn rows uid).map fun row => selection.columns.map row.content?

def layer (known : Option Record) (record : Record) : Option Record :=
  some ((known.getD []).putAll record)

/-- The record of an identity, if there is a row of it: those of its rows, the later over the
earlier. -/
def merged (columns : List String) (holdings : List (List (Option ColumnValue))) :
    Option Record :=
  (holdings.map (recordWith columns)).foldl layer none

theorem foldl_layer (records : List Record) (known : Option Record) :
    records.foldl layer known =
      if records.isEmpty then known
      else some (records.foldl KeyedList.putAll (known.getD [])) := by
  induction records generalizing known with
  | nil => rfl
  | cons record rest ih =>
      rw [List.foldl_cons, ih]
      cases rest <;> simp [layer]

theorem eq_of_merged {columns : List String} {holdings : List (List (Option ColumnValue))}
    {record : Record} (found : merged columns holdings = some record) :
    record = (holdings.map (recordWith columns)).foldl KeyedList.putAll [] := by
  unfold merged at found
  rw [foldl_layer] at found
  split at found
  · cases found
  · exact (Option.some.inj found).symm

variable {selection : Selection} {rows : List Row} {uid : Uid}

theorem map_recordWith_holdings (typed : ∀ row ∈ rows, row.isTyped = true) :
    (holdings selection rows uid).map (recordWith selection.columns) =
      (mergeGroup selection.lookupColumn rows uid).map fun row =>
        recordOf row selection.columns := by
  unfold holdings
  rw [List.map_map]
  apply List.map_congr_left
  intro row inGroup
  exact (recordOf_eq_recordWith (typed row (mem_mergeGroup.mp inGroup).1) _).symm

/-- There is a record exactly if there is a row. -/
theorem exists_merged_iff :
    (∃ record, merged selection.columns (holdings selection rows uid) = some record) ↔
      ∃ row ∈ rows, row.identity selection.lookupColumn = .ok uid := by
  have inhabited : (∃ row ∈ rows, row.identity selection.lookupColumn = .ok uid) ↔
      mergeGroup selection.lookupColumn rows uid ≠ [] := by
    rw [ne_eq, List.eq_nil_iff_forall_not_mem]
    simp [mem_mergeGroup]
  rw [inhabited]
  unfold merged holdings
  rw [foldl_layer]
  cases mergeGroup selection.lookupColumn rows uid <;> simp

/-- A column of a record is that of the last row which has something in the column. -/
theorem get?_of_merged {record : Record} (typed : ∀ row ∈ rows, row.isTyped = true)
    (found : merged selection.columns (holdings selection rows uid) = some record)
    (column : String) :
    KeyedList.get? record column =
      if column ∈ selection.columns then
        ((mergeGroup selection.lookupColumn rows uid).filterMap fun row =>
          row.content? column).getLast?
      else none := by
  rw [eq_of_merged found, map_recordWith_holdings typed, get?_foldl_putAll, List.filterMap_map]
  · by_cases asked : column ∈ selection.columns
    · rw [if_pos asked, KeyedList.get?, Option.or_none]
      congr 1
      apply List.filterMap_congr
      intro row inGroup
      rw [Function.comp_apply, get?_recordOf, if_pos asked,
        Row.cell?_of_isTyped (typed row (mem_mergeGroup.mp inGroup).1)]
    · simp [get?_recordOf, asked, KeyedList.get?]
  · intro record member
    obtain ⟨row, -, rfl⟩ := List.mem_map.mp member
    exact nodup_keys_recordOf row selection.columns

/-! ## The records of a projection -/

def recordsOf (selection : Selection) (rows : List Row) : KeyedList Uid Record :=
  rows.foldl (turn selection merge) []

theorem outcome_records {access : Option Access} (selection : Selection)
    (opens : Access.opens access = true) (typed : ∀ row ∈ rows, row.isTyped = true) :
    (records (Source.ofRows rows) access selection).outcome = .ok (recordsOf selection rows) :=
  outcome_visitRows opens typed (fun _ _ _ => rfl) []

theorem get?_merge (records : KeyedList Uid Record) (uid other : Uid) (record : Record) :
    KeyedList.get? (merge records uid record) other =
      if other = uid then some (((records.get? uid).getD []).putAll record)
      else KeyedList.get? records other := by
  unfold merge
  rw [KeyedList.get?_put]

theorem nodup_keys_recordsOf (selection : Selection) (rows : List Row) :
    (KeyedList.keys (recordsOf selection rows)).Nodup := by
  refine foldl_turn_induction (fun records => (KeyedList.keys records).Nodup) ?_ rows List.nodup_nil
  intro records uid record once
  exact KeyedList.nodup_keys_put once uid _

/-- The records of some identities are those of all, less the others. -/
theorem recordsOf_eq_filter (selection : Selection) (rows : List Row) :
    recordsOf selection rows =
      (recordsOf { selection with wanted := none } rows).filter fun entry =>
        selection.wants entry.1 := by
  symm
  apply restrict_foldl_turn selection fun records : KeyedList Uid Record =>
    records.filter fun entry => selection.wants entry.1
  · intro records uid record wanted
    unfold merge
    rw [KeyedList.filter_put, if_pos wanted, KeyedList.get?_filter, if_pos wanted]
  · intro records uid record unwanted
    unfold merge
    rw [KeyedList.filter_put, unwanted]
    rfl

theorem get?_recordsOf (typed : ∀ row ∈ rows, row.isTyped = true) (uid : Uid) :
    KeyedList.get? (recordsOf selection rows) uid =
      if selection.wants uid then merged selection.columns (holdings selection rows uid)
      else none := by
  have own : ∀ (records : KeyedList Uid Record) (row : Row),
      KeyedList.get? (merge records uid (recordOf row selection.columns)) uid =
        (some (recordOf row selection.columns)).elim (KeyedList.get? records uid)
          (layer (KeyedList.get? records uid)) := by
    intro records row
    simp [get?_merge, layer]
  have frame : ∀ (records : KeyedList Uid Record) (other : Uid) (record : Record), other ≠ uid ->
      KeyedList.get? (merge records other record) uid = KeyedList.get? records uid := by
    intro records other record different
    simp [get?_merge, Ne.symm different]
  cases wanted : selection.wants uid with
  | false =>
      rw [recordsOf_eq_filter, KeyedList.get?_filter, wanted]
      rfl
  | true =>
      unfold recordsOf merged
      rw [view_foldl_turn (fun records : KeyedList Uid Record => KeyedList.get? records uid) layer
        own frame wanted, map_recordWith_holdings typed, if_pos rfl, ← List.filterMap_eq_map]
      rfl

/-- A column is in a record exactly if it is asked for and some row fills it. -/
theorem mem_keys_of_merged {record : Record} (typed : ∀ row ∈ rows, row.isTyped = true)
    (found : merged selection.columns (holdings selection rows uid) = some record)
    (column : String) :
    column ∈ KeyedList.keys record ↔ column ∈ selection.columns ∧
      ∃ row ∈ mergeGroup selection.lookupColumn rows uid, row.Fills column := by
  rw [← KeyedList.isSome_get?_iff, get?_of_merged typed found]
  by_cases asked : column ∈ selection.columns
  · have filled : ∀ row ∈ mergeGroup selection.lookupColumn rows uid,
        row.content? column ≠ none ↔ row.Fills column := by
      intro row inGroup
      rw [← Row.exists_content?_iff (typed row (mem_mergeGroup.mp inGroup).1),
        Option.ne_none_iff_exists']
    rw [if_pos asked, List.getLast?_isSome, ne_eq, List.filterMap_eq_nil_iff]
    simp only [not_forall, exists_prop, asked, true_and]
    exact exists_congr fun row => and_congr_right (filled row)
  · simp [asked]

theorem nodup_keys_of_merged {record : Record}
    (found : merged selection.columns (holdings selection rows uid) = some record) :
    (KeyedList.keys record).Nodup := by
  rw [eq_of_merged found]
  exact nodup_keys_foldl_putAll _ List.nodup_nil

/-- Over typed rows a projection gives one record for every wanted identity that some row carries,
and no other.  A record has a column exactly if it is asked for and some row of the identity has a
value under a known tag there, and has in it what the last of these rows has.  Over any other rows in
which those of the identity, one after another, hold the same in the columns asked for, the
record is the same: no other row and no other cell shows in it. -/
theorem last_row_wins_by_column {rows : List Row} {access : Option Access} (selection : Selection)
    (opens : Access.opens access = true) (typed : ∀ row ∈ rows, row.isTyped = true) :
    ∃ answer : KeyedList Uid Record,
      (records (Source.ofRows rows) access selection).outcome = .ok answer ∧
      (KeyedList.keys answer).Nodup ∧
      (∀ uid, uid ∈ KeyedList.keys answer ↔
        (∀ uids, selection.wanted = some uids -> uid ∈ uids) ∧
          ∃ row ∈ rows, row.identity selection.lookupColumn = .ok uid) ∧
      (∀ uid record, KeyedList.get? answer uid = some record ->
        (KeyedList.keys record).Nodup ∧
        (∀ column, column ∈ KeyedList.keys record ↔ column ∈ selection.columns ∧
          ∃ row ∈ mergeGroup selection.lookupColumn rows uid, row.Fills column) ∧
        ∀ column ∈ selection.columns, KeyedList.get? record column =
          ((mergeGroup selection.lookupColumn rows uid).filterMap fun row =>
            row.content? column).getLast?) ∧
      ∀ (uid : Uid) (others : List Row), (∀ row ∈ others, row.isTyped = true) ->
        holdings selection others uid = holdings selection rows uid ->
        ∃ other : KeyedList Uid Record,
          (records (Source.ofRows others) access selection).outcome = .ok other ∧
            KeyedList.get? other uid = KeyedList.get? answer uid := by
  refine ⟨_, outcome_records selection opens typed, nodup_keys_recordsOf selection rows,
    ?_, ?_, ?_⟩
  · intro uid
    rw [← Selection.wants_iff, ← exists_merged_iff, ← KeyedList.isSome_get?_iff,
      get?_recordsOf typed, Option.isSome_iff_exists]
    cases selection.wants uid <;> simp
  · intro uid record found
    rw [get?_recordsOf typed] at found
    split at found
    · refine ⟨nodup_keys_of_merged found, mem_keys_of_merged typed found, ?_⟩
      intro column asked
      rw [get?_of_merged typed found, if_pos asked]
    · cases found
  · intro uid others othersTyped same
    refine ⟨_, outcome_records selection opens othersTyped, ?_⟩
    rw [get?_recordsOf othersTyped, get?_recordsOf typed, same]

/-- Two rows of one contact around a row of another and a row of nobody: the later row changes the
name, has nothing for the phone and a picture under an unknown tag. -/
def renamedRows : List Row :=
  [[("lookup_key", ⟨some "text", .text "alice"⟩), ("name", ⟨some "text", .text "Al"⟩),
      ("phone", ⟨some "text", .text "12"⟩)],
    [("lookup_key", ⟨some "text", .text "bob"⟩), ("phone", ⟨some "text", .text "34"⟩)],
    [("name", ⟨some "text", .text "Nobody"⟩)],
    [("lookup_key", ⟨some "text", .text "alice"⟩), ("name", ⟨some "text", .text "Alice"⟩),
      ("phone", ⟨some "text", .null⟩), ("photo", ⟨some "picture", .blob [1]⟩)]]

def aliceSelection : Selection where
  table := "raw_contacts"
  lookupColumn := "lookup_key"
  columns := ["name", "phone", "photo"]
  wanted := some [⟨"alice"⟩]

theorem last_row_wins_by_column_renamedRows :
    Access.opens (Access.grant true) = true ∧ (∀ row ∈ renamedRows, row.isTyped = true) ∧
      ∃ answer record,
        (records (Source.ofRows renamedRows) (Access.grant true) aliceSelection).outcome =
          .ok answer ∧
        ⟨"bob"⟩ ∉ KeyedList.keys answer ∧
        KeyedList.get? answer ⟨"alice"⟩ = some record ∧
        KeyedList.get? record "name" = some (.text "Alice") ∧
        KeyedList.get? record "phone" = some (.text "12") ∧
        KeyedList.get? record "photo" = none := by
  have opens : Access.opens (Access.grant true) = true := rfl
  have typed : ∀ row ∈ renamedRows, row.isTyped = true := by decide
  obtain ⟨answer, given, -, carried, shown, -⟩ :=
    last_row_wins_by_column aliceSelection opens typed
  have known : ⟨"alice"⟩ ∈ KeyedList.keys answer := by
    refine (carried _).mpr ⟨?_, _, List.mem_cons_self, rfl⟩
    rintro _ ⟨⟩
    exact List.mem_cons_self
  have unknown : ⟨"bob"⟩ ∉ KeyedList.keys answer := by
    intro member
    exact absurd (((carried _).mp member).1 [⟨"alice"⟩] rfl) (by decide)
  obtain ⟨record, found⟩ :=
    Option.isSome_iff_exists.mp (KeyedList.isSome_get?_iff.mpr known)
  obtain ⟨-, -, columns⟩ := shown _ record found
  refine ⟨opens, typed, answer, record, given, unknown, found, ?_, ?_, ?_⟩
  · rw [columns "name" (by decide)]
    decide +kernel
  · rw [columns "phone" (by decide)]
    decide +kernel
  · rw [columns "photo" (by decide)]
    decide +kernel

end Projection

end PairedContacts
