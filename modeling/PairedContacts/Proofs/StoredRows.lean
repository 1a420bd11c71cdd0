import Mathlib.Data.List.Basic
import Mathlib.Data.List.Nodup
import PairedContacts.Proofs.Contacts.Containment
import PairedContacts.Proofs.Contacts.Precedence

/-!
# Stored rows

A table without a column called `rowid` is read as its rows in memory are, in the order of their
numbers and each cell tagged with the type that it is stored as.  A query asks for each column once,
only for those that the table has, and gives nothing at all if it has none of them; but the pairs
that a projection reads are the same.  However a table is filled, no two of its rows have one number,
so there is one such order.
-/

set_option autoImplicit false

namespace PairedContacts

namespace StoredTable

/-- The row as a row in memory: all its columns, each cell with the type it is stored as. -/
def inMemory (table : StoredTable) (row : StoredRow) : Row :=
  (table.named row).map fun column => (column.1, column.2.toCell)

theorem isTyped_inMemory (table : StoredTable) (row : StoredRow) :
    (table.inMemory row).isTyped = true := by
  rw [Row.isTyped, List.all_eq_true]
  intro entry member
  obtain ⟨column, -, rfl⟩ := List.mem_map.mp member
  exact Stored.isTyped_toCell column.2

/-! ## The numbers of the rows -/

/-- No two rows have one number. -/
def IsNumbered (table : StoredTable) : Prop :=
  (table.rows.map StoredRow.number).Nodup

theorem isNumbered_empty (name : String) (columns : List TableColumn) :
    (empty name columns).IsNumbered :=
  List.nodup_nil

theorem le_foldl_max (numbers : List Int) (greatest : Int) :
    greatest ≤ numbers.foldl max greatest ∧ ∀ n ∈ numbers, n ≤ numbers.foldl max greatest := by
  induction numbers generalizing greatest with
  | nil => simp
  | cons first rest ih =>
      obtain ⟨above, others⟩ := ih (max greatest first)
      rw [List.foldl_cons]
      refine ⟨by omega, fun n member => ?_⟩
      rcases List.mem_cons.mp member with rfl | later
      · omega
      · exact others n later

theorem lt_nextNumber {table : StoredTable} {row : StoredRow} (member : row ∈ table.rows) :
    row.number < table.nextNumber := by
  have listed : row.number ∈ table.rows.map StoredRow.number := List.mem_map_of_mem member
  rw [nextNumber]
  cases numbers : table.rows.map StoredRow.number with
  | nil =>
      rw [numbers] at listed
      cases listed
  | cons first rest =>
      rw [numbers] at listed
      obtain ⟨above, others⟩ := le_foldl_max rest first
      rcases List.mem_cons.mp listed with same | later
      · simp only
        omega
      · exact Int.lt_add_one_of_le (others _ later)

theorem numberFor_fresh {table : StoredTable} {given : Stored} {number : Int}
    (chosen : table.numberFor given = .ok number) :
    number ∉ table.rows.map StoredRow.number := by
  intro taken
  obtain ⟨row, member, same⟩ := List.mem_map.mp taken
  unfold numberFor at chosen
  split at chosen
  · cases chosen
    exact absurd same (Int.ne_of_lt (lt_nextNumber member))
  · split at chosen
    · cases chosen
    · rename_i free
      cases chosen
      exact free (List.any_eq_true.mpr ⟨row, member, by simp [same]⟩)
  · cases chosen

/-- A row that is stored gets a number that no other row has. -/
theorem IsNumbered.insert {table next : StoredTable} {cells : List Stored}
    (numbered : table.IsNumbered) (inserted : table.insert cells = .ok next) :
    next.IsNumbered := by
  simp only [StoredTable.insert, bind, Except.bind] at inserted
  split at inserted
  · cases inserted
  · rename_i number chosen
    cases inserted
    have fresh := numberFor_fresh chosen
    rw [IsNumbered] at numbered ⊢
    rw [List.map_append, List.nodup_append]
    refine ⟨numbered, List.nodup_singleton _, fun n held m added same => ?_⟩
    obtain rfl := List.mem_singleton.mp added
    exact fresh (same ▸ held)

theorem IsNumbered.insertValues {table next : StoredTable} {values : KeyedList String Value}
    (numbered : table.IsNumbered) (inserted : table.insertValues values = .ok next) :
    next.IsNumbered := by
  simp only [StoredTable.insertValues, bind, Except.bind] at inserted
  split at inserted
  · cases inserted
  · exact numbered.insert inserted

/-- However a table is filled, its rows keep different numbers. -/
theorem IsNumbered.of_foldlM {table next : StoredTable} {rows : List (KeyedList String Value)}
    (numbered : table.IsNumbered) (filled : rows.foldlM StoredTable.insertValues table = .ok next) :
    next.IsNumbered := by
  induction rows generalizing table with
  | nil =>
      cases filled
      exact numbered
  | cons values rest ih =>
      rw [List.foldlM_cons] at filled
      cases stored : table.insertValues values with
      | error failure =>
          rw [stored] at filled
          cases filled
      | ok between =>
          rw [stored] at filled
          exact ih (numbered.insertValues stored) filled

/-- Rows that are added to a database leave the rows of all its tables with different numbers. -/
theorem isNumbered_of_insertInto {database next : Database} {name : String}
    {rows : List (KeyedList String Value)} (numbered : ∀ table ∈ database, table.IsNumbered)
    (filled : database.insertInto name rows = .ok next) : ∀ table ∈ next, table.IsNumbered := by
  intro table member
  obtain ⟨before, held, stored⟩ := exists_of_mem_mapM filled member
  split at stored
  · exact (numbered before held).of_foldlM stored
  · obtain rfl := Except.ok.inj stored
    exact numbered before held

theorem isNumbered_withContacts {database : Database}
    (numbered : ∀ table ∈ database, table.IsNumbered) :
    ∀ table ∈ database.withContacts, table.IsNumbered := by
  rw [Database.withContacts]
  split
  · exact numbered
  · refine List.forall_mem_append.mpr ⟨numbered, fun table added => ?_⟩
    obtain rfl := List.mem_singleton.mp added
    exact isNumbered_empty _ _

theorem pairwise_mergeSort_number (rows : List StoredRow) :
    (rows.mergeSort fun a b => decide (a.number ≤ b.number)).Pairwise
      fun a b => a.number ≤ b.number := by
  refine List.Pairwise.imp decide_eq_true_iff.mp (List.pairwise_mergeSort ?_ ?_ rows)
  · intro a b c below above
    rw [decide_eq_true_iff] at below above ⊢
    exact Int.le_trans below above
  · intro a b
    rw [Bool.or_eq_true, decide_eq_true_iff, decide_eq_true_iff]
    exact Int.le_total a.number b.number

/-- The rows can be listed in the order of their numbers. -/
theorem IsNumbered.exists_rising {table : StoredTable} (numbered : table.IsNumbered) :
    ∃ rows : List StoredRow,
      rows.Perm table.rows ∧ rows.Pairwise fun a b => a.number < b.number := by
  have perm := List.mergeSort_perm table.rows fun a b => decide (a.number ≤ b.number)
  have distinct := List.pairwise_map.mp ((perm.map StoredRow.number).nodup_iff.mpr numbered)
  refine ⟨_, perm, ((pairwise_mergeSort_number table.rows).and distinct).imp ?_⟩
  intro a b ⟨below, different⟩
  exact Int.lt_iff_le_and_ne.mpr ⟨below, different⟩

/-! ## The order of the rows -/

/-- No column is called `rowid`, so the rows come in the order of their numbers. -/
def IsOrdinary (table : StoredTable) : Prop :=
  ∀ column ∈ table.columns, sameName column.name "rowid" = false

variable {table : StoredTable}

theorem IsOrdinary.orderKey_eq (ordinary : table.IsOrdinary) (row : StoredRow) :
    table.orderKey row = some (.integer row.number) := by
  have unnamed : ((table.named row).find? fun cell => sameName cell.1 "rowid") = none := by
    rw [List.find?_eq_none]
    intro cell member
    obtain ⟨column, held, named⟩ := List.mem_map.mp (List.of_mem_zip member).1
    rw [← named, ordinary column held]
    exact Bool.false_ne_true
  rw [orderKey, unnamed]

theorem le_integer_iff {m n : Int} :
    Stored.le (some (.integer m)) (some (.integer n)) = true ↔ m ≤ n := by
  have positive : (0 : Int) < twoTo 1074 := Int.natCast_pos.mpr (twoTo_pos 1074)
  have byPosition : Stored.le (some (.integer m)) (some (.integer n)) =
      decide (m * twoTo 1074 ≤ n * twoTo 1074) := rfl
  rw [byPosition, decide_eq_true_iff]
  exact Int.mul_le_mul_right positive

theorem IsOrdinary.ordered_eq_mergeSort (ordinary : table.IsOrdinary) :
    table.ordered = table.rows.mergeSort fun a b => decide (a.number ≤ b.number) := by
  have byNumber : ∀ a b, Stored.le (table.orderKey a) (table.orderKey b) =
      decide (a.number ≤ b.number) := by
    intro a b
    rw [ordinary.orderKey_eq, ordinary.orderKey_eq, Bool.eq_iff_iff, le_integer_iff,
      decide_eq_true_iff]
  rw [ordered, funext₂ byNumber]

/-- The rows in the order of their numbers are the only list of all the rows in which the numbers
increase. -/
theorem IsOrdinary.ordered_eq (ordinary : table.IsOrdinary) {rows : List StoredRow}
    (all : rows.Perm table.rows) (rising : rows.Pairwise fun a b => a.number < b.number) :
    table.ordered = rows := by
  have distinct : (rows.map StoredRow.number).Nodup :=
    (List.pairwise_map.mpr rising).imp Int.ne_of_lt
  have perm := (List.mergeSort_perm table.rows fun a b =>
    decide (a.number ≤ b.number)).trans all.symm
  rw [ordinary.ordered_eq_mergeSort]
  refine perm.eq_of_pairwise ?_ (pairwise_mergeSort_number table.rows) (rising.imp Int.le_of_lt)
  intro a b first second below above
  exact List.inj_on_of_nodup_map distinct (perm.mem_iff.mp first) second
    (Int.le_antisymm below above)

/-! ## What is read of a row -/

theorem get?_inMemory (table : StoredTable) (row : StoredRow) (name : String) :
    KeyedList.get? (table.inMemory row) name =
      ((table.named row).get? name).map Stored.toCell :=
  KeyedList.get?_map_value Stored.toCell (table.named row) name

theorem get?_toRow (table : StoredTable) (columns : List String) (row : StoredRow)
    (name : String) : KeyedList.get? (table.toRow columns row) name =
      if name ∈ columns then some (table.cell row name).toCell else none := by
  rw [toRow_eq]
  exact KeyedList.get?_map_key (fun name => (table.cell row name).toCell) columns name

theorem mem_present {columns : List String} {name : String} :
    name ∈ Database.present table columns ↔ name ∈ columns ∧ name ∈ table.columnNames := by
  simp [Database.present, mem_firstOccurrences]

theorem mem_columnNames_of_get? {row : StoredRow} {name : String} {cell : Stored}
    (held : (table.named row).get? name = some cell) : name ∈ table.columnNames :=
  (List.of_mem_zip (KeyedList.mem_of_get? held)).1

end StoredTable

namespace Row

variable {row other : Row} {column : String}

theorem identity_congr (same : KeyedList.get? row column = KeyedList.get? other column) :
    row.identity column = other.identity column := by
  rw [identity, identity, tag?, tag?, value, value, same]

/-- A row that has no value in a column: no cell, or a null cell. -/
def Lacks (row : Row) (column : String) : Prop :=
  KeyedList.get? row column = none ∨ KeyedList.get? row column = some (Stored.toCell none)

theorem Lacks.read (lacks : row.Lacks column) : row.read column = .ok none := by
  rcases lacks with absent | null
  · rw [Row.read, tag?, absent]
    rfl
  · have known : ColumnKind.ofTag? ColumnKind.null.name = some .null := by decide
    exact read_of_get? null rfl known

theorem Lacks.identity (lacks : row.Lacks column) :
    row.identity column = .error (.noValue column) := by
  rcases lacks with absent | null
  · rw [Row.identity, tag?, absent]
    rfl
  · rw [Row.identity, tag?, null]
    rfl

end Row

namespace StoredTable

variable {table : StoredTable} {columns : List String} {name : String}

theorem lacks_inMemory {row : StoredRow} (absent : (table.named row).get? name = none) :
    (table.inMemory row).Lacks name :=
  .inl (by rw [get?_inMemory, absent]; rfl)

/-- A column that a query asks for is read from the row that the query gives as from the row in
memory. -/
theorem reads_alike (table : StoredTable) (asked : name ∈ columns) (row : StoredRow) :
    (table.toRow (Database.present table columns) row).read name =
        (table.inMemory row).read name ∧
      (table.toRow (Database.present table columns) row).identity name =
        (table.inMemory row).identity name := by
  have given := table.get?_toRow (Database.present table columns) row name
  cases held : (table.named row).get? name with
  | some stored =>
      have available := mem_present.mpr ⟨asked, mem_columnNames_of_get? held⟩
      have same : KeyedList.get? (table.toRow (Database.present table columns) row) name =
          KeyedList.get? (table.inMemory row) name := by
        rw [given, if_pos available, get?_inMemory, cell, held]
        rfl
      exact ⟨Row.read_congr same, Row.identity_congr same⟩
  | none =>
      have lacks : (table.toRow (Database.present table columns) row).Lacks name := by
        rw [cell, held] at given
        by_cases available : name ∈ Database.present table columns
        · exact .inr (by rw [given, if_pos available]; rfl)
        · exact .inl (by rw [given, if_neg available])
      have gone := lacks_inMemory held
      exact ⟨lacks.read.trans gone.read.symm, lacks.identity.trans gone.identity.symm⟩

end StoredTable

/-! ## What is read of a table -/

namespace Projection

variable {selection : Selection}

theorem foldlM_readInto_congr {row other : Row} {columns : List String}
    (cells : ∀ column ∈ columns, row.read column = other.read column) (record : Record) :
    columns.foldlM (readInto row) record = columns.foldlM (readInto other) record := by
  induction columns generalizing record with
  | nil => rfl
  | cons first rest ih =>
      have now : readInto row record first = readInto other record first := by
        rw [readInto, readInto, cells first List.mem_cons_self]
      have later := ih fun column member => cells column (List.mem_cons_of_mem _ member)
      rw [List.foldlM_cons, List.foldlM_cons, now]
      exact congrArg _ (funext later)

theorem readRow_congr {row other : Row}
    (identity : row.identity selection.lookupColumn = other.identity selection.lookupColumn)
    (cells : ∀ column ∈ selection.columns, row.read column = other.read column) :
    readRow selection row = readRow selection other := by
  rw [readRow, readRow, identity, readRecord, readRecord, foldlM_readInto_congr cells]

theorem mem_query_columns {name : String}
    (asked : name = selection.lookupColumn ∨ name ∈ selection.columns) :
    name ∈ selection.query.columns := by
  by_cases lookup : name = selection.lookupColumn <;> simp_all [Selection.query]

variable {σ : Type} {visit : σ -> Uid -> Record -> Run σ}

theorem visitRow_toRow (table : StoredTable) (state : σ) (row : StoredRow) :
    visitRow selection visit state
        (table.toRow (Database.present table selection.query.columns) row) =
      visitRow selection visit state (table.inMemory row) := by
  rw [visitRow, visitRow, readRow_congr]
  · exact (table.reads_alike (mem_query_columns (.inl rfl)) row).2
  · intro column asked
    exact (table.reads_alike (mem_query_columns (.inr asked)) row).1

/-- A table that has none of the columns asked for has no identities. -/
theorem outcome_visitRow_of_nothing {table : StoredTable}
    (nothing : Database.present table selection.query.columns = []) (state : σ) (row : StoredRow) :
    (visitRow selection visit state (table.inMemory row)).outcome = .ok state := by
  cases held : (table.named row).get? selection.lookupColumn with
  | none =>
      rw [visitRow, readRow, (StoredTable.lacks_inMemory held).identity]
      rfl
  | some stored =>
      have available := StoredTable.mem_present.mpr
        ⟨mem_query_columns (.inl rfl), StoredTable.mem_columnNames_of_get? held⟩
      rw [nothing] at available
      cases available

section Table

variable {database : Database} {table : StoredTable} {rows : List StoredRow}

theorem select_stored (found : database.table? selection.table = some table)
    (ordered : table.ordered = rows) : database.source.select selection.query =
      .ok (if (Database.present table selection.query.columns).isEmpty then []
        else rows.map (table.toRow (Database.present table selection.query.columns))) := by
  have among : database.table? selection.query.table = some table := found
  rw [← ordered, ← Database.selectFrom_of_unfiltered table rfl]
  show database.select selection.query = _
  rw [Database.select, among]

theorem outcome_visitRows_stored (found : database.table? selection.table = some table)
    (ordered : table.ordered = rows) (access : Option Access) (start : σ) :
    (visitRows database.source access selection visit start).outcome =
      (visitRows (Source.ofRows (rows.map table.inMemory)) access selection visit
        start).outcome := by
  cases opens : Access.opens access with
  | false =>
      have denied := (Access.isRefused_demand opens).failed
      rw [visitRows, visitRows, Run.bind_error denied, Run.bind_error denied]
  | true =>
      have stored := select_stored found ordered
      rw [visitRows, visitRows, Access.demand_of_opens opens, Run.outcome_bind_ok rfl,
        Run.outcome_bind_ok rfl, (Source.ofRows_gives _).outcome_reading rfl, List.foldlM_map,
        Source.reading, stored]
      by_cases nothing : Database.present table selection.query.columns = []
      · have idle : ∀ state, ∀ row ∈ rows,
            (visitRow selection visit state (table.inMemory row)).outcome = .ok state :=
          fun state row _ => outcome_visitRow_of_nothing nothing state row
        rw [Run.outcome_foldlM_ok start idle, List.foldl_fixed, nothing]
        rfl
      · rw [if_neg (by simpa using nothing)]
        dsimp only
        rw [List.foldlM_map, funext₂ (visitRow_toRow table)]

/-- A table without a column called `rowid` is read as its rows in memory are, in the order of their
numbers.  Whatever is done with one pair of an identity and a record after another comes to the same
end, whichever columns are asked for and whether the table has any of them; and with access to the
contacts all the pairs are given. -/
theorem stored_rows_read_as_in_memory (found : database.table? selection.table = some table)
    (ordinary : table.IsOrdinary) (all : rows.Perm table.rows)
    (rising : rows.Pairwise fun a b => a.number < b.number) (access : Option Access) :
    (∀ {σ : Type} (visit : σ -> Uid -> Record -> Run σ) (start : σ),
      (visitRows database.source access selection visit start).outcome =
        (visitRows (Source.ofRows (rows.map table.inMemory)) access selection visit
          start).outcome) ∧
      (Access.opens access = true ->
        (Projection.rows database.source access selection).outcome =
          .ok ((rows.map table.inMemory).filterMap (pairOf selection))) := by
  have ordered := ordinary.ordered_eq all rising
  have typed : ∀ row ∈ rows.map table.inMemory, row.isTyped = true :=
    List.forall_mem_map.mpr fun row _ => table.isTyped_inMemory row
  refine ⟨fun visit start => outcome_visitRows_stored found ordered access start, fun opens => ?_⟩
  have inMemory := (contains_rows selection opens (rows.map table.inMemory)).ends _
    (Source.ofRows_gives _)
  rw [findSome?_failure?_of_isTyped selection typed] at inMemory
  exact (outcome_visitRows_stored found ordered access []).trans inMemory

/-- A table whose rows are not listed in the order of their numbers. -/
def shuffledTable : StoredTable where
  name := "Raw_Contacts"
  columns := [.declare "vcard" "BLOB", .declare "lookup_key" "TEXT"]
  rows := [⟨7, [some (.text "later"), some (.text "a")]⟩, ⟨3, [none, some (.text "b")]⟩,
    ⟨2, [some (.integer 5), some (.text "a")]⟩]

theorem stored_rows_read_as_in_memory_shuffledTable :
    ((Projection.rows (Database.source [shuffledTable]) (Access.grant true)
      ⟨"raw_contacts", "lookup_key", ["vcard", "missing", "vcard"], none⟩).outcome.toOption.map
        fun pairs => pairs.map fun pair => (pair.1.text, pair.2)) =
      some [("a", [("vcard", .integer 5)]), ("b", []), ("a", [("vcard", .text "later")])] := by
  have found : Database.table? [shuffledTable] "raw_contacts" = some shuffledTable := rfl
  have ordinary : shuffledTable.IsOrdinary := by
    rw [StoredTable.IsOrdinary]
    decide
  have all : shuffledTable.rows.reverse.Perm shuffledTable.rows := List.reverse_perm _
  have rising : shuffledTable.rows.reverse.Pairwise fun a b => a.number < b.number := by decide
  rw [(stored_rows_read_as_in_memory found ordinary all rising _).2 rfl]
  rfl

end Table

end Projection

end PairedContacts
