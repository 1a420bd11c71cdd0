import PairedContacts.Database
import PairedContacts.Proofs.Projection

/-!
# What a database gives

A query without a filter fails only if its table is missing.  The rows that it gives are typed as
they are stored, so nothing in them is out of range, and their integers are those of cells.
-/

set_option autoImplicit false

namespace PairedContacts

namespace Stored

/-- Whether a cell can be stored: an integer has to be one of a machine word. -/
def fits : Stored -> Bool
  | some (.integer n) => Affinity.fitsCell n
  | _ => true

theorem isTyped_toCell (stored : Stored) : stored.toCell.isTyped = true := by
  cases stored with
  | none => decide
  | some value => cases value <;> rfl

theorem isTooLong_of_fitsCell {n : Int} (fits : Affinity.fitsCell n = true) :
    Numeral.isTooLong n = false := by
  rw [Numeral.isTooLong_eq_false_iff]
  have bound : wordBound < tenTo Numeral.maxDigits := by decide +kernel
  simp only [Affinity.fitsCell, Bool.and_eq_true, decide_eq_true_eq] at fits
  omega

theorem isShort_toCell {stored : Stored} (fits : stored.fits = true) :
    stored.toCell.isShort = true := by
  cases stored with
  | none => decide
  | some value =>
      cases value with
      | integer n =>
          have short := isTooLong_of_fitsCell fits
          simp [toCell, value, Cell.isShort, ColumnValue.value, Value.whole?, short]
      | _ => rfl

end Stored

/-- The integers that can be read out of a row are those of cells that can be stored. -/
def Row.FitsCells (row : Row) : Prop :=
  ∀ column n, row.cell? column = some (.integer n) -> Affinity.fitsCell n = true

namespace StoredTable

variable {table : StoredTable} {row : StoredRow}

/-- The places of the values and of the types are those of the columns that they are read for. -/
theorem toRow_eq (columns : List String) :
    table.toRow columns row = columns.map fun name => (name, (table.cell row name).toCell) := by
  refine List.ext_getElem (by simp [toRow, ofResultLine]) fun place left right => ?_
  have inside : place < columns.length := by simpa using right
  have value : (table.resultLine columns row)[place]? =
      some (table.cell row columns[place]).value := by
    rw [resultLine, List.getElem?_append_left (by simpa using inside)]
    simp [inside]
  have type : (table.resultLine columns row)[columns.length + place]? =
      some (.text (table.cell row columns[place]).typeName) := by
    rw [resultLine, List.getElem?_append_right (by simp)]
    simp [inside]
  simp [toRow, ofResultLine, value, type, Value.asText?, Stored.toCell]

/-- A cell that a row gives is null or one of the stored cells. -/
theorem forall_mem_toRow (holds : Cell -> Prop) (null : holds (Stored.toCell none))
    (stored : ∀ cell ∈ row.cells, holds cell.toCell) (columns : List String) :
    ∀ entry ∈ table.toRow columns row, holds entry.2 := by
  intro entry member
  rw [toRow_eq] at member
  obtain ⟨name, -, rfl⟩ := List.mem_map.mp member
  show holds (table.cell row name).toCell
  rw [cell]
  cases found : (table.named row).get? name with
  | none => exact null
  | some cell => exact stored cell (List.of_mem_zip (KeyedList.mem_of_get? found)).2

theorem isTyped_toRow (columns : List String) : (table.toRow columns row).isTyped = true := by
  rw [Row.isTyped, List.all_eq_true]
  exact forall_mem_toRow (fun cell => cell.isTyped = true) (Stored.isTyped_toCell none)
    (fun cell _ => Stored.isTyped_toCell cell) columns

theorem isShort_toRow (fits : ∀ cell ∈ row.cells, Stored.fits cell = true)
    (columns : List String) : (table.toRow columns row).isShort = true := by
  rw [Row.isShort, List.all_eq_true]
  exact forall_mem_toRow (fun cell => cell.isShort = true) (Stored.isShort_toCell rfl)
    (fun cell member => Stored.isShort_toCell (fits cell member)) columns

theorem fitsCells_toRow (fits : ∀ cell ∈ row.cells, Stored.fits cell = true)
    (columns : List String) : (table.toRow columns row).FitsCells := by
  let holds (cell : Cell) : Prop :=
    cell.kind? = some .integer -> ∀ n, cell.value.whole? = some n -> Affinity.fitsCell n = true
  have null : holds (Stored.toCell none) := by
    intro kind
    cases kind
  have stored : ∀ cell ∈ row.cells, holds cell.toCell := by
    intro cell member kind n whole
    have small := fits cell member
    cases cell with
    | none => cases kind
    | some value =>
        cases value with
        | integer m =>
            obtain rfl : m = n := Option.some.inj whole
            exact small
        | _ => cases kind
  intro column n read
  obtain ⟨entry, member, kind, whole⟩ := Row.exists_mem_of_cell? (isTyped_toRow columns) read
  exact forall_mem_toRow holds null stored columns entry member kind n whole

end StoredTable

namespace Database

/-- Every cell of every table can be stored. -/
def FitsCells (database : Database) : Prop :=
  ∀ table ∈ database, ∀ row ∈ table.rows, ∀ cell ∈ row.cells, Stored.fits cell = true

theorem selectFrom_of_unfiltered (table : StoredTable) {query : Query}
    (unfiltered : query.filter = []) : selectFrom table query =
      .ok (if (present table query.columns).isEmpty then []
        else table.ordered.map (table.toRow (present table query.columns))) := by
  rw [selectFrom, unfiltered]
  by_cases nothing : (present table query.columns).isEmpty = true
  · rw [if_pos nothing]
    simp only [nothing, Bool.true_or, if_true]
    rfl
  · rw [if_neg nothing, if_neg (by simpa using nothing), List.mapM_nil, pure_bind]
    have all : (table.ordered.filter fun row => ([].filterMap id).all (table.holds row)) =
        table.ordered := List.filter_eq_self.mpr fun _ _ => rfl
    dsimp only
    rw [all]
    rfl

theorem exists_selectFrom (table : StoredTable) {query : Query} (unfiltered : query.filter = []) :
    ∃ (columns : List String) (rows : List StoredRow),
      selectFrom table query = .ok (rows.map (table.toRow columns)) ∧
        ∀ row ∈ rows, row ∈ table.rows := by
  rw [selectFrom_of_unfiltered table unfiltered]
  split
  · exact ⟨[], [], rfl, by simp⟩
  · exact ⟨_, _, rfl, fun row member => List.mem_mergeSort.mp member⟩

/-- Without a filter a database gives the typed rows of the table, if it has the table. -/
theorem exists_select {database : Database} {table : StoredTable} {query : Query}
    (fits : database.FitsCells) (unfiltered : query.filter = [])
    (found : database.table? query.table = some table) :
    ∃ rows, database.select query = .ok rows ∧ (∀ row ∈ rows, row.isTyped = true) ∧
      (∀ row ∈ rows, row.isShort = true) ∧ ∀ row ∈ rows, row.FitsCells := by
  obtain ⟨columns, stored, selected, within⟩ := exists_selectFrom table unfiltered
  have held : table ∈ database := List.mem_of_find?_eq_some found
  refine ⟨_, by rw [select, found]; exact selected, ?_, ?_, ?_⟩
  · intro row member
    obtain ⟨origin, -, rfl⟩ := List.mem_map.mp member
    exact StoredTable.isTyped_toRow columns
  · intro row member
    obtain ⟨origin, among, rfl⟩ := List.mem_map.mp member
    exact StoredTable.isShort_toRow (fits table held origin (within origin among)) columns
  · intro row member
    obtain ⟨origin, among, rfl⟩ := List.mem_map.mp member
    exact StoredTable.fitsCells_toRow (fits table held origin (within origin among)) columns

theorem select_of_absent {database : Database} {query : Query}
    (absent : database.table? query.table = none) :
    database.select query = .error (.noTable query.table) := by
  rw [select, absent]

end Database

end PairedContacts
