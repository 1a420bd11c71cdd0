import PairedContacts.Failure
import PairedContacts.Table.Affinity

/-!
# Stored tables

A stored table has columns with preferred types, and rows that are numbered.  A column may be the
row number itself.  Rows come out in the order of their numbers, unless a column is called `rowid`:
then its cells take the place of the numbers in the order.
-/

set_option autoImplicit false

namespace PairedContacts

structure TableColumn where
  name : String
  affinity : Affinity
  isRowNumber : Bool

namespace TableColumn

def spaceSeparated (text : List Char) : List (List Char) :=
  (text.splitBy fun a b => a ≠ ' ' ∧ b ≠ ' ').filter fun word => word ≠ [' ']

/-- The words of a column declaration at which its type ends. -/
def constraintWords : List String :=
  ["PRIMARY", "NOT", "NULL", "UNIQUE", "CHECK", "DEFAULT", "COLLATE", "REFERENCES", "CONSTRAINT",
   "GENERATED", "AS"]

def isConstraintWord (word : List Char) : Bool :=
  constraintWords.contains (String.ofList word)

/-- A column from its declaration, a type and perhaps constraints.  An integer primary key is the
row number. -/
def declare (name declaration : String) : TableColumn :=
  let words := spaceSeparated (declaration.toList.map Char.toUpper)
  let type := words.takeWhile fun word => !isConstraintWord word
  let constraints := words.dropWhile fun word => !isConstraintWord word
  { name := name
    affinity := Affinity.ofType (String.ofList (type.intersperse [' ']).flatten)
    isRowNumber :=
      type == ["INTEGER".toList] && ["PRIMARY".toList, "KEY".toList].isPrefixOf constraints }

end TableColumn

structure StoredRow where
  number : Int
  cells : List Stored

structure StoredTable where
  name : String
  columns : List TableColumn
  rows : List StoredRow

namespace Stored

/-- The cell that a raw value is stored as.  A flag is stored as a number, and what is not a number
as null. -/
def ofValue : Value -> Except Failure Stored
  | .null => .ok none
  | .bool flag => .ok (some (.integer (if flag then 1 else 0)))
  | .int n => if Affinity.fitsCell n then .ok (some (.integer n)) else .error .outOfRange
  | .real x => .ok (if x.isNaN then none else some (.real x))
  | .text s => .ok (some (.text s))
  | .blob bytes => .ok (some (.blob bytes))
  | value => .error (.unstorable value.kindName)

/-- The type of a cell, as a query names it. -/
def typeName : Stored -> String
  | none => ColumnKind.null.name
  | some value => value.kind.name

def value : Stored -> Value
  | none => .null
  | some value => value.value

def toCell (stored : Stored) : Cell :=
  ⟨some stored.typeName, stored.value⟩

end Stored

namespace StoredTable

def empty (name : String) (columns : List TableColumn) : StoredTable :=
  ⟨name, columns, []⟩

/-- The number of a row that is given none: one more than the greatest. -/
def nextNumber (table : StoredTable) : Int :=
  match table.rows.map StoredRow.number with
  | [] => 1
  | first :: rest => rest.foldl max first + 1

def givenNumber? (columns : List TableColumn) (cells : List Stored) : Stored :=
  (columns.zip cells).findSome? fun pair => if pair.1.isRowNumber then pair.2 else none

def hasNumber (table : StoredTable) (number : Int) : Bool :=
  table.rows.any fun row => row.number == number

/-- The number of a new row: the one it is given, which has to be an integer that no other row has,
or else the next one. -/
def numberFor (table : StoredTable) (given : Stored) : Except Failure Int :=
  match given with
  | none => .ok table.nextNumber
  | some (.integer number) =>
      if table.hasNumber number then .error (.constraint ("row number taken in " ++ table.name))
      else .ok number
  | some _ => .error (.constraint "datatype mismatch")

def withNumber (columns : List TableColumn) (number : Int) (cells : List Stored) : List Stored :=
  (columns.zip cells).map fun pair =>
    if pair.1.isRowNumber then some (.integer number) else pair.2

/-- Stores a row of cells, each converted to the type that its column prefers. -/
def insert (table : StoredTable) (cells : List Stored) : Except Failure StoredTable := do
  let converted := (table.columns.zip cells).map fun pair => pair.2.map pair.1.affinity.convert
  let number <- table.numberFor (givenNumber? table.columns converted)
  let row : StoredRow := ⟨number, withNumber table.columns number converted⟩
  return { table with rows := table.rows ++ [row] }

def insertValues (table : StoredTable) (values : KeyedList String Value) :
    Except Failure StoredTable := do
  let cells <- table.columns.mapM fun column =>
    Stored.ofValue ((values.get? column.name).getD .null)
  table.insert cells

def columnNames (table : StoredTable) : List String :=
  table.columns.map TableColumn.name

def named (table : StoredTable) (row : StoredRow) : KeyedList String Stored :=
  table.columnNames.zip row.cells

/-- Two names are one name if they differ only in the case of plain letters. -/
def sameName (a b : String) : Bool :=
  a.toList.map Char.toUpper == b.toList.map Char.toUpper

def orderKey (table : StoredTable) (row : StoredRow) : Stored :=
  match (table.named row).find? fun cell => sameName cell.1 "rowid" with
  | some (_, cell) => cell
  | none => some (.integer row.number)

def ordered (table : StoredTable) : List StoredRow :=
  table.rows.mergeSort fun a b => Stored.le (table.orderKey a) (table.orderKey b)

/-- A condition on a column: its cell is null, or it matches a value. -/
structure Condition where
  column : TableColumn
  wanted : Stored
  asksNull : Bool

def conditionOf (table : StoredTable) (filter : String × Value) :
    Except Failure (Option Condition) := do
  match table.columns.find? fun column => column.name == filter.1 with
  | none => return none
  | some column =>
      let wanted <- Stored.ofValue filter.2
      return some ⟨column, wanted.map column.affinity.convertWanted, filter.2 matches .null⟩

def holds (table : StoredTable) (row : StoredRow) (condition : Condition) : Bool :=
  match ((table.named row).get? condition.column.name).getD none, condition.wanted with
  | none, _ => condition.asksNull
  | some _, none => false
  | some cell, some wanted => Stored.isMatch cell wanted

def cell (table : StoredTable) (row : StoredRow) (name : String) : Stored :=
  ((table.named row).get? name).getD none

/-- What a query reads of a row: the values of the columns, and behind them their types. -/
def resultLine (table : StoredTable) (columns : List String) (row : StoredRow) : List Value :=
  (columns.map fun name => (table.cell row name).value) ++
    columns.map fun name => .text (table.cell row name).typeName

/-- Takes what a query reads of a row apart again, by the places of the columns. -/
def ofResultLine (columns : List String) (fields : List Value) : Row :=
  columns.zipIdx.map fun column =>
    let type := fields[columns.length + column.2]?.bind Value.asText?
    (column.1, ⟨type.map String.ofList, fields[column.2]?.getD .null⟩)

def toRow (table : StoredTable) (columns : List String) (row : StoredRow) : Row :=
  ofResultLine columns (table.resultLine columns row)

end StoredTable

end PairedContacts
