import PairedContacts.Contacts.Layout
import PairedContacts.FirstOccurrences
import PairedContacts.Source
import PairedContacts.Table.Basic

/-!
# Databases

A database is a list of stored tables and serves as a source.  A query names its table in any case
and its columns exactly.  A column that the table does not have is absent from the rows; without any
column that it has, and with a filter on a column that it has not, there are no rows.
-/

set_option autoImplicit false

namespace PairedContacts

abbrev Database := List StoredTable

namespace Database

def table? (database : Database) (name : String) : Option StoredTable :=
  database.find? fun table => StoredTable.sameName table.name name

/-- The columns that a query asks of a table and the table has, each once. -/
def present (table : StoredTable) (columns : List String) : List String :=
  (firstOccurrences columns).filter fun name => table.columnNames.contains name

def selectFrom (table : StoredTable) (query : Query) : Except Failure (List Row) := do
  let columns := present table query.columns
  if columns.isEmpty || query.filter.any fun wanted => !table.columnNames.contains wanted.1 then
    return []
  let conditions <- query.filter.mapM table.conditionOf
  let selected := table.ordered.filter fun row =>
    (conditions.filterMap id).all fun condition => table.holds row condition
  return selected.map (table.toRow columns)

def select (database : Database) (query : Query) : Except Failure (List Row) :=
  match database.table? query.table with
  | none => .error (.noTable query.table)
  | some table => selectFrom table query

def source (database : Database) : Source where
  select := database.select

def contactColumns : List TableColumn :=
  [.declare "id" "INTEGER PRIMARY KEY",
   .declare Layout.standard.lookup "TEXT",
   .declare Layout.standard.displayName "TEXT",
   .declare Layout.standard.card "TEXT",
   .declare Layout.standard.timestamp "BIGINT",
   .declare Layout.standard.phone "TEXT",
   .declare Layout.standard.photo "BLOB"]

def contactsTable : StoredTable :=
  .empty Layout.standard.table contactColumns

def withContacts (database : Database) : Database :=
  if (database.table? Layout.standard.table).isSome then database else database ++ [contactsTable]

def insertInto (database : Database) (name : String) (rows : List (KeyedList String Value)) :
    Except Failure Database :=
  database.mapM fun table =>
    if StoredTable.sameName table.name name then rows.foldlM StoredTable.insertValues table
    else .ok table

end Database

end PairedContacts
