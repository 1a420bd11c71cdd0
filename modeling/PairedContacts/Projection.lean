import PairedContacts.Access
import PairedContacts.Source

/-!
# Projection

Projection reads rows as pairs of an identity and a record of typed cells.  A row without an
identity is passed over and a cell that cannot be read is left out of its record, each with a
notice, so that one bad row never spoils the others.  Rows of one identity stay apart; what becomes
of them is up to the reader.
-/

set_option autoImplicit false

namespace PairedContacts

/-- The cells of a row that have a value, by column. -/
abbrev Record := KeyedList String ColumnValue

structure Selection where
  table : String
  lookupColumn : String
  columns : List String
  /-- The identities that are wanted, or all of them. -/
  wanted : Option (List Uid)

namespace Selection

def query (selection : Selection) : Query where
  table := selection.table
  columns :=
    selection.lookupColumn :: selection.columns.filter fun name => name ≠ selection.lookupColumn
  filter := []

def wants (selection : Selection) (uid : Uid) : Bool :=
  selection.wanted.all fun uids => uids.contains uid

end Selection

namespace Projection

/-- A failure to read a cell is contained unless the number in the cell is out of range. -/
def isContained (fault : CellFault) : Bool :=
  fault.kind != .outOfRange

def readInto (row : Row) (record : Record) (column : String) : Run Record :=
  match row.read column with
  | .ok none => pure record
  | .ok (some value) => pure (record.put column value)
  | .error fault =>
      if isContained fault then do
        Run.note (.unreadableCell column fault)
        return record
      else throw (.cell fault)

def readRecord (row : Row) (columns : List String) : Run Record :=
  columns.foldlM (readInto row) []

def readRow (selection : Selection) (row : Row) : Run (Option (Uid × Record)) :=
  match row.identity selection.lookupColumn with
  | .error fault => do
      Run.note (.rowWithoutIdentity selection.table fault)
      return none
  | .ok uid => do
      if selection.wants uid then
        let record <- readRecord row selection.columns
        return some (uid, record)
      else
        return none

variable {σ : Type}

def visitRow (selection : Selection) (visit : σ -> Uid -> Record -> Run σ) (state : σ) (row : Row) :
    Run σ := do
  match <- readRow selection row with
  | none => return state
  | some (uid, record) => visit state uid record

def visitRows (source : Source) (access : Option Access) (selection : Selection)
    (visit : σ -> Uid -> Record -> Run σ) (start : σ) : Run σ := do
  Access.demand access
  source.reading selection.query fun rows => rows.foldlM (visitRow selection visit) start

def rows (source : Source) (access : Option Access) (selection : Selection) :
    Run (List (Uid × Record)) :=
  visitRows source access selection (fun pairs uid record => pure (pairs ++ [(uid, record)])) []

/-- Lets a later record of an identity overwrite an earlier one column by column. -/
def merge (records : KeyedList Uid Record) (uid : Uid) (record : Record) : KeyedList Uid Record :=
  records.put uid (((records.get? uid).getD []).putAll record)

/-- One record for every identity, the later rows winning column by column. -/
def records (source : Source) (access : Option Access) (selection : Selection) :
    Run (KeyedList Uid Record) :=
  visitRows source access selection (fun known uid record => pure (merge known uid record)) []

end Projection

end PairedContacts
