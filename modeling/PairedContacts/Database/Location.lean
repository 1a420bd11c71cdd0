import PairedContacts.FilePath

/-!
# Where a database is

The address of a database names its kind and, behind three slashes, the file that holds it; without
a file it is held in memory.  Only one kind of database is served.
-/

set_option autoImplicit false

namespace PairedContacts

inductive EngineFault where
  | unreadableUrl
  | unknownDialect
  | notAsynchronous
  | driverMissing
  deriving DecidableEq, Repr

inductive Location where
  | memory
  | file (path : FilePath)
  deriving DecidableEq, Repr

namespace Location

def servedDialect : String := "sqlite+aiosqlite"

/-- Kinds that are known but wait for an answer, which a server cannot. -/
def waitingDialects : List String := ["sqlite", "sqlite+pysqlite"]

/-- Kinds that are known but not at hand. -/
def absentDialects : List String :=
  ["sqlite+pysqlcipher", "postgresql", "postgresql+asyncpg", "postgresql+psycopg",
   "postgresql+psycopg2", "postgresql+pg8000", "mysql", "mysql+aiomysql", "mysql+asyncmy",
   "mysql+mysqldb", "mysql+pymysql", "mariadb", "mariadb+aiomysql", "mariadb+asyncmy", "oracle",
   "oracle+oracledb", "oracle+cx_oracle", "mssql", "mssql+pyodbc", "mssql+aioodbc",
   "mssql+pymssql"]

def isDialectChar (c : Char) : Bool :=
  c.isAlphanum || c = '_' || c = '+'

def splitDialect (url : List Char) : Option (List Char × List Char) :=
  let name := url.takeWhile isDialectChar
  match url.dropWhile isDialectChar with
  | ':' :: '/' :: '/' :: rest => if name.isEmpty then none else some (name, rest)
  | _ => none

def ofRest (current : FilePath) (rest : List Char) : Except EngineFault Location :=
  match rest.takeWhile fun c => c != '?' with
  | [] => .ok memory
  | '/' :: path =>
      let name := String.ofList path
      if name = "" ∨ name = ":memory:" then .ok memory else .ok (file (current.resolve name))
  | _ => .error .unreadableUrl

/-- The place of a database; a relative path starts at the current directory. -/
def ofUrl (current : FilePath) (url : String) : Except EngineFault Location :=
  match splitDialect url.toList with
  | none => .error .unreadableUrl
  | some (dialect, rest) =>
      let name := String.ofList dialect
      if name = servedDialect then ofRest current rest
      else if waitingDialects.contains name then .error .notAsynchronous
      else if absentDialects.contains name then .error .driverMissing
      else .error .unknownDialect

end Location

end PairedContacts
