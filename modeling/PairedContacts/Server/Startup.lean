import PairedContacts.Server

/-!
# Starting a server

A server opens its database before it answers.  A server that starts by itself first makes the
directories above the database file, and gives a new database its contacts table.
-/

set_option autoImplicit false

namespace PairedContacts.Server

def cannotOpen : Failure :=
  .database "unable to open database file"

/-- What a starting server finds: the current directory, and all others that there are. -/
structure Premises where
  current : FilePath
  directories : List FilePath

namespace Premises

def hasDirectory (premises : Premises) (path : FilePath) : Bool :=
  path.isEmpty || path == premises.current || premises.directories.contains path

def admitsFile (premises : Premises) (path : FilePath) : Bool :=
  !premises.hasDirectory path && premises.hasDirectory path.dropLast

end Premises

def locate (premises : Premises) (settings : Settings) : Run Location :=
  Run.ofExcept ((Location.ofUrl premises.current settings.databaseUrl).mapError Failure.engine)

def openAt (premises : Premises) : Location -> Run Unit
  | .memory => pure ()
  | .file path =>
      if premises.admitsFile path then Run.record (.created path) else throw cannotOpen

def noting {α : Type} (notice : Notice) (run : Run α) : Run α :=
  tryCatch run fun failure => do
    Run.note notice
    throw failure

def assemble (settings : Settings) (store : Store) : Run Server := do
  let service := settings.service
  if service.access.isNone then
    Run.note .accessNotGranted
  return ⟨settings, store, (Dispatcher.empty.register service.plugin).1⟩

def Premises.withAncestors (premises : Premises) : Location -> Premises
  | .file path => { premises with directories := premises.directories ++ path.ancestors }
  | .memory => premises

def start (premises : Premises) (settings : Settings) : Run Server := do
  Run.ofExcept settings.validateRuntime
  let location <- noting .noDatabase (locate premises settings)
  noting .noSchema (openAt (premises.withAncestors location) location)
  assemble settings (.reachable (Database.withContacts []))

/-- Wires a server to a database that is there already. -/
def wire (premises : Premises) (settings : Settings) (database : Database) : Run Server := do
  Run.ofExcept settings.validateRuntime
  let location <- locate premises settings
  openAt premises location
  assemble settings (.reachable database)

def addPlugin (server : Server) (plugin : Plugin) : Run Server := do
  let (dispatcher, outcome) := server.dispatcher.register plugin
  Run.ofExcept (outcome.mapError Failure.registration)
  return { server with dispatcher := dispatcher }

def fill (server : Server) (change : Database -> Except Failure Database) :
    Except Failure Server :=
  match server.store with
  | .reachable database => (change database).map fun changed =>
      { server with store := .reachable changed }
  | .unreachable reason => .error (.database reason)

end PairedContacts.Server
