import PairedContacts.Bytes.Percent
import PairedContacts.Client.Errand
import PairedContacts.Client.SavedManifest

/-!
# The folder of a client

A client keeps each contact in a file of its own, and beside them the manifest of what it has and
the configuration.  The name of a contact's file is its uID in percent encoding, so it stays inside
the folder.
-/

set_option autoImplicit false

namespace PairedContacts.Folder

def manifestName : String := ".contactsync-manifest.json"
def configName : String := ".contactsync.json"

def manifestPath (directory : FilePath) : FilePath :=
  FilePath.resolve directory manifestName

def configPath (directory : FilePath) : FilePath :=
  FilePath.resolve directory configName

def cardName (uid : Uid) : String :=
  Percent.encode uid.text ++ ".vcf"

def cardPath (directory : FilePath) (uid : Uid) : FilePath :=
  FilePath.resolve directory (cardName uid)

def documentFault : Json.Fault -> ClientFault
  | .longInt digits => .longInt digits
  | _ => .unreadableDocument

def readDocument (path : FilePath) : Errand (Option (Json.Document JoinedText)) := do
  match <- Errand.readFile path with
  | none => return none
  | some text =>
      let document <- Errand.ofExcept ((Json.parse .loose text).mapError documentFault)
      return some document

def writeDocument (path : FilePath) (document : Json.Document JoinedText) : Errand Unit :=
  match Json.writeFile? document with
  | some text => Errand.writeFile path text
  | none => Errand.fail .unwritableInt

/-- The manifest of the last exchange; it is empty before the first one. -/
def readManifest (directory : FilePath) : Errand SavedManifest := do
  match <- readDocument (manifestPath directory) with
  | none => return []
  | some (.map fields) => do
      (fields.filterMap SavedManifest.skipLine?).forM Errand.print
      return SavedManifest.ofFields fields
  | some _ => Errand.fail .wrongShape

def writeManifest (directory : FilePath) (saved : SavedManifest) : Errand Unit :=
  writeDocument (manifestPath directory) saved.document

/-- The configuration; it is an empty map where there is none. -/
def readConfig (directory : FilePath) : Errand (Json.Document JoinedText) := do
  let document <- readDocument (configPath directory)
  return document.getD (.map [])

def writeConfig (directory : FilePath) (config : Value) : Errand Unit :=
  writeDocument (configPath directory) (.ofValue .ofString config)

def writeCard (directory : FilePath) (uid : Uid) (card : String) : Errand Unit :=
  Errand.writeFile (cardPath directory uid) (card ++ "\n")

end PairedContacts.Folder
