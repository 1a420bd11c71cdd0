import PairedContacts.Client.Arguments
import PairedContacts.Client.ServerUrl
import PairedContacts.Client.Sync

/-!
# The command line of the client

`init` writes the configuration of a folder, `status` tells what a sync would do, and `sync` does
it.  What is given on the command line goes before what is configured.
-/

set_option autoImplicit false

namespace PairedContacts.CommandLine

def usage : String :=
  "usage: contactsync-sync [-h] [--dir DIR] [--server SERVER] [--allow-insecure-http]\n" ++
    "                        [--namespace NAMESPACE] [init | status | sync]"

def giveUp {α : Type} (message : String) : Errand α := do
  Errand.print ("Error: " ++ message)
  Errand.leave 1

def checkedUrl (given : Arguments) (url : String) : Errand String :=
  match ServerUrl.validate url given.allowInsecure with
  | .ok checked => pure checked
  | .error fault => giveUp fault.message

/-- An argument that is there and not empty. -/
def given? (argument : Option String) : Option String :=
  argument.filter fun text => !text.isEmpty

def runInit (directory : FilePath) (given : Arguments) : Errand Unit :=
  match given? given.server with
  | none => giveUp "--server required for init"
  | some server => do
      let url <- checkedUrl given server
      Errand.ensureDirectory directory
      let space := (given? given.space).toList.map fun space => ("namespace", Value.text space)
      Folder.writeConfig directory
        (.map ([("server", .text url), ("contacts_dir", .text directory.toText)] ++ space))
      Errand.print ("Initialized sync config in " ++ (Folder.configPath directory).toText)

def configured? (config : Json.Document JoinedText) (name : String) :
    Errand (Option (Json.Document JoinedText)) :=
  match config with
  | .map fields =>
      pure ((KeyedList.get? fields (.ofString name)).filter fun document => !document.isEmpty)
  | _ => Errand.fail .wrongShape

def serverUrl (given : Arguments) (config : Json.Document JoinedText) : Errand String :=
  match given? given.server with
  | some url => checkedUrl given url
  | none => do
      match <- configured? config "server" with
      | none => giveUp "No server configured. Run 'contactsync-sync init --server <url>' first."
      | some (.text url) =>
          match url.plain? with
          | some plain => checkedUrl given plain
          | none => Errand.fail .unencodable
      | some _ => Errand.fail .wrongShape

/-- The namespace of metadata: the one given, or else the one configured, or else the standard
one. -/
def spaceOf (given : Arguments) (config : Json.Document JoinedText) : Errand (Option String) :=
  match given? given.space with
  | some space => pure (some space)
  | none => do
      match <- configured? config "namespace" with
      | none => return some VCard.defaultNamespace
      -- No line of a vCard is metadata of a torn namespace, nor of one that breaks the line.
      | some (.text space) => return some (space.plain?.getD "\n")
      | some _ => return none

def connect (directory : FilePath) (given : Arguments) : Errand Client := do
  let config <- Folder.readConfig directory
  let url <- serverUrl given config
  let space <- spaceOf given config
  match Net.Endpoint.ofUrl? url with
  | some endpoint => return ⟨endpoint, directory, space⟩
  | none => Errand.fail .invalidUrl

def runCommand (now : Int) (directory : FilePath) (given : Arguments) : Errand Unit :=
  match given.command with
  | some .init => runInit directory given
  | command => do
      let client <- connect directory given
      match command with
      | some .status => client.status now
      | some .sync => discard (client.sync now)
      | _ => Errand.print usage

def run (now : Int) (current : FilePath) (words : List String) : Errand Unit :=
  match Arguments.read words with
  | .error .help => do
      Errand.print usage
      Errand.leave 0
  | .error .refused => Errand.leave 2
  | .ok given =>
      if given.directory.toList.contains '\x00' then Errand.fail (.file .nullCharacter)
      else runCommand now (current.resolve given.directory) given

end PairedContacts.CommandLine
