import PairedContacts.Contacts.Manifest
import PairedContacts.Json.Document

/-!
# Saved manifests

Between two exchanges a client saves the timestamp of each contact under its uID.  A uID in a saved
manifest may be torn if somebody else has put it there.  No server can tell of it, so it takes no
part in an exchange, but it is kept.
-/

set_option autoImplicit false

namespace PairedContacts

abbrev SavedManifest := KeyedList LooseText Int

namespace SavedManifest

/-- Whether a text is a uID.  A torn one is neither empty nor the reserved key. -/
def isName (text : LooseText) : Bool :=
  match text.plain? with
  | some plain => (Uid.ofText plain).isOk
  | none => !text.isPadded && !text.breaksLine

def entryOf? (field : JoinedText × Json.Document JoinedText) : Option (LooseText × Int) :=
  match field.2 with
  | .scalar (.int timestamp) =>
      if isName field.1.toLooseText then some (field.1.toLooseText, timestamp) else none
  | _ => none

/-- What is said about a field whose name is no uID. -/
def skipLine? (field : JoinedText × Json.Document JoinedText) : Option String :=
  if isName field.1.toLooseText then none
  else some ("  Skip (bad uID in manifest): " ++ field.1.quote)

def ofFields (fields : KeyedList JoinedText (Json.Document JoinedText)) : SavedManifest :=
  KeyedList.ofPairs (fields.filterMap entryOf?)

def sort (saved : SavedManifest) : SavedManifest :=
  saved.mergeSort fun a b => a.1.le b.1

/-- Halves of pairs that stand behind each other are written as the character is. -/
def document (saved : SavedManifest) : Json.Document JoinedText :=
  .map (saved.sort.map fun entry => (entry.1.join, .scalar (.int entry.2)))

def ofManifest (manifest : Manifest) : SavedManifest :=
  manifest.map fun entry => (.ofString entry.1.text, entry.2)

/-- The contacts that a server can tell of. -/
def manifest (saved : SavedManifest) : Manifest :=
  saved.filterMap fun entry => entry.1.plain?.map fun text => (⟨text⟩, entry.2)

def torn (saved : SavedManifest) : SavedManifest :=
  saved.filter fun entry => entry.1.isTorn

end SavedManifest

end PairedContacts
