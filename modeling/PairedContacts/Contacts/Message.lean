import PairedContacts.Contacts.Manifest
import PairedContacts.FirstOccurrences

/-!
# Messages about contacts

The four packets of the protocol.  A requester asks for the manifest and is answered by it, then
asks for the vCards of some uIDs and is answered by those that were found.  A list of uIDs stands
under the reserved key of a body, and what belongs to one contact stands under its uID.
-/

set_option autoImplicit false

namespace PairedContacts

namespace Message

def manifestRequest : String := "kdeconnect.contacts.request_all_uids_timestamps"
def cardsRequest : String := "kdeconnect.contacts.request_vcards_by_uid"
def manifestResponse : String := "kdeconnect.contacts.response_uids_timestamps"
def cardsResponse : String := "kdeconnect.contacts.response_vcards"

def uidList (packet : Packet) : Except RequestFault (List Value) :=
  match packet.get? Uid.reservedKey with
  | none => .error (.noUids packet.type)
  | some (.list raw) => .ok raw
  | some _ => .error (.uidsNotList packet.type)

/-- The entries of a list that are uIDs, with a notice for every other one. -/
def readUids : List Value -> Run (List Uid)
  | [] => pure []
  | raw :: rest =>
      match Uid.ofValue raw with
      | .ok uid => do
          let uids <- readUids rest
          return uid :: uids
      | .error fault => do
          Run.note (.malformedUid raw fault)
          readUids rest

def parseUids (raw : List Value) : Run (List Uid) := do
  let uids <- readUids raw
  return firstOccurrences uids

def uidsValue (uids : List Uid) : Value :=
  .list (uids.map fun uid => .text uid.text)

/-- The body that gives every uID of a map its value, in the order of the uIDs. -/
def bodyOf {ν : Type} (toValue : ν -> Value) (entries : KeyedList Uid ν) : KeyedList String Value :=
  let ordered := Uid.sortEntries entries
  ordered.foldl (fun body entry => body.put entry.1.text (toValue entry.2))
    [(Uid.reservedKey, uidsValue (ordered.map Prod.fst))]

def requestManifest (now : Int) : Packet :=
  ⟨now, manifestRequest, [], by decide⟩

def requestCards (now : Int) (uids : List Uid) : Packet :=
  ⟨now, cardsRequest, [(Uid.reservedKey, uidsValue uids)], by decide⟩

def respondManifest (now : Int) (manifest : Manifest) : Packet :=
  ⟨now, manifestResponse, bodyOf Value.int manifest, by decide⟩

def respondCards (now : Int) (cards : KeyedList Uid String) : Packet :=
  ⟨now, cardsResponse, bodyOf Value.text cards, by decide⟩

def expectType (packet : Packet) (type : String) : Except RequestFault Unit :=
  if packet.type = type then .ok () else .error (.unexpectedType type packet.type)

def listedUids (packet : Packet) (type : String) : Run (List Uid) := do
  let raw <- Run.ofExcept ((do expectType packet type; uidList packet).mapError Failure.request)
  parseUids raw

def enterTimestamp (packet : Packet) (manifest : Manifest) (uid : Uid) : Run Manifest :=
  match packet.get uid.text with
  | .int timestamp => pure (manifest.put uid timestamp)
  | value => do
      Run.note (.invalidTimestamp uid value)
      return manifest

/-- The manifest in a response.  A uID without an integer timestamp is left out with a notice. -/
def readManifest (packet : Packet) : Run Manifest := do
  let uids <- listedUids packet manifestResponse
  uids.foldlM (enterTimestamp packet) []

def enterCard (packet : Packet) (cards : KeyedList Uid String) (uid : Uid) :
    Run (KeyedList Uid String) :=
  match packet.get uid.text with
  | .text card => pure (cards.put uid card)
  | _ => do
      Run.note (.noCardText uid)
      return cards

/-- The vCards in a response.  A uID without a text is left out with a notice. -/
def readCards (packet : Packet) : Run (KeyedList Uid String) := do
  let uids <- listedUids packet cardsResponse
  uids.foldlM (enterCard packet) []

end Message

end PairedContacts
