import PairedContacts.Contacts.Manifest

/-!
# Collecting vCards

The vCard of a contact is the last text among the vCard cells of its merge group, finalized with the
timestamp that the manifest gives for it.  A contact without a text, without a timestamp or with a
malformed record is left out with a notice.
-/

set_option autoImplicit false

namespace PairedContacts

/-- Who sends vCards: the device that they come from, and the namespace of their metadata. -/
structure Sender where
  deviceId : String
  space : String

namespace Cards

/-- What the rows of the wanted contacts have told so far. -/
structure Findings where
  texts : KeyedList Uid String
  timestamps : Manifest

def takeText (layout : Layout) (findings : Findings) (uid : Uid) (record : Record) :
    Run Findings :=
  match KeyedList.get? record layout.card with
  | none => pure findings
  | some (.text text) => pure { findings with texts := findings.texts.put uid text }
  | some other => do
      Run.note (.cardNotText uid other.kind)
      return findings

def takeTimestamp (layout : Layout) (findings : Findings) (uid : Uid) (record : Record) :
    Findings :=
  match Manifest.timestampOf layout record with
  | none => findings
  | some timestamp => { findings with timestamps := findings.timestamps.raise uid timestamp }

def visit (layout : Layout) (findings : Findings) (uid : Uid) (record : Record) :
    Run Findings := do
  let found <- takeText layout findings uid record
  return takeTimestamp layout found uid record

def selection (layout : Layout) (uids : List Uid) : Selection where
  table := layout.table
  lookupColumn := layout.lookup
  columns := [layout.card, layout.timestamp]
  wanted := some uids

def finish (layout : Layout) (sender : Sender) (findings : Findings)
    (cards : KeyedList Uid String) (uid : Uid) : Run (KeyedList Uid String) :=
  match KeyedList.get? findings.texts uid, KeyedList.get? findings.timestamps uid with
  | none, none => pure cards
  | none, some _ => do
      Run.note (.contactWithoutCard uid)
      return cards
  | some _, none => do
      Run.note (.contactWithoutTimestamp uid layout.timestamp)
      return cards
  | some text, some timestamp =>
      match VCard.finalize sender.space text ⟨sender.deviceId, uid, timestamp⟩ with
      | .ok card => pure (cards.put uid card)
      | .error (.record fault) => do
          Run.note (.malformedCard uid fault)
          return cards
      | .error fault => throw (.footer fault)

/-- The finalized vCards of those contacts that were found.  Nothing is read for no contacts. -/
def collect (source : Source) (access : Option Access) (layout : Layout) (sender : Sender)
    (uids : List Uid) : Run (KeyedList Uid String) := do
  Access.demand access
  if uids.isEmpty then
    return []
  let findings <-
    Projection.visitRows source access (selection layout uids) (visit layout) ⟨[], []⟩
  uids.foldlM (finish layout sender findings) []

end Cards

end PairedContacts
