import PairedContacts.Contacts.Message

/-!
# Fetch plans

Comparing the manifest known from earlier exchanges with the one the source reports now divides all
contacts into those to fetch, because they are new or newer, those unchanged, and those that the
source no longer has.  Each part is in the order of the uIDs.
-/

set_option autoImplicit false

namespace PairedContacts

structure FetchPlan where
  toFetch : List Uid
  unchanged : List Uid
  deleted : List Uid
  deriving DecidableEq, Repr

inductive Verdict where
  | fetch
  | keep
  | deleted
  deriving DecidableEq, Repr

namespace FetchPlan

/-- A contact that the source has is fetched unless its known timestamp is as great. -/
def verdict (known remote : Manifest) (uid : Uid) : Verdict :=
  match KeyedList.get? known uid, KeyedList.get? remote uid with
  | _, none => .deleted
  | none, some _ => .fetch
  | some here, some there => if here < there then .fetch else .keep

def uids (known remote : Manifest) : List Uid :=
  Uid.sort (firstOccurrences (KeyedList.keys known ++ KeyedList.keys remote))

def compute (known remote : Manifest) : FetchPlan :=
  let all := uids known remote
  ⟨all.filter fun uid => verdict known remote uid = .fetch,
   all.filter fun uid => verdict known remote uid = .keep,
   all.filter fun uid => verdict known remote uid = .deleted⟩

end FetchPlan

end PairedContacts
