import PairedContacts.Contacts.Layout
import PairedContacts.Projection

/-!
# The manifest

The manifest tells for every contact when it was last changed: the greatest timestamp among the rows
of its merge group.  A contact none of whose rows has an integer timestamp is not in it.
-/

set_option autoImplicit false

namespace PairedContacts

abbrev Manifest := KeyedList Uid Int

namespace Manifest

def raise (manifest : Manifest) (uid : Uid) (timestamp : Int) : Manifest :=
  match manifest.get? uid with
  | none => manifest.put uid timestamp
  | some current => if current < timestamp then manifest.put uid timestamp else manifest

def timestampOf (layout : Layout) (record : Record) : Option Int :=
  (KeyedList.get? record layout.timestamp).bind ColumnValue.integer?

def visit (layout : Layout) (manifest : Manifest) (uid : Uid) (record : Record) : Run Manifest :=
  match timestampOf layout record with
  | some timestamp => pure (manifest.raise uid timestamp)
  | none => do
      Run.note (.rowWithoutTimestamp uid layout.timestamp)
      return manifest

def selection (layout : Layout) (wanted : Option (List Uid)) : Selection where
  table := layout.table
  lookupColumn := layout.lookup
  columns := [layout.timestamp]
  wanted := wanted

def build (source : Source) (access : Option Access) (layout : Layout)
    (wanted : Option (List Uid)) : Run Manifest :=
  Projection.visitRows source access (selection layout wanted) (visit layout) []

end Manifest

end PairedContacts
