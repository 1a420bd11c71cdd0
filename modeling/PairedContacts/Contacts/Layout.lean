/-!
# Layout of the contacts table

The names of the table and of the columns that the protocol reads.
-/

set_option autoImplicit false

namespace PairedContacts

structure Layout where
  table : String
  lookup : String
  timestamp : String
  card : String
  displayName : String
  phone : String
  photo : String
  deriving DecidableEq, Repr

def Layout.standard : Layout where
  table := "raw_contacts"
  lookup := "lookup_key"
  timestamp := "last_updated_timestamp"
  card := "vcard"
  displayName := "display_name"
  phone := "phone_number"
  photo := "photo"

end PairedContacts
