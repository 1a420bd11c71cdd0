import PairedContacts.Run

/-!
# Access to the contacts

Reading contacts needs a token, which is handed to every operation that reads.  Only a token for the
right permission opens the contacts.
-/

set_option autoImplicit false

namespace PairedContacts

structure Access where
  permission : String
  deriving DecidableEq, Repr

namespace Access

def readContacts : String := "READ_CONTACTS"

def grant (granted : Bool) : Option Access :=
  if granted then some ⟨readContacts⟩ else none

def opens (access : Option Access) : Bool :=
  access.any fun token => token.permission == readContacts

def demand (access : Option Access) : Run Unit :=
  if opens access then pure () else throw .accessDenied

end Access

end PairedContacts
