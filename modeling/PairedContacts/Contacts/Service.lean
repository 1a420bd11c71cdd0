import PairedContacts.Contacts.Cards
import PairedContacts.Contacts.Message
import PairedContacts.Dispatcher

/-!
# The contacts service

The plugin that answers the two requests of the contacts protocol.  It keeps nothing between
requests: every packet is answered from a fresh reading of the contacts.
-/

set_option autoImplicit false

namespace PairedContacts

structure ContactsService where
  access : Option Access
  layout : Layout
  sender : Sender

namespace ContactsService

def displayName : String := "Contacts"
def description : String := "Let the paired device keep a copy of this device's contacts"
def requiredPermissions : List String := [Access.readContacts]
def isEnabledByDefault : Bool := true

def supported : List String := [Message.manifestRequest, Message.cardsRequest]
def outgoing : List String := [Message.manifestResponse, Message.cardsResponse]

def answerManifest (service : ContactsService) : Handler := fun around _ => do
  let manifest <- Manifest.build around.source service.access service.layout none
  return Message.respondManifest around.now manifest

/-- Answers by the vCards of those requested contacts that could be found. -/
def answerCards (service : ContactsService) : Handler := fun around packet => do
  let raw <- Run.ofExcept ((Message.uidList packet).mapError Failure.request)
  let uids <- Message.parseUids raw
  let cards <- Cards.collect around.source service.access service.layout service.sender uids
  return Message.respondCards around.now cards

def plugin (service : ContactsService) : Plugin where
  name := "ContactsPlugin"
  supported := supported
  outgoing := outgoing
  handlers :=
    [(Message.manifestRequest, service.answerManifest), (Message.cardsRequest, service.answerCards)]

end ContactsService

end PairedContacts
