import PairedContacts.Cell
import PairedContacts.Database.Location
import PairedContacts.Packet
import PairedContacts.Session.Phase
import PairedContacts.VCard.Footer

/-!
# Failures

What can stop an operation of the protocol.  Faults of single rows, cells and records are contained
where they arise and only noticed; the others end one exchange.  Every failure has a kind, by which
a transport answers it, and a message.
-/

set_option autoImplicit false

namespace PairedContacts

inductive FailureKind where
  /-- A failure of the protocol that has no kind of its own. -/
  | protocol
  | schema
  | columnType
  | malformedRequest
  | malformedRecord
  | unsupportedType
  | permissionDenied
  | sourceUnavailable
  | sessionState
  /-- An internal failure, whose details are not told to a peer. -/
  | internal
  | invalidValue
  | wrongType
  | outOfRange
  | invalidFields
  | unstorable
  | constraint
  | database
  | engine (fault : EngineFault)
  | hostPattern
  deriving DecidableEq, Repr

/-- Whether a failure of this kind concerns the protocol, as opposed to the program or its store. -/
def FailureKind.isProtocol : FailureKind -> Bool
  | protocol | schema | columnType | malformedRequest | malformedRecord => true
  | unsupportedType | permissionDenied | sourceUnavailable | sessionState => true
  | internal | invalidValue | wrongType | outOfRange | invalidFields => false
  | unstorable | constraint | database | engine _ | hostPattern => false

namespace CellFault

def kind : CellFault -> FailureKind
  | unrecognizedTag _ _ => .columnType
  | wrongKind => .wrongType
  | overflow => .outOfRange
  | _ => .invalidValue

end CellFault

namespace VCard.FooterFault

def kind : FooterFault -> FailureKind
  | record _ => .malformedRecord
  | _ => .invalidValue

end VCard.FooterFault

inductive RegistrationFault where
  | noHandler (plugin type : String)
  | handlerExists (type : String)
  deriving DecidableEq, Repr

def RegistrationFault.message : RegistrationFault -> String
  | noHandler plugin type => plugin ++ " declares " ++ type ++ " without a handler"
  | handlerExists type => "Packet type " ++ type ++ " already has a handler"

inductive Failure where
  | identity (fault : IdentityFault)
  | cell (fault : CellFault)
  | footer (fault : VCard.FooterFault)
  | record (fault : RecordFault)
  | request (fault : RequestFault)
  | unsupportedType (type : String)
  | accessDenied
  | noTable (table : String)
  | outOfOrder (fault : OutOfOrder)
  | undeclaredAnswer (request answer : String)
  | registration (fault : RegistrationFault)
  | fields (faults : List FieldFault)
  | outOfRange
  | unstorable (kind : String)
  | constraint (reason : String)
  | database (reason : String)
  | engine (fault : EngineFault)
  | hostPattern (pattern : String)
  /-- A failure that a handler or a source reports in its own words. -/
  | reported (kind : FailureKind) (message : String)

namespace Failure

def kind : Failure -> FailureKind
  | identity _ => .schema
  | cell fault => fault.kind
  | footer fault => fault.kind
  | record _ => .malformedRecord
  | request _ => .malformedRequest
  | unsupportedType _ => .unsupportedType
  | accessDenied => .permissionDenied
  | noTable _ => .sourceUnavailable
  | outOfOrder _ => .sessionState
  | undeclaredAnswer _ _ => .internal
  | registration _ => .invalidValue
  | fields _ => .invalidFields
  | outOfRange => .outOfRange
  | unstorable _ => .unstorable
  | constraint _ => .constraint
  | database _ => .database
  | engine fault => .engine fault
  | hostPattern _ => .hostPattern
  | reported kind _ => kind

def message : Failure -> String
  | identity fault => fault.message
  | cell fault => fault.message
  | footer fault => fault.message
  | record fault => fault.message
  | request fault => fault.message
  | unsupportedType type => "Unsupported packet type: " ++ type
  | accessDenied => "Contacts access has not been granted"
  | noTable table => "Table not found: " ++ table
  | outOfOrder fault => fault.message
  | undeclaredAnswer asked answered =>
      "Handler for " ++ asked ++ " produced undeclared packet type " ++ answered
  | registration fault => fault.message
  | fields faults => toString faults.length ++ " invalid field(s)"
  | outOfRange => "number out of range"
  | unstorable kind => "type '" ++ kind ++ "' is not supported"
  | constraint reason => reason
  | database reason => reason
  | engine _ => "no database at this address"
  | hostPattern pattern => "not a pattern for hosts: " ++ pattern
  | reported _ message => message

end Failure

end PairedContacts
