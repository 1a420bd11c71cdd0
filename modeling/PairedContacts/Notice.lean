import PairedContacts.Failure

/-!
# Notices

What an operation remarks upon without failing.  A notice has a level, a sentence with places in it,
and what goes into the places.
-/

set_option autoImplicit false

namespace PairedContacts

inductive Level where
  | warning
  | error
  | critical
  deriving DecidableEq, Repr

def Level.name : Level -> String
  | warning => "WARNING"
  | error => "ERROR"
  | critical => "CRITICAL"

inductive Remark where
  | value (value : Value)
  | failure (kind : FailureKind)

inductive Notice where
  | rowWithoutIdentity (table : String) (fault : IdentityFault)
  | unreadableCell (column : String) (fault : CellFault)
  | rowWithoutTimestamp (uid : Uid) (column : String)
  | cardNotText (uid : Uid) (kind : ColumnKind)
  | contactWithoutCard (uid : Uid)
  | contactWithoutTimestamp (uid : Uid) (column : String)
  | malformedCard (uid : Uid) (fault : RecordFault)
  | lookupFailed (failure : Failure)
  | malformedUid (raw : Value) (fault : UidFault)
  | invalidTimestamp (uid : Uid) (value : Value)
  | noCardText (uid : Uid)
  | unrequestedCard (uid : Uid)
  | foreignCard (uid carried : Uid)
  | noHandler (type : String)
  | rejected (type : String) (failure : Failure)
  | unhandled (type : String) (failure : Failure)
  | accessNotGranted
  | unhealthy
  | invalidRequest (method path : String) (faults : List FieldFault)
  | failedRequest (kind : FailureKind) (method path : String) (failure : Failure)
  | noDatabase
  | noSchema

namespace Notice

def level : Notice -> Level
  | lookupFailed _ | rejected _ _ | unhandled _ _ => .error
  | failedRequest kind _ _ _ =>
      match kind with
      | .sourceUnavailable | .database | .internal => .error
      | _ => .warning
  | noDatabase | noSchema => .critical
  | _ => .warning

def failureTitle : FailureKind -> String
  | .unsupportedType => "UnsupportedMessageType"
  | .malformedRequest => "MalformedRequestError"
  | .permissionDenied => "PermissionDenied"
  | .sourceUnavailable => "SourceUnavailableError"
  | .database => "OperationalError"
  | .internal => "InternalServerError"
  | _ => "Failure"

/-- The sentence of a notice; `%s` and `%r` are its places. -/
def template : Notice -> String
  | rowWithoutIdentity _ _ => "Skipping row without identity in %s: %s"
  | unreadableCell _ _ => "Skipping cell %r: %s"
  | rowWithoutTimestamp _ _ => "Row for %s has no usable %s"
  | cardNotText _ _ => "Ignoring non-text vCard cell for %s (%s)"
  | contactWithoutCard _ => "Contact %s has no vCard"
  | contactWithoutTimestamp _ _ => "Contact %s has no %s"
  | malformedCard _ _ => "Dropping malformed vCard for %s: %s"
  | lookupFailed _ => "Phone number lookup failed: %s"
  | malformedUid _ _ => "Dropping malformed uID %r: %s"
  | invalidTimestamp _ _ => "Dropping uID %s with invalid timestamp %r"
  | noCardText _ => "Dropping uID %s without vCard text"
  | unrequestedCard _ => "Ignoring unrequested uID %s in response"
  | foreignCard _ _ => "Dropping vCard for %s carrying uID %s"
  | noHandler _ => "No handler for packet type %s"
  | rejected _ _ => "Rejected %s packet: %s"
  | unhandled _ _ => "Failed to handle %s packet: %s"
  | accessNotGranted => "Contacts access not granted; contact requests will be refused"
  | unhealthy => "Health check database query failed"
  | invalidRequest _ _ _ => "RequestValidationError in %s %s: %s"
  | failedRequest kind _ _ _ => failureTitle kind ++ " in %s %s: %s"
  | noDatabase => "Failed to initialize database: %s. Check database path and permissions."
  | noSchema => "Failed to create database schema: %s."

def uidRemark (uid : Uid) : Remark :=
  .value (.text uid.text)

def textRemark (text : String) : Remark :=
  .value (.text text)

def remarks : Notice -> List Remark
  | rowWithoutIdentity table _ => [textRemark table, .failure .schema]
  | unreadableCell column fault => [textRemark column, .failure fault.kind]
  | rowWithoutTimestamp uid column => [uidRemark uid, textRemark column]
  | cardNotText uid kind => [uidRemark uid, textRemark kind.name]
  | contactWithoutCard uid => [uidRemark uid]
  | contactWithoutTimestamp uid column => [uidRemark uid, textRemark column]
  | malformedCard uid _ => [uidRemark uid, .failure .malformedRecord]
  | lookupFailed failure => [.failure failure.kind]
  | malformedUid raw _ => [.value raw, .failure .invalidValue]
  | invalidTimestamp uid value => [uidRemark uid, .value value]
  | noCardText uid => [uidRemark uid]
  | unrequestedCard uid => [uidRemark uid]
  | foreignCard uid carried => [uidRemark uid, uidRemark carried]
  | noHandler type => [textRemark type]
  | rejected type failure => [textRemark type, .failure failure.kind]
  | unhandled type failure => [textRemark type, .failure failure.kind]
  | accessNotGranted | unhealthy | noDatabase | noSchema => []
  | invalidRequest method path _ => [textRemark method, textRemark path]
  | failedRequest _ method path failure =>
      [textRemark method, textRemark path, .failure failure.kind]

end Notice

end PairedContacts
