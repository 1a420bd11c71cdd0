import PairedContacts.Contacts.PhoneBook
import PairedContacts.Database
import PairedContacts.Http.PacketBody
import PairedContacts.Http.TrustedHosts
import PairedContacts.Settings

/-!
# The server

The server answers packets, descriptions of itself, questions about its health and lookups of phone
numbers.  A failure of the protocol is answered by a status and a text; what an internal failure
says is never told to a requester.
-/

set_option autoImplicit false

namespace PairedContacts

inductive Store where
  | reachable (database : Database)
  | unreachable (reason : String)

namespace Store

def source : Store -> Source
  | reachable database => database.source
  | unreachable reason => .refusing (.database reason)

def isReachable : Store -> Bool
  | reachable _ => true
  | unreachable _ => false

end Store

structure Server where
  settings : Settings
  store : Store
  dispatcher : Dispatcher

namespace Server

def version : String := "0.1.0"

/-- The hosts that a server is trusted under while it is debugged. -/
def debugHosts : List String := ["localhost", "127.0.0.1", "::1", "test", "testserver"]

def trustedHosts (settings : Settings) : List String :=
  if !settings.trustedHosts.isEmpty then settings.trustedHosts
  else if settings.debug then debugHosts
  else []

def service (server : Server) : ContactsService :=
  server.settings.service

def failureAnswer? (failure : Failure) : Option HttpResponse :=
  match failure.kind with
  | .unsupportedType => some (.detail 404 failure.message)
  | .malformedRequest => some (.detail 422 failure.message)
  | .permissionDenied => some (.detail 403 "Contacts access not granted")
  | .sourceUnavailable => some (.detail 503 "Contacts source unavailable")
  | .database => some (.detail 503 "Database temporarily unavailable")
  | .internal => some (.detail 500 "Internal server error")
  | _ => none

def answering (request : HttpRequest) (run : Run HttpResponse) : Run HttpResponse :=
  match run.outcome with
  | .ok _ => run
  | .error failure =>
      match failureAnswer? failure with
      | none => run
      | some response =>
          let notice := Notice.failedRequest failure.kind request.method request.path failure
          ⟨run.events ++ [.notice notice], .ok response⟩

def refuse (request : HttpRequest) (faults : List FieldFault) : Run HttpResponse := do
  Run.note (.invalidRequest request.method request.path faults)
  let told := faults.map fun fault =>
    Value.map [("field", .text (fault.place.getLast?.getD "unknown")),
      ("message", .text fault.problem.message)]
  return .document 422 (.map [("detail", .list told)])

def answerPacket (server : Server) (now : Int) (request : HttpRequest) : Run HttpResponse :=
  match PacketBody.read now request with
  | .error (.fields faults) => refuse request faults
  | .error .unreadable => pure (.detail 400 "There was an error parsing the body")
  | .ok packet => do
      let answer <- server.dispatcher.dispatch ⟨server.store.source, now⟩ packet
      return .document 200 answer.toValue

def texts (list : List String) : Value :=
  .list (list.map Value.text)

def answerDevice (server : Server) : HttpResponse :=
  .document 200 (.map
    [("device_id", .text server.settings.deviceId),
     ("device_name", .text server.settings.deviceName),
     ("incoming_capabilities", texts server.dispatcher.supportedTypes),
     ("outgoing_capabilities", texts server.dispatcher.outgoingTypes)])

def health (status database : String) : HttpResponse :=
  .document 200 (.map
    [("status", .text status), ("version", .text version), ("database", .text database)])

def answerHealth (server : Server) : Run HttpResponse :=
  if server.store.isReachable then pure (health "ok" "ok")
  else do
    Run.note .unhealthy
    return health "degraded" "error"

def maxNumberLength : Nat := 64

def readNumber (request : HttpRequest) : Except FieldProblem String :=
  match request.parameter? "number" with
  | none => .error .missing
  | some number =>
      if number.isEmpty then .error (.tooShort 1)
      else if maxNumberLength < number.length then .error (.tooLong maxNumberLength)
      else .ok number

def orNull (text : Option String) : Value :=
  text.elim .null Value.text

def answerLookup (server : Server) (request : HttpRequest) : Run HttpResponse :=
  match readNumber request with
  | .error problem => refuse request [⟨["number"], problem⟩]
  | .ok number => do
      let service := server.service
      let entry <- PhoneBook.lookup server.store.source service.access service.layout number
      return .document 200 (.map [("name", orNull entry.name), ("photo", orNull entry.photo)])

inductive Route where
  | health
  | packets
  | device
  | lookup
  deriving DecidableEq, Repr

namespace Route

def path : Route -> String
  | health => "/api/health"
  | packets => "/api/packets"
  | device => "/api/device"
  | lookup => "/api/contacts/lookup"

def method : Route -> String
  | packets => "POST"
  | _ => "GET"

def all : List Route := [health, packets, device, lookup]

def at? (path : String) : Option Route :=
  all.find? fun route => route.path == path

/-- A path with a slash at its end instead of none, or with none instead of some. -/
def otherEnding (path : String) : String :=
  if path.endsWith "/" then
    String.ofList (Text.trimEnd (fun c => c = '/') path.toList)
  else path ++ "/"

end Route

def answerRoute (server : Server) (now : Int) (request : HttpRequest) (route : Route) :
    Run HttpResponse :=
  match route with
  | .health => answerHealth server
  | .packets => answerPacket server now request
  | .device => pure (answerDevice server)
  | .lookup => answerLookup server request

/-- Finds what a request asks for.  A path that lacks only its slash, or has one too many, is moved
to the right one. -/
def serve (server : Server) (now : Int) (request : HttpRequest) : Run HttpResponse :=
  match Route.at? request.path with
  | some route =>
      if request.method = route.method then
        answering request (answerRoute server now request route)
      else pure (.detail 405 "Method Not Allowed")
  | none =>
      if request.path != "/" && (Route.at? (Route.otherEnding request.path)).isSome then
        pure (.text 307 "")
      else pure (.detail 404 "Not Found")

def answer (server : Server) (now : Int) (request : HttpRequest) : Run HttpResponse := do
  let patterns := trustedHosts server.settings
  match patterns.find? fun pattern => !TrustedHosts.isPattern pattern with
  | some pattern => throw (.hostPattern pattern)
  | none =>
      let response <-
        if patterns.isEmpty then server.serve now request
        else
          match TrustedHosts.judge patterns request.host with
          | .trusted => server.serve now request
          | .moved => pure (.text 307 "")
          | .refused => pure (.text 400 "Invalid host header")
      return response.finish request

end Server

end PairedContacts
