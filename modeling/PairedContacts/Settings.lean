import PairedContacts.Contacts.Service
import PairedContacts.Json.Reader
import PairedContacts.Text.Alphanumeric
import PairedContacts.Text.UpperCase

/-!
# Settings

How a server is set up.  A setting is taken from the values given, or else from the environment, or
else has a standard value; names are compared without regard to case.  Every setting has a rule, and
a server outside debugging has to be told its device id and the hosts it is trusted under.
-/

set_option autoImplicit false

namespace PairedContacts

structure Settings where
  debug : Bool
  databaseUrl : String
  host : String
  port : Int
  trustedHosts : List String
  deviceId : String
  deviceName : String
  /-- The namespace of metadata, in upper case. -/
  space : String
  layout : Layout
  accessGranted : Bool

inductive SettingsFault where
  | unreadableVariable (name : String)
  | fields (faults : List FieldFault)

namespace Settings

/-- The device id of a server that was not told one. -/
def placeholderDevice : String := "change-me-device-id"

def lowerName (name : String) : String :=
  String.ofList (name.toList.map Char.toLower)

/-- The last of the values whose name differs at most in case. -/
def lookup? (values : KeyedList String Value) (name : String) : Option Value :=
  (values.reverse.find? fun entry => lowerName entry.1 == name).map Prod.snd

/-- The name of the one setting whose variable holds a document. -/
def hostsName : String := "trusted_hosts"

/-- The values that the environment gives.  The list of hosts is a document there, and the document
`null` gives no value. -/
def ofEnvironment (environment : KeyedList String String) :
    Except SettingsFault (KeyedList String Value) :=
  let plain := environment.filter fun entry => lowerName entry.1 ≠ hostsName
  let texts := plain.map fun entry => (entry.1, Value.text entry.2)
  match environment.reverse.find? fun entry => lowerName entry.1 == hostsName with
  | none => .ok texts
  | some (name, document) =>
      match Json.read .standard document with
      | .ok .null => .ok texts
      | .ok value => .ok (texts ++ [(name, value)])
      | .error _ => .error (.unreadableVariable name)

/-- A device id stands in a line of metadata: it has no colon and no blank. -/
def deviceRule (value : Value) : Except FieldProblem String := do
  let text <- Field.text value
  if text.isEmpty || text.toList.any fun c => c = ':' || Text.isBlank c then
    throw (.refused "device_id must be non-empty and contain no ':' or whitespace")
  return text

/-- A namespace is made of letters and digits, and dashes between or around them. -/
def admitsSpace (space : List Char) : Bool :=
  let letters := space.filter fun c => c != '-'
  !letters.isEmpty && letters.all Text.isAlphanumeric

def spaceRule (value : Value) : Except FieldProblem String := do
  let text <- Field.text value
  if admitsSpace text.toList then
    return String.ofList (Text.upper text.toList)
  throw (.refused "metadata_namespace must be alphanumeric (dashes allowed)")

def portRule (value : Value) : Except FieldProblem Int := do
  let port <- Field.integer value
  if port < 1 then throw (.belowLeast 1)
  if 65535 < port then throw (.aboveMost 65535)
  return port

def entryFaults (name : String) (entries : List Value) : List FieldFault :=
  (entries.zipIdx.map fun entry =>
    match Field.text entry.1 with
    | .ok _ => []
    | .error problem => [⟨[name, toString entry.2], problem⟩]).flatten

def textEntries (entries : List Value) : List String :=
  entries.filterMap fun entry => (Field.text entry).toOption

def hostsOf (name : String) : Value -> Except (List FieldFault) (List String)
  | .list entries =>
      match entryFaults name entries with
      | [] => .ok (textEntries entries)
      | faults => .error faults
  | _ => .error [⟨[name], .notList⟩]

abbrev Checked (α : Type) := Except (List FieldFault) α

def check {α : Type} (values : KeyedList String Value) (name : String) (standard : α)
    (rule : Value -> Except FieldProblem α) : Checked α :=
  match lookup? values name with
  | none => .ok standard
  | some value => (rule value).mapError fun problem => [⟨[name], problem⟩]

def checkHosts (values : KeyedList String Value) : Checked (List String) :=
  (lookup? values hostsName).elim (.ok []) (hostsOf hostsName)

/-- Puts a checked part together with the rest; the faults of both are kept. -/
def together {α β : Type} (build : Checked (α -> β)) (part : Checked α) : Checked β :=
  match build, part with
  | .ok make, .ok value => .ok (make value)
  | .ok _, .error faults => .error faults
  | .error faults, .ok _ => .error faults
  | .error first, .error second => .error (first ++ second)

def checkText (values : KeyedList String Value) (name standard : String) : Checked String :=
  check values name standard Field.text

def checkLayout (values : KeyedList String Value) : Checked Layout :=
  let standard := Layout.standard
  let start : Checked (String -> String -> String -> String -> String -> String -> String ->
    Layout) := .ok Layout.mk
  together (together (together (together (together (together (together start
    (checkText values "contacts_table" standard.table))
    (checkText values "lookup_column" standard.lookup))
    (checkText values "timestamp_column" standard.timestamp))
    (checkText values "vcard_column" standard.card))
    (checkText values "display_name_column" standard.displayName))
    (checkText values "phone_column" standard.phone))
    (checkText values "photo_column" standard.photo)

def ofValues (values : KeyedList String Value) : Checked Settings :=
  let start : Checked (Bool -> String -> String -> Int -> List String -> String -> String ->
    String -> Layout -> Bool -> Settings) := .ok Settings.mk
  together (together (together (together (together (together (together (together (together (together
    start
    (check values "debug" false Field.flag))
    (checkText values "database_url" "sqlite+aiosqlite:///data/db/contacts.db"))
    (checkText values "host" "0.0.0.0"))
    (check values "port" 8000 portRule))
    (checkHosts values))
    (check values "device_id" placeholderDevice deviceRule))
    (checkText values "device_name" "contactsync"))
    (check values "metadata_namespace" VCard.defaultNamespace spaceRule))
    (checkLayout values))
    (check values "contacts_access_granted" true Field.flag)

def load (values : KeyedList String Value) (environment : KeyedList String String) :
    Except SettingsFault Settings := do
  let fromEnvironment <- ofEnvironment environment
  (ofValues (fromEnvironment ++ values)).mapError .fields

def runtimeFaults (settings : Settings) : List String :=
  if settings.debug then []
  else
    (if settings.deviceId = placeholderDevice then
      ["DEVICE_ID must be set to this device's paired identifier"] else []) ++
    (if settings.trustedHosts.isEmpty then
      ["TRUSTED_HOSTS must be configured in production"] else [])

def validateRuntime (settings : Settings) : Except Failure Unit :=
  match settings.runtimeFaults with
  | [] => .ok ()
  | faults =>
      .error (.reported .invalidValue
        ("Invalid production configuration: " ++ "; ".intercalate faults))

def service (settings : Settings) : ContactsService where
  access := Access.grant settings.accessGranted
  layout := settings.layout
  sender := ⟨settings.deviceId, settings.space⟩

end Settings

end PairedContacts
