import PairedContacts.Field
import PairedContacts.Json.Printer
import PairedContacts.Json.Reader

/-!
# Packets

A packet is one message of the protocol: an id, a type that is never empty, and a body of named
values.  On the wire it is one line, the document of its three fields followed by a line feed.
-/

set_option autoImplicit false

namespace PairedContacts

structure Packet where
  id : Int
  type : String
  body : KeyedList String Value
  type_ne_empty : type ≠ ""
  deriving Repr

inductive RequestFault where
  | invalidPacket (problems : Nat)
  | noUids (type : String)
  | uidsNotList (type : String)
  | unexpectedType (expected found : String)
  deriving DecidableEq, Repr

def RequestFault.message : RequestFault -> String
  | invalidPacket problems => "Invalid packet: " ++ toString problems ++ " error(s)"
  | noUids type => type ++ " packet has no 'uids' key"
  | uidsNotList type => type ++ " packet has a non-list 'uids' field"
  | unexpectedType expected found => "Expected " ++ expected ++ " packet, got " ++ found

namespace Packet

def has (packet : Packet) (key : String) : Bool :=
  packet.body.holds key

def get? (packet : Packet) (key : String) : Option Value :=
  packet.body.get? key

/-- The value of a key; an absent key has the value null. -/
def get (packet : Packet) (key : String) : Value :=
  (packet.get? key).getD .null

def set (packet : Packet) (key : String) (value : Value) : Packet :=
  { packet with body := packet.body.put key value }

def readType (value : Value) : Except FieldProblem { type : String // type ≠ "" } := do
  let type <- Field.text value
  if nonempty : type ≠ "" then return ⟨type, nonempty⟩ else throw (.tooShort 1)

/-- Builds a packet from named values.  A packet without an id gets the present time, and one
without a body an empty one; other fields are ignored. -/
def ofFields (now : Int) (fields : KeyedList String Value) : Except (List FieldFault) Packet :=
  let id := (KeyedList.get? fields "id").elim (.ok now) Field.integer
  let type := (KeyedList.get? fields "type").elim (.error .missing) readType
  let body := (KeyedList.get? fields "body").elim (.ok []) Field.map
  match id, type, body with
  | .ok id, .ok type, .ok body => .ok ⟨id, type.val, body, type.property⟩
  | id, type, body =>
      .error (Field.faultsOf "id" id ++ Field.faultsOf "type" type ++ Field.faultsOf "body" body)

def ofValue (now : Int) : Value -> Except (List FieldFault) Packet
  | .map fields => ofFields now fields
  | _ => .error [⟨["body"], .notFields⟩]

def toValue (packet : Packet) : Value :=
  .map [("id", .int packet.id), ("type", .text packet.type), ("body", .map packet.body)]

def serialize (packet : Packet) : String :=
  Json.writeWire packet.toValue ++ "\n"

def maxDepth : Nat := 200

/-- How the documents of packets are read. -/
def dialect : Json.Dialect String :=
  { Json.Dialect.standard with maxDepth := some maxDepth, countsSign := true }

def deserialize (now : Int) (line : String) : Except RequestFault Packet :=
  match Json.read dialect line with
  | .error _ => .error (.invalidPacket 1)
  | .ok value =>
      match ofValue now value with
      | .ok packet => .ok packet
      | .error faults => .error (.invalidPacket faults.length)

/-- Reads a packet from bytes, which have to be UTF-8. -/
def ofBytes (now : Int) (bytes : List UInt8) : Except RequestFault Packet :=
  match String.fromUTF8? ⟨bytes.toArray⟩ with
  | some line => deserialize now line
  | none => .error (.invalidPacket 1)

end Packet

end PairedContacts
