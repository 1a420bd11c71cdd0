import PairedContacts.Packet
import PairedContacts.Proofs.Bytes.Utf8
import PairedContacts.Proofs.Json.Overlong

/-!
# Packets on the wire

A packet that the format can hold is written as one line of bytes and read again from there.  So
packets that are written one after another can be told apart and come back as they were.  A packet
with an integer that is too long is written too, but it is not read.
-/

set_option autoImplicit false

namespace PairedContacts

theorem Json.reads_standard : Dialect.standard.Reads id :=
  ⟨LooseText.plain?_ofString, id⟩

theorem Json.reads_packet : Packet.dialect.Reads id :=
  ⟨LooseText.plain?_ofString, id⟩

namespace Packet

open Bytes (IsLine pieces)

/-- A packet that a dialect can hold: there is room for its integers, there are no real numbers and
no bytes, no key comes twice in a map, and the packet nests no deeper than the reader goes. -/
structure Fits (dialect : Json.Dialect String) (packet : Packet) : Prop where
  short : dialect.admits packet.id = true
  plain : (Value.map packet.body).isPlain dialect = true
  shallow : packet.toValue.height ≤ maxDepth

/-- A packet that can be sent on the wire, where a minus sign counts as a digit. -/
abbrev IsPortable (packet : Packet) : Prop :=
  packet.Fits dialect

/-- A packet that can be posted to a server, where no sign counts. -/
abbrev IsPostable (packet : Packet) : Prop :=
  packet.Fits .standard

/-- The bytes of a packet on the wire. -/
def line (packet : Packet) : List UInt8 :=
  Bytes.ofText packet.serialize

variable {packet : Packet}

theorem Fits.isPlain_toValue {held : Json.Dialect String} (fits : packet.Fits held) :
    packet.toValue.isPlain held = true := by
  have distinct : (["id", "type", "body"] : List String).Nodup := by decide
  have keys : decide (KeyedList.keys [("id", Value.int packet.id), ("type", .text packet.type),
      ("body", .map packet.body)]).Nodup = true := decide_eq_true distinct
  have numbered : (Value.int packet.id).isPlain held = true := fits.short
  have typed : (Value.text packet.type).isPlain held = true := rfl
  rw [toValue, Value.isPlain, keys, Value.havePlain, numbered, Value.havePlain, typed,
    Value.havePlain, fits.plain]
  rfl

theorem IsPortable.isPostable (portable : packet.IsPortable) : packet.IsPostable := by
  have wide (n : Int) (admitted : dialect.admits n = true) :
      Json.Dialect.standard.admits n = true :=
    Json.Dialect.admits_of_unsigned rfl (Json.Dialect.isTooLong_of_admits admitted)
  exact ⟨wide _ portable.short, Value.isPlain_mono wide _ portable.plain, portable.shallow⟩

theorem ofValue_toValue (now : Int) (packet : Packet) :
    ofValue now packet.toValue = .ok packet := by
  have named : readType (.text packet.type) = .ok ⟨packet.type, packet.type_ne_empty⟩ :=
    dif_pos packet.type_ne_empty
  simp only [toValue, ofValue, ofFields, KeyedList.get?]
  simp [named, Field.integer, Field.map]

theorem isSpace_of_mem_lineFeed : ∀ c ∈ "\n".toList, Json.isSpace c = true := by
  simp [Json.isSpace]

/-- The document of a portable packet is read as the packet, whatever blanks stand behind it. -/
theorem IsPortable.deserialize_writeWire (portable : packet.IsPortable) (now : Int)
    (blanks : String) (blank : ∀ c ∈ blanks.toList, Json.isSpace c = true) :
    deserialize now (Json.writeWire packet.toValue ++ blanks) = .ok packet := by
  have read : Json.read dialect (Json.writeWire packet.toValue ++ blanks) =
      .ok packet.toValue := by
    refine Json.read_wire Json.reads_packet portable.isPlain_toValue ?_ blank
    rintro limit ⟨⟩
    exact portable.shallow
  rw [deserialize, read]
  simp only [ofValue_toValue]

theorem IsPortable.deserialize_serialize (portable : packet.IsPortable) (now : Int) :
    deserialize now packet.serialize = .ok packet :=
  portable.deserialize_writeWire now "\n" isSpace_of_mem_lineFeed

theorem IsPortable.ofBytes_line (portable : packet.IsPortable) (now : Int) :
    ofBytes now packet.line = .ok packet := by
  rw [ofBytes, line, Bytes.fromUTF8?_ofText]
  exact portable.deserialize_serialize now

theorem Fits.isLine {held : Json.Dialect String} (fits : packet.Fits held) :
    IsLine packet.line := by
  refine Bytes.isLine_ofText ?_
  rw [Json.writeWire, String.toList_ofList]
  exact Json.noLineFeed_wire _ fits.isPlain_toValue

theorem mapM_ofBytes_line {packets : List Packet}
    (portable : ∀ packet ∈ packets, packet.IsPortable) (now : Int) :
    (packets.map line).mapM (ofBytes now) = .ok packets := by
  induction packets with
  | nil => rfl
  | cons packet rest ih =>
      rw [List.forall_mem_cons] at portable
      rw [List.map_cons, List.mapM_cons, portable.1.ofBytes_line, ih portable.2]
      rfl

/-- A packet without a body, and one whose keys and texts need every kind of escape. -/
def oddPackets : List Packet :=
  [⟨0, "ping", [], ne_of_beq_false rfl⟩,
   ⟨-7, "two\nlines", [("\x22\\\r\n\t", .text "\u0001\u007fé\u2028𝄞\n"),
    ("", .list [.null, .bool false, .int (-12), .list [], .map [("", .map [])]])],
    ne_of_beq_false rfl⟩]

/-- A packet is too long for a dialect if a value in its body is, and nothing in front of it is at
fault. -/
theorem isOverlong_of_body {held : Json.Dialect String} (short : held.admits packet.id = true)
    {before after : List (String × Value)} {key : String} {value : Value}
    (body : packet.body = before ++ (key, value) :: after)
    (plain : Value.havePlain held before = true) (overlong : value.IsOverlong held) :
    packet.toValue.IsOverlong held := by
  have front : Value.havePlain held [("id", .int packet.id), ("type", .text packet.type)] = true := by
    have numbered : (Value.int packet.id).isPlain held = true := short
    rw [Value.havePlain, numbered]
    rfl
  have inner : (Value.map packet.body).IsOverlong held := by
    rw [body]
    exact .field plain overlong
  show Value.IsOverlong held
    (.map ([("id", .int packet.id), ("type", .text packet.type)] ++ [("body", .map packet.body)]))
  exact .field front inner

theorem ofBytes_line_of_isOverlong (overlong : packet.toValue.IsOverlong dialect)
    (shallow : packet.toValue.height ≤ maxDepth) (now : Int) :
    ofBytes now packet.line = .error (.invalidPacket 1) := by
  obtain ⟨digits, refused⟩ := Json.exists_read_overlong Json.reads_packet overlong
    (by rintro limit ⟨⟩; exact shallow) "\n" isSpace_of_mem_lineFeed
  rw [ofBytes, line, Bytes.fromUTF8?_ofText]
  simp only [deserialize, serialize, refused]

/-- A packet with the integer nearest to zero whose numeral has a minus sign and 4300 digits. -/
def signedPacket : Packet :=
  ⟨1, "t", [("n", .int (-tenTo 4299))], ne_of_beq_false rfl⟩

end Packet

end PairedContacts
