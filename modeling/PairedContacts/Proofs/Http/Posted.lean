import PairedContacts.Proofs.Packet
import PairedContacts.Server

/-!
# Packets in requests and answers

A packet that a body has room for is read from the body of the request that posts it, as it was, and
a portable one that a response holds as its document is read from there.  A packet with an integer
that is too long is not read from a body.
-/

set_option autoImplicit false

namespace PairedContacts

/-- A request that posts a packet to the server as a document. -/
structure HttpRequest.Posts (request : HttpRequest) (packet : Packet) : Prop where
  method : request.method = Server.Route.packets.method
  path : request.path = Server.Route.packets.path
  announced : (request.header? "content-type").any PacketBody.isDocumentType = true
  body : request.body = packet.serialize

namespace PacketBody

variable {packet : Packet} {request : HttpRequest}

theorem exists_serialize (packet : Packet) : ∃ rest, packet.serialize.toList = '\x7b' :: rest := by
  rw [Packet.serialize, Packet.toValue, Json.writeWire, Json.wire, String.toList_append,
    String.toList_ofList]
  exact ⟨_, rfl⟩

/-- The body of a posted packet is not empty and has no mark in front. -/
theorem content_of_posts (posts : request.Posts packet) :
    request.body.isEmpty = false ∧ withoutMark request.body = packet.serialize := by
  obtain ⟨rest, opening⟩ := exists_serialize packet
  rw [posts.body]
  constructor
  · rw [String.isEmpty_eq_false_iff]
    intro empty
    rw [empty] at opening
    cases opening
  · rw [withoutMark, opening]
    rfl

theorem read_of_isPostable (postable : packet.IsPostable) (posts : request.Posts packet)
    (now : Int) : read now request = .ok packet := by
  obtain ⟨content, unmarked⟩ := content_of_posts posts
  have found : Json.read .standard packet.serialize = .ok packet.toValue :=
    Json.read_wire Json.reads_standard postable.isPlain_toValue
      (fun limit unlimited => by cases unlimited) Packet.isSpace_of_mem_lineFeed
  rw [read, if_neg (by simp [content]), if_pos posts.announced, unmarked, found]
  simp only [Packet.ofValue_toValue]
  rfl

theorem read_of_isOverlong (overlong : packet.toValue.IsOverlong .standard)
    (posts : request.Posts packet) (now : Int) : read now request = .error .unreadable := by
  obtain ⟨content, unmarked⟩ := content_of_posts posts
  obtain ⟨digits, refused⟩ := Json.exists_read_overlong Json.reads_standard overlong
    (fun limit unlimited => by cases unlimited) "\n" Packet.isSpace_of_mem_lineFeed
  rw [read, if_neg (by simp [content]), if_pos posts.announced, unmarked, Packet.serialize, refused]

end PacketBody

/-- The bytes of a response, before they are compressed. -/
def HttpContent.bytes : HttpContent -> List UInt8
  | .document value => Bytes.ofText (Json.writeWire value)
  | .text words => Bytes.ofText words

theorem Packet.IsPortable.ofBytes_document {packet : Packet} (portable : packet.IsPortable)
    (now : Int) : ofBytes now (HttpContent.document packet.toValue).bytes = .ok packet := by
  have read := portable.deserialize_writeWire now "" (by simp)
  rw [ofBytes, HttpContent.bytes, Bytes.fromUTF8?_ofText]
  rwa [String.append_empty] at read

end PairedContacts
