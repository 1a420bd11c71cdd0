import PairedContacts.Http.Message
import PairedContacts.Packet
import PairedContacts.Text.Blank

/-!
# Packets in request bodies

The body of a request holds a packet if its content type announces a document.  A body that cannot
be read is answered by where the trouble is.
-/

set_option autoImplicit false

namespace PairedContacts

inductive BodyFault where
  | fields (faults : List FieldFault)
  /-- The body is a document, but holds something that cannot be taken. -/
  | unreadable

namespace PacketBody

/-- The field that a fault of the whole body is told under. -/
def bodyField : String := "body"

/-- The media type of a header, in lower case and without parameters. -/
def mediaType (header : String) : List Char :=
  (Text.trim (header.toList.takeWhile fun c => c != ';')).map Char.toLower

def isDocumentType (header : String) : Bool :=
  let type := mediaType header
  let (main, sub) := (type.takeWhile fun c => c != '/', (type.dropWhile fun c => c != '/').drop 1)
  main == "application".toList && !sub.contains '/' &&
    (sub == "json".toList || "+json".toList.isSuffixOf sub)

/-- A document without the mark that may begin it. -/
def withoutMark (body : String) : String :=
  match body.toList with
  | '\ufeff' :: rest => String.ofList rest
  | _ => body

def read (now : Int) (request : HttpRequest) : Except BodyFault Packet :=
  if request.body.isEmpty then .error (.fields [⟨[bodyField], .missing⟩])
  else if (request.header? "content-type").any isDocumentType then
    match Json.read .standard (withoutMark request.body) with
    | .error (.unexpected offset) => .error (.fields [⟨[toString offset], .notDocument⟩])
    | .error _ => .error .unreadable
    | .ok value => (Packet.ofValue now value).mapError .fields
  else .error (.fields [⟨[bodyField], .notFields⟩])

end PacketBody

end PairedContacts
