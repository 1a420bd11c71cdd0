import PairedContacts.Json.Printer

/-!
# Requests and responses

What a server is asked over HTTP, and what it answers: a document or a text, compressed if it is
large and the requester takes compressed answers.
-/

set_option autoImplicit false

namespace PairedContacts

structure HttpRequest where
  method : String
  path : String
  query : List (String × String)
  headers : List (String × String)
  host : String
  body : String

inductive HttpContent where
  | document (value : Value)
  | text (text : String)

structure HttpResponse where
  status : Nat
  content : HttpContent
  isCompressed : Bool

namespace HttpRequest

def lowerCase (text : String) : String :=
  String.ofList (text.toList.map Char.toLower)

/-- The last value of a header; names of headers have no case. -/
def header? (request : HttpRequest) (name : String) : Option String :=
  (request.headers.reverse.find? fun entry => lowerCase entry.1 == name).map Prod.snd

def parameter? (request : HttpRequest) (name : String) : Option String :=
  (request.query.reverse.find? fun entry => entry.1 == name).map Prod.snd

def mentions (word : List Char) : List Char -> Bool
  | [] => word.isEmpty
  | c :: rest => word.isPrefixOf (c :: rest) || mentions word rest

/-- Whether the requester takes compressed answers, as it does unless it says otherwise. -/
def takesCompressed (request : HttpRequest) : Bool :=
  match request.header? "accept-encoding" with
  | none => true
  | some value => mentions "gzip".toList value.toList

end HttpRequest

namespace HttpResponse

def document (status : Nat) (value : Value) : HttpResponse :=
  ⟨status, .document value, false⟩

def text (status : Nat) (text : String) : HttpResponse :=
  ⟨status, .text text, false⟩

def detail (status : Nat) (message : String) : HttpResponse :=
  document status (.map [("detail", .text message)])

/-- The size in bytes from which a document is compressed. -/
def compressedFrom : Nat := 500

/-- A request for the head alone is answered without content, and a large document is compressed. -/
def finish (request : HttpRequest) (response : HttpResponse) : HttpResponse :=
  if request.method = "HEAD" then { response with content := .text "" }
  else
    match response.content with
    | .text _ => response
    | .document value =>
        { response with isCompressed :=
            request.takesCompressed && compressedFrom ≤ (Json.writeWire value).utf8ByteSize }

end HttpResponse

end PairedContacts
