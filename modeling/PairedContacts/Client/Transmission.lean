import PairedContacts.Client.Errand

/-!
# Packets over a connection

What is sent over a connection to post a packet, and how the answer is read.  The connection is used
once: the answer ends where the connection does.
-/

set_option autoImplicit false

namespace PairedContacts.Transmission

def lineEnd : String := "\r\n"

def head (endpoint : Net.Endpoint) (size : Nat) : List String :=
  ["POST " ++ String.ofList endpoint.target ++ " HTTP/1.0",
   "Host: " ++ String.ofList endpoint.address,
   "Content-Type: application/json",
   "Content-Length: " ++ toString size, "", ""]

def request (endpoint : Net.Endpoint) (packet : Packet) : String :=
  let body := packet.serialize
  lineEnd.intercalate (head endpoint body.utf8ByteSize) ++ body

/-- The bytes behind the first empty line. -/
def body : List UInt8 -> List UInt8
  | 13 :: 10 :: 13 :: 10 :: rest => rest
  | [] => []
  | _ :: rest => body rest

/-- The status in the first line: the second of its words. -/
def status? (bytes : List UInt8) : Option Nat :=
  let line := (bytes.takeWhile fun byte => byte != 13).map fun byte => Char.ofNat byte.toNat
  (Net.splitAt ' ' line)[1]?.bind fun word => (String.ofList word).toNat?

def reply? (bytes : List UInt8) : Option Reply :=
  (status? bytes).map fun status => ⟨status, body bytes⟩

end PairedContacts.Transmission
