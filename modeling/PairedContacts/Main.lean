import PairedContacts.Client.CommandLine
import PairedContacts.Client.Transmission
import Std.Async.DNS
import Std.Async.TCP

/-!
# The client on a machine

Carries out the errands of the client on the files and the network of a machine.
-/

set_option autoImplicit false

namespace PairedContacts.Machine

def readText (path : FilePath) : IO (Option String) :=
  tryCatch (some <$> IO.FS.readFile path.toText) fun
    | .noFileOrDirectory _ _ _ => pure none
    | fault => throw fault

partial def receive (socket : Std.Async.TCP.Socket.Client) (received : List UInt8) :
    Std.Async.Async (List UInt8) := do
  match <- socket.recv? 65536 with
  | none => return received
  | some bytes => receive socket (received ++ bytes.toList)

def portOf (endpoint : Net.Endpoint) : Int :=
  endpoint.port.getD ((Net.Endpoint.standardPort? endpoint.scheme).getD 80)

def socketAddress (port : UInt16) : Std.Net.IPAddr -> Std.Net.SocketAddress
  | .v4 address => .v4 ⟨address, port⟩
  | .v6 address => .v6 ⟨address, port⟩

def transmit (endpoint : Net.Endpoint) (packet : Packet) : Std.Async.Async (List UInt8) := do
  let port := portOf endpoint
  let host := String.ofList endpoint.host
  let found <- Std.Async.DNS.getAddrInfo host (toString port)
  match found[0]? with
  | none => throw (IO.userError ("no address of " ++ host))
  | some address => do
      let socket <- Std.Async.TCP.Socket.Client.mk
      socket.connect (socketAddress (UInt16.ofNat port.toNat) address)
      socket.send (Transmission.request endpoint packet).toUTF8
      receive socket []

def post (endpoint : Net.Endpoint) (packet : Packet) : IO Reply := do
  if endpoint.scheme != "http".toList then
    throw (IO.userError "only plain connections are made")
  match Transmission.reply? (<- (transmit endpoint packet).block) with
  | some reply => return reply
  | none => throw (IO.userError "the server gave no answer")

def carryOut : Errand Unit -> IO UInt32
  | .done _ => pure 0
  | .leave code => pure code.toUInt32
  | .fail fault => do
      IO.eprintln fault.message
      return 1
  | .say line next => do
      IO.println line
      carryOut next
  | .read path next => do
      let text <- readText path
      carryOut (next text)
  | .write path text next => do
      IO.FS.writeFile path.toText text
      carryOut next
  | .makeDirectory path next => do
      IO.FS.createDirAll path.toText
      carryOut next
  | .post endpoint packet next => do
      let reply <- post endpoint packet
      carryOut (next reply)

end PairedContacts.Machine

open PairedContacts in
def main (words : List String) : IO UInt32 := do
  let now <- Std.Time.Timestamp.now
  let current <- IO.currentDir
  let directory := FilePath.resolve [] current.toString
  Machine.carryOut (CommandLine.run now.toMillisecondsSinceUnixEpoch.val directory words)
