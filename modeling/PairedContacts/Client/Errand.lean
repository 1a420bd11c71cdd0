import PairedContacts.Client.FileTree
import PairedContacts.Failure
import PairedContacts.Net.Endpoint

/-!
# Errands

An errand is a program of the client as a tree of what it does: it says lines, reads and writes
files, makes directories, and posts packets, each time going on with what it is told.  The same
errand is carried out on the files and the network of a machine, or on a tree of files with a peer
that answers.
-/

set_option autoImplicit false

namespace PairedContacts

structure Reply where
  status : Nat
  bytes : List UInt8

inductive ClientFault where
  | protocol (failure : Failure)
  | file (fault : FileFault)
  | unreadableDocument
  | longInt (digits : Nat)
  /-- An integer has too many digits to be written. -/
  | unwritableInt
  | wrongShape
  /-- A torn text cannot be said or sent. -/
  | unencodable
  | badStatus (status : Nat)
  | invalidUrl

def FileFault.message : FileFault -> String
  | missing => "No such file or directory"
  | isDirectory => "Is a directory"
  | notDirectory => "Not a directory"
  | occupied => "File exists"
  | nameTooLong => "File name too long"
  | nullCharacter => "embedded null byte"

def ClientFault.message : ClientFault -> String
  | protocol failure => failure.message
  | file fault => fault.message
  | unreadableDocument => "a document cannot be read"
  | longInt digits => (CellFault.tooManyDigits digits).message
  | unwritableInt => UidFault.longInt.message
  | wrongShape => "a document does not have the right shape"
  | unencodable => "surrogates not allowed"
  | badStatus status => "the server answered with status " ++ toString status
  | invalidUrl => "no request can be sent to this URL"

inductive Errand (α : Type) where
  | done (result : α)
  | fail (fault : ClientFault)
  | leave (code : Nat)
  | say (line : String) (next : Errand α)
  | read (path : FilePath) (next : Option String -> Errand α)
  | write (path : FilePath) (text : String) (next : Errand α)
  | makeDirectory (path : FilePath) (next : Errand α)
  | post (endpoint : Net.Endpoint) (packet : Packet) (next : Reply -> Errand α)

namespace Errand

variable {α β : Type}

def bind (errand : Errand α) (next : α -> Errand β) : Errand β :=
  match errand with
  | done result => next result
  | fail fault => fail fault
  | leave code => leave code
  | say line rest => say line (rest.bind next)
  | read path rest => read path fun text => (rest text).bind next
  | write path text rest => write path text (rest.bind next)
  | makeDirectory path rest => makeDirectory path (rest.bind next)
  | post endpoint packet rest => post endpoint packet fun reply => (rest reply).bind next

instance : Monad Errand where
  pure := done
  bind := bind

def print (line : String) : Errand Unit :=
  say line (done ())

/-- Says a line that holds a name between two texts. -/
def printName (before after : String) (name : LooseText) : Errand Unit :=
  match name.plain? with
  | some plain => print (before ++ plain ++ after)
  | none => fail .unencodable

def readFile (path : FilePath) : Errand (Option String) :=
  read path done

def writeFile (path : FilePath) (text : String) : Errand Unit :=
  write path text (done ())

def ensureDirectory (path : FilePath) : Errand Unit :=
  makeDirectory path (done ())

def postPacket (endpoint : Net.Endpoint) (packet : Packet) : Errand Reply :=
  post endpoint packet done

def ofExcept : Except ClientFault α -> Errand α
  | .ok result => done result
  | .error fault => fail fault

end Errand

inductive Ending (α : Type) where
  | done (result : α)
  | left (code : Nat)
  | failed (fault : ClientFault)

/-- A peer whose answers depend on what it was asked before.  It may be out of reach. -/
abbrev Peer (σ : Type) := σ -> Net.Endpoint -> Packet -> Except ClientFault Reply × σ

/-- The surroundings of an errand: the files, the lines that were said, the packets that were
posted, and what the peer remembers. -/
structure World (σ : Type) where
  tree : FileTree
  lines : List String
  posts : List (Net.Endpoint × Packet)
  memory : σ

namespace World

variable {α σ : Type}

def say (world : World σ) (line : String) : World σ :=
  { world with lines := world.lines ++ [line] }

def posted (world : World σ) (endpoint : Net.Endpoint) (packet : Packet) (memory : σ) : World σ :=
  { world with posts := world.posts ++ [(endpoint, packet)], memory := memory }

def perform (peer : Peer σ) (errand : Errand α) (world : World σ) : Ending α × World σ :=
  match errand with
  | .done result => (.done result, world)
  | .fail fault => (.failed fault, world)
  | .leave code => (.left code, world)
  | .say line next => perform peer next (world.say line)
  | .read path next =>
      match world.tree.read path with
      | .ok text => perform peer (next text) world
      | .error fault => (.failed (.file fault), world)
  | .write path text next =>
      match world.tree.write path text with
      | .ok tree => perform peer next { world with tree := tree }
      | .error fault => (.failed (.file fault), world)
  | .makeDirectory path next =>
      match world.tree.makeDirectory path with
      | .ok tree => perform peer next { world with tree := tree }
      | .error fault => (.failed (.file fault), world)
  | .post endpoint packet next =>
      let (answer, memory) := peer world.memory endpoint packet
      match answer with
      | .ok reply => perform peer (next reply) (world.posted endpoint packet memory)
      | .error fault => (.failed fault, world.posted endpoint packet memory)

/-- An errand that goes on with another one is carried out part by part. -/
theorem perform_bind {β : Type} (peer : Peer σ) (errand : Errand α) (next : α -> Errand β)
    (world : World σ) :
    perform peer (errand >>= next) world =
      match perform peer errand world with
      | (.done result, after) => perform peer (next result) after
      | (.left code, after) => (.left code, after)
      | (.failed fault, after) => (.failed fault, after) := by
  show perform peer (errand.bind next) world = _
  induction errand generalizing world with
  | done result => rfl
  | fail fault => rfl
  | leave code => rfl
  | say line rest ih => exact ih (world.say line)
  | read path rest ih =>
      cases given : world.tree.read path with
      | ok text => simp only [Errand.bind, perform, given, ih]
      | error fault => simp only [Errand.bind, perform, given]
  | write path text rest ih =>
      cases given : world.tree.write path text with
      | ok tree => simp only [Errand.bind, perform, given, ih]
      | error fault => simp only [Errand.bind, perform, given]
  | makeDirectory path rest ih =>
      cases given : world.tree.makeDirectory path with
      | ok tree => simp only [Errand.bind, perform, given, ih]
      | error fault => simp only [Errand.bind, perform, given]
  | post endpoint packet rest ih =>
      rcases given : peer world.memory endpoint packet with ⟨answer, memory⟩
      cases answer with
      | ok reply => simp only [Errand.bind, perform, given, ih]
      | error fault => simp only [Errand.bind, perform, given]

end World

end PairedContacts
