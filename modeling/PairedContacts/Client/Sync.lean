import PairedContacts.Client.Folder
import PairedContacts.Session

/-!
# Exchanges of a client

A client goes through the exchange with its server one packet at a time.  Its folder is written only
after the last answer: each contact that was accepted, and then the manifest.
-/

set_option autoImplicit false

namespace PairedContacts

structure Client where
  endpoint : Net.Endpoint
  directory : FilePath
  /-- The namespace of metadata; there is none if something else was configured for it. -/
  space : Option String

namespace Client

def packetsPath : List Char := "api/packets".toList

def isSuccess (status : Nat) : Bool :=
  200 ≤ status && status < 300

def ask (now : Int) (client : Client) (packet : Packet) : Errand Packet := do
  let reply <- Errand.postPacket (client.endpoint.within packetsPath) packet
  if isSuccess reply.status then
    Errand.ofExcept <| (Packet.ofBytes now reply.bytes).mapError fun fault =>
      .protocol (.request fault)
  else Errand.fail (.badStatus reply.status)

def take {α : Type} (step : Step α) (requester : Requester) : Errand (α × Requester) :=
  let (run, after) := step requester
  match run.outcome with
  | .ok result => pure (result, after)
  | .error failure => Errand.fail (.protocol failure)

def plan (now : Int) (client : Client) (manifest : Manifest) : Errand (FetchPlan × Requester) := do
  let fresh := Requester.begin ⟨manifest, []⟩ (client.space.getD VCard.defaultNamespace)
  let (request, asking) <- take (Requester.requestManifest now) fresh
  let answer <- client.ask now request
  take (Requester.receiveManifest answer) asking

/-- Fails if a vCard that was asked for would be read in a namespace that there is not. -/
def checkSpace (client : Client) (session : Session) (answer : Packet) : Errand Unit :=
  match client.space, (Message.readCards answer).outcome with
  | none, .ok cards =>
      let isRead (entry : Uid × String) : Bool :=
        session.requested.contains entry.1 && (VCard.insertionPoint entry.2.toList).toOption.isSome
      if cards.any isRead then Errand.fail .wrongShape else pure ()
  | _, _ => pure ()

def fetch (now : Int) (client : Client) (requester : Requester) :
    Errand (FetchResult × Requester) := do
  match <- take (Requester.requestFetch now) requester with
  | (none, complete) => return (FetchResult.nothing, complete)
  | (some request, asking) => do
      let answer <- client.ask now request
      client.checkSpace asking.session answer
      take (Requester.receiveCards answer) asking

def storeCard (client : Client) (cache : Cache) (uid : Uid) : Errand Unit := do
  Folder.writeCard client.directory uid ((cache.cards.get? uid).getD "")
  Errand.print ("  Fetch: " ++ uid.text)

def report (before after : String) (uids : List Uid) : Errand Unit :=
  uids.forM fun uid => Errand.print (before ++ uid.text ++ after)

/-- The names of the contacts that the server does not tell of.  The torn ones are among them. -/
def deletedNames (saved : SavedManifest) (plan : FetchPlan) : List LooseText :=
  LooseText.sort (plan.deleted.map (fun uid => .ofString uid.text) ++ saved.torn.keys)

def reportDeleted (before after : String) (saved : SavedManifest) (plan : FetchPlan) :
    Errand Unit :=
  (deletedNames saved plan).forM (Errand.printName before after)

def summary (saved : SavedManifest) (plan : FetchPlan) (result : FetchResult) : String :=
  "Sync complete. " ++ toString result.updated.length ++ " contact(s) fetched, " ++
    toString plan.unchanged.length ++ " unchanged, " ++
    toString (deletedNames saved plan).length ++ " deleted remotely."

def conclude (client : Client) (saved : SavedManifest) (plan : FetchPlan) (result : FetchResult)
    (cache : Cache) : Errand Unit := do
  Errand.ensureDirectory client.directory
  result.updated.forM (client.storeCard cache)
  report "  Unavailable: " "" result.unavailable
  report "  Malformed: " "" result.malformed
  reportDeleted "  Deleted remotely: " "" saved plan
  Folder.writeManifest client.directory (.ofManifest cache.timestamps ++ saved.torn)
  Errand.print (summary saved plan result)

/-- Fetches new and changed contacts into the folder. -/
def sync (now : Int) (client : Client) : Errand FetchResult := do
  let saved <- Folder.readManifest client.directory
  let (plan, planned) <- client.plan now saved.manifest
  let (result, finished) <- client.fetch now planned
  client.conclude saved plan result finished.cache
  return result

def status (now : Int) (client : Client) : Errand Unit := do
  let saved <- Folder.readManifest client.directory
  let (plan, _) <- client.plan now saved.manifest
  Errand.print "Sync Status:"
  Errand.print ("  To fetch:         " ++ toString plan.toFetch.length)
  Errand.print ("  Unchanged:        " ++ toString plan.unchanged.length)
  Errand.print ("  Deleted remotely: " ++ toString (deletedNames saved plan).length)
  report "    < " " (fetch)" plan.toFetch
  reportDeleted "    - " " (deleted remotely)" saved plan

end Client

end PairedContacts
