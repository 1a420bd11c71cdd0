import PairedContacts.Contacts.FetchPlan

/-!
# Sessions

A session is one exchange of a requester with a source: it asks for the manifest, plans what to
fetch, asks for those vCards, and writes the ones it accepts into the cache of the requester.  A
vCard is accepted if it was asked for and its metadata names its own uID; the timestamp that the
cache keeps is the one in the metadata.  A step that fails leaves the session and the cache as they
were.
-/

set_option autoImplicit false

namespace PairedContacts

structure Cache where
  timestamps : Manifest
  cards : KeyedList Uid String

namespace Cache

def empty : Cache :=
  ⟨[], []⟩

def put (cache : Cache) (uid : Uid) (card : String) (timestamp : Int) : Cache :=
  ⟨cache.timestamps.put uid timestamp, cache.cards.put uid card⟩

end Cache

structure Session where
  /-- The namespace in which metadata is read. -/
  space : String
  phase : Phase
  remote : Manifest
  plan : FetchPlan
  requested : List Uid

namespace Session

def fresh (space : String) : Session :=
  ⟨space, .idle, [], ⟨[], [], []⟩, []⟩

end Session

structure FetchResult where
  updated : List Uid
  unavailable : List Uid
  malformed : List Uid
  unexpected : List Uid
  deriving DecidableEq, Repr

def FetchResult.nothing : FetchResult :=
  ⟨[], [], [], []⟩

inductive Judgement where
  | accepted (timestamp : Int)
  | malformed
  | unexpected
  deriving DecidableEq, Repr

structure JudgedCard where
  uid : Uid
  card : String
  judgement : Judgement

namespace JudgedCard

def accepted? (judged : JudgedCard) : Option (Uid × String × Int) :=
  match judged.judgement with
  | .accepted timestamp => some (judged.uid, judged.card, timestamp)
  | _ => none

def is (judged : JudgedCard) (judgement : Judgement) : Bool :=
  judged.judgement == judgement

end JudgedCard

/-- A session together with the cache that it shares with earlier and later ones. -/
structure Requester where
  session : Session
  cache : Cache

/-- A step of a requester: what it did, and the requester afterwards. -/
abbrev Step (α : Type) := Requester -> Run α × Requester

namespace Step

variable {α β : Type}

def andThen (first : Step α) (next : α -> Step β) : Step β := fun requester =>
  let (run, after) := first requester
  match run.outcome with
  | .error failure => (⟨run.events, .error failure⟩, after)
  | .ok result =>
      let (more, final) := next result after
      (⟨run.events ++ more.events, more.outcome⟩, final)

def ofRun (run : Run α) : Step α := fun requester =>
  (run, requester)

instance : Monad Step where
  pure result := ofRun (pure result)
  bind := andThen

end Step

namespace Requester

def begin (cache : Cache) (space : String) : Requester :=
  ⟨.fresh space, cache⟩

def inPhase {α : Type} (step : SessionStep) (take : Step α) : Step α := fun requester =>
  if requester.session.phase = step.phase then take requester
  else (throw (.outOfOrder ⟨step, requester.session.phase⟩), requester)

def requestManifest (now : Int) : Step Packet :=
  inPhase .requestManifest fun requester =>
    (pure (Message.requestManifest now),
     { requester with session := { requester.session with phase := .manifestRequested } })

/-- Takes the manifest of the source and plans what to fetch. -/
def receiveManifest (packet : Packet) : Step FetchPlan :=
  inPhase .receiveManifest fun requester =>
    let read := Message.readManifest packet
    match read.outcome with
    | .error failure => (⟨read.events, .error failure⟩, requester)
    | .ok remote =>
        let plan := FetchPlan.compute requester.cache.timestamps remote
        let session :=
          { requester.session with phase := .manifestReceived, remote := remote, plan := plan }
        (⟨read.events, .ok plan⟩, { requester with session := session })

/-- Emits the request for the vCards to fetch; without any, the session is complete. -/
def requestFetch (now : Int) : Step (Option Packet) :=
  inPhase .requestFetch fun requester =>
    let session := requester.session
    if session.plan.toFetch.isEmpty then
      (pure none, { requester with session := { session with phase := .complete } })
    else
      (pure (some (Message.requestCards now session.plan.toFetch)),
       { requester with session :=
           { session with phase := .fetchRequested, requested := session.plan.toFetch } })

def judge (session : Session) (entry : Uid × String) : Run JudgedCard :=
  let (uid, card) := entry
  if session.requested.contains uid then
    match VCard.parseFinalized session.space card with
    | .error fault => do
        Run.note (.malformedCard uid fault)
        return ⟨uid, card, .malformed⟩
    | .ok finalized =>
        if finalized.metadata.uid = uid then
          pure ⟨uid, card, .accepted finalized.metadata.timestamp⟩
        else do
          Run.note (.foreignCard uid finalized.metadata.uid)
          return ⟨uid, card, .malformed⟩
  else do
    Run.note (.unrequestedCard uid)
    return ⟨uid, card, .unexpected⟩

def store (cache : Cache) (accepted : List (Uid × String × Int)) : Cache :=
  accepted.foldl (fun kept entry => kept.put entry.1 entry.2.1 entry.2.2) cache

def resultOf (requested : List Uid) (judged : List JudgedCard) : FetchResult where
  updated := (judged.filterMap JudgedCard.accepted?).map Prod.fst
  unavailable := requested.filter fun uid => !(judged.map JudgedCard.uid).contains uid
  malformed := (judged.filter fun card => card.is .malformed).map JudgedCard.uid
  unexpected := (judged.filter fun card => card.is .unexpected).map JudgedCard.uid

def judgeAll (session : Session) (packet : Packet) : Run (List JudgedCard) := do
  let cards <- Message.readCards packet
  cards.mapM (judge session)

/-- Takes the vCards of the source and writes the accepted ones into the cache. -/
def receiveCards (packet : Packet) : Step FetchResult :=
  inPhase .receiveCards fun requester =>
    let session := requester.session
    let judged := judgeAll session packet
    match judged.outcome with
    | .error failure => (⟨judged.events, .error failure⟩, requester)
    | .ok cards =>
        (⟨judged.events, .ok (resultOf session.requested cards)⟩,
         { session := { session with phase := .complete },
           cache := store requester.cache (cards.filterMap JudgedCard.accepted?) })

structure Exchange where
  plan : FetchPlan
  request : Option Packet
  result : Option FetchResult

/-- Goes through a whole exchange with a source that answers packets. -/
def exchange (now : Int) (ask : Packet -> Run Packet) : Step Exchange := do
  let asked <- requestManifest now
  let manifest <- Step.ofRun (ask asked)
  let plan <- receiveManifest manifest
  match <- requestFetch now with
  | none => return ⟨plan, none, none⟩
  | some fetch => do
      let cards <- Step.ofRun (ask fetch)
      let result <- receiveCards cards
      return ⟨plan, some fetch, some result⟩

end Requester

end PairedContacts
