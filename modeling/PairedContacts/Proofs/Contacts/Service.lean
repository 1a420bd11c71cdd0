import PairedContacts.Contacts.Service
import PairedContacts.Proofs.Contacts.Cards
import PairedContacts.Proofs.Contacts.Message

/-!
# What the service answers

A dispatcher with the contacts service alone answers the request for the manifest by the manifest of
the table, and a request for vCards by those that the table has for the distinct uIDs in it.
-/

set_option autoImplicit false

namespace PairedContacts

/-- A service as settings make it. -/
def plainService : ContactsService :=
  ⟨Access.grant true, Layout.standard, ⟨"phone", VCard.defaultNamespace⟩⟩

namespace ContactsService

def dispatcher (service : ContactsService) : Dispatcher :=
  (Dispatcher.empty.register service.plugin).1

theorem dispatcher_eq (service : ContactsService) : service.dispatcher =
    ⟨[(Message.manifestRequest, service.answerManifest),
      (Message.cardsRequest, service.answerCards)],
     [Message.manifestResponse, Message.cardsResponse]⟩ := by
  rfl

def manifestOf (service : ContactsService) (rows : List Row) : Manifest :=
  Manifest.ofRows service.layout none rows

def cardOf (service : ContactsService) (rows : List Row) (uid : Uid) : Option String :=
  MergeGroup.card service.layout service.sender rows uid

def cardsOf (service : ContactsService) (rows : List Row) (uids : List Uid) :
    KeyedList Uid String :=
  uids.foldl (Cards.add (service.cardOf rows)) []

variable {service : ContactsService} {rows : List Row}

structure Reads (service : ContactsService) (rows : List Row) : Prop where
  opens : Access.opens service.access = true
  admitted : VCard.admitsDevice service.sender.deviceId.toList = true
  typed : ∀ row ∈ rows, row.isTyped = true
  short : ∀ row ∈ rows, row.isShort = true

theorem outcome_answerManifest (reads : service.Reads rows) (now : Int) (packet : Packet) :
    (service.answerManifest ⟨Source.ofRows rows, now⟩ packet).outcome =
      .ok (Message.respondManifest now (service.manifestOf rows)) := by
  have built := Manifest.outcome_build service.layout none reads.opens reads.typed
  rw [answerManifest, Run.outcome_bind_ok built]
  rfl

theorem outcome_answerCards (reads : service.Reads rows) (now : Int) {packet : Packet}
    {raw : List Value} (listed : Message.uidList packet = .ok raw) :
    (service.answerCards ⟨Source.ofRows rows, now⟩ packet).outcome =
      .ok (Message.respondCards now (service.cardsOf rows (Message.distinctUids raw))) := by
  have collected : (Cards.collect (Source.ofRows rows) service.access service.layout service.sender
      (Message.distinctUids raw)).outcome =
        .ok (service.cardsOf rows (Message.distinctUids raw)) :=
    Cards.outcome_collect reads.opens reads.admitted reads.typed reads.short _
  rw [answerCards, listed, Run.outcome_bind_ok rfl,
    Run.outcome_bind_ok (Message.outcome_parseUids raw), Run.outcome_bind_ok collected]
  rfl

/-! ## Cards -/

theorem exists_of_cardOf {uid : Uid} {card : String} (found : service.cardOf rows uid = some card) :
    ∃ text timestamp, MergeGroup.lastText service.layout rows uid = some text ∧
      MergeGroup.newest service.layout rows uid = some timestamp ∧
      VCard.finalize service.sender.space text ⟨service.sender.deviceId, uid, timestamp⟩ =
        .ok card := by
  obtain ⟨text, last, found⟩ := Option.bind_eq_some_iff.mp found
  obtain ⟨timestamp, newest, found⟩ := Option.bind_eq_some_iff.mp found
  refine ⟨text, timestamp, last, newest, ?_⟩
  cases done : VCard.finalize service.sender.space text
      ⟨service.sender.deviceId, uid, timestamp⟩ with
  | error fault =>
      rw [done] at found
      cases found
  | ok written =>
      rw [done] at found
      exact congrArg Except.ok (Option.some.inj found)

theorem cardOf_of_finalize {uid : Uid} {text card : String} {timestamp : Int}
    (last : MergeGroup.lastText service.layout rows uid = some text)
    (newest : MergeGroup.newest service.layout rows uid = some timestamp)
    (done : VCard.finalize service.sender.space text ⟨service.sender.deviceId, uid, timestamp⟩ =
      .ok card) : service.cardOf rows uid = some card := by
  rw [cardOf, MergeGroup.card, last, newest, Option.bind_some, Option.bind_some, done]
  rfl

theorem get?_cardsOf {uids : List Uid} {uid : Uid} (wanted : uid ∈ uids) :
    KeyedList.get? (service.cardsOf rows uids) uid = service.cardOf rows uid :=
  Cards.get?_collected wanted

theorem cardsOf_of_nodup {uids : List Uid} (once : uids.Nodup) :
    service.cardsOf rows uids =
      uids.filterMap fun uid => (service.cardOf rows uid).map fun card => (uid, card) :=
  Cards.foldl_add_of_nodup once (by simp [KeyedList.keys])

theorem mem_cardsOf {uids : List Uid} (once : uids.Nodup) {entry : Uid × String} :
    entry ∈ service.cardsOf rows uids ↔
      entry.1 ∈ uids ∧ service.cardOf rows entry.1 = some entry.2 := by
  rw [cardsOf_of_nodup once, List.mem_filterMap]
  constructor
  · rintro ⟨uid, member, found⟩
    obtain ⟨card, has, rfl⟩ := Option.map_eq_some_iff.mp found
    exact ⟨member, has⟩
  · rintro ⟨member, has⟩
    exact ⟨entry.1, member, by rw [has]; rfl⟩

theorem keys_cardsOf {uids : List Uid} (once : uids.Nodup) :
    KeyedList.keys (service.cardsOf rows uids) =
      uids.filter fun uid => (service.cardOf rows uid).isSome := by
  rw [cardsOf_of_nodup once, KeyedList.keys, List.map_filterMap]
  induction uids with
  | nil => rfl
  | cons uid rest ih =>
      rw [List.filterMap_cons, List.filter_cons, ih (List.nodup_cons.mp once).2]
      cases service.cardOf rows uid <;> rfl

theorem isPortable_cardsOf {uids : List Uid} (proper : ∀ uid ∈ uids, uid.IsProper)
    (once : uids.Nodup) : Message.IsPortable (service.cardsOf rows uids) := by
  constructor
  · rw [keys_cardsOf once]
    exact once.filter _
  · intro uid member
    rw [keys_cardsOf once] at member
    exact proper uid (List.mem_filter.mp member).1

theorem isPortable_manifestOf (service : ContactsService) (rows : List Row) :
    Message.IsPortable (service.manifestOf rows) := by
  refine ⟨Manifest.nodup_keys_ofRows service.layout none rows, fun uid member => ?_⟩
  obtain ⟨timestamp, found⟩ := Option.isSome_iff_exists.mp (KeyedList.isSome_get?_iff.mpr member)
  rw [manifestOf, Manifest.get?_ofRows_all] at found
  exact MergeGroup.isProper_of_newest found

/-! ## Dispatching -/

theorem outcome_dispatch {around : Surroundings} {packet : Packet} {handler : Handler}
    {answer : Packet}
    (found : KeyedList.get? service.dispatcher.handlers packet.type = some handler)
    (answered : (handler around packet).outcome = .ok answer)
    (declared : service.dispatcher.outgoing.contains answer.type = true) :
    (service.dispatcher.dispatch around packet).outcome = .ok answer := by
  rw [Dispatcher.dispatch, found]
  simp only
  rw [Run.outcome_bind_ok answered, Dispatcher.release, if_pos declared]
  rfl

/-- A packet goes to the handler of its type, whose answer may pass, or it is refused. -/
theorem dispatch_cases (service : ContactsService) (around : Surroundings) (packet : Packet) :
    (packet.type = Message.manifestRequest ∧ service.dispatcher.dispatch around packet =
        service.answerManifest around packet >>= service.dispatcher.release packet) ∨
      (packet.type = Message.cardsRequest ∧ service.dispatcher.dispatch around packet =
        service.answerCards around packet >>= service.dispatcher.release packet) ∨
      (packet.type ∉ supported ∧ service.dispatcher.dispatch around packet =
        Run.note (.noHandler packet.type) >>= fun _ => throw (.unsupportedType packet.type)) := by
  by_cases manifest : packet.type = Message.manifestRequest
  · have found : KeyedList.get? service.dispatcher.handlers packet.type =
        some service.answerManifest := by
      rw [manifest, dispatcher_eq]
      rfl
    refine .inl ⟨manifest, ?_⟩
    rw [Dispatcher.dispatch, found]
  · by_cases cards : packet.type = Message.cardsRequest
    · have found : KeyedList.get? service.dispatcher.handlers packet.type =
          some service.answerCards := by
        rw [cards, dispatcher_eq]
        rfl
      refine .inr (.inl ⟨cards, ?_⟩)
      rw [Dispatcher.dispatch, found]
    · have found : KeyedList.get? service.dispatcher.handlers packet.type = none := by
        rw [dispatcher_eq, KeyedList.get?_cons, if_neg (Ne.symm manifest), KeyedList.get?_cons,
          if_neg (Ne.symm cards)]
        rfl
      refine .inr (.inr ⟨by simp [supported, manifest, cards], ?_⟩)
      rw [Dispatcher.dispatch, found]

theorem outcome_dispatch_manifest (reads : service.Reads rows) (now : Int) {packet : Packet}
    (asked : packet.type = Message.manifestRequest) :
    (service.dispatcher.dispatch ⟨Source.ofRows rows, now⟩ packet).outcome =
      .ok (Message.respondManifest now (service.manifestOf rows)) := by
  refine outcome_dispatch ?_ (outcome_answerManifest reads now packet) ?_
  · rw [asked, dispatcher_eq]
    rfl
  · rw [dispatcher_eq]
    rfl

theorem outcome_dispatch_cards (reads : service.Reads rows) (now : Int) {packet : Packet}
    {raw : List Value} (asked : packet.type = Message.cardsRequest)
    (listed : Message.uidList packet = .ok raw) :
    (service.dispatcher.dispatch ⟨Source.ofRows rows, now⟩ packet).outcome =
      .ok (Message.respondCards now (service.cardsOf rows (Message.distinctUids raw))) := by
  refine outcome_dispatch ?_ (outcome_answerCards reads now listed) ?_
  · rw [asked, dispatcher_eq]
    rfl
  · rw [dispatcher_eq]
    rfl

end ContactsService

end PairedContacts
