import PairedContacts.Proofs.Contacts.Service

/-!
# The answer to a request for vCards

The answer lists exactly those requested contacts that the table has a record and a timestamp for,
in the order of their uIDs, and gives each of them its record with the timestamp of the manifest.
Nothing else about the request shows in it.
-/

set_option autoImplicit false

namespace PairedContacts.ContactsService

variable {service : ContactsService} {rows : List Row}

theorem isPortable_requestedCards (service : ContactsService) (rows : List Row)
    (raw : List Value) :
    Message.IsPortable (service.cardsOf rows (Message.distinctUids raw)) :=
  isPortable_cardsOf (fun _ member => Message.isProper_of_mem_distinctUids member)
    (Message.nodup_distinctUids raw)

/-- The cards of a request in the order of the uIDs. -/
def sortedCards (service : ContactsService) (rows : List Row) (raw : List Value) :
    KeyedList Uid String :=
  Uid.sortEntries (service.cardsOf rows (Message.distinctUids raw))

theorem mem_sortedCards_iff {raw : List Value} {entry : Uid × String} :
    entry ∈ service.sortedCards rows raw ↔
      (∃ value ∈ raw, Uid.ofValue value = .ok entry.1) ∧
        service.cardOf rows entry.1 = some entry.2 := by
  rw [sortedCards, (Uid.sortEntries_perm _).mem_iff, mem_cardsOf (Message.nodup_distinctUids raw),
    Message.mem_distinctUids_iff]

theorem body_respondCards (service : ContactsService) (rows : List Row) (now : Int)
    (raw : List Value) :
    (Message.respondCards now (service.cardsOf rows (Message.distinctUids raw))).body =
      Message.fieldsOf Value.text (service.sortedCards rows raw) :=
  Message.bodyOf_eq Value.text (isPortable_requestedCards service rows raw)

theorem sortedCards_eq {raw others : List Value}
    (same : ∀ uid, (∃ value ∈ others, Uid.ofValue value = .ok uid) ↔
      ∃ value ∈ raw, Uid.ofValue value = .ok uid) :
    service.sortedCards rows others = service.sortedCards rows raw := by
  have once (raw : List Value) := (isPortable_requestedCards service rows raw).once
  refine Uid.sortEntries_eq_of_perm (once others) ?_
  refine (List.perm_ext_iff_of_nodup (KeyedList.nodup_of_keys (once others))
    (KeyedList.nodup_of_keys (once raw))).mpr fun entry => ?_
  rw [mem_cardsOf (Message.nodup_distinctUids others), mem_cardsOf (Message.nodup_distinctUids raw),
    Message.mem_distinctUids_iff, Message.mem_distinctUids_iff, same]

/-- A table has a vCard for a contact if the last text of its group is a record and the group has a
timestamp. -/
theorem exists_cardOf_iff (reads : service.Reads rows) {uid : Uid} :
    (∃ card, service.cardOf rows uid = some card) ↔
      ∃ text, MergeGroup.lastText service.layout rows uid = some text ∧
        (∃ row ∈ mergeGroup service.layout.lookup rows uid, ∃ timestamp,
          MergeGroup.timestampIn service.layout row = some timestamp) ∧
        ∃ offset, VCard.insertionPoint text.toList = .ok offset := by
  rw [← MergeGroup.exists_newest_iff]
  have finalizes {text : String} {timestamp : Int}
      (newest : MergeGroup.newest service.layout rows uid = some timestamp) :
      (∃ card, VCard.finalize service.sender.space text
          ⟨service.sender.deviceId, uid, timestamp⟩ = .ok card) ↔
        ∃ offset, VCard.insertionPoint text.toList = .ok offset :=
    VCard.exists_finalize_iff reads.admitted
      (MergeGroup.short_of_newest reads.typed reads.short newest)
  constructor
  · rintro ⟨card, has⟩
    obtain ⟨text, timestamp, last, newest, done⟩ := exists_of_cardOf has
    exact ⟨text, last, ⟨timestamp, newest⟩, (finalizes newest).mp ⟨card, done⟩⟩
  · rintro ⟨text, last, ⟨timestamp, newest⟩, place⟩
    obtain ⟨card, done⟩ := (finalizes newest).mpr place
    exact ⟨card, cardOf_of_finalize last newest done⟩

/-- Over a typed table with granted access every request that has a list of uIDs is answered.  The
answer lists, in ascending order, the uIDs that can be read in the request, have a timestamp and
have a last text that is a record, and beside the list it has a field for each of them alone: that
text, finalized with the timestamp that the manifest tells.  Another request for the same contacts
has the same answer. -/
theorem cards_answer_exact (opens : Access.opens service.access = true)
    (admitted : VCard.admitsDevice service.sender.deviceId.toList = true)
    (typed : ∀ row ∈ rows, row.isTyped = true) (short : ∀ row ∈ rows, row.isShort = true)
    (now : Int) {packet : Packet} {raw : List Value} (asked : packet.type = Message.cardsRequest)
    (listed : packet.get? Uid.reservedKey = some (.list raw)) :
    ∃ manifest answer uids,
      (Manifest.build (Source.ofRows rows) service.access service.layout none).outcome =
        .ok manifest ∧
      (service.dispatcher.dispatch ⟨Source.ofRows rows, now⟩ packet).outcome = .ok answer ∧
      answer.type = Message.cardsResponse ∧
      answer.get? Uid.reservedKey = some (Message.uidsValue uids) ∧
      Uid.Ascending uids ∧
      (∀ uid, uid ∈ uids ↔ (∃ value ∈ raw, Uid.ofValue value = .ok uid) ∧
        ∃ text, MergeGroup.lastText service.layout rows uid = some text ∧
          (∃ row ∈ mergeGroup service.layout.lookup rows uid, ∃ timestamp,
            MergeGroup.timestampIn service.layout row = some timestamp) ∧
          ∃ offset, VCard.insertionPoint text.toList = .ok offset) ∧
      KeyedList.keys answer.body = Uid.reservedKey :: uids.map Uid.text ∧
      (∀ uid ∈ uids, ∃ text timestamp card,
        MergeGroup.lastText service.layout rows uid = some text ∧
        KeyedList.get? manifest uid = some timestamp ∧
        VCard.finalize service.sender.space text ⟨service.sender.deviceId, uid, timestamp⟩ =
          .ok card ∧
        answer.get? uid.text = some (.text card)) ∧
      ∀ (other : Packet) (others : List Value), other.type = Message.cardsRequest ->
        other.get? Uid.reservedKey = some (.list others) ->
        (∀ uid, (∃ value ∈ others, Uid.ofValue value = .ok uid) ↔
          ∃ value ∈ raw, Uid.ofValue value = .ok uid) ->
        (service.dispatcher.dispatch ⟨Source.ofRows rows, now⟩ other).outcome = .ok answer := by
  have reads : service.Reads rows := ⟨opens, admitted, typed, short⟩
  have uidList {packet : Packet} {raw : List Value}
      (listed : packet.get? Uid.reservedKey = some (.list raw)) :
      Message.uidList packet = .ok raw := by
    rw [Message.uidList, listed]
  have requested := isPortable_requestedCards service rows raw
  have body := body_respondCards service rows now raw
  have found (entry : Uid × String) (member : entry ∈ service.sortedCards rows raw) :
      KeyedList.get? (Message.fieldsOf Value.text (service.sortedCards rows raw)) entry.1.text =
        some (.text entry.2) :=
    KeyedList.get?_of_mem (Message.nodup_keys_fieldsOf Value.text requested.sorted)
      (List.mem_cons_of_mem _ (List.mem_map_of_mem member))
  refine ⟨_, _, KeyedList.keys (service.sortedCards rows raw),
    Manifest.outcome_build service.layout none opens typed,
    outcome_dispatch_cards reads now asked (uidList listed), rfl, ?_,
    Uid.ascending_keys_sortEntries requested.once, ?_, ?_, ?_, ?_⟩
  · rw [Packet.get?, body, Message.fieldsOf, KeyedList.get?_cons, if_pos rfl]
  · intro uid
    rw [← exists_cardOf_iff reads, KeyedList.keys, List.mem_map]
    constructor
    · rintro ⟨entry, member, rfl⟩
      obtain ⟨wanted, has⟩ := mem_sortedCards_iff.mp member
      exact ⟨wanted, entry.2, has⟩
    · rintro ⟨wanted, card, has⟩
      exact ⟨(uid, card), mem_sortedCards_iff.mpr ⟨wanted, has⟩, rfl⟩
  · rw [body]
    simp [Message.fieldsOf, KeyedList.keys, Function.comp_def]
  · intro uid member
    obtain ⟨entry, here, rfl⟩ := List.mem_map.mp member
    obtain ⟨-, has⟩ := mem_sortedCards_iff.mp here
    obtain ⟨text, timestamp, last, newest, done⟩ := exists_of_cardOf has
    refine ⟨text, timestamp, entry.2, last, ?_, done, ?_⟩
    · rw [Manifest.get?_ofRows_all, newest]
    · rw [Packet.get?, body]
      exact found entry here
  · intro other others askedToo listedToo same
    rw [outcome_dispatch_cards reads now askedToo (uidList listedToo)]
    congr 1
    rw [Message.respondCards, Message.respondCards]
    congr 1
    exact (body_respondCards service rows now others).trans
      ((congrArg (Message.fieldsOf Value.text) (sortedCards_eq same)).trans body.symm)

/-- A contact with its text and its timestamp in different rows, and another without a record. -/
def mixedRows : List Row :=
  [[("lookup_key", ⟨some "text", .text "alice"⟩),
      ("vcard", ⟨some "text", .text "BEGIN:VCARD\nEND:VCARD"⟩)],
    [("lookup_key", ⟨some "text", .text "bob"⟩), ("vcard", ⟨some "text", .text "FN:Bob"⟩),
      ("last_updated_timestamp", ⟨some "integer", .int 5⟩)],
    [("lookup_key", ⟨some "text", .text "alice"⟩),
      ("last_updated_timestamp", ⟨some "integer", .int 7⟩)]]

def mixedRequest : Packet :=
  (Message.requestCards 1 []).set Uid.reservedKey
    (.list [.text "bob", .null, .text "alice", .text "alice"])

theorem cards_answer_exact_mixed :
    ∃ manifest answer uids,
      (Manifest.build (Source.ofRows mixedRows) plainService.access plainService.layout
        none).outcome = .ok manifest ∧
      (plainService.dispatcher.dispatch ⟨Source.ofRows mixedRows, 2⟩ mixedRequest).outcome =
        .ok answer ∧
      answer.type = Message.cardsResponse ∧
      answer.get? Uid.reservedKey = some (Message.uidsValue uids) ∧
      Uid.Ascending uids ∧
      (∀ uid, uid ∈ uids ↔
        (∃ value ∈ [Value.text "bob", .null, .text "alice", .text "alice"],
          Uid.ofValue value = .ok uid) ∧
        ∃ text, MergeGroup.lastText plainService.layout mixedRows uid = some text ∧
          (∃ row ∈ mergeGroup plainService.layout.lookup mixedRows uid, ∃ timestamp,
            MergeGroup.timestampIn plainService.layout row = some timestamp) ∧
          ∃ offset, VCard.insertionPoint text.toList = .ok offset) ∧
      KeyedList.keys answer.body = Uid.reservedKey :: uids.map Uid.text ∧
      (∀ uid ∈ uids, ∃ text timestamp card,
        MergeGroup.lastText plainService.layout mixedRows uid = some text ∧
        KeyedList.get? manifest uid = some timestamp ∧
        VCard.finalize plainService.sender.space text
          ⟨plainService.sender.deviceId, uid, timestamp⟩ = .ok card ∧
        answer.get? uid.text = some (.text card)) ∧
      ∀ (other : Packet) (others : List Value), other.type = Message.cardsRequest ->
        other.get? Uid.reservedKey = some (.list others) ->
        (∀ uid, (∃ value ∈ others, Uid.ofValue value = .ok uid) ↔
          ∃ value ∈ [Value.text "bob", .null, .text "alice", .text "alice"],
            Uid.ofValue value = .ok uid) ->
        (plainService.dispatcher.dispatch ⟨Source.ofRows mixedRows, 2⟩ other).outcome =
          .ok answer :=
  cards_answer_exact rfl (by decide) (by decide) (by decide +kernel) 2 rfl rfl

example : (plainService.dispatcher.dispatch ⟨Source.ofRows mixedRows, 2⟩
    mixedRequest).outcome.toOption.map (fun answer => KeyedList.keys answer.body) =
      some ["uids", "alice"] := by decide +kernel

end PairedContacts.ContactsService
