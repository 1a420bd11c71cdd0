import PairedContacts.Proofs.Session.Course

/-!
# What becomes of a response

A response may list any uIDs, more than once or in any form, with any values.  Each contact that was
asked for ends in exactly one of three lists: its vCard is written into the cache, or it cannot be
taken, or there is none.  All else that came with a text is reported as unexpected, and nothing else
of the cache changes.
-/

set_option autoImplicit false

namespace PairedContacts

namespace Message

variable {packet : Packet} {raw : List Value} {uid : Uid} {text : String}

/-- A response that lists a uID and has a text for it. -/
def Offers (packet : Packet) (raw : List Value) (uid : Uid) (text : String) : Prop :=
  (∃ value ∈ raw, Uid.ofValue value = .ok uid) ∧ packet.get? uid.text = some (.text text)

theorem mem_cards_iff : (uid, text) ∈ entriesIn cardIn packet (distinctUids raw) ↔
    Offers packet raw uid text := by
  rw [mem_entriesIn_iff, mem_distinctUids_iff, valueFor_cardIn_eq_some_iff, Offers]

end Message

namespace Requester

variable {session : Session} {cards : KeyedList Uid String} {uid : Uid}

/-! ## The lists of a result -/

/-- An entry was not asked for, or it is no vCard of its contact, or it is one. -/
theorem judgementOf_cases (session : Session) (entry : Uid × String) :
    (entry.1 ∉ session.requested ∧ judgementOf session entry = .unexpected) ∨
      (entry.1 ∈ session.requested ∧
        (∀ timestamp, ¬VCard.IsCardOf session.space entry.2 entry.1 timestamp) ∧
        judgementOf session entry = .malformed) ∨
      ∃ timestamp, judgementOf session entry = .accepted timestamp := by
  by_cases asked : entry.1 ∈ session.requested
  · refine .inr ?_
    by_cases card : ∃ timestamp, VCard.IsCardOf session.space entry.2 entry.1 timestamp
    · obtain ⟨timestamp, card⟩ := card
      exact .inr ⟨timestamp, judgementOf_eq_accepted_iff.mpr ⟨asked, card⟩⟩
    · rw [not_exists] at card
      refine .inl ⟨asked, card, ?_⟩
      rw [judgementOf, if_pos (List.contains_iff_mem.mpr asked)]
      cases parsed : VCard.parseFinalized session.space entry.2 with
      | error fault => rfl
      | ok finalized =>
          have foreign : finalized.metadata.uid ≠ entry.1 := fun own =>
            card finalized.metadata.timestamp ⟨finalized, parsed, own, rfl⟩
          simp only [if_neg foreign]
  · refine .inl ⟨asked, ?_⟩
    rw [judgementOf, if_neg (fun held => asked (List.contains_iff_mem.mp held))]

theorem judgementOf_eq_unexpected_iff {entry : Uid × String} :
    judgementOf session entry = .unexpected ↔ entry.1 ∉ session.requested := by
  rcases judgementOf_cases session entry with
    ⟨unasked, judged⟩ | ⟨asked, -, judged⟩ | ⟨timestamp, judged⟩
  · simp [judged, unasked]
  · simp [judged, asked]
  · simp [judged, (judgementOf_eq_accepted_iff.mp judged).1]

theorem judgementOf_eq_malformed_iff {entry : Uid × String} :
    judgementOf session entry = .malformed ↔ entry.1 ∈ session.requested ∧
      ∀ timestamp, ¬VCard.IsCardOf session.space entry.2 entry.1 timestamp := by
  rcases judgementOf_cases session entry with
    ⟨unasked, judged⟩ | ⟨asked, refused, judged⟩ | ⟨timestamp, judged⟩
  · simp [judged, unasked]
  · simp [judged, asked, refused]
  · obtain ⟨-, card⟩ := judgementOf_eq_accepted_iff.mp judged
    simp only [judged, reduceCtorEq, false_iff]
    rintro ⟨-, refused⟩
    exact refused timestamp card

theorem mem_updated_iff :
    uid ∈ (resultOf session.requested (cards.map (judgedBy session))).updated ↔
      uid ∈ session.requested ∧ ∃ text timestamp, (uid, text) ∈ cards ∧
        VCard.IsCardOf session.space text uid timestamp := by
  rw [resultOf, List.mem_map]
  constructor
  · rintro ⟨accepted, among, rfl⟩
    obtain ⟨held, asked, card⟩ := mem_accepted_iff.mp among
    exact ⟨asked, accepted.2.1, accepted.2.2, held, card⟩
  · rintro ⟨asked, text, timestamp, held, card⟩
    exact ⟨(uid, text, timestamp), mem_accepted_iff.mpr ⟨held, asked, card⟩, rfl⟩

theorem mem_judged_iff {judgement : Judgement} :
    uid ∈ ((cards.map (judgedBy session)).filter fun card => card.is judgement).map JudgedCard.uid ↔
      ∃ text, (uid, text) ∈ cards ∧ judgementOf session (uid, text) = judgement := by
  rw [List.filter_map, List.map_map, List.mem_map]
  constructor
  · rintro ⟨entry, among, rfl⟩
    obtain ⟨held, judged⟩ := List.mem_filter.mp among
    exact ⟨entry.2, held, of_decide_eq_true judged⟩
  · rintro ⟨text, held, judged⟩
    exact ⟨(uid, text), List.mem_filter.mpr ⟨held, decide_eq_true judged⟩, rfl⟩

theorem mem_malformed_iff :
    uid ∈ (resultOf session.requested (cards.map (judgedBy session))).malformed ↔
      uid ∈ session.requested ∧ ∃ text, (uid, text) ∈ cards ∧
        ∀ timestamp, ¬VCard.IsCardOf session.space text uid timestamp := by
  rw [resultOf, mem_judged_iff]
  simp only [judgementOf_eq_malformed_iff]
  constructor
  · rintro ⟨text, held, asked, refused⟩
    exact ⟨asked, text, held, refused⟩
  · rintro ⟨asked, text, held, refused⟩
    exact ⟨text, held, asked, refused⟩

theorem mem_unexpected_iff :
    uid ∈ (resultOf session.requested (cards.map (judgedBy session))).unexpected ↔
      uid ∉ session.requested ∧ ∃ text, (uid, text) ∈ cards := by
  rw [resultOf, mem_judged_iff]
  simp only [judgementOf_eq_unexpected_iff]
  constructor
  · rintro ⟨text, held, unasked⟩
    exact ⟨unasked, text, held⟩
  · rintro ⟨unasked, text, held⟩
    exact ⟨text, held, unasked⟩

theorem mem_unavailable_iff :
    uid ∈ (resultOf session.requested (cards.map (judgedBy session))).unavailable ↔
      uid ∈ session.requested ∧ ∀ text, (uid, text) ∉ cards := by
  rw [resultOf, List.mem_filter, List.map_map]
  simp [judgedBy]

theorem nodup_judged (once : cards.keys.Nodup) (judgement : Judgement) :
    (((cards.map (judgedBy session)).filter fun card => card.is judgement).map
      JudgedCard.uid).Nodup := by
  have keys : (cards.map (judgedBy session)).map JudgedCard.uid = cards.keys := by
    rw [List.map_map]
    rfl
  rw [← keys] at once
  exact once.sublist (List.filter_sublist.map JudgedCard.uid)

/-- The three lists that speak of the contacts that were asked for have each of them once. -/
theorem perm_requested (requestedOnce : session.requested.Nodup) (once : cards.keys.Nodup) :
    let result := resultOf session.requested (cards.map (judgedBy session))
    (result.updated ++ result.malformed ++ result.unavailable).Perm session.requested := by
  intro result
  -- A response has one text for a uID, so one entry cannot be taken and refused.
  have apart : ∀ uid ∈ result.updated, uid ∉ result.malformed := by
    intro uid updated malformed
    obtain ⟨-, text, timestamp, held, card⟩ := mem_updated_iff.mp updated
    obtain ⟨-, other, again, refused⟩ := mem_malformed_iff.mp malformed
    have same : text = other :=
      Option.some.inj ((KeyedList.get?_of_mem once held).symm.trans
        (KeyedList.get?_of_mem once again))
    exact refused timestamp (same ▸ card)
  have offered : ∀ uid ∈ result.updated ++ result.malformed, uid ∉ result.unavailable := by
    intro uid member unavailable
    obtain ⟨-, absent⟩ := mem_unavailable_iff.mp unavailable
    rcases List.mem_append.mp member with updated | malformed
    · obtain ⟨-, text, timestamp, held, -⟩ := mem_updated_iff.mp updated
      exact absent text held
    · obtain ⟨-, text, held, -⟩ := mem_malformed_iff.mp malformed
      exact absent text held
  have firstOnce : (result.updated ++ result.malformed).Nodup := by
    refine List.nodup_append.mpr ⟨nodup_accepted once, nodup_judged once .malformed, ?_⟩
    rintro uid updated _ malformed rfl
    exact apart uid updated malformed
  have allOnce : (result.updated ++ result.malformed ++ result.unavailable).Nodup := by
    refine List.nodup_append.mpr ⟨firstOnce, requestedOnce.filter _, ?_⟩
    rintro uid member _ unavailable rfl
    exact offered uid member unavailable
  refine (List.perm_ext_iff_of_nodup allOnce requestedOnce).mpr fun uid => ?_
  rw [List.mem_append, List.mem_append, mem_updated_iff, mem_malformed_iff, mem_unavailable_iff]
  constructor
  · rintro ((⟨asked, -⟩ | ⟨asked, -⟩) | ⟨asked, -⟩) <;> exact asked
  · intro asked
    by_cases held : ∃ text, (uid, text) ∈ cards
    · obtain ⟨text, held⟩ := held
      by_cases card : ∃ timestamp, VCard.IsCardOf session.space text uid timestamp
      · obtain ⟨timestamp, card⟩ := card
        exact .inl (.inl ⟨asked, text, timestamp, held, card⟩)
      · exact .inl (.inr ⟨asked, text, held, not_exists.mp card⟩)
    · exact .inr ⟨asked, not_exists.mp held⟩

/-- What a requester makes of a response: the lists of its result, and what it writes. -/
structure Accounts (packet : Packet) (raw : List Value) (before after : Requester)
    (result : FetchResult) : Prop where
  requested : (result.updated ++ result.malformed ++ result.unavailable).Perm
    before.session.requested
  malformed : ∀ uid, uid ∈ result.malformed ↔ uid ∈ before.session.requested ∧
    ∃ text, Message.Offers packet raw uid text ∧
      ∀ timestamp, ¬VCard.IsCardOf before.session.space text uid timestamp
  unavailable : ∀ uid, uid ∈ result.unavailable ↔ uid ∈ before.session.requested ∧
    ∀ text, ¬Message.Offers packet raw uid text
  unexpectedOnce : result.unexpected.Nodup
  unexpected : ∀ uid, uid ∈ result.unexpected ↔ uid ∉ before.session.requested ∧
    ∃ text, Message.Offers packet raw uid text
  written : ∀ uid ∈ result.updated, ∃ text finalized, Message.Offers packet raw uid text ∧
    VCard.parseFinalized before.session.space text = .ok finalized ∧
    finalized.metadata.uid = uid ∧
    KeyedList.get? after.cache.cards uid = some text ∧
    KeyedList.get? after.cache.timestamps uid = some finalized.metadata.timestamp
  kept : ∀ uid, uid ∉ result.updated ->
    KeyedList.get? after.cache.cards uid = KeyedList.get? before.cache.cards uid ∧
    KeyedList.get? after.cache.timestamps uid = KeyedList.get? before.cache.timestamps uid

theorem accounts_of_judgeAll {packet : Packet} {raw : List Value} {before after : Requester}
    (requestedOnce : before.session.requested.Nodup)
    (written : after.cache = store before.cache
      (((Message.entriesIn Message.cardIn packet (Message.distinctUids raw)).map
        (judgedBy before.session)).filterMap JudgedCard.accepted?)) :
    Accounts packet raw before after (resultOf before.session.requested
      ((Message.entriesIn Message.cardIn packet (Message.distinctUids raw)).map
        (judgedBy before.session))) := by
  have once : (KeyedList.keys (Message.entriesIn Message.cardIn packet
      (Message.distinctUids raw))).Nodup :=
    Message.nodup_keys_entriesIn (Message.nodup_distinctUids raw)
  constructor
  · exact perm_requested requestedOnce once
  · intro uid
    simp only [mem_malformed_iff, Message.mem_cards_iff]
  · intro uid
    simp only [mem_unavailable_iff, Message.mem_cards_iff]
  · exact nodup_judged once .unexpected
  · intro uid
    simp only [mem_unexpected_iff, Message.mem_cards_iff]
  · intro uid updated
    rw [written]
    rcases store_cases (nodup_accepted once) before.cache uid with
      ⟨entry, among, rfl, card, timestamp⟩ | ⟨missing, -⟩
    · obtain ⟨held, -, finalized, parsed, named, dated⟩ := mem_accepted_iff.mp among
      rw [← dated] at timestamp
      exact ⟨entry.2.1, finalized, Message.mem_cards_iff.mp held, parsed, named, card, timestamp⟩
    · exact absurd updated missing
  · intro uid untouched
    rw [written]
    rcases store_cases (nodup_accepted once) before.cache uid with
      ⟨entry, among, rfl, -⟩ | ⟨-, same⟩
    · exact absurd (List.mem_map_of_mem among) untouched
    · exact same

end Requester

namespace Session

/-- A session that waits for vCards takes every response, whatever is in its list and beside it, and
then is complete.  Each contact that it asked for is updated, malformed or unavailable, once and in
one of these ways only; only those that are updated change in the cache, to the text of the response
and the timestamp in its footer. -/
theorem reception_accounts_for_every_card {space : String} {calls : List (Cache × SessionCall)}
    (waiting : ((fresh space).reached calls).phase = .fetchRequested) (cache : Cache)
    {packet : Packet} {raw : List Value} (ofType : packet.type = Message.cardsResponse)
    (listed : packet.get? Uid.reservedKey = some (.list raw)) :
    let before : Requester := ⟨(fresh space).reached calls, cache⟩
    (∃ turn ∈ (fresh space).turns calls, turn.Fetches before.session.requested) ∧
      before.session.requested.Nodup ∧
      ∃ result after, (Requester.receiveCards packet).Takes before result after ∧
        after.session = { before.session with phase := .complete } ∧
        Requester.Accounts packet raw before after result := by
  intro before
  obtain ⟨asked, accepted, fetch, taken, -, ⟨-, _, remote, -, -, plan⟩, fetches, requested⟩ :=
    (hasTaken_turns space calls).of_fetchRequested waiting
  have requestedOnce : before.session.requested.Nodup := by
    show ((fresh space).reached calls).requested.Nodup
    rw [requested, plan]
    exact (FetchPlan.ascending_toFetch _ _).nodup
  have judges : (Requester.judgeAll before.session packet).outcome =
      .ok ((Message.entriesIn Message.cardIn packet (Message.distinctUids raw)).map
        (Requester.judgedBy before.session)) := by
    have read : Message.rawList packet Message.cardsResponse = .ok raw := by
      rw [Message.rawList, Message.expectType, if_pos ofType, Message.uidList, listed]
      rfl
    rw [Requester.outcome_judgeAll, Message.outcome_readCards_any, read]
    rfl
  refine ⟨⟨fetch, ?_, ?_⟩, requestedOnce, _, _, Requester.takes_receiveCards waiting judges, rfl,
    Requester.accounts_of_judgeAll requestedOnce rfl⟩
  · have member : fetch ∈ ((fresh space).turns calls).filter Turn.isTaken := by
      rw [taken]
      simp
    exact (List.mem_filter.mp member).1
  · show fetch.Fetches ((fresh space).reached calls).requested
    rw [requested]
    exact fetches

/-- Calls after which a session waits for a vCard. -/
def waitingCalls : List (Cache × SessionCall) :=
  [(.empty, .requestManifest 1), (.empty, .receiveManifest SharedCache.hostileManifest),
    (.empty, .requestFetch 2)]

theorem reception_accounts_for_every_card_hostile :
    let before : Requester := ⟨(fresh "KDECONNECT").reached waitingCalls, .empty⟩
    (Requester.receiveCards SharedCache.hostileCards before).1.outcome.toOption =
        some ⟨[⟨"a"⟩], [], [], [⟨"b"⟩]⟩ ∧
      (∃ turn ∈ (fresh "KDECONNECT").turns waitingCalls,
        turn.Fetches before.session.requested) ∧
      before.session.requested.Nodup ∧
      ∃ result after, (Requester.receiveCards SharedCache.hostileCards).Takes before result after ∧
        after.session = { before.session with phase := .complete } ∧
        Requester.Accounts SharedCache.hostileCards [.text "b", .text "a"] before after result := by
  have waiting : ((fresh "KDECONNECT").reached waitingCalls).phase = .fetchRequested := by
    decide +kernel
  have listed : SharedCache.hostileCards.get? Uid.reservedKey =
      some (.list [.text "b", .text "a"]) := by
    simp [SharedCache.hostileCards, Packet.get?, Packet.set, KeyedList.get?_put, Uid.reservedKey]
  exact ⟨by decide +kernel, reception_accounts_for_every_card waiting .empty rfl listed⟩

end Session

end PairedContacts
