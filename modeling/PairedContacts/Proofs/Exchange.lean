import PairedContacts.Proofs.Contacts.Delivery
import PairedContacts.Proofs.Contacts.FetchPlan
import PairedContacts.Proofs.Session
import PairedContacts.Proofs.Settings

/-!
# Exchanges with an honest source

What a whole exchange does when every packet is answered by the contacts service from one table: it
fetches what the cache does not know as recent, takes every vCard whose footer is whole, and when it
is repeated it asks only for what the table could not deliver.
-/

set_option autoImplicit false

namespace PairedContacts

namespace ContactsService

def answering (service : ContactsService) (rows : List Row) (clock : Packet -> Int) :
    Packet -> Run Packet :=
  fun packet => service.dispatcher.dispatch ⟨Source.ofRows rows, clock packet⟩ packet

def planFor (service : ContactsService) (rows : List Row) (known : Manifest) : FetchPlan :=
  FetchPlan.compute known (Uid.sortEntries (service.manifestOf rows))

def fetched (service : ContactsService) (rows : List Row) (uids : List Uid) : FetchResult where
  updated := (KeyedList.keys (service.cardsOf rows uids)).filter fun uid =>
    !service.sender.tears uid
  unavailable := uids.filter fun uid => (service.cardOf rows uid).isNone
  malformed := (KeyedList.keys (service.cardsOf rows uids)).filter service.sender.tears
  unexpected := []

def accepted (service : ContactsService) (rows : List Row) (uids : List Uid) :
    List (Uid × String × Int) :=
  ((service.cardsOf rows uids).filter fun entry => service.takes uids entry.1).map fun entry =>
    (entry.1, entry.2, service.timestampOf rows entry.1)

variable {service : ContactsService} {rows : List Row}

theorem isProper_of_mem_toFetch {known : Manifest} {uid : Uid}
    (member : uid ∈ (service.planFor rows known).toFetch) : uid.IsProper := by
  obtain ⟨there, found, -⟩ :=
    FetchPlan.verdict_eq_fetch_iff.mp (FetchPlan.mem_toFetch_iff.mp member)
  have known := KeyedList.isSome_get?_iff.mp (Option.isSome_iff_exists.mpr ⟨there, found⟩)
  exact (isPortable_manifestOf service rows).sorted.proper uid known

theorem ascending_planFor (known : Manifest) :
    Uid.Ascending (service.planFor rows known).toFetch :=
  FetchPlan.ascending_toFetch _ _

theorem requested_of_mem_cardsOf {uids : List Uid} (once : uids.Nodup) {entry : Uid × String}
    (member : entry ∈ service.cardsOf rows uids) : uids.contains entry.1 = true :=
  List.contains_iff_mem.mpr ((mem_cardsOf once).mp member).1

theorem judgement_of_requested {uids : List Uid} {uid : Uid} (asked : uids.contains uid = true) :
    service.judgement rows uids uid =
      if service.sender.tears uid then .malformed
      else .accepted (service.timestampOf rows uid) := by
  rw [judgement, if_pos asked]

theorem resultOf_judged {uids : List Uid} (once : uids.Nodup) :
    Requester.resultOf uids ((service.cardsOf rows uids).map (service.judged rows uids)) =
      service.fetched rows uids := by
  have judgements : ∀ entry ∈ service.cardsOf rows uids, ∀ kind : Judgement,
      (service.judged rows uids entry).is kind =
        ((if service.sender.tears entry.1 then .malformed
          else .accepted (service.timestampOf rows entry.1)) == kind) := by
    intro entry member kind
    rw [JudgedCard.is, judged, judgement_of_requested (requested_of_mem_cardsOf once member)]
  have updated : (((service.cardsOf rows uids).map (service.judged rows uids)).filterMap
      JudgedCard.accepted?).map Prod.fst =
        (KeyedList.keys (service.cardsOf rows uids)).filter fun uid =>
          !service.sender.tears uid := by
    rw [accepted_judged, List.map_map, KeyedList.keys, List.filter_map]
    refine congrArg (List.map Prod.fst) (List.filter_congr fun entry member => ?_)
    rw [takes, requested_of_mem_cardsOf once member]
    rfl
  have unavailable : (uids.filter fun uid =>
      !(((service.cardsOf rows uids).map (service.judged rows uids)).map JudgedCard.uid).contains
        uid) = uids.filter fun uid => (service.cardOf rows uid).isNone := by
    refine List.filter_congr fun uid member => ?_
    have delivered : ((service.cardsOf rows uids).map (service.judged rows uids)).map
        JudgedCard.uid = KeyedList.keys (service.cardsOf rows uids) := by
      rw [List.map_map]
      rfl
    rw [delivered, keys_cardsOf once]
    cases found : service.cardOf rows uid <;> simp [found, member]
  have malformed : (((service.cardsOf rows uids).map (service.judged rows uids)).filter fun card =>
      card.is .malformed).map JudgedCard.uid =
        (KeyedList.keys (service.cardsOf rows uids)).filter service.sender.tears := by
    rw [List.filter_map, List.map_map, KeyedList.keys, List.filter_map]
    refine congrArg (List.map Prod.fst) (List.filter_congr fun entry member => ?_)
    rw [Function.comp_apply, judgements entry member]
    cases torn : service.sender.tears entry.1 <;> simp [torn]
  have unexpected : (((service.cardsOf rows uids).map (service.judged rows uids)).filter fun card =>
      card.is .unexpected).map JudgedCard.uid = [] := by
    rw [List.map_eq_nil_iff, List.filter_eq_nil_iff]
    intro card member
    obtain ⟨entry, here, rfl⟩ := List.mem_map.mp member
    rw [judgements entry here]
    cases service.sender.tears entry.1 <;> simp
  rw [Requester.resultOf, updated, unavailable, malformed, unexpected]
  rfl

theorem ascending_keys_cardsOf {uids : List Uid} (ascending : Uid.Ascending uids) :
    Uid.Ascending (KeyedList.keys (service.cardsOf rows uids)) := by
  rw [keys_cardsOf ascending.nodup]
  exact ascending.filter _

theorem takes_receiveCards {requester : Requester} {uids : List Uid}
    (ascending : Uid.Ascending uids) (proper : ∀ uid ∈ uids, uid.IsProper) (now : Int)
    (phase : requester.session.phase = .fetchRequested)
    (requested : requester.session.requested = uids)
    (same : requester.session.space = service.sender.space) :
    (Requester.receiveCards (Message.respondCards now (service.cardsOf rows uids))).Takes requester
      (service.fetched rows uids)
      ⟨{ requester.session with phase := .complete },
        Requester.store requester.cache (service.accepted rows uids)⟩ := by
  have judges : (Requester.judgeAll requester.session
      (Message.respondCards now (service.cardsOf rows uids))).outcome =
        .ok ((service.cardsOf rows uids).map (service.judged rows uids)) := by
    rw [outcome_judgeAll now proper ascending.nodup same, requested,
      Uid.sortEntries_of_ascending (ascending_keys_cardsOf ascending)]
  have received := Requester.takes_receiveCards phase judges
  rw [requested, resultOf_judged ascending.nodup, accepted_judged] at received
  exact received

/-! ## One exchange -/

section Exchanges

variable (reads : service.Reads rows) (cache : Cache) (now : Int) (clock : Packet -> Int)

include reads

theorem takes_manifest (requester : Requester) :
    (Step.ofRun (service.answering rows clock (Message.requestManifest now))).Takes requester
      (Message.respondManifest (clock (Message.requestManifest now)) (service.manifestOf rows))
      requester :=
  Step.takes_ofRun (outcome_dispatch_manifest reads _ rfl) requester

theorem takes_cards {uids : List Uid} (proper : ∀ uid ∈ uids, uid.IsProper) (once : uids.Nodup)
    (requester : Requester) :
    (Step.ofRun (service.answering rows clock (Message.requestCards now uids))).Takes requester
      (Message.respondCards (clock (Message.requestCards now uids)) (service.cardsOf rows uids))
      requester := by
  have listed := Message.uidList_requestCards now uids
  have answered := outcome_dispatch_cards reads (clock (Message.requestCards now uids)) rfl listed
  rw [Message.distinctUids_texts proper once] at answered
  exact Step.takes_ofRun answered requester

theorem takes_exchange_none (nothing : (service.planFor rows cache.timestamps).toFetch = []) :
    ∃ session, session.phase = .complete ∧
      (Requester.exchange now (service.answering rows clock)).Takes
        (.begin cache service.sender.space) ⟨service.planFor rows cache.timestamps, none, none⟩
        ⟨session, cache⟩ := by
  have portable := isPortable_manifestOf service rows
  let after := (Requester.begin cache service.sender.space).planned
    (Uid.sortEntries (service.manifestOf rows))
  refine ⟨{ after.session with phase := .complete }, rfl, ?_⟩
  refine (Requester.takes_requestManifest now rfl).bind ?_
  refine (takes_manifest reads now clock _).bind ?_
  refine (Requester.takes_receiveManifest rfl (Message.outcome_readManifest portable _)).bind ?_
  refine (Requester.takes_requestFetch_none now rfl nothing).bind ?_
  exact Step.takes_pure _ _

theorem takes_exchange_some (wanted : (service.planFor rows cache.timestamps).toFetch ≠ []) :
    ∃ session request, session.phase = .complete ∧
      (Requester.exchange now (service.answering rows clock)).Takes
        (.begin cache service.sender.space)
        ⟨service.planFor rows cache.timestamps, some request,
          some (service.fetched rows (service.planFor rows cache.timestamps).toFetch)⟩
        ⟨session, Requester.store cache
          (service.accepted rows (service.planFor rows cache.timestamps).toFetch)⟩ := by
  have portable := isPortable_manifestOf service rows
  have ascending : Uid.Ascending (service.planFor rows cache.timestamps).toFetch :=
    ascending_planFor cache.timestamps
  have proper : ∀ uid ∈ (service.planFor rows cache.timestamps).toFetch, uid.IsProper :=
    fun uid => isProper_of_mem_toFetch
  let after := ((Requester.begin cache service.sender.space).planned
    (Uid.sortEntries (service.manifestOf rows))).fetching
  refine ⟨{ after.session with phase := .complete },
    Message.requestCards now after.session.requested, rfl, ?_⟩
  refine (Requester.takes_requestManifest now rfl).bind ?_
  refine (takes_manifest reads now clock _).bind ?_
  refine (Requester.takes_receiveManifest rfl (Message.outcome_readManifest portable _)).bind ?_
  refine (Requester.takes_requestFetch_some now rfl wanted).bind ?_
  refine (takes_cards reads now clock proper ascending.nodup _).bind ?_
  refine (takes_receiveCards ascending proper _ rfl rfl rfl).bind ?_
  exact Step.takes_pure _ _

theorem exists_takes_exchange :
    ∃ done after, (Requester.exchange now (service.answering rows clock)).Takes
        (.begin cache service.sender.space) done after ∧
      done.plan = service.planFor rows cache.timestamps := by
  by_cases nothing : (service.planFor rows cache.timestamps).toFetch = []
  · obtain ⟨session, -, taken⟩ := takes_exchange_none reads cache now clock nothing
    exact ⟨_, _, taken, rfl⟩
  · obtain ⟨session, request, -, taken⟩ := takes_exchange_some reads cache now clock nothing
    exact ⟨_, _, taken, rfl⟩

end Exchanges

/-! ## The next exchange -/

theorem get?_remote (service : ContactsService) (rows : List Row) (uid : Uid) :
    KeyedList.get? (Uid.sortEntries (service.manifestOf rows)) uid =
      MergeGroup.newest service.layout rows uid := by
  rw [Uid.get?_sortEntries (isPortable_manifestOf service rows).once, manifestOf,
    Manifest.get?_ofRows_all]

theorem map_accepted {uids : List Uid} (once : uids.Nodup) :
    (service.accepted rows uids).map Prod.fst = (service.fetched rows uids).updated := by
  rw [← resultOf_judged once, Requester.resultOf, accepted_judged]
  rfl

theorem mem_toFetch_planFor {known : Manifest} {uid : Uid} :
    uid ∈ (service.planFor rows known).toFetch ↔
      ∃ there, MergeGroup.newest service.layout rows uid = some there ∧
        ∀ here, KeyedList.get? known uid = some here -> here < there := by
  rw [planFor, FetchPlan.mem_toFetch_iff, FetchPlan.verdict_eq_fetch_iff, get?_remote]

theorem newest_of_mem_accepted {uids : List Uid} (once : uids.Nodup)
    {entry : Uid × String × Int} (member : entry ∈ service.accepted rows uids) :
    service.cardOf rows entry.1 = some entry.2.1 ∧
      MergeGroup.newest service.layout rows entry.1 = some entry.2.2 := by
  obtain ⟨sent, here, rfl⟩ := List.mem_map.mp member
  have found := ((mem_cardsOf once).mp (List.mem_filter.mp here).1).2
  exact ⟨found, newest_of_cardOf found⟩

theorem nodup_accepted {uids : List Uid} (ascending : Uid.Ascending uids) :
    ((service.accepted rows uids).map Prod.fst).Nodup := by
  rw [map_accepted ascending.nodup, fetched]
  exact (ascending_keys_cardsOf ascending).nodup.filter _

theorem get?_stored {uids : List Uid} {uid : Uid} (ascending : Uid.Ascending uids)
    (updated : uid ∈ (service.fetched rows uids).updated) (cache : Cache) :
    KeyedList.get? (Requester.store cache (service.accepted rows uids)).cards uid =
      KeyedList.get? (service.cardsOf rows uids) uid := by
  have wanted : uid ∈ uids := by
    have delivered := (List.mem_filter.mp updated).1
    rw [keys_cardsOf ascending.nodup] at delivered
    exact (List.mem_filter.mp delivered).1
  rw [← map_accepted ascending.nodup] at updated
  rcases Requester.store_cases (nodup_accepted ascending) cache uid with
    ⟨entry, here, rfl, stored, -⟩ | ⟨out, -, -⟩
  · rw [stored, get?_cardsOf wanted, (newest_of_mem_accepted ascending.nodup here).1]
  · exact absurd updated out

/-- What a fetch has taken is not fetched again, and all else is. -/
theorem toFetch_again {cache : Cache} {uids : List Uid}
    (planned : (service.planFor rows cache.timestamps).toFetch = uids) :
    (service.planFor rows
        (Requester.store cache (service.accepted rows uids)).timestamps).toFetch =
      uids.filter fun uid => !(service.fetched rows uids).updated.contains uid := by
  have ascending : Uid.Ascending uids := planned ▸ ascending_planFor cache.timestamps
  have once : ((service.accepted rows uids).map Prod.fst).Nodup := nodup_accepted ascending
  refine (ascending_planFor _).eq_of_mem_iff (ascending.filter _) fun uid => ?_
  rw [mem_toFetch_planFor, List.mem_filter, ← map_accepted ascending.nodup,
    ← planned, mem_toFetch_planFor, planned]
  -- A stored contact is known with the very timestamp that the next manifest has for it.
  rcases Requester.store_cases once cache uid with ⟨entry, here, rfl, -, known⟩ | ⟨out, -, known⟩
  · have newest := (newest_of_mem_accepted ascending.nodup here).2
    have updated : entry.1 ∈ (service.accepted rows uids).map Prod.fst :=
      List.mem_map_of_mem here
    simp [known, newest, updated]
  · rw [known]
    simp [out]

/-! ## Senders that settings accept -/

theorem tears_eq_breaksLine (settled : service.sender.IsSettled) (uid : Uid) :
    service.sender.tears uid = uid.breaksLine := by
  rw [Sender.tears, settled.wholeSpace, VCard.deviceValue, Text.isUnbroken_append,
    Text.isUnbroken_cons, settled.wholeDevice]
  rfl

theorem fetched_eq (settled : service.sender.IsSettled) (uids : List Uid) :
    service.fetched rows uids =
      ⟨(KeyedList.keys (service.cardsOf rows uids)).filter fun uid => !uid.breaksLine,
       uids.filter fun uid => (service.cardOf rows uid).isNone,
       (KeyedList.keys (service.cardsOf rows uids)).filter Uid.breaksLine, []⟩ := by
  have same : service.sender.tears = Uid.breaksLine := funext (tears_eq_breaksLine settled)
  rw [fetched, same]

theorem breaksLine_of_newest {uid : Uid} {timestamp : Int}
    (whole : ∀ row ∈ rows, ∀ text, row.value service.layout.lookup = .text text ->
      Text.isUnbroken text.toList = true)
    (found : MergeGroup.newest service.layout rows uid = some timestamp) :
    uid.breaksLine = false := by
  obtain ⟨row, inGroup, -⟩ := List.mem_filterMap.mp (List.max?_mem found)
  obtain ⟨member, carried⟩ := mem_mergeGroup.mp inGroup
  have read := Row.ofValue_of_identity carried
  cases value : row.value service.layout.lookup with
  | text text =>
      rw [value] at read
      obtain ⟨-, -, -, -, -, rfl⟩ := Uid.ofText_eq_ok_iff.mp read
      rw [Uid.breaksLine, whole row member text value]
      rfl
  | int n =>
      rw [value] at read
      exact Uid.breaksLine_of_ofValue_int read
  | _ =>
      rw [value] at read
      cases read

end ContactsService

/-! ## Main results -/

section Results

variable {service : ContactsService} {rows : List Row}

def oneRow (lookup : String) : List Row :=
  [[("lookup_key", ⟨some "text", .text lookup⟩),
    ("last_updated_timestamp", ⟨some "integer", .int 5⟩),
    ("vcard", ⟨some "text", .text "BEGIN:VCARD\nEND:VCARD"⟩)]]

theorem plainService_settled : plainService.sender.IsSettled :=
  ⟨⟨"phone", rfl⟩, "kdeconnect", "KDECONNECT", rfl, .inr rfl⟩

/-- Against a source that does not change, an exchange ends complete with every delivered vCard
accepted, and the next one asks exactly for what the source could not deliver. -/
theorem exchange_converges (opens : Access.opens service.access = true)
    (settled : service.sender.IsSettled) (typed : ∀ row ∈ rows, row.isTyped = true)
    (short : ∀ row ∈ rows, row.isShort = true)
    (whole : ∀ row ∈ rows, ∀ text, row.value service.layout.lookup = .text text ->
      Text.isUnbroken text.toList = true)
    (cache : Cache) (now later : Int) (clock laterClock : Packet -> Int) :
    ∃ first second middle final,
      (Requester.exchange now (service.answering rows clock)).Takes
        (.begin cache service.sender.space) first middle ∧
      middle.session.phase = .complete ∧
      (first.result = none ↔ first.plan.toFetch = []) ∧
      (∀ result, first.result = some result -> result.malformed = [] ∧ result.unexpected = []) ∧
      (Requester.exchange later (service.answering rows laterClock)).Takes
        (.begin middle.cache service.sender.space) second final ∧
      second.plan.toFetch = first.result.elim [] FetchResult.unavailable := by
  have reads : service.Reads rows := ⟨opens, settled.admitted, typed, short⟩
  cases planned : (service.planFor rows cache.timestamps).toFetch with
  | nil =>
      obtain ⟨session, complete, once⟩ :=
        ContactsService.takes_exchange_none reads cache now clock planned
      obtain ⟨again, -, twice⟩ :=
        ContactsService.takes_exchange_none reads cache later laterClock planned
      refine ⟨_, _, _, _, once, complete, iff_of_true rfl planned, ?_, twice, planned⟩
      intro result nothing
      cases nothing
  | cons head rest =>
      have wanted : (service.planFor rows cache.timestamps).toFetch ≠ [] := by
        rw [planned]
        exact List.cons_ne_nil head rest
      obtain ⟨session, request, complete, once⟩ :=
        ContactsService.takes_exchange_some reads cache now clock wanted
      obtain ⟨second, final, twice, plan⟩ := ContactsService.exists_takes_exchange reads
        (Requester.store cache (service.accepted rows
          (service.planFor rows cache.timestamps).toFetch)) later laterClock
      have unbroken : ∀ uid ∈ (service.planFor rows cache.timestamps).toFetch,
          uid.breaksLine = false := by
        intro uid member
        obtain ⟨there, newest, -⟩ := ContactsService.mem_toFetch_planFor.mp member
        exact ContactsService.breaksLine_of_newest whole newest
      have ascending : Uid.Ascending (service.planFor rows cache.timestamps).toFetch :=
        ContactsService.ascending_planFor cache.timestamps
      refine ⟨_, _, _, _, once, complete, iff_of_false (Option.some_ne_none _) wanted, ?_,
        twice, ?_⟩
      · intro result same
        obtain rfl := Option.some.inj same
        refine ⟨?_, rfl⟩
        rw [ContactsService.fetched_eq settled, List.filter_eq_nil_iff]
        intro uid member
        rw [ContactsService.keys_cardsOf ascending.nodup] at member
        simp [unbroken uid (List.mem_filter.mp member).1]
      · rw [plan, ContactsService.toFetch_again rfl]
        refine List.filter_congr fun uid member => ?_
        rw [ContactsService.fetched_eq settled, ContactsService.keys_cardsOf ascending.nodup]
        cases found : service.cardOf rows uid <;> simp [found, member, unbroken uid member]

theorem exchange_converges_oneRow :
    ∃ first second middle final,
      (Requester.exchange 1 (plainService.answering (oneRow "alice") fun _ => 2)).Takes
        (.begin .empty plainService.sender.space) first middle ∧
      middle.session.phase = .complete ∧
      (first.result = none ↔ first.plan.toFetch = []) ∧
      (∀ result, first.result = some result -> result.malformed = [] ∧ result.unexpected = []) ∧
      (Requester.exchange 3 (plainService.answering (oneRow "alice") fun _ => 4)).Takes
        (.begin middle.cache plainService.sender.space) second final ∧
      second.plan.toFetch = first.result.elim [] FetchResult.unavailable :=
  have whole : ∀ row ∈ oneRow "alice", ∀ text,
      row.value plainService.layout.lookup = .text text ->
        Text.isUnbroken text.toList = true := by
    intro row member text value
    obtain rfl := List.mem_singleton.mp member
    obtain rfl : "alice" = text := Value.text.inj value
    rfl
  exchange_converges rfl plainService_settled (by decide) (by decide +kernel) whole .empty 1 3
    (fun _ => 2) fun _ => 4

/-- Of the vCards that a source delivers, exactly those whose uID has a line break are rejected as
malformed; the others are accepted and kept. -/
theorem exchange_rejects_broken (opens : Access.opens service.access = true)
    (settled : service.sender.IsSettled) (typed : ∀ row ∈ rows, row.isTyped = true)
    (short : ∀ row ∈ rows, row.isShort = true) (cache : Cache) (now : Int)
    (clock : Packet -> Int) :
    ∃ done after,
      (Requester.exchange now (service.answering rows clock)).Takes
        (.begin cache service.sender.space) done after ∧
      (done.result = none ↔ done.plan.toFetch = []) ∧
      ∀ result, done.result = some result ->
        ∃ cards,
          (Cards.collect (Source.ofRows rows) service.access service.layout service.sender
            done.plan.toFetch).outcome = .ok cards ∧
          result.malformed = (KeyedList.keys cards).filter Uid.breaksLine ∧
          result.updated = (KeyedList.keys cards).filter (fun uid => !uid.breaksLine) ∧
          result.unexpected = [] ∧
          ∀ uid ∈ result.updated,
            KeyedList.get? after.cache.cards uid = KeyedList.get? cards uid := by
  have reads : service.Reads rows := ⟨opens, settled.admitted, typed, short⟩
  by_cases wanted : (service.planFor rows cache.timestamps).toFetch = []
  · obtain ⟨session, -, once⟩ := ContactsService.takes_exchange_none reads cache now clock wanted
    refine ⟨_, _, once, iff_of_true rfl wanted, ?_⟩
    intro result nothing
    cases nothing
  · obtain ⟨session, request, -, once⟩ :=
      ContactsService.takes_exchange_some reads cache now clock wanted
    have ascending : Uid.Ascending (service.planFor rows cache.timestamps).toFetch :=
      ContactsService.ascending_planFor cache.timestamps
    refine ⟨_, _, once, iff_of_false (Option.some_ne_none _) wanted, ?_⟩
    intro result same
    obtain rfl := Option.some.inj same
    refine ⟨service.cardsOf rows (service.planFor rows cache.timestamps).toFetch,
      Cards.outcome_collect opens settled.admitted typed short _, ?_, ?_, rfl, ?_⟩
    · rw [ContactsService.fetched_eq settled]
    · rw [ContactsService.fetched_eq settled]
    · intro uid updated
      exact ContactsService.get?_stored ascending updated cache

/-- A line separator in a lookup value gets the contact rejected. -/
theorem exchange_rejects_broken_oneRow :
    ∃ done after,
      (Requester.exchange 1 (plainService.answering (oneRow "a\u2028b") fun _ => 2)).Takes
        (.begin .empty plainService.sender.space) done after ∧
      (done.result = none ↔ done.plan.toFetch = []) ∧
      ∀ result, done.result = some result ->
        ∃ cards,
          (Cards.collect (Source.ofRows (oneRow "a\u2028b")) plainService.access
            plainService.layout plainService.sender done.plan.toFetch).outcome = .ok cards ∧
          result.malformed = (KeyedList.keys cards).filter Uid.breaksLine ∧
          result.updated = (KeyedList.keys cards).filter (fun uid => !uid.breaksLine) ∧
          result.unexpected = [] ∧
          ∀ uid ∈ result.updated,
            KeyedList.get? after.cache.cards uid = KeyedList.get? cards uid :=
  exchange_rejects_broken rfl plainService_settled (by decide) (by decide +kernel) .empty 1
    fun _ => 2

example : (Requester.exchange 1 (plainService.answering (oneRow "a\u2028b") fun _ => 2)
    (.begin .empty plainService.sender.space)).1.outcome.toOption.bind
      Requester.Exchange.result = some ⟨[], [], [⟨"a\u2028b"⟩], []⟩ := by decide +kernel

end Results

end PairedContacts
