import PairedContacts.Proofs.Contacts.Message

/-!
# Reading any response

What a requester reads out of a packet that anyone may have sent.  A packet of another type or
without a list of uIDs is refused.  Out of every other one come the entries of its distinct uIDs
that have a value of the right kind, whatever else is in the packet.
-/

set_option autoImplicit false

namespace PairedContacts.Message

/-- The raw list of uIDs in a packet of an expected type. -/
def rawList (packet : Packet) (type : String) : Except RequestFault (List Value) := do
  expectType packet type
  uidList packet

def timestampIn : Value -> Option Int
  | .int n => some n
  | _ => none

def cardIn : Value -> Option String
  | .text text => some text
  | _ => none

section Entries

variable {ν : Type} {read : Value -> Option ν} {packet : Packet} {uids : List Uid}

/-- The value that a packet has for a uID. -/
def valueFor (read : Value -> Option ν) (packet : Packet) (uid : Uid) : Option ν :=
  read (packet.get uid.text)

def entriesIn (read : Value -> Option ν) (packet : Packet) (uids : List Uid) : KeyedList Uid ν :=
  uids.filterMap fun uid => (valueFor read packet uid).map fun value => (uid, value)

theorem keys_entriesIn (read : Value -> Option ν) (packet : Packet) (uids : List Uid) :
    KeyedList.keys (entriesIn read packet uids) =
      uids.filter fun uid => (valueFor read packet uid).isSome := by
  rw [entriesIn, KeyedList.keys, List.map_filterMap]
  induction uids with
  | nil => rfl
  | cons uid rest ih =>
      rw [List.filterMap_cons, List.filter_cons, ih]
      cases valueFor read packet uid <;> rfl

theorem nodup_keys_entriesIn (once : uids.Nodup) :
    (KeyedList.keys (entriesIn read packet uids)).Nodup := by
  rw [keys_entriesIn]
  exact once.filter _

theorem mem_entriesIn_iff {uid : Uid} {value : ν} :
    (uid, value) ∈ entriesIn read packet uids ↔
      uid ∈ uids ∧ valueFor read packet uid = some value := by
  rw [entriesIn, List.mem_filterMap]
  constructor
  · rintro ⟨other, member, entered⟩
    obtain ⟨found, told, same⟩ := Option.map_eq_some_iff.mp entered
    obtain ⟨rfl, rfl⟩ := Prod.mk.inj same
    exact ⟨member, told⟩
  · rintro ⟨member, told⟩
    exact ⟨uid, member, by rw [told]; rfl⟩

theorem valueFor_cardIn_eq_some_iff {uid : Uid} {text : String} :
    valueFor cardIn packet uid = some text ↔ packet.get? uid.text = some (.text text) := by
  rw [valueFor, Packet.get]
  cases packet.get? uid.text with
  | none => simp [cardIn]
  | some value => cases value <;> simp [cardIn]

end Entries

theorem outcome_listedUids_any (packet : Packet) (type : String) :
    (listedUids packet type).outcome =
      ((rawList packet type).mapError Failure.request).map distinctUids := by
  rw [listedUids, rawList]
  cases (do expectType packet type; uidList packet) with
  | error fault => rfl
  | ok raw => exact outcome_parseUids raw

/-- Entering the listed uIDs of a packet one after another gives its entries, unless the packet is
refused. -/
theorem outcome_enterAll {ν : Type} {read : Value -> Option ν} {packet : Packet}
    {enter : KeyedList Uid ν -> Uid -> Run (KeyedList Uid ν)} (type : String)
    (enters : ∀ entries uid, (enter entries uid).outcome =
      .ok (KeyedList.enter (valueFor read packet) entries uid)) :
    (listedUids packet type >>= fun uids => uids.foldlM enter []).outcome =
      ((rawList packet type).mapError Failure.request).map fun raw =>
        entriesIn read packet (distinctUids raw) := by
  have listed := outcome_listedUids_any packet type
  cases found : rawList packet type with
  | error fault =>
      rw [found] at listed
      rw [Run.bind_error listed]
      rfl
  | ok raw =>
      rw [found] at listed
      have written : (distinctUids raw).foldl (KeyedList.enter (valueFor read packet)) [] =
          entriesIn read packet (distinctUids raw) :=
        KeyedList.foldl_enter_of_nodup (nodup_distinctUids raw) (by simp [KeyedList.keys])
      rw [Run.outcome_bind_ok listed,
        Run.outcome_foldlM_ok [] fun entries uid _ => enters entries uid, written]
      rfl

theorem outcome_readManifest_any (packet : Packet) :
    (readManifest packet).outcome =
      ((rawList packet manifestResponse).mapError Failure.request).map fun raw =>
        entriesIn timestampIn packet (distinctUids raw) := by
  refine outcome_enterAll manifestResponse fun entries uid => ?_
  rw [enterTimestamp, KeyedList.enter, valueFor]
  cases packet.get uid.text <;> rfl

theorem outcome_readCards_any (packet : Packet) :
    (readCards packet).outcome =
      ((rawList packet cardsResponse).mapError Failure.request).map fun raw =>
        entriesIn cardIn packet (distinctUids raw) := by
  refine outcome_enterAll cardsResponse fun entries uid => ?_
  rw [enterCard, KeyedList.enter, valueFor]
  cases packet.get uid.text <;> rfl

/-! ## What is refused, and what is read -/

theorem exists_request_of_error {α : Type} {listed : Except RequestFault (List Value)}
    {use : List Value -> α} {failure : Failure}
    (failed : (listed.mapError Failure.request).map use = .error failure) :
    ∃ fault, failure = .request fault := by
  cases listed with
  | error fault => exact ⟨fault, (Except.error.inj failed).symm⟩
  | ok raw => cases failed

theorem exists_request_of_readManifest {packet : Packet} {failure : Failure}
    (failed : (readManifest packet).outcome = .error failure) :
    ∃ fault, failure = .request fault :=
  exists_request_of_error ((outcome_readManifest_any packet).symm.trans failed)

theorem exists_request_of_readCards {packet : Packet} {failure : Failure}
    (failed : (readCards packet).outcome = .error failure) :
    ∃ fault, failure = .request fault :=
  exists_request_of_error ((outcome_readCards_any packet).symm.trans failed)

/-- Whatever is read as vCards are the entries of a list of uIDs. -/
theorem exists_raw_of_readCards {packet : Packet} {cards : KeyedList Uid String}
    (done : (readCards packet).outcome = .ok cards) :
    ∃ raw, cards = entriesIn cardIn packet (distinctUids raw) := by
  rw [outcome_readCards_any, map_eq_ok_iff] at done
  obtain ⟨raw, -, entries⟩ := done
  exact ⟨raw, entries.symm⟩

theorem nodup_keys_of_readCards {packet : Packet} {cards : KeyedList Uid String}
    (done : (readCards packet).outcome = .ok cards) : cards.keys.Nodup := by
  obtain ⟨raw, rfl⟩ := exists_raw_of_readCards done
  exact nodup_keys_entriesIn (nodup_distinctUids raw)

/-- A vCard that is read stands in the packet under its uID. -/
theorem get?_of_readCards {packet : Packet} {cards : KeyedList Uid String}
    (done : (readCards packet).outcome = .ok cards) {uid : Uid} {text : String}
    (member : (uid, text) ∈ cards) : packet.get? uid.text = some (.text text) := by
  obtain ⟨raw, rfl⟩ := exists_raw_of_readCards done
  exact valueFor_cardIn_eq_some_iff.mp (mem_entriesIn_iff.mp member).2

end PairedContacts.Message
