import PairedContacts.Proofs.Contacts.Service
import PairedContacts.Session

/-!
# What becomes of the vCards of the service

A requester in the namespace of the service judges a vCard that was collected from a table by one
thing alone: whether the footer of its contact is torn by a line break.  A whole vCard is accepted
with the timestamp that the table has for the contact, and a torn one is malformed.
-/

set_option autoImplicit false

namespace PairedContacts

/-- Whether a line break in the namespace, in the device id or in the uID tears the footer of a
contact. -/
def Sender.tears (sender : Sender) (uid : Uid) : Bool :=
  !(Text.isUnbroken sender.space.toList &&
    Text.isUnbroken (VCard.deviceValue ⟨sender.deviceId, uid, 0⟩))

theorem Sender.fits_iff {sender : Sender} {uid : Uid} {timestamp : Int} :
    VCard.FitsLines sender.space.toList ⟨sender.deviceId, uid, timestamp⟩ ↔
      sender.tears uid = false := by
  have value : VCard.deviceValue ⟨sender.deviceId, uid, timestamp⟩ =
      VCard.deviceValue ⟨sender.deviceId, uid, 0⟩ := rfl
  rw [Sender.tears, Bool.not_eq_false', Bool.and_eq_true, ← value]
  constructor
  · rintro ⟨space, whole⟩
    exact ⟨space, whole⟩
  · rintro ⟨space, whole⟩
    exact ⟨space, whole⟩

namespace ContactsService

variable {service : ContactsService} {rows : List Row}

def timestampOf (service : ContactsService) (rows : List Row) (uid : Uid) : Int :=
  (MergeGroup.newest service.layout rows uid).getD 0

/-- How a requester in the same namespace judges a vCard collected from a table. -/
def judgement (service : ContactsService) (rows : List Row) (requested : List Uid) (uid : Uid) :
    Judgement :=
  if requested.contains uid then
    if service.sender.tears uid then .malformed else .accepted (service.timestampOf rows uid)
  else .unexpected

def judged (service : ContactsService) (rows : List Row) (requested : List Uid)
    (entry : Uid × String) : JudgedCard :=
  ⟨entry.1, entry.2, service.judgement rows requested entry.1⟩

theorem newest_of_cardOf {uid : Uid} {card : String}
    (found : service.cardOf rows uid = some card) :
    MergeGroup.newest service.layout rows uid = some (service.timestampOf rows uid) := by
  obtain ⟨text, timestamp, -, newest, -⟩ := exists_of_cardOf found
  rw [timestampOf, newest]
  rfl

theorem parse_whole_card {uid : Uid} {card : String} (found : service.cardOf rows uid = some card)
    (whole : service.sender.tears uid = false) :
    ∃ body, VCard.parseFinalized service.sender.space card =
      .ok ⟨body, ⟨service.sender.deviceId, uid, service.timestampOf rows uid⟩⟩ := by
  obtain ⟨text, timestamp, -, newest, done⟩ := exists_of_cardOf found
  obtain rfl : service.timestampOf rows uid = timestamp :=
    Option.some.inj ((newest_of_cardOf found).symm.trans newest)
  exact VCard.parseFinalized_of_finalize (Sender.fits_iff.mpr whole)
    (MergeGroup.isProper_of_newest newest) done

theorem parse_torn_card {uid : Uid} {card : String} (found : service.cardOf rows uid = some card)
    (torn : service.sender.tears uid = true) :
    ∃ fault, VCard.parseFinalized service.sender.space card = .error fault := by
  obtain ⟨text, timestamp, -, newest, done⟩ := exists_of_cardOf found
  refine VCard.exists_fault_of_finalize ?_ (MergeGroup.isProper_of_newest newest) done
  rw [Sender.fits_iff, torn]
  exact Bool.noConfusion

theorem outcome_judge {session : Session} {entry : Uid × String}
    (found : service.cardOf rows entry.1 = some entry.2)
    (same : session.space = service.sender.space) :
    (Requester.judge session entry).outcome =
      .ok (service.judged rows session.requested entry) := by
  obtain ⟨uid, card⟩ := entry
  rw [judged, judgement, Requester.judge]
  by_cases asked : session.requested.contains uid = true
  · simp only [if_pos asked, same]
    cases torn : service.sender.tears uid with
    | true =>
        obtain ⟨fault, fails⟩ := parse_torn_card found torn
        rw [fails]
        rfl
    | false =>
        obtain ⟨body, read⟩ := parse_whole_card found torn
        rw [read]
        simp only [if_true]
        rfl
  · simp only [if_neg asked]
    rfl

theorem outcome_judgeAll {session : Session} {uids : List Uid} (now : Int)
    (proper : ∀ uid ∈ uids, uid.IsProper) (once : uids.Nodup)
    (same : session.space = service.sender.space) :
    (Requester.judgeAll session (Message.respondCards now (service.cardsOf rows uids))).outcome =
      .ok ((Uid.sortEntries (service.cardsOf rows uids)).map
        (service.judged rows session.requested)) := by
  have portable : Message.IsPortable (service.cardsOf rows uids) := isPortable_cardsOf proper once
  rw [Requester.judgeAll, Run.outcome_bind_ok (Message.outcome_readCards portable now)]
  refine Run.outcome_mapM_ok fun entry member => outcome_judge ?_ same
  have held := (Uid.sortEntries_perm (service.cardsOf rows uids)).mem_iff.mp member
  exact ((mem_cardsOf once).mp held).2

/-! ## Accepting -/

def takes (service : ContactsService) (requested : List Uid) (uid : Uid) : Bool :=
  requested.contains uid && !service.sender.tears uid

theorem accepted?_judged (rows : List Row) (requested : List Uid) (entry : Uid × String) :
    (service.judged rows requested entry).accepted? =
      if service.takes requested entry.1 then
        some (entry.1, entry.2, service.timestampOf rows entry.1)
      else none := by
  rw [judged, judgement, takes, JudgedCard.accepted?.eq_def]
  cases requested.contains entry.1 <;> cases service.sender.tears entry.1 <;> rfl

theorem accepted_judged (rows : List Row) (requested : List Uid) (entries : KeyedList Uid String) :
    (entries.map (service.judged rows requested)).filterMap JudgedCard.accepted? =
      (entries.filter fun entry => service.takes requested entry.1).map fun entry =>
        (entry.1, entry.2, service.timestampOf rows entry.1) := by
  induction entries with
  | nil => rfl
  | cons entry rest ih =>
      rw [List.map_cons, List.filterMap_cons, accepted?_judged, ih, List.filter_cons]
      cases service.takes requested entry.1 <;> rfl

end ContactsService

namespace Requester

theorem timestamps_store (cache : Cache) (accepted : List (Uid × String × Int)) :
    (store cache accepted).timestamps =
      KeyedList.putAll cache.timestamps (accepted.map fun entry => (entry.1, entry.2.2)) := by
  induction accepted generalizing cache with
  | nil => rfl
  | cons entry rest ih => exact ih (cache.put entry.1 entry.2.1 entry.2.2)

theorem cards_store (cache : Cache) (accepted : List (Uid × String × Int)) :
    (store cache accepted).cards =
      KeyedList.putAll cache.cards (accepted.map fun entry => (entry.1, entry.2.1)) := by
  induction accepted generalizing cache with
  | nil => rfl
  | cons entry rest ih => exact ih (cache.put entry.1 entry.2.1 entry.2.2)

/-- Storing gives an accepted contact its vCard together with its timestamp, and leaves the others
as they were. -/
theorem store_cases {accepted : List (Uid × String × Int)}
    (once : (accepted.map Prod.fst).Nodup) (cache : Cache) (uid : Uid) :
    (∃ entry ∈ accepted, entry.1 = uid ∧
        KeyedList.get? (store cache accepted).cards uid = some entry.2.1 ∧
        KeyedList.get? (store cache accepted).timestamps uid = some entry.2.2) ∨
      uid ∉ accepted.map Prod.fst ∧
        KeyedList.get? (store cache accepted).cards uid = KeyedList.get? cache.cards uid ∧
        KeyedList.get? (store cache accepted).timestamps uid =
          KeyedList.get? cache.timestamps uid := by
  have timestampsOnce :
      (KeyedList.keys (accepted.map fun entry => (entry.1, entry.2.2))).Nodup := by
    simpa [KeyedList.keys, Function.comp_def] using once
  have cardsOnce : (KeyedList.keys (accepted.map fun entry => (entry.1, entry.2.1))).Nodup := by
    simpa [KeyedList.keys, Function.comp_def] using once
  rw [timestamps_store, cards_store, KeyedList.get?_putAll timestampsOnce,
    KeyedList.get?_putAll cardsOnce]
  by_cases member : uid ∈ accepted.map Prod.fst
  · obtain ⟨entry, here, rfl⟩ := List.mem_map.mp member
    refine .inl ⟨entry, here, rfl, ?_, ?_⟩
    · rw [KeyedList.get?_of_mem cardsOnce (List.mem_map_of_mem here)]
      rfl
    · rw [KeyedList.get?_of_mem timestampsOnce (List.mem_map_of_mem here)]
      rfl
  · refine .inr ⟨member, ?_, ?_⟩
    · rw [KeyedList.get?_eq_none_iff.mpr (by simpa [KeyedList.keys] using member)]
      rfl
    · rw [KeyedList.get?_eq_none_iff.mpr (by simpa [KeyedList.keys] using member)]
      rfl

end Requester

end PairedContacts
