import PairedContacts.Contacts.Message
import PairedContacts.Proofs.Outcome
import PairedContacts.Proofs.Uid

/-!
# Writing messages and reading them

A map whose keys are proper uIDs is read from its message as the same map in the order of the uIDs,
and a list of distinct proper uIDs as the same list.
-/

set_option autoImplicit false

namespace PairedContacts

theorem firstOccurrences_of_nodup {α : Type} [DecidableEq α] {xs : List α} (once : xs.Nodup) :
    firstOccurrences xs = xs := by
  induction xs with
  | nil => rfl
  | cons x rest ih =>
      obtain ⟨fresh, restOnce⟩ := List.nodup_cons.mp once
      rw [firstOccurrences, ih restOnce, List.filter_eq_self.mpr]
      intro y member
      simp only [ne_eq, decide_eq_true_eq]
      rintro rfl
      exact fresh member

namespace Message

/-! ## Lists of uIDs -/

def distinctUids (raw : List Value) : List Uid :=
  firstOccurrences (raw.filterMap fun value => (Uid.ofValue value).toOption)

theorem outcome_readUids (raw : List Value) :
    (readUids raw).outcome = .ok (raw.filterMap fun value => (Uid.ofValue value).toOption) := by
  induction raw with
  | nil => rfl
  | cons value rest ih =>
      rw [readUids, List.filterMap_cons]
      cases Uid.ofValue value with
      | ok uid =>
          simp only
          rw [Run.outcome_bind_ok ih]
          rfl
      | error fault =>
          simp only
          rw [Run.outcome_note_bind, ih]
          rfl

theorem outcome_parseUids (raw : List Value) :
    (parseUids raw).outcome = .ok (distinctUids raw) := by
  rw [parseUids, Run.outcome_bind_ok (outcome_readUids raw), Run.outcome_pure, distinctUids]

theorem nodup_distinctUids (raw : List Value) : (distinctUids raw).Nodup :=
  nodup_firstOccurrences _

theorem mem_distinctUids_iff {raw : List Value} {uid : Uid} :
    uid ∈ distinctUids raw ↔ ∃ value ∈ raw, Uid.ofValue value = .ok uid := by
  rw [distinctUids, mem_firstOccurrences, List.mem_filterMap]
  refine exists_congr fun value => and_congr_right fun _ => ?_
  cases Uid.ofValue value <;> simp [Except.toOption]

theorem isProper_of_mem_distinctUids {raw : List Value} {uid : Uid}
    (member : uid ∈ distinctUids raw) : uid.IsProper := by
  obtain ⟨value, -, read⟩ := mem_distinctUids_iff.mp member
  exact Uid.isProper_of_ofValue read

theorem distinctUids_eq_nil_iff {raw : List Value} :
    distinctUids raw = [] ↔ ∀ value ∈ raw, ∀ uid, Uid.ofValue value ≠ .ok uid := by
  rw [List.eq_nil_iff_forall_not_mem]
  simp only [mem_distinctUids_iff]
  constructor
  · intro nobody value member uid read
    exact nobody uid ⟨value, member, read⟩
  · rintro unreadable uid ⟨value, member, read⟩
    exact unreadable value member uid read

/-! ## Requests for vCards -/

/-- A request for vCards without a list of uIDs. -/
def IsUnlisted (packet : Packet) : Prop :=
  packet.type = cardsRequest ∧ ∀ raw, packet.get? Uid.reservedKey ≠ some (.list raw)

/-- A request for vCards with a list in which nothing is a uID. -/
def AsksNobody (packet : Packet) : Prop :=
  packet.type = cardsRequest ∧ ∃ raw, packet.get? Uid.reservedKey = some (.list raw) ∧
    ∀ value ∈ raw, ∀ uid, Uid.ofValue value ≠ .ok uid

theorem uidList_eq_ok_iff {packet : Packet} {raw : List Value} :
    uidList packet = .ok raw ↔ packet.get? Uid.reservedKey = some (.list raw) := by
  rw [uidList]
  cases packet.get? Uid.reservedKey with
  | none => simp
  | some value => cases value <;> simp

/-- A request for vCards cannot be read, or it has a list that may have uIDs in it. -/
theorem request_cases {packet : Packet} (asked : packet.type = cardsRequest) :
    (∃ fault, uidList packet = .error fault ∧ IsUnlisted packet ∧ ¬AsksNobody packet) ∨
      ∃ raw, uidList packet = .ok raw ∧ ¬IsUnlisted packet ∧
        (distinctUids raw = [] ↔ AsksNobody packet) := by
  cases read : uidList packet with
  | error fault =>
      have unlisted : ∀ raw, packet.get? Uid.reservedKey ≠ some (.list raw) := by
        intro raw found
        rw [uidList_eq_ok_iff.mpr found] at read
        cases read
      exact .inl ⟨fault, rfl, ⟨asked, unlisted⟩, fun ⟨_, raw, found, _⟩ => unlisted raw found⟩
  | ok raw =>
      have found := uidList_eq_ok_iff.mp read
      refine .inr ⟨raw, rfl, fun unlisted => unlisted.2 raw found, ?_⟩
      rw [distinctUids_eq_nil_iff]
      constructor
      · exact fun unreadable => ⟨asked, raw, found, unreadable⟩
      · rintro ⟨-, listed, same, unreadable⟩
        rw [found] at same
        obtain rfl := Value.list.inj (Option.some.inj same)
        exact unreadable

/-! ## Lists of texts -/

theorem readUids_texts {uids : List Uid} (proper : ∀ uid ∈ uids, uid.IsProper) :
    readUids (uids.map fun uid => .text uid.text) = pure uids := by
  induction uids with
  | nil => rfl
  | cons uid rest ih =>
      have first : Uid.ofValue (.text uid.text) = .ok uid := proper uid (by simp)
      have later := ih fun other member => proper other (List.mem_cons_of_mem _ member)
      rw [List.map_cons, readUids, first]
      simp only
      rw [later, pure_bind]

theorem parseUids_texts {uids : List Uid} (proper : ∀ uid ∈ uids, uid.IsProper)
    (once : uids.Nodup) : parseUids (uids.map fun uid => .text uid.text) = pure uids := by
  rw [parseUids, readUids_texts proper, pure_bind, firstOccurrences_of_nodup once]

theorem distinctUids_texts {uids : List Uid} (proper : ∀ uid ∈ uids, uid.IsProper)
    (once : uids.Nodup) : distinctUids (uids.map fun uid => .text uid.text) = uids := by
  have parsed := outcome_parseUids (uids.map fun uid => .text uid.text)
  rw [parseUids_texts proper once, Run.outcome_pure] at parsed
  exact (Except.ok.inj parsed).symm

theorem uidList_requestCards (now : Int) (uids : List Uid) :
    uidList (requestCards now uids) = .ok (uids.map fun uid => .text uid.text) := by
  have found : (requestCards now uids).get? Uid.reservedKey = some (uidsValue uids) := by
    rw [Packet.get?, requestCards, KeyedList.get?_cons, if_pos rfl]
  rw [uidList, found]
  rfl

/-! ## Maps -/

section Maps

variable {ν : Type} {toValue : ν -> Value} {entries : KeyedList Uid ν}

structure IsPortable (entries : KeyedList Uid ν) : Prop where
  once : entries.keys.Nodup
  proper : ∀ uid ∈ entries.keys, uid.IsProper

theorem IsPortable.sorted (portable : IsPortable entries) :
    IsPortable (Uid.sortEntries entries) := by
  refine ⟨Uid.nodup_keys_sortEntries portable.once, fun uid member => portable.proper uid ?_⟩
  exact ((Uid.sortEntries_perm entries).map Prod.fst).mem_iff.mp member

theorem IsPortable.nodup_texts (portable : IsPortable entries) :
    (entries.keys.map Uid.text).Nodup := by
  refine List.Pairwise.map _ ?_ portable.once
  intro a b different same
  exact different (Uid.eq_of_text same)

/-- The fields of a message: the list of all uIDs, and a field for each of them. -/
def fieldsOf (toValue : ν -> Value) (ordered : KeyedList Uid ν) : KeyedList String Value :=
  (Uid.reservedKey, uidsValue (KeyedList.keys ordered)) ::
    ordered.map fun entry => (entry.1.text, toValue entry.2)

theorem nodup_keys_fieldsOf (toValue : ν -> Value) (portable : IsPortable entries) :
    (KeyedList.keys (fieldsOf toValue entries)).Nodup := by
  have free : Uid.reservedKey ∉ entries.keys.map Uid.text := by
    intro member
    obtain ⟨uid, here, taken⟩ := List.mem_map.mp member
    exact (portable.proper uid here).notReserved taken
  have shape : KeyedList.keys (fieldsOf toValue entries) =
      Uid.reservedKey :: entries.keys.map Uid.text := by
    simp [fieldsOf, KeyedList.keys, Function.comp_def]
  rw [shape]
  exact List.nodup_cons.mpr ⟨free, portable.nodup_texts⟩

theorem bodyOf_eq (toValue : ν -> Value) (portable : IsPortable entries) :
    bodyOf toValue entries = fieldsOf toValue (Uid.sortEntries entries) := by
  have fresh := nodup_keys_fieldsOf toValue portable.sorted
  have written : KeyedList.putAll
      [(Uid.reservedKey, uidsValue (KeyedList.keys (Uid.sortEntries entries)))]
      ((Uid.sortEntries entries).map fun entry => (entry.1.text, toValue entry.2)) =
        fieldsOf toValue (Uid.sortEntries entries) :=
    KeyedList.putAll_of_fresh fresh
  rw [KeyedList.putAll, List.foldl_map] at written
  exact written

variable {packet : Packet} {type : String}

theorem listedUids_of_fields (portable : IsPortable entries) (ofType : packet.type = type)
    (body : packet.body = fieldsOf toValue entries) :
    listedUids packet type = pure entries.keys := by
  have listed : uidList packet = .ok (entries.keys.map fun uid => .text uid.text) := by
    have found : packet.get? Uid.reservedKey = some (uidsValue entries.keys) := by
      rw [Packet.get?, body, fieldsOf, KeyedList.get?_cons, if_pos rfl]
    rw [uidList, found]
    rfl
  rw [listedUids, expectType, if_pos ofType, listed]
  exact parseUids_texts portable.proper portable.once

theorem get_of_fields (portable : IsPortable entries)
    (body : packet.body = fieldsOf toValue entries) {entry : Uid × ν} (member : entry ∈ entries) :
    packet.get entry.1.text = toValue entry.2 := by
  have field : (entry.1.text, toValue entry.2) ∈ fieldsOf toValue entries :=
    List.mem_cons_of_mem _ (List.mem_map_of_mem member)
  have found := KeyedList.get?_of_mem (nodup_keys_fieldsOf toValue portable) field
  rw [Packet.get, Packet.get?, body, found]
  rfl

theorem foldlM_enter {enter : KeyedList Uid ν -> Uid -> Run (KeyedList Uid ν)}
    (once : entries.keys.Nodup)
    (enters : ∀ built, ∀ entry ∈ entries, enter built entry.1 = pure (built.put entry.1 entry.2)) :
    entries.keys.foldlM enter [] = pure entries := by
  rw [KeyedList.keys, List.foldlM_map, Run.foldlM_pure [] enters]
  exact congrArg pure (KeyedList.putAll_of_fresh once)

end Maps

/-- A manifest is read from its message without a notice, in the order of the uIDs. -/
theorem readManifest_respondManifest {manifest : Manifest} (portable : IsPortable manifest)
    (now : Int) :
    readManifest (respondManifest now manifest) = pure (Uid.sortEntries manifest) := by
  have body : (respondManifest now manifest).body =
      fieldsOf Value.int (Uid.sortEntries manifest) :=
    bodyOf_eq Value.int portable
  have listed : listedUids (respondManifest now manifest) manifestResponse =
      pure (KeyedList.keys (Uid.sortEntries manifest)) :=
    listedUids_of_fields portable.sorted rfl body
  rw [readManifest, listed, pure_bind]
  refine foldlM_enter portable.sorted.once fun built entry member => ?_
  rw [enterTimestamp, get_of_fields portable.sorted body member]

theorem outcome_readManifest {manifest : Manifest} (portable : IsPortable manifest) (now : Int) :
    (readManifest (respondManifest now manifest)).outcome = .ok (Uid.sortEntries manifest) := by
  rw [readManifest_respondManifest portable, Run.outcome_pure]

/-- vCards are read from their message without a notice, in the order of the uIDs. -/
theorem readCards_respondCards {cards : KeyedList Uid String} (portable : IsPortable cards)
    (now : Int) : readCards (respondCards now cards) = pure (Uid.sortEntries cards) := by
  have body : (respondCards now cards).body = fieldsOf Value.text (Uid.sortEntries cards) :=
    bodyOf_eq Value.text portable
  have listed : listedUids (respondCards now cards) cardsResponse =
      pure (KeyedList.keys (Uid.sortEntries cards)) :=
    listedUids_of_fields portable.sorted rfl body
  rw [readCards, listed, pure_bind]
  refine foldlM_enter portable.sorted.once fun built entry member => ?_
  rw [enterCard, get_of_fields portable.sorted body member]

theorem outcome_readCards {cards : KeyedList Uid String} (portable : IsPortable cards)
    (now : Int) : (readCards (respondCards now cards)).outcome = .ok (Uid.sortEntries cards) := by
  rw [readCards_respondCards portable, Run.outcome_pure]

end Message

end PairedContacts
