import PairedContacts.Proofs.Contacts.Message
import PairedContacts.Proofs.Packet

/-!
# Messages on the wire

What is put into a message comes out of it on the other side of the wire: every entry of a map, in
the order of the uIDs, and every uID of a list.  Nothing is left out on the way, so there is nothing
to remark upon.
-/

set_option autoImplicit false

namespace PairedContacts.Message

/-- A packet that was written, sent as bytes and read by a receiver with a clock of its own. -/
def carried (later : Int) (packet : Packet) : Run Packet :=
  Run.ofExcept ((Packet.ofBytes later packet.line).mapError .request)

theorem carried_of_isPortable {packet : Packet} (portable : packet.IsPortable) (later : Int) :
    carried later packet = pure packet := by
  rw [carried, portable.ofBytes_line]
  rfl

/-! ## Messages are portable -/

section Bodies

variable {ν : Type} {toValue : ν -> Value} {entries : KeyedList Uid ν} {now : Int}

theorem isPlain_uidsValue (dialect : Json.Dialect String) (uids : List Uid) :
    (uidsValue uids).isPlain dialect = true := by
  rw [uidsValue, Value.isPlain, Value.arePlain_iff, List.forall_mem_map]
  exact fun _ _ => rfl

theorem height_uidsValue_le (uids : List Uid) : (uidsValue uids).height ≤ 1 :=
  Value.height_list_le (List.forall_mem_map.mpr fun _ _ => Nat.le_refl 0)

/-- A packet whose fields nest no more than a list of texts is portable. -/
theorem isPortable_of_flat {packet : Packet}
    (punctual : Packet.dialect.admits packet.id = true) (once : packet.body.keys.Nodup)
    (plain : ∀ field ∈ packet.body, field.2.isPlain Packet.dialect = true)
    (flat : ∀ field ∈ packet.body, field.2.height ≤ 1) : packet.IsPortable := by
  refine ⟨punctual, ?_, ?_⟩
  · rw [Value.isPlain, Bool.and_eq_true, decide_eq_true_eq, Value.havePlain_iff]
    exact ⟨once, plain⟩
  · have body : (Value.map packet.body).height ≤ 2 := Value.height_map_le flat
    have whole : packet.toValue.height ≤ 3 := by
      refine Value.height_map_le ?_
      simp only [List.forall_mem_cons]
      exact ⟨Nat.zero_le _, Nat.zero_le _, body, by simp⟩
    exact whole.trans (by decide)

theorem isPortable_of_fields {packet : Packet}
    (punctual : Packet.dialect.admits packet.id = true) (portable : IsPortable entries)
    (body : packet.body = bodyOf toValue entries)
    (plain : ∀ entry ∈ entries, (toValue entry.2).isPlain Packet.dialect = true)
    (flat : ∀ entry ∈ entries, (toValue entry.2).height ≤ 1) : packet.IsPortable := by
  have fields : packet.body = fieldsOf toValue (Uid.sortEntries entries) :=
    body.trans (bodyOf_eq toValue portable)
  have back {entry : Uid × ν} (member : entry ∈ Uid.sortEntries entries) : entry ∈ entries :=
    (Uid.sortEntries_perm entries).mem_iff.mp member
  refine isPortable_of_flat punctual ?_ ?_ ?_
  · rw [fields]
    exact nodup_keys_fieldsOf toValue portable.sorted
  · rw [fields, fieldsOf, List.forall_mem_cons, List.forall_mem_map]
    exact ⟨isPlain_uidsValue _ _, fun entry member => plain entry (back member)⟩
  · rw [fields, fieldsOf, List.forall_mem_cons, List.forall_mem_map]
    exact ⟨height_uidsValue_le _, fun entry member => flat entry (back member)⟩

end Bodies

variable {now : Int}

theorem isPortable_respondManifest (punctual : Packet.dialect.admits now = true)
    {manifest : Manifest} (portable : IsPortable manifest)
    (short : ∀ entry ∈ manifest, Packet.dialect.admits entry.2 = true) :
    (respondManifest now manifest).IsPortable :=
  isPortable_of_fields punctual portable rfl short fun _ _ => Nat.zero_le 1

theorem isPortable_respondCards (punctual : Packet.dialect.admits now = true)
    {cards : KeyedList Uid String} (portable : IsPortable cards) :
    (respondCards now cards).IsPortable :=
  isPortable_of_fields punctual portable rfl (fun _ _ => rfl) fun _ _ => Nat.zero_le 1

theorem isPortable_requestCards (punctual : Packet.dialect.admits now = true) (uids : List Uid) :
    (requestCards now uids).IsPortable := by
  refine isPortable_of_flat punctual (by simp [requestCards, KeyedList.keys]) ?_ ?_
  · exact List.forall_mem_singleton.mpr (isPlain_uidsValue _ uids)
  · exact List.forall_mem_singleton.mpr (height_uidsValue_le uids)

theorem isPortable_requestManifest (punctual : Packet.dialect.admits now = true) :
    (requestManifest now).IsPortable :=
  isPortable_of_flat punctual List.nodup_nil (by simp [requestManifest]) (by simp [requestManifest])

/-! ## Messages come across -/

/-- A map that one side may hold: no key comes twice, and every key was accepted as a uID. -/
structure IsHeld {ν : Type} (entries : KeyedList Uid ν) : Prop where
  once : entries.keys.Nodup
  accepted : ∀ uid ∈ entries.keys, ∃ value, Uid.ofValue value = .ok uid

theorem IsHeld.isPortable {ν : Type} {entries : KeyedList Uid ν} (held : IsHeld entries) :
    IsPortable entries := by
  refine ⟨held.once, fun uid member => ?_⟩
  obtain ⟨value, read⟩ := held.accepted uid member
  exact Uid.isProper_of_ofValue read

/-- What is read of a request for vCards. -/
def readRequest (packet : Packet) : Run (List Uid) := do
  let raw <- Run.ofExcept ((uidList packet).mapError .request)
  parseUids raw

/-- A uID that needs escapes on the wire. -/
def quotedUid : Uid := ⟨"\x22tab\t\\é\x22"⟩

/-- A contact whose timestamp has 4300 digits behind a minus sign. -/
def signedManifest : Manifest :=
  [(⟨"u"⟩, -tenTo 4299)]

end PairedContacts.Message
