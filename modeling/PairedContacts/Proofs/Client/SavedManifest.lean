import Mathlib.Data.List.Nodup
import PairedContacts.Client.SavedManifest
import PairedContacts.Proofs.Contacts.Message
import PairedContacts.Proofs.Json.Integers
import PairedContacts.Proofs.Text.Loose

/-!
# What can be saved

A saved manifest can be written and read again if each of its names comes once, is a uID and does
not fall together with another when it is read, and its timestamps are not too long.  Whatever was
taken out of a document is such a manifest, and so is one of proper uIDs.
-/

set_option autoImplicit false

namespace PairedContacts.SavedManifest

variable {saved : SavedManifest} {manifest : Manifest}
  {fields : KeyedList JoinedText (Json.Document JoinedText)}

/-- A saved manifest that can be written and read again. -/
structure IsWritable (saved : SavedManifest) : Prop where
  once : saved.keys.Nodup
  named : ∀ entry ∈ saved, isName entry.1 = true
  apart : ∀ entry ∈ saved, Point.areApart entry.1.points = true
  short : ∀ entry ∈ saved, Numeral.isTooLong entry.2 = false

theorem isWritable_nil : IsWritable [] :=
  ⟨List.nodup_nil, by simp, by simp, by simp⟩

theorem IsWritable.of_perm {other : SavedManifest} (writable : IsWritable saved)
    (same : other.Perm saved) : IsWritable other where
  once := (same.map Prod.fst).symm.nodup writable.once
  named entry member := writable.named entry (same.mem_iff.mp member)
  apart entry member := writable.apart entry (same.mem_iff.mp member)
  short entry member := writable.short entry (same.mem_iff.mp member)

theorem sort_perm (saved : SavedManifest) : saved.sort.Perm saved :=
  List.mergeSort_perm saved _

/-! ## The document -/

def fieldOf (entry : LooseText × Int) : JoinedText × Json.Document JoinedText :=
  (entry.1.join, .scalar (.int entry.2))

theorem document_eq (saved : SavedManifest) : saved.document = .map (saved.sort.map fieldOf) :=
  rfl

theorem IsWritable.nodup_fields (writable : IsWritable saved) :
    (KeyedList.keys (saved.map fieldOf)).Nodup := by
  have once : saved.Pairwise fun first second => first.1 ≠ second.1 :=
    List.pairwise_map.mp writable.once
  refine List.pairwise_map.mpr (List.pairwise_map.mpr (once.imp_of_mem ?_))
  intro first second here there different same
  exact different
    (LooseText.join_injective (writable.apart first here) (writable.apart second there) same)

theorem IsWritable.isPlain_document (writable : IsWritable saved) :
    saved.document.isPlain Json.Dialect.loose = true := by
  have sorted : IsWritable saved.sort := writable.of_perm saved.sort_perm
  rw [document_eq, Json.Document.isPlain, Bool.and_eq_true, decide_eq_true_eq,
    Json.Document.havePlain_iff, List.forall_mem_map]
  refine ⟨sorted.nodup_fields, fun entry member => ?_⟩
  exact Json.Dialect.admits_of_unsigned rfl (sorted.short entry member)

/-! ## What is taken -/

theorem entryOf?_eq_some_iff {field : JoinedText × Json.Document JoinedText}
    {entry : LooseText × Int} :
    entryOf? field = some entry ↔
      isName entry.1 = true ∧ field.1.toLooseText = entry.1 ∧ field.2 = .scalar (.int entry.2) := by
  obtain ⟨key, document⟩ := field
  obtain ⟨name, timestamp⟩ := entry
  rw [entryOf?.eq_def]
  split
  · rename_i stamp stamped
    simp only at stamped
    subst stamped
    split
    · rename_i named
      simp only [Option.some.injEq, Prod.mk.injEq, Json.Document.scalar.injEq, Json.Scalar.int.injEq]
      constructor
      · rintro ⟨rfl, rfl⟩
        exact ⟨named, rfl, rfl⟩
      · rintro ⟨-, same, stamp⟩
        exact ⟨same, stamp⟩
    · rename_i unnamed
      simp only [reduceCtorEq, false_iff]
      rintro ⟨named, rfl, -⟩
      exact unnamed named
  · rename_i unfit
    simp only [reduceCtorEq, false_iff]
    rintro ⟨-, -, stamped⟩
    exact unfit timestamp stamped

section Written

variable {entry : LooseText × Int} (writable : IsWritable saved) (member : entry ∈ saved)

include writable member

theorem IsWritable.entryOf?_fieldOf : entryOf? (fieldOf entry) = some entry :=
  entryOf?_eq_some_iff.mpr ⟨writable.named entry member,
    LooseText.toLooseText_join (writable.apart entry member), rfl⟩

theorem IsWritable.skipLine?_fieldOf : skipLine? (fieldOf entry) = none := by
  have same : (fieldOf entry).1.toLooseText = entry.1 :=
    LooseText.toLooseText_join (writable.apart entry member)
  rw [skipLine?, same, if_pos (writable.named entry member)]

end Written

theorem IsWritable.ofFields_map_fieldOf (writable : IsWritable saved) :
    ofFields (saved.map fieldOf) = saved := by
  have entries : (saved.map fieldOf).filterMap entryOf? = saved := by
    rw [List.filterMap_map]
    refine (List.filterMap_congr fun entry member => ?_).trans List.filterMap_some
    exact writable.entryOf?_fieldOf member
  rw [ofFields, entries, KeyedList.ofPairs]
  exact KeyedList.putAll_of_fresh (by rw [List.nil_append]; exact writable.once)

theorem IsWritable.skipLines_map_fieldOf (writable : IsWritable saved) :
    (saved.map fieldOf).filterMap skipLine? = [] := by
  rw [List.filterMap_map, List.filterMap_eq_nil_iff]
  intro entry member
  exact writable.skipLine?_fieldOf member

/-- What is taken of any document that was read can be written. -/
theorem isWritable_ofFields
    (short : Json.Document.haveShort Json.Dialect.loose fields = true) :
    IsWritable (ofFields fields) := by
  have taken {entry : LooseText × Int} (member : entry ∈ ofFields fields) :
      ∃ field ∈ fields, entryOf? field = some entry :=
    List.mem_filterMap.mp ((KeyedList.mem_putAll member).resolve_left (by simp))
  have empty : (KeyedList.keys ([] : SavedManifest)).Nodup := List.nodup_nil
  refine ⟨KeyedList.nodup_keys_putAll empty _, ?_, ?_, ?_⟩
  · intro entry member
    obtain ⟨field, -, read⟩ := taken member
    exact (entryOf?_eq_some_iff.mp read).1
  · intro entry member
    obtain ⟨field, -, read⟩ := taken member
    obtain ⟨-, same, -⟩ := entryOf?_eq_some_iff.mp read
    rw [← same]
    exact field.1.apart
  · intro entry member
    obtain ⟨field, among, read⟩ := taken member
    obtain ⟨-, -, stamped⟩ := entryOf?_eq_some_iff.mp read
    have small := Json.Document.haveShort_iff.mp short field among
    rw [stamped] at small
    exact Json.Dialect.isTooLong_of_admits small

theorem nodup_keys_taken (once : (KeyedList.keys fields).Nodup) :
    (KeyedList.keys (fields.filterMap entryOf?)).Nodup := by
  -- A name is the text of its key, so fields with two keys never tell of one contact.
  have apart : fields.Pairwise fun first second => first.1 ≠ second.1 := List.pairwise_map.mp once
  refine List.pairwise_map.mpr (List.pairwise_filterMap.mpr (apart.imp ?_))
  intro first second different entry taken other alsoTaken same
  obtain ⟨-, named, -⟩ := entryOf?_eq_some_iff.mp taken
  obtain ⟨-, alsoNamed, -⟩ := entryOf?_eq_some_iff.mp alsoTaken
  exact different (JoinedText.eq_of_toLooseText (named.trans (same.trans alsoNamed.symm)))

/-- If no key comes twice, the manifest is what is taken of the fields, in their order. -/
theorem mem_ofFields_iff (once : (KeyedList.keys fields).Nodup) {name : LooseText}
    {timestamp : Int} :
    (name, timestamp) ∈ ofFields fields ↔ isName name = true ∧
      ∃ key : JoinedText, key.toLooseText = name ∧ (key, .scalar (.int timestamp)) ∈ fields := by
  have taken : ofFields fields = fields.filterMap entryOf? :=
    KeyedList.putAll_of_fresh (nodup_keys_taken once)
  rw [taken, List.mem_filterMap]
  constructor
  · rintro ⟨⟨key, document⟩, among, read⟩
    obtain ⟨named, same, stamped⟩ := entryOf?_eq_some_iff.mp read
    obtain rfl : document = .scalar (.int timestamp) := stamped
    exact ⟨named, key, same, among⟩
  · rintro ⟨named, key, same, among⟩
    exact ⟨_, among, entryOf?_eq_some_iff.mpr ⟨named, same, rfl⟩⟩

/-! ## Contacts that a server can tell of -/

theorem isName_ofString {text : String} :
    isName (.ofString text) = true ↔ Uid.IsProper ⟨text⟩ := by
  rw [isName, LooseText.plain?_ofString, Uid.IsProper]
  show (Uid.ofText text).isOk = true ↔ Uid.ofText text = .ok ⟨text⟩
  cases read : Uid.ofText text with
  | error fault => simp [Except.isOk, Except.toBool]
  | ok uid =>
      obtain ⟨-, -, -, -, -, rfl⟩ := Uid.ofText_eq_ok_iff.mp read
      simp [Except.isOk, Except.toBool]

theorem keys_ofManifest (manifest : Manifest) :
    (ofManifest manifest).keys = manifest.keys.map fun uid => .ofString uid.text := by
  simp [ofManifest, KeyedList.keys]

theorem nodup_keys_ofManifest_iff :
    (ofManifest manifest).keys.Nodup ↔ manifest.keys.Nodup := by
  rw [keys_ofManifest, List.nodup_map_iff]
  intro first second same
  exact Uid.eq_of_text (LooseText.ofString_injective same)

theorem isWritable_ofManifest_iff :
    IsWritable (ofManifest manifest) ↔ manifest.keys.Nodup ∧
      ∀ entry ∈ manifest, entry.1.IsProper ∧ Numeral.isTooLong entry.2 = false := by
  have each {good : LooseText × Int -> Prop} :
      (∀ entry ∈ ofManifest manifest, good entry) ↔
        ∀ entry ∈ manifest, good (.ofString entry.1.text, entry.2) :=
    List.forall_mem_map
  constructor
  · rintro ⟨once, named, -, short⟩
    rw [each] at named short
    refine ⟨nodup_keys_ofManifest_iff.mp once, fun entry member => ?_⟩
    exact ⟨isName_ofString.mp (named entry member), short entry member⟩
  · rintro ⟨once, good⟩
    refine ⟨nodup_keys_ofManifest_iff.mpr once, ?_, ?_, ?_⟩ <;> rw [each]
    · exact fun entry member => isName_ofString.mpr (good entry member).1
    · exact fun entry _ => LooseText.apart_ofString entry.1.text
    · exact fun entry member => (good entry member).2

theorem manifest_ofManifest (manifest : Manifest) : (ofManifest manifest).manifest = manifest := by
  rw [SavedManifest.manifest, ofManifest, List.filterMap_map]
  refine (List.filterMap_congr fun entry _ => ?_).trans List.filterMap_some
  simp [LooseText.plain?_ofString]

theorem torn_ofManifest (manifest : Manifest) : (ofManifest manifest).torn = [] := by
  rw [torn, ofManifest, List.filter_map, List.map_eq_nil_iff, List.filter_eq_nil_iff]
  intro entry _
  simp [LooseText.isTorn_ofString]

/-- A saved manifest is told by what a server can tell of, and the torn names. -/
theorem ofManifest_manifest (saved : SavedManifest) :
    ofManifest saved.manifest = saved.filter fun entry => !entry.1.isTorn := by
  induction saved with
  | nil => rfl
  | cons entry rest ih =>
      obtain ⟨name, timestamp⟩ := entry
      rw [SavedManifest.manifest, List.filterMap_cons, List.filter_cons]
      cases plain : name.plain? with
      | none =>
          rw [LooseText.plain?_eq_none_iff.mp plain]
          exact ih
      | some text =>
          obtain rfl := LooseText.plain?_eq_some_iff.mp plain
          rw [LooseText.isTorn_ofString]
          exact congrArg _ ih

theorem ofManifest_manifest_of_torn (whole : saved.torn = []) :
    ofManifest saved.manifest = saved := by
  rw [ofManifest_manifest, List.filter_eq_self]
  intro entry member
  have spared := List.filter_eq_nil_iff.mp whole entry member
  simpa using spared

theorem IsWritable.ofManifest_manifest (writable : IsWritable saved) :
    IsWritable (ofManifest saved.manifest) := by
  rw [SavedManifest.ofManifest_manifest]
  have within {entry : LooseText × Int}
      (member : entry ∈ saved.filter fun entry => !entry.1.isTorn) : entry ∈ saved :=
    (List.mem_filter.mp member).1
  refine ⟨(List.filter_sublist.map Prod.fst).nodup writable.once, ?_, ?_, ?_⟩
  · exact fun entry member => writable.named entry (within member)
  · exact fun entry member => writable.apart entry (within member)
  · exact fun entry member => writable.short entry (within member)

/-- Sorting what a server can tell of leaves what a server can tell of. -/
theorem exists_sort_ofManifest (manifest : Manifest) :
    ∃ sorted : Manifest, (ofManifest manifest).sort = ofManifest sorted ∧
      sorted.Perm manifest := by
  have same : (ofManifest manifest).sort.Perm (ofManifest manifest) := sort_perm _
  have whole : (ofManifest manifest).sort.torn = [] := by
    have torn : (ofManifest manifest).sort.torn.Perm (ofManifest manifest).torn := same.filter _
    rw [torn_ofManifest] at torn
    exact torn.eq_nil
  refine ⟨(ofManifest manifest).sort.manifest, (ofManifest_manifest_of_torn whole).symm, ?_⟩
  have told : (ofManifest manifest).sort.manifest.Perm (ofManifest manifest).manifest :=
    same.filterMap _
  rwa [manifest_ofManifest] at told

end PairedContacts.SavedManifest
