import PairedContacts.Client.Folder
import PairedContacts.Proofs.Bytes.Percent
import PairedContacts.Proofs.FilePath
import PairedContacts.Proofs.Uid

/-!
# The files of a folder

A uID is whatever a peer likes to call a contact, slashes, dots and percent signs included.  In the
name of a file only plain characters and percent signs are left of it, so every contact has a file
just inside the folder, which is neither the manifest nor the configuration; and as the bytes of the
uID can be read back from the name, no two contacts share one.
-/

set_option autoImplicit false

namespace PairedContacts.Folder

variable {directory : FilePath}

/-! ## Names -/

theorem isName_of_length {name : String} (noSlash : '/' ∉ name.toList) (long : 2 < name.length) :
    FilePath.IsName name := by
  refine ⟨noSlash, ?_, ?_, ?_⟩
  · rintro rfl
    exact absurd long (by decide)
  · rintro rfl
    exact absurd long (by decide)
  · rintro rfl
    exact absurd long (by decide)

theorem isName_cardName (uid : Uid) : FilePath.IsName (cardName uid) := by
  refine isName_of_length ?_ ?_
  · rw [cardName, String.toList_append, List.mem_append]
    rintro (encoded | extension)
    · exact Percent.not_mem_encode (by decide) (by decide) uid.text encoded
    · exact absurd extension (by decide)
  · have extension : ".vcf".length = 4 := by decide
    rw [cardName, String.length_append, extension]
    omega

theorem cardName_injective {first second : Uid} (same : cardName first = cardName second) :
    first = second := by
  rw [cardName, cardName, String.append_left_inj] at same
  exact Uid.eq_of_text (Percent.encode_injective same)

theorem cardName_ne {name : String} (ending : name.toList.getLast? ≠ some 'f') (uid : Uid) :
    cardName uid ≠ name := by
  rintro rfl
  have extension : ".vcf".toList.getLast? = some 'f' := by decide
  rw [cardName, String.toList_append, List.getLast?_append, extension] at ending
  exact ending rfl

/-! ## Paths -/

theorem cardPath_eq (directory : FilePath) (uid : Uid) :
    cardPath directory uid = directory ++ [cardName uid] :=
  FilePath.resolve_of_isName (isName_cardName uid) directory

theorem manifestPath_eq (directory : FilePath) :
    manifestPath directory = directory ++ [manifestName] :=
  FilePath.resolve_of_isName (isName_of_length (by decide) (by decide)) directory

theorem configPath_eq (directory : FilePath) :
    configPath directory = directory ++ [configName] :=
  FilePath.resolve_of_isName (isName_of_length (by decide) (by decide)) directory

theorem cardPath_ne_manifestPath (directory : FilePath) (uid : Uid) :
    cardPath directory uid ≠ manifestPath directory := by
  rw [cardPath_eq, manifestPath_eq, Ne, List.append_cancel_left_eq, List.singleton_inj]
  exact cardName_ne (by decide) uid

theorem cardPath_ne_configPath (directory : FilePath) (uid : Uid) :
    cardPath directory uid ≠ configPath directory := by
  rw [cardPath_eq, configPath_eq, Ne, List.append_cancel_left_eq, List.singleton_inj]
  exact cardName_ne (by decide) uid

theorem hasLongName_manifestPath (directory : FilePath) :
    FileTree.hasLongName (manifestPath directory) = false := by
  rw [manifestPath_eq, FileTree.hasLongName, List.getLast?_concat]
  decide

/-- Two contacts never share a file. -/
theorem cardPath_injective {first second : Uid}
    (same : cardPath directory first = cardPath directory second) : first = second := by
  rw [cardPath_eq, cardPath_eq, List.append_cancel_left_eq, List.singleton_inj] at same
  exact cardName_injective same

/-- Whatever a contact is called, its file stands just inside the folder and is neither the manifest
nor the configuration.  The stem of its name says the bytes of the uID in plain characters and
percent signs, so two contacts have one file only if they are one. -/
theorem every_contact_has_its_own_file (directory : FilePath) :
    (∀ uid : Uid, ∃ stem : String,
      cardPath directory uid = directory ++ [stem ++ ".vcf"] ∧
      FilePath.IsName (stem ++ ".vcf") ∧
      (∀ c ∈ stem.toList, Percent.isPlain c = true ∨ c = '%') ∧
      (Percent.bytesOf stem.toList).toByteArray = uid.text.toByteArray ∧
      cardPath directory uid ≠ manifestPath directory ∧
      cardPath directory uid ≠ configPath directory) ∧
      ∀ first second : Uid,
        cardPath directory first = cardPath directory second ↔ first = second := by
  constructor
  · intro uid
    exact ⟨Percent.encode uid.text, cardPath_eq directory uid, isName_cardName uid,
      fun _ => Percent.plain_of_mem_encode, Percent.bytesOf_encode uid.text,
      cardPath_ne_manifestPath directory uid, cardPath_ne_configPath directory uid⟩
  · intro first second
    exact ⟨cardPath_injective, congrArg (cardPath directory)⟩

/-- A uID that climbs out of the folder, and one that looks like the name of another's file. -/
theorem every_contact_has_its_own_file_climbing :
    cardPath ["home", "contacts"] ⟨"../\u00e9"⟩ = ["home", "contacts", "..%2F%C3%A9.vcf"] ∧
      cardPath ["home", "contacts"] ⟨"../\u00e9"⟩ ≠ manifestPath ["home", "contacts"] ∧
      cardPath ["home", "contacts"] ⟨"a/b"⟩ ≠ cardPath ["home", "contacts"] ⟨"a%2Fb"⟩ := by
  obtain ⟨alone, apart⟩ := every_contact_has_its_own_file ["home", "contacts"]
  obtain ⟨stem, -, -, -, -, notManifest, -⟩ := alone ⟨"../\u00e9"⟩
  refine ⟨by decide +kernel, notManifest, ?_⟩
  rw [Ne, apart]
  decide

end PairedContacts.Folder
