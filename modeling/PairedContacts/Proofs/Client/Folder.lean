import PairedContacts.Proofs.Client.Errand
import PairedContacts.Proofs.Client.FileNames
import PairedContacts.Proofs.Client.FileTree
import PairedContacts.Proofs.Client.SavedManifest
import PairedContacts.Proofs.Json.Document
import PairedContacts.Proofs.VCard.Identity

/-!
# What is found in a folder

A manifest that was written is read again, in the order of its names.  A folder is coherent if each
contact in its manifest has a file, and the metadata in the file names the contact and the timestamp
that the manifest has.
-/

set_option autoImplicit false

namespace PairedContacts.Folder

open SavedManifest (IsWritable fieldOf)

variable {space : String} {directory : FilePath} {tree : FileTree} {saved : SavedManifest}
  {manifest : Manifest}

/-! ## Reading a manifest -/

/-- The manifest of a folder, as it was written last; where none was written it is empty. -/
def HasManifest (directory : FilePath) (saved : SavedManifest) (tree : FileTree) : Prop :=
  tree.read (manifestPath directory) = .ok none ∧ saved = [] ∨
    ∃ text, tree.read (manifestPath directory) = .ok (some text) ∧
      Json.parse .loose text = .ok saved.document

theorem HasManifest.readable (has : HasManifest directory saved tree) :
    ∃ text, tree.read (manifestPath directory) = .ok text := by
  rcases has with ⟨absent, -⟩ | ⟨text, found, -⟩
  · exact ⟨none, absent⟩
  · exact ⟨some text, found⟩

/-- Reading a manifest that was written gives it in the order of its names, and nothing is said. -/
theorem readManifest_of_has (has : HasManifest directory saved tree)
    (writable : IsWritable saved) :
    ∃ text next, tree.read (manifestPath directory) = .ok text ∧
      readManifest directory = .read (manifestPath directory) next ∧
      next text = .done saved.sort := by
  rcases has with ⟨absent, rfl⟩ | ⟨text, found, parsed⟩
  · refine ⟨none, _, absent, rfl, ?_⟩
    rw [SavedManifest.sort, List.mergeSort_nil]
    rfl
  · have sorted : IsWritable saved.sort := writable.of_perm saved.sort_perm
    refine ⟨some text, _, found, rfl, ?_⟩
    show ((Errand.ofExcept ((Json.parse .loose text).mapError documentFault) >>= fun document =>
      pure (some document)) >>= _) = _
    rw [parsed]
    show ((saved.sort.map fieldOf).filterMap SavedManifest.skipLine?).forM Errand.print >>=
      (fun _ => pure (SavedManifest.ofFields (saved.sort.map fieldOf))) = _
    rw [sorted.skipLines_map_fieldOf, sorted.ofFields_map_fieldOf]
    rfl

/-! ## Reading any manifest -/

theorem ensures_readDocument {path : FilePath} (tree : FileTree) :
    (readDocument path).Ensures
      (fun document after => (∃ text, tree.read path = .ok text) ∧
        (∀ found, document = some found -> found.isShort .loose = true) ∧ after = tree)
      (· = tree) tree := by
  rw [readDocument, Errand.ensures_bind]
  refine Errand.ensures_readFile rfl fun text found => ?_
  cases text with
  | none => exact (Errand.ensures_pure _).mpr ⟨⟨none, found⟩, by simp, rfl⟩
  | some text =>
      rw [Errand.ensures_bind]
      refine Errand.ensures_ofExcept rfl fun document read => ?_
      refine (Errand.ensures_pure _).mpr ⟨⟨some text, found⟩, ?_, rfl⟩
      rintro _ ⟨⟩
      cases parsed : Json.parse .loose text with
      | error fault =>
          rw [parsed] at read
          cases read
      | ok other =>
          rw [parsed] at read
          cases read
          exact Json.isShort_of_parse parsed

/-- A manifest that may have been read from a folder. -/
structure Loads (directory : FilePath) (tree : FileTree) (found : SavedManifest) : Prop where
  readable : ∃ text, tree.read (manifestPath directory) = .ok text
  writable : IsWritable found

/-- Reading a manifest changes no file, and what was read can be written, whatever the file of the
manifest holds. -/
theorem ensures_readManifest (directory : FilePath) (tree : FileTree) :
    (readManifest directory).Ensures (fun found after => Loads directory tree found ∧ after = tree)
      (· = tree) tree := by
  rw [readManifest, Errand.ensures_bind]
  refine (ensures_readDocument tree).imp ?_
  rintro document after ⟨readable, short, rfl⟩
  split
  · exact (Errand.ensures_pure _).mpr ⟨⟨readable, SavedManifest.isWritable_nil⟩, rfl⟩
  · rename_i fields
    rw [Errand.ensures_bind]
    refine Errand.ensures_forM_print _ _ ((Errand.ensures_pure _).mpr ⟨⟨readable, ?_⟩, rfl⟩)
    exact SavedManifest.isWritable_ofFields (short (.map fields) rfl)
  · exact (Errand.ensures_fail _).mpr rfl

section Does

variable {mayWrite mayPost : Prop}

theorem does_readDocument (path : FilePath) : (readDocument path).Does mayWrite mayPost := by
  have does : (Errand.readFile path).Does mayWrite mayPost := fun _ => trivial
  refine does.bind fun text => ?_
  cases text with
  | none => trivial
  | some text => exact (Errand.does_ofExcept _).bind fun _ => trivial

/-- Reading a manifest takes neither writing nor posting. -/
theorem does_readManifest (directory : FilePath) :
    (readManifest directory).Does mayWrite mayPost := by
  refine (does_readDocument _).bind fun document => ?_
  split
  · trivial
  · exact (Errand.does_forM Errand.does_print).bind fun _ => trivial
  · trivial

theorem does_writeDocument (path : FilePath) (document : Json.Document JoinedText) :
    (writeDocument path document).Does True mayPost := by
  rw [writeDocument]
  split
  · exact ⟨trivial, trivial⟩
  · trivial

end Does

/-! ## Writing -/

/-- A manifest was written, and every other path reads as before. -/
structure StoresManifest (directory : FilePath) (saved : SavedManifest)
    (before after : FileTree) : Prop where
  told : HasManifest directory saved after
  elsewhere : ∀ path, path ≠ manifestPath directory -> after.read path = before.read path
  kept : ∀ path, path ≠ manifestPath directory ->
    after.files.get? path = before.files.get? path

/-- A manifest that can be written is written as one text, and is stored wherever that can be read
and written. -/
theorem exists_text_writeManifest (writable : IsWritable saved) (directory : FilePath) :
    ∃ text, writeManifest directory saved = Errand.writeFile (manifestPath directory) text ∧
      ∀ (tree after : FileTree) (found : Option String),
        tree.read (manifestPath directory) = .ok found ->
        tree.write (manifestPath directory) text = .ok after ->
        StoresManifest directory saved tree after := by
  obtain ⟨text, document, read⟩ := Json.exists_writeFile? writable.isPlain_document
  refine ⟨text, by rw [writeManifest, writeDocument, document], ?_⟩
  intro tree after found readable written
  have gains : tree.Gains (manifestPath directory) text after := by
    rw [manifestPath_eq] at readable written ⊢
    exact FileTree.gains_of_write_sibling readable written
  exact ⟨.inr ⟨text, gains.here, read⟩, gains.elsewhere, gains.kept⟩

theorem ensures_writeManifest {broken : FileTree -> Prop} {found : Option String}
    (writable : IsWritable saved) (readable : tree.read (manifestPath directory) = .ok found) :
    (writeManifest directory saved).Ensures
      (fun _ after => StoresManifest directory saved tree after) broken tree := by
  obtain ⟨text, errand, stores⟩ := exists_text_writeManifest writable directory
  rw [errand]
  exact Errand.ensures_writeFile fun after written => stores tree after found readable written

theorem ensures_writeCard {broken : FileTree -> Prop} {found : Option String} (uid : Uid)
    (card : String) (readable : tree.read (manifestPath directory) = .ok found) :
    (writeCard directory uid card).Ensures
      (fun _ after => tree.Gains (cardPath directory uid) (card ++ "\n") after) broken tree := by
  rw [writeCard]
  refine Errand.ensures_writeFile fun after written => ?_
  rw [manifestPath_eq] at readable
  rw [cardPath_eq] at written ⊢
  exact FileTree.gains_of_write_sibling readable written

/-! ## Coherence -/

/-- A contact has a file, and the metadata in it names the contact and a timestamp. -/
structure HasCard (space : String) (directory : FilePath) (uid : Uid) (timestamp : Int)
    (tree : FileTree) : Prop where
  shortName : FileTree.hasLongName (cardPath directory uid) = false
  file : ∃ content, tree.read (cardPath directory uid) = .ok (some content) ∧
    VCard.IsCardOf space content uid timestamp

/-- Each contact of a manifest comes once and has a vCard. -/
structure HasCards (space : String) (directory : FilePath) (manifest : Manifest)
    (tree : FileTree) : Prop where
  once : (KeyedList.keys manifest).Nodup
  card : ∀ uid timestamp, KeyedList.get? manifest uid = some timestamp ->
    HasCard space directory uid timestamp tree

/-- A folder has a manifest, and a vCard for each contact in it. -/
structure Holds (space : String) (directory : FilePath) (manifest : Manifest)
    (tree : FileTree) : Prop extends HasCards space directory manifest tree where
  stored : HasManifest directory (.ofManifest manifest) tree

def IsCoherent (space : String) (directory : FilePath) (tree : FileTree) : Prop :=
  ∃ manifest, Holds space directory manifest tree

theorem isCoherent_of_absent (space : String)
    (absent : tree.read (manifestPath directory) = .ok none) : IsCoherent space directory tree :=
  ⟨[], ⟨List.nodup_nil, fun _ _ found => by cases found⟩, .inl ⟨absent, rfl⟩⟩

theorem HasCard.of_read_eq {uid : Uid} {timestamp : Int} {after : FileTree}
    (has : HasCard space directory uid timestamp tree)
    (same : after.read (cardPath directory uid) = tree.read (cardPath directory uid)) :
    HasCard space directory uid timestamp after := by
  refine ⟨has.shortName, ?_⟩
  rw [same]
  exact has.file

theorem HasCards.of_perm {other : Manifest} (has : HasCards space directory manifest tree)
    (same : other.Perm manifest) : HasCards space directory other tree where
  once := (same.map Prod.fst).symm.nodup has.once
  card uid timestamp listed :=
    has.card uid timestamp ((KeyedList.get?_perm has.once same.symm uid).symm.trans listed)

theorem HasCards.isWritable (has : HasCards space directory manifest tree) :
    IsWritable (.ofManifest manifest) := by
  refine SavedManifest.isWritable_ofManifest_iff.mpr ⟨has.once, fun entry member => ?_⟩
  have found := KeyedList.get?_of_mem has.once member
  obtain ⟨content, -, card⟩ := (has.card entry.1 entry.2 found).file
  exact ⟨card.isProper, card.short⟩

theorem Holds.of_makeDirectory {after : FileTree} (holds : Holds space directory manifest tree)
    (made : tree.makeDirectory directory = .ok after) :
    Holds space directory manifest after := by
  have same (name : String) (short : FileTree.hasLongName (directory ++ [name]) = false)
      (found : Option String) (read : tree.read (directory ++ [name]) = .ok found) :
      after.read (directory ++ [name]) = .ok found :=
    FileTree.read_makeDirectory_child made short read
  refine ⟨⟨holds.once, ?_⟩, ?_⟩
  · intro uid timestamp listed
    obtain ⟨short, content, found, card⟩ := holds.card uid timestamp listed
    refine ⟨short, content, ?_, card⟩
    rw [cardPath_eq] at short found ⊢
    exact same _ short _ found
  · have short := hasLongName_manifestPath directory
    have stored := holds.stored
    rw [manifestPath_eq] at short
    rw [HasManifest, manifestPath_eq] at stored ⊢
    rcases stored with ⟨absent, empty⟩ | ⟨text, found, read⟩
    · exact .inl ⟨same _ short _ absent, empty⟩
    · exact .inr ⟨text, same _ short _ found, read⟩

theorem Holds.ensures_readManifest {broken : FileTree -> Prop}
    (holds : Holds space directory manifest tree) :
    (readManifest directory).Ensures
      (fun found after => (∃ loaded : Manifest, found = .ofManifest loaded ∧
        loaded.Perm manifest) ∧ after = tree) broken tree := by
  obtain ⟨text, next, found, reads, gives⟩ := readManifest_of_has holds.stored holds.isWritable
  rw [reads, Errand.ensures_read found, gives]
  exact (Errand.ensures_pure _).mpr ⟨SavedManifest.exists_sort_ofManifest manifest, rfl⟩

theorem perform_readManifest_of_has {σ : Type} (peer : Peer σ) {world : World σ}
    (has : HasManifest directory saved world.tree) (writable : IsWritable saved) :
    World.perform peer (readManifest directory) world = (.done saved.sort, world) := by
  obtain ⟨text, next, found, reads, gives⟩ := readManifest_of_has has writable
  rw [reads, World.perform, found]
  show World.perform peer (next text) world = _
  rw [gives]
  rfl

end PairedContacts.Folder
