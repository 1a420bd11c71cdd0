import PairedContacts.Proofs.Client.Folder
import PairedContacts.Proofs.Json.Overlong
import PairedContacts.Proofs.Json.Reading

/-!
# The file of a manifest

A client remembers its manifest between two exchanges in a file of its folder.  A manifest that is
written there comes back whole, unless two halves of a pair stand behind each other in a name.
Whatever map is read from the file, those of its fields are taken whose key is a uID and whose value
is an integer; what was taken can be written, and comes back as it was.
-/

set_option autoImplicit false

namespace PairedContacts.Folder

open SavedManifest (IsWritable isName)

variable {directory : FilePath} {saved : SavedManifest}
  {fields : KeyedList JoinedText (Json.Document JoinedText)}

/-! ## Reading and writing -/

section Perform

variable {σ : Type} {world : World σ}

theorem perform_readDocument (peer : Peer σ) {path : FilePath} {text : String}
    (found : world.tree.read path = .ok (some text)) :
    World.perform peer (readDocument path) world =
      World.perform peer (Errand.ofExcept ((Json.parse .loose text).mapError documentFault) >>=
        fun document => pure (some document)) world := by
  have opened : World.perform peer (Errand.readFile path) world = (.done (some text), world) := by
    rw [Errand.readFile, World.perform, found]
    rfl
  rw [readDocument, World.perform_bind, opened]

/-- Of a file that holds a map, the manifest is read, and each key that is no uID is remarked
upon. -/
theorem perform_readManifest_of_parse (peer : Peer σ) {text : String}
    (found : world.tree.read (manifestPath directory) = .ok (some text))
    (parsed : Json.parse .loose text = .ok (.map fields)) :
    World.perform peer (readManifest directory) world =
      (.done (.ofFields fields),
        { world with lines := world.lines ++ fields.filterMap SavedManifest.skipLine? }) := by
  rw [readManifest, World.perform_bind, perform_readDocument peer found, parsed]
  show World.perform peer ((fields.filterMap SavedManifest.skipLine?).forM Errand.print >>=
    fun _ => pure (SavedManifest.ofFields fields)) world = _
  rw [World.perform_bind, World.perform_forM_print]
  rfl

/-- Of a file with an integer that is too long nothing is read. -/
theorem perform_readManifest_of_longInt (peer : Peer σ) {text : String} {digits : Nat}
    (found : world.tree.read (manifestPath directory) = .ok (some text))
    (refused : Json.parse .loose text = .error (.longInt digits)) :
    World.perform peer (readManifest directory) world = (.failed (.longInt digits), world) := by
  rw [readManifest, World.perform_bind, perform_readDocument peer found, refused]
  rfl

/-- A folder whose manifest can be read and written. -/
structure TakesManifest (directory : FilePath) (tree : FileTree) : Prop where
  readable : ∃ found, tree.read (manifestPath directory) = .ok found
  writable : ∀ text, ∃ after, tree.write (manifestPath directory) text = .ok after

/-- Writes a manifest, and reads it again. -/
def storeAndLoad (directory : FilePath) (saved : SavedManifest) : Errand SavedManifest := do
  writeManifest directory saved
  readManifest directory

/-- A manifest that is written is read again as the same map, and nothing is said. -/
theorem exists_perform_storeAndLoad (peer : Peer σ) (takes : TakesManifest directory world.tree)
    (writable : IsWritable saved) :
    ∃ loaded after,
      World.perform peer (storeAndLoad directory saved) world = (.done loaded, after) ∧
      loaded.Perm saved ∧ after.lines = world.lines := by
  obtain ⟨text, errand, stores⟩ := exists_text_writeManifest writable directory
  obtain ⟨found, readable⟩ := takes.readable
  obtain ⟨tree, written⟩ := takes.writable text
  have has : HasManifest directory saved tree := (stores _ _ found readable written).told
  have wrote : World.perform peer (writeManifest directory saved) world =
      (.done (), { world with tree := tree }) := by
    rw [errand, Errand.writeFile, World.perform, written]
    rfl
  refine ⟨saved.sort, { world with tree := tree }, ?_, saved.sort_perm, rfl⟩
  rw [storeAndLoad, World.perform_bind, wrote]
  exact perform_readManifest_of_has peer has writable

end Perform

/-- Where its file can be read and written, a manifest of uIDs and timestamps that are not too long
is the same map after it was written and read again, and nothing is skipped, as long as no two
halves of a pair stand behind each other in a uID.  Of any map that is read from the file those
fields are kept whose key is a uID and whose value is an integer, and what was kept is the same map
after it was written and read again. -/
theorem manifest_survives_its_file {σ : Type} (peer : Peer σ) (directory : FilePath)
    (world : World σ) (takes : TakesManifest directory world.tree) :
    (∀ saved, IsWritable saved ->
      ∃ loaded after,
        World.perform peer (storeAndLoad directory saved) world = (.done loaded, after) ∧
        loaded.Perm saved ∧ after.lines = world.lines) ∧
      ∀ text fields, world.tree.read (manifestPath directory) = .ok (some text) ->
        Json.parse .loose text = .ok (.map fields) ->
        ∃ loaded after,
          World.perform peer (readManifest directory) world = (.done loaded, after) ∧
          after.tree = world.tree ∧ (KeyedList.keys loaded).Nodup ∧
          (∀ name timestamp, (name, timestamp) ∈ loaded ↔ isName name = true ∧
            ∃ key : JoinedText, key.toLooseText = name ∧
              (key, .scalar (.int timestamp)) ∈ fields) ∧
          ∃ again final,
            World.perform peer (storeAndLoad directory loaded) after = (.done again, final) ∧
            again.Perm loaded ∧ final.lines = after.lines := by
  refine ⟨fun saved writable => exists_perform_storeAndLoad peer takes writable, ?_⟩
  intro text fields found parsed
  have once : (KeyedList.keys fields).Nodup := Json.nodup_keys_of_parse parsed
  have writable : IsWritable (.ofFields fields) :=
    SavedManifest.isWritable_ofFields (Json.isShort_of_parse parsed)
  refine ⟨.ofFields fields, _, perform_readManifest_of_parse peer found parsed, rfl, writable.once,
    fun name timestamp => SavedManifest.mem_ofFields_iff once, ?_⟩
  exact exists_perform_storeAndLoad peer takes writable

/-- A name that is half of a pair. -/
def tornName : JoinedText :=
  ⟨⟨[.half ⟨0xD800, by decide⟩]⟩, rfl⟩

/-- A map of which two fields tell of contacts: one key is padded, one value a flag. -/
def oddFields : KeyedList JoinedText (Json.Document JoinedText) :=
  [(.ofString "a/", .scalar (.int 3)), (.ofString " b", .scalar (.int 4)),
    (tornName, .scalar (.int 5)), (.ofString "c", .scalar (.bool true))]

def oddDocument : String :=
  "\x7b\n  \"a/\": 3,\n  \" b\": 4,\n  \"\\ud800\": 5,\n  \"c\": true\n\x7d"

def folderWith (document : String) : World Unit :=
  ⟨⟨[["contacts"]], [(["contacts", ".contactsync-manifest.json"], document)]⟩, [], [], ()⟩

theorem read_folderWith (document : String) :
    (folderWith document).tree.read (manifestPath ["contacts"]) = .ok (some document) := by
  rw [manifestPath_eq]
  rfl

theorem takesManifest_folderWith (document : String) :
    TakesManifest ["contacts"] (folderWith document).tree :=
  ⟨⟨_, read_folderWith document⟩, fun _ => ⟨_, by rw [manifestPath_eq]; rfl⟩⟩

def silentPeer : Peer Unit :=
  fun _ _ _ => (.error .invalidUrl, ())

theorem manifest_survives_its_file_oddFields :
    (∃ loaded after,
      World.perform silentPeer
        (storeAndLoad ["contacts"] [(.ofString "b", -1), (tornName.toLooseText, 3)])
        (folderWith oddDocument) = (.done loaded, after) ∧
      loaded.Perm [(.ofString "b", -1), (tornName.toLooseText, 3)] ∧ after.lines = []) ∧
      ∃ loaded after,
        World.perform silentPeer (readManifest ["contacts"]) (folderWith oddDocument) =
          (.done loaded, after) ∧
        (∀ name timestamp, (name, timestamp) ∈ loaded ↔
          name = .ofString "a/" ∧ timestamp = 3 ∨
            name = tornName.toLooseText ∧ timestamp = 5) ∧
        ∃ again final,
          World.perform silentPeer (storeAndLoad ["contacts"] loaded) after = (.done again, final) ∧
          again.Perm loaded ∧ final.lines = after.lines := by
  have named : isName (.ofString "a/") = true ∧ isName (.ofString "b") = true ∧
      isName tornName.toLooseText = true ∧ isName (.ofString " b") = false := by decide +kernel
  have writable : IsWritable [(.ofString "b", -1), (tornName.toLooseText, 3)] :=
    ⟨by decide, by simp [named], by decide, by decide +kernel⟩
  have plain : (Json.Document.map oddFields).isPlain Json.Dialect.loose = true := by decide +kernel
  have written : Json.writeFile? (.map oddFields) = some oddDocument := by decide +kernel
  obtain ⟨text, document, parsed⟩ := Json.exists_writeFile? plain
  obtain rfl : text = oddDocument := Option.some.inj (document.symm.trans written)
  obtain ⟨stored, kept⟩ := manifest_survives_its_file silentPeer ["contacts"]
    (folderWith oddDocument) (takesManifest_folderWith oddDocument)
  obtain ⟨loaded, after, ran, -, -, exactly, again⟩ := kept _ _ (read_folderWith oddDocument) parsed
  refine ⟨stored _ writable, loaded, after, ran, ?_, again⟩
  intro name timestamp
  rw [exactly]
  constructor
  · rintro ⟨taken, key, rfl, among⟩
    simp only [oddFields, List.mem_cons, Prod.mk.injEq, Json.Document.scalar.injEq,
      Json.Scalar.int.injEq, reduceCtorEq, and_false, List.not_mem_nil, or_false] at among
    rcases among with ⟨rfl, rfl⟩ | ⟨rfl, rfl⟩ | ⟨rfl, rfl⟩
    · exact .inl ⟨rfl, rfl⟩
    · exact absurd taken (Bool.eq_false_iff.mp named.2.2.2)
    · exact .inr ⟨rfl, rfl⟩
  · rintro (⟨rfl, rfl⟩ | ⟨rfl, rfl⟩)
    · exact ⟨named.1, .ofString "a/", rfl, by simp [oddFields]⟩
    · exact ⟨named.2.2.1, tornName, rfl, by simp [oddFields]⟩

/-- The two halves of a character, which are no character yet. -/
def splitName : LooseText :=
  ⟨[.half ⟨0xD83D, by decide⟩, .half ⟨0xDE00, by decide⟩]⟩

def joinedName : LooseText :=
  ⟨[.char (Char.ofNat 0x1F600)]⟩

def longDocument : String :=
  Json.writeWire (.map [("a", .int 5), ("b", .list [.int (tenTo 4300)])])

/-- A uID of two halves comes back as another one, and nothing is read of a map in which an integer
of 4301 digits stands, not even the timestamp of a contact. -/
theorem splitName_and_longDocument_are_not_read_back :
    (isName splitName = true ∧ splitName ≠ joinedName ∧
      ∃ after,
        World.perform silentPeer (storeAndLoad ["contacts"] [(splitName, 5)])
          (folderWith "\x7b\x7d") = (.done [(joinedName, 5)], after)) ∧
      isName (.ofString "a") = true ∧
      ∃ digits,
        World.perform silentPeer (readManifest ["contacts"]) (folderWith longDocument) =
          (.failed (.longInt digits), folderWith longDocument) := by
  have named : isName splitName = true ∧ isName (.ofString "a") = true ∧
      splitName ≠ joinedName := by decide +kernel
  have writable : IsWritable [(joinedName, 5)] :=
    ⟨by decide, by decide +kernel, by decide, by decide +kernel⟩
  have joined : splitName.join = joinedName.join := by decide +kernel
  have same : SavedManifest.document [(splitName, 5)] = SavedManifest.document [(joinedName, 5)] := by
    simp [SavedManifest.document, SavedManifest.sort, joined]
  obtain ⟨loaded, after, ran, whole, -⟩ := exists_perform_storeAndLoad silentPeer
    (takesManifest_folderWith "\x7b\x7d") writable
  obtain rfl := List.perm_singleton.mp whole
  have long : Json.Dialect.loose.admits (tenTo 4300) = false := by decide +kernel
  have item : (Value.list ([] ++ .int (tenTo 4300) :: [])).IsOverlong Json.Dialect.loose :=
    .item rfl (.int long)
  have overlong : (Value.map ([("a", .int 5)] ++ ("b", .list [.int (tenTo 4300)]) :: [])).IsOverlong
      Json.Dialect.loose := .field (by decide +kernel) item
  obtain ⟨digits, refused⟩ := Json.exists_parse_overlong Json.reads_loose overlong
    (fun _ unlimited => by cases unlimited) "" (by simp)
  rw [String.append_empty] at refused
  refine ⟨⟨named.1, named.2.2, after, ?_⟩, named.2.1, digits, ?_⟩
  · rw [← ran, storeAndLoad, storeAndLoad, writeManifest, writeManifest, same]
  · exact perform_readManifest_of_longInt silentPeer (read_folderWith longDocument) refused

end PairedContacts.Folder
