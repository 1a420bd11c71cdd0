import PairedContacts.Proofs.Client.Sync

/-!
# Visits to a folder

A client visits its folder again and again, each time against some server, to sync it or to tell its
status.  As long as every file can be written, the folder stays coherent: whoever is in its manifest
has a vCard there, and the vCard says whose it is and how new, as the manifest does.
-/

set_option autoImplicit false

namespace PairedContacts

inductive Visit where
  | sync (now : Int) (endpoint : Net.Endpoint)
  | status (now : Int) (endpoint : Net.Endpoint)

def Visit.errand (directory : FilePath) (space : String) : Visit -> Errand Unit
  | sync now endpoint => discard (Client.sync now ⟨endpoint, directory, some space⟩)
  | status now endpoint => Client.status now ⟨endpoint, directory, some space⟩

namespace World

variable {σ : Type}

/-- The world after some visits, those that failed included. -/
def visited (peer : Peer σ) (directory : FilePath) (space : String) (world : World σ)
    (visits : List Visit) : World σ :=
  visits.foldl (fun reached visit => (perform peer (visit.errand directory space) reached).2) world

/-- Whether every file is written that the visits write. -/
def visitsWrite (peer : Peer σ) (directory : FilePath) (space : String) :
    World σ -> List Visit -> Bool
  | _, [] => true
  | world, visit :: rest =>
      writesSucceed peer (visit.errand directory space) world &&
        visitsWrite peer directory space (perform peer (visit.errand directory space) world).2 rest

end World

namespace Folder

variable {σ : Type} {peer : Peer σ} {directory : FilePath} {space : String} {world : World σ}

/-- One visit keeps a folder coherent. -/
theorem IsCoherent.visit (coherent : IsCoherent space directory world.tree) {visit : Visit}
    (written : World.writesSucceed peer (visit.errand directory space) world = true) :
    IsCoherent space directory
      (World.perform peer (visit.errand directory space) world).2.tree := by
  obtain ⟨manifest, holds⟩ := coherent
  have unchanged {tree : FileTree} (same : tree = world.tree) : IsCoherent space directory tree :=
    ⟨manifest, by rwa [same]⟩
  cases visit with
  | sync now endpoint =>
      have ensures : (Visit.errand directory space (.sync now endpoint)).Ensures
          (fun _ after => IsCoherent space directory after) (· = world.tree) world.tree :=
        Errand.ensures_discard.mpr (Client.ensures_sync ⟨endpoint, directory, some space⟩ rfl holds)
      exact (World.meets_perform peer ensures written).elim (fun _ _ coherent => coherent)
        fun _ => unchanged
  | status now endpoint => exact unchanged (World.tree_perform peer Client.does_status world)

theorem IsCoherent.visited {visits : List Visit}
    (coherent : IsCoherent space directory world.tree)
    (written : World.visitsWrite peer directory space world visits = true) :
    IsCoherent space directory (World.visited peer directory space world visits).tree := by
  induction visits generalizing world with
  | nil => exact coherent
  | cons visit rest ih =>
      rw [World.visitsWrite, Bool.and_eq_true] at written
      exact ih (coherent.visit written.1) written.2

/-- A folder that had no manifest at first, after any visits in one namespace to any servers: its
manifest can be read, and each contact in it has a file with a vCard that reads back to its uID and
to the timestamp in the manifest. -/
theorem folder_stays_coherent (peer : Peer σ) (directory : FilePath) (space : String)
    (visits : List Visit) (world : World σ)
    (fresh : world.tree.read (manifestPath directory) = .ok none)
    (written : World.visitsWrite peer directory space world visits = true) :
    let after := World.visited peer directory space world visits
    ∃ manifest : Manifest,
      World.perform peer (readManifest directory) after = (.done (.ofManifest manifest), after) ∧
      ∀ uid timestamp, KeyedList.get? manifest uid = some timestamp ->
        ∃ content finalized, after.tree.read (cardPath directory uid) = .ok (some content) ∧
          VCard.parseFinalized space content = .ok finalized ∧
          finalized.metadata.uid = uid ∧ finalized.metadata.timestamp = timestamp := by
  obtain ⟨manifest, holds⟩ := (isCoherent_of_absent space fresh).visited written
  obtain ⟨sorted, order, same⟩ := SavedManifest.exists_sort_ofManifest manifest
  have cards := holds.of_perm same
  refine ⟨sorted, ?_, fun uid timestamp listed => ?_⟩
  · rw [← order]
    exact perform_readManifest_of_has peer holds.stored holds.isWritable
  obtain ⟨content, read, finalized, parsed, named, dated⟩ := (cards.card uid timestamp listed).file
  exact ⟨content, finalized, read, parsed, named, dated⟩

section Hostile

/-- A peer that gives its answers from a list, whatever it is asked. -/
def scripted : Peer (List Reply)
  | reply :: rest, _, _ => (.ok reply, rest)
  | [], _, _ => (.error .invalidUrl, [])

def replyWith (document : String) : Reply :=
  ⟨200, document.toUTF8.toList⟩

/-- A manifest, a vCard that is newer than the manifest told, bytes that are no text, and a refusal.
The uID of the contact has a slash. -/
def hostileReplies : List Reply :=
  [replyWith ("\x7b\"type\":\"kdeconnect.contacts.response_uids_timestamps\"," ++
      "\"body\":\x7b\"uids\":[\"a/\"],\"a/\":5\x7d\x7d"),
    replyWith ("\x7b\"type\":\"kdeconnect.contacts.response_vcards\"," ++
      "\"body\":\x7b\"uids\":[\"a/\"]," ++
      "\"a/\":\"X-K-ID-DEV-p:a/\\nX-K-TIMESTAMP:7\\nEND:VCARD\"\x7d\x7d"),
    ⟨200, [0xFF]⟩, ⟨500, []⟩]

def localHost : Net.Endpoint :=
  ⟨"http".toList, [], "localhost".toList, none, "/".toList, none, none⟩

def hostileVisits : List Visit :=
  [.sync 1 localHost, .status 2 localHost, .sync 3 localHost]

def emptyFolder : World (List Reply) :=
  ⟨⟨[["contacts"]], []⟩, [], [], hostileReplies⟩

end Hostile

theorem folder_stays_coherent_hostile :
    let after := World.visited scripted ["contacts"] "K" emptyFolder hostileVisits
    (emptyFolder.tree.read (manifestPath ["contacts"]) = .ok none ∧
        World.visitsWrite scripted ["contacts"] "K" emptyFolder hostileVisits = true ∧
        after.tree.files =
          [(["contacts", "a%2F.vcf"], "X-K-ID-DEV-p:a/\nX-K-TIMESTAMP:7\nEND:VCARD\n"),
            (["contacts", ".contactsync-manifest.json"], "\x7b\n  \"a/\": 7\n\x7d")]) ∧
      ∃ manifest : Manifest,
        World.perform scripted (readManifest ["contacts"]) after =
          (.done (.ofManifest manifest), after) ∧
        ∀ uid timestamp, KeyedList.get? manifest uid = some timestamp ->
          ∃ content finalized,
            after.tree.read (cardPath ["contacts"] uid) = .ok (some content) ∧
            VCard.parseFinalized "K" content = .ok finalized ∧
            finalized.metadata.uid = uid ∧ finalized.metadata.timestamp = timestamp := by
  have fresh : emptyFolder.tree.read (manifestPath ["contacts"]) = .ok none := by
    decide +kernel
  have ran : World.visitsWrite scripted ["contacts"] "K" emptyFolder hostileVisits = true ∧
      (World.visited scripted ["contacts"] "K" emptyFolder hostileVisits).tree.files =
        [(["contacts", "a%2F.vcf"], "X-K-ID-DEV-p:a/\nX-K-TIMESTAMP:7\nEND:VCARD\n"),
          (["contacts", ".contactsync-manifest.json"], "\x7b\n  \"a/\": 7\n\x7d")] := by
    decide +kernel
  exact ⟨⟨fresh, ran⟩,
    folder_stays_coherent scripted ["contacts"] "K" hostileVisits emptyFolder fresh ran.1⟩

end Folder

end PairedContacts
