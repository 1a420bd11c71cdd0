import Mathlib.Data.List.Nodup
import PairedContacts.Proofs.Client.Visits

/-!
# What a sync commits

A sync reads the folder and talks to the server before it writes anything, so it leaves no trace if
it fails there.  Later it can only fail at a torn name in the manifest: then the vCards that the
server sent are written, and the manifest is as it was.  If a sync is done, it has written the vCards
it reports as updated, as the server sent them, and their timestamps into the manifest, and no other
file is different from before.
-/

set_option autoImplicit false

namespace PairedContacts.Client

open World (perform)

variable {σ : Type} {client : Client} {now : Int}

/-! ## What a server said -/

/-- A peer answers a packet with success, and what it sends is a packet. -/
def Answers (client : Client) (now : Int) (peer : Peer σ) (memory : σ) (packet answer : Packet) :
    Prop :=
  ∃ reply, (peer memory (client.endpoint.within packetsPath) packet).1 = .ok reply ∧
    isSuccess reply.status = true ∧ Packet.ofBytes now reply.bytes = .ok answer

/-- What a peer remembers once a packet was posted to it. -/
def memoryAfter (client : Client) (peer : Peer σ) (memory : σ) (packet : Packet) : σ :=
  (peer memory (client.endpoint.within packetsPath) packet).2

/-- On the way from one world to another a client asked for the manifest and then for vCards, and
the answer to the second request has a text for a contact. -/
def Served (client : Client) (now : Int) (peer : Peer σ) (world after : World σ) (uid : Uid)
    (card : String) : Prop :=
  let endpoint := client.endpoint.within packetsPath
  ∃ request answer,
    after.posts =
      world.posts ++ [(endpoint, Message.requestManifest now), (endpoint, request)] ∧
    client.Answers now peer
      (client.memoryAfter peer world.memory (Message.requestManifest now)) request answer ∧
    answer.get? uid.text = some (.text card)

variable {peer : Peer σ} {world after : World σ}

theorem of_perform_take {α : Type} {step : Step α} {requester : Requester} {taken : α × Requester}
    (ran : perform peer (take step requester) world = (.done taken, after)) :
    (step requester).1.outcome = .ok taken.1 ∧ taken.2 = (step requester).2 ∧ after = world := by
  rw [take] at ran
  cases ended : (step requester).1.outcome with
  | error failure =>
      simp only [ended] at ran
      cases ran
  | ok result =>
      simp only [ended] at ran
      cases ran
      exact ⟨rfl, rfl, rfl⟩

theorem of_perform_ask {packet answer : Packet}
    (ran : perform peer (client.ask now packet) world = (.done answer, after)) :
    client.Answers now peer world.memory packet answer ∧
      after = world.posted (client.endpoint.within packetsPath) packet
        (client.memoryAfter peer world.memory packet) := by
  obtain ⟨reply, middle, posted, handled⟩ := World.exists_of_perform_bind ran
  rw [Errand.postPacket, perform] at posted
  rcases told : peer world.memory (client.endpoint.within packetsPath) packet with ⟨given, memory⟩
  rw [told] at posted
  cases given with
  | error fault => cases posted
  | ok other =>
      cases posted
      rw [Answers, memoryAfter, told]
      split at handled
      · rename_i success
        cases parsed : Packet.ofBytes now reply.bytes with
        | error fault =>
            rw [parsed] at handled
            cases handled
        | ok packet =>
            rw [parsed] at handled
            cases handled
            exact ⟨⟨reply, rfl, success, parsed⟩, rfl⟩
      · cases handled

theorem of_perform_plan {manifest : Manifest} {plan : FetchPlan} {planned : Requester}
    (ran : perform peer (client.plan now manifest) world = (.done (plan, planned), after)) :
    (Requester.begin ⟨manifest, []⟩ (client.space.getD VCard.defaultNamespace)).Keeps planned ∧
      after = world.posted (client.endpoint.within packetsPath) (Message.requestManifest now)
        (client.memoryAfter peer world.memory (Message.requestManifest now)) := by
  obtain ⟨⟨request, asked⟩, there, taken, fromRequest⟩ := World.exists_of_perform_bind ran
  obtain ⟨made, rfl, rfl⟩ := of_perform_take taken
  obtain ⟨answer, last, heard, planning⟩ := World.exists_of_perform_bind fromRequest
  obtain ⟨-, rfl⟩ := of_perform_ask heard
  obtain ⟨-, rfl, rfl⟩ := of_perform_take planning
  obtain rfl : request = Message.requestManifest now := by
    cases made
    rfl
  exact ⟨(Requester.keeps_requestManifest now _).trans (Requester.keeps_receiveManifest answer _),
    rfl⟩

theorem of_perform_fetch {requester finished : Requester} {result : FetchResult}
    (ran : perform peer (client.fetch now requester) world = (.done (result, finished), after)) :
    after.tree = world.tree ∧ ∃ accepted, requester.Accepts accepted result finished ∧
      ∀ entry ∈ accepted, ∃ request answer,
        after.posts = world.posts ++ [(client.endpoint.within packetsPath, request)] ∧
        client.Answers now peer world.memory request answer ∧
        answer.get? entry.1.text = some (.text entry.2.1) := by
  have asked := Requester.keeps_requestFetch now requester
  obtain ⟨⟨request, asking⟩, here, taken, fromRequest⟩ := World.exists_of_perform_bind ran
  obtain ⟨-, rfl, rfl⟩ := of_perform_take taken
  cases request with
  | none =>
      cases fromRequest
      exact ⟨rfl, [], ⟨List.nodup_nil, by simp, rfl, asked.cache⟩, by simp⟩
  | some request =>
      obtain ⟨answer, there, heard, fromAnswer⟩ := World.exists_of_perform_bind fromRequest
      obtain ⟨answered, rfl⟩ := of_perform_ask heard
      obtain ⟨_, last, checked, receiving⟩ := World.exists_of_perform_bind fromAnswer
      obtain ⟨received, rfl, rfl⟩ := of_perform_take receiving
      have still := World.unchanged_of_perform (does_checkSpace _ _) checked
      obtain ⟨accepted, accepts, told⟩ := exists_accepts_of_receiveCards asked received
      refine ⟨still.1, accepted, accepts, fun entry member => ?_⟩
      exact ⟨request, answer, still.2.1, answered, told entry member⟩

/-! ## Before anything is written -/

/-- What is known once a client concludes an exchange: it has read the manifest, and what it has
accepted is what the server sent. -/
structure HasFetched (client : Client) (now : Int) (peer : Peer σ) (world there : World σ)
    (saved : SavedManifest) (accepted : List (Uid × String × Int)) (result : FetchResult)
    (finished : Requester) : Prop where
  read : (perform peer (Folder.readManifest client.directory) world).1 = .done saved
  loads : Folder.Loads client.directory world.tree saved
  accepts : ∃ planned : Requester, planned.cache = ⟨saved.manifest, []⟩ ∧
    planned.session.space = client.space.getD VCard.defaultNamespace ∧
    planned.Accepts accepted result finished
  served : ∀ entry ∈ accepted, client.Served now peer world there entry.1 entry.2.1
  tree : there.tree = world.tree

theorem HasFetched.writable {there : World σ} {saved : SavedManifest} {finished : Requester}
    {accepted : List (Uid × String × Int)} {result : FetchResult}
    (has : client.HasFetched now peer world there saved accepted result finished) :
    SavedManifest.IsWritable (.ofManifest finished.cache.timestamps) := by
  obtain ⟨planned, began, -, accepts⟩ := has.accepts
  exact isWritable_of_accepts has.loads.writable.ofManifest_manifest began accepts

/-- A sync ends before it has changed any file, or it comes to conclude the exchange. -/
theorem sync_cases {ending : Ending FetchResult}
    (ran : perform peer (client.sync now) world = (ending, after)) :
    ((∀ result, ending ≠ .done result) ∧ after.tree = world.tree) ∨
      ∃ saved plan result finished accepted there,
        client.HasFetched now peer world there saved accepted result finished ∧
        perform peer (client.conclude saved plan result finished.cache >>= fun _ => pure result)
          there = (ending, after) ∧
        (World.writesSucceed peer (client.sync now) world = true ->
          World.writesSucceed peer
            (client.conclude saved plan result finished.cache >>= fun _ => pure result) there =
            true) := by
  have looks : (Folder.readManifest client.directory).Does False True := Folder.does_readManifest _
  rcases World.perform_bind_cases ran with ⟨saved, here, reading, fromManifest⟩ | ⟨ended, same⟩
  case inr => exact .inl ⟨ended, by rw [← same, World.tree_perform peer looks]⟩
  have still := World.unchanged_of_perform (Folder.does_readManifest _) reading
  rcases World.perform_bind_cases fromManifest with
    ⟨⟨plan, planned⟩, last, planning, fromPlan⟩ | ⟨ended, same⟩
  case inr =>
    refine .inl ⟨ended, ?_⟩
    rw [← same, World.tree_perform peer (does_plan _) here, still.1]
  obtain ⟨keeps, rfl⟩ := of_perform_plan planning
  rcases World.perform_bind_cases fromPlan with
    ⟨⟨result, finished⟩, there, fetching, fromFetch⟩ | ⟨ended, same⟩
  case inr =>
    refine .inl ⟨ended, ?_⟩
    rw [← same, World.tree_perform peer (does_fetch _) _]
    exact still.1
  obtain ⟨fetchedTree, accepted, accepts, told⟩ := of_perform_fetch fetching
  refine .inr ⟨saved, plan, result, finished, accepted, there, ⟨congrArg Prod.fst reading,
    (World.result_of_perform (Folder.ensures_readManifest _ _) reading).1,
    ⟨planned, keeps.cache, keeps.space, accepts⟩, ?_, fetchedTree.trans still.1⟩, fromFetch, ?_⟩
  · intro entry member
    obtain ⟨request, answer, posted, answered, stands⟩ := told entry member
    refine ⟨request, answer, ?_, ?_, stands⟩
    · rw [posted, World.posted, still.2.1, List.append_assoc]
      rfl
    · rw [World.posted, still.2.2] at answered
      exact answered
  · intro written
    have behindManifest := World.writesSucceed_of_bind written reading
    have behindPlan := World.writesSucceed_of_bind behindManifest planning
    have behindFetch := World.writesSucceed_of_bind behindPlan fetching
    exact behindFetch

/-! ## All or nothing -/

/-- What is different after a client was served some vCards: each has its file, with the text that
the server sent and a line feed.  Of the manifest nothing is said. -/
structure Fetches (client : Client) (now : Int) (peer : Peer σ) (world after : World σ)
    (stored : List (Uid × String × Int)) : Prop where
  once : (stored.map Prod.fst).Nodup
  served : ∀ entry ∈ stored, client.Served now peer world after entry.1 entry.2.1
  dated : ∀ entry ∈ stored, VCard.IsCardOf (client.space.getD VCard.defaultNamespace) entry.2.1
    entry.1 entry.2.2
  files : ∀ entry ∈ stored, after.tree.files.get? (Folder.cardPath client.directory entry.1) =
    some (entry.2.1 ++ "\n")
  kept : ∀ path, path ≠ Folder.manifestPath client.directory ->
    (∀ entry ∈ stored, path ≠ Folder.cardPath client.directory entry.1) ->
    after.tree.files.get? path = world.tree.files.get? path

/-- The vCards that a client was served have their files, and the manifest has the timestamps that
stand in them. -/
structure Commits (client : Client) (now : Int) (peer : Peer σ) (world after : World σ)
    (stored : List (Uid × String × Int)) : Prop extends
    Fetches client now peer world after stored where
  manifest : ∃ before later : Manifest,
    (perform peer (Folder.readManifest client.directory) world).1 = .done (.ofManifest before) ∧
    (perform peer (Folder.readManifest client.directory) after).1 = .done (.ofManifest later) ∧
    later.Perm (KeyedList.putAll before (stored.map fun entry => (entry.1, entry.2.2)))

/-- The manifest that a client has read has a torn name, and the manifest is as it was, whatever
vCards have their files. -/
structure StopsShort (client : Client) (now : Int) (peer : Peer σ) (world after : World σ)
    (stored : List (Uid × String × Int)) : Prop extends
    Fetches client now peer world after stored where
  torn : ∃ saved : SavedManifest,
    (perform peer (Folder.readManifest client.directory) world).1 = .done saved ∧ saved.torn ≠ []
  manifest : after.tree.files.get? (Folder.manifestPath client.directory) =
    world.tree.files.get? (Folder.manifestPath client.directory)

section Conclude

variable {there : World σ} {saved : SavedManifest} {finished : Requester}
  {accepted : List (Uid × String × Int)} {result : FetchResult}

/-- Storing the vCards, as a matter of files. -/
theorem fetches_of_stores {stored : FileTree}
    (has : client.HasFetched now peer world there saved accepted result finished)
    (stores : StoresInside client.directory finished.cache result.updated there.tree stored)
    (silent : after.posts = there.posts)
    (elsewhere : ∀ path, path ≠ Folder.manifestPath client.directory ->
      after.tree.files.get? path = stored.files.get? path) :
    client.Fetches now peer world after accepted := by
  obtain ⟨planned, -, inSpace, accepts⟩ := has.accepts
  obtain ⟨made, makes, stores⟩ := stores
  rw [accepts.updated] at stores
  refine ⟨accepts.once, ?_, ?_, ?_, ?_⟩
  · intro entry member
    obtain ⟨request, answer, posted, answered⟩ := has.served entry member
    exact ⟨request, answer, silent.trans posted, answered⟩
  · intro entry member
    rw [← inSpace]
    exact accepts.cards entry member
  · intro entry member
    have written := (stores.here entry.1 (List.mem_map_of_mem member)).2
    rcases Requester.store_cases accepts.once planned.cache entry.1 with
      ⟨other, among, named, card, -⟩ | ⟨out, -, -⟩
    · obtain rfl := List.inj_on_of_nodup_map accepts.once among member named
      rw [accepts.cache, card] at written
      rw [elsewhere _ (Folder.cardPath_ne_manifestPath _ _)]
      exact (FileTree.read_eq_ok_iff.mp written).2.2
    · exact absurd (List.mem_map_of_mem member) out
  · intro path notManifest notCard
    rw [elsewhere path notManifest, stores.kept path, FileTree.files_makeDirectory makes, has.tree]
    intro uid member
    obtain ⟨entry, among, rfl⟩ := List.mem_map.mp member
    exact notCard entry among

/-- Where storing the vCards was all, the manifest is as it was. -/
theorem stopsShort_of_stores
    (has : client.HasFetched now peer world there saved accepted result finished)
    (torn : saved.torn ≠ [])
    (stores : StoresInside client.directory finished.cache result.updated there.tree after.tree)
    (silent : after.posts = there.posts) : client.StopsShort now peer world after accepted := by
  refine ⟨fetches_of_stores has stores silent fun _ _ => rfl, ⟨saved, has.read, torn⟩, ?_⟩
  obtain ⟨made, makes, stores⟩ := stores
  rw [stores.kept _ fun uid _ => (Folder.cardPath_ne_manifestPath _ uid).symm,
    FileTree.files_makeDirectory makes, has.tree]

theorem commits_of_concludes
    (has : client.HasFetched now peer world there saved accepted result finished)
    (whole : saved.torn = [])
    (concludes : Concludes client.directory finished.cache result.updated there.tree after.tree)
    (silent : after.posts = there.posts) : client.Commits now peer world after accepted := by
  obtain ⟨stored, stores, told⟩ := concludes
  obtain ⟨planned, began, -, accepts⟩ := has.accepts
  obtain ⟨sorted, order, same⟩ :=
    SavedManifest.exists_sort_ofManifest finished.cache.timestamps
  refine ⟨fetches_of_stores has stores silent told.kept, saved.manifest, sorted, ?_, ?_, ?_⟩
  · rw [SavedManifest.ofManifest_manifest_of_torn whole]
    exact has.read
  · rw [Folder.perform_readManifest_of_has peer told.told has.writable, order]
  · rwa [accepts.cache, began, Requester.timestamps_store] at same

/-- A client that concludes an exchange commits it, or leaves no trace, or stops short. -/
theorem conclude_cases {plan : FetchPlan} {ending : Ending FetchResult}
    (has : client.HasFetched now peer world there saved accepted result finished)
    (written : World.writesSucceed peer
      (client.conclude saved plan result finished.cache >>= fun _ => pure result) there = true)
    (ran : perform peer (client.conclude saved plan result finished.cache >>= fun _ => pure result)
      there = (ending, after)) :
    (∀ other, ending = .done other -> other.updated = accepted.map Prod.fst ∧
      client.Commits now peer world after accepted) ∧
      ((∀ other, ending ≠ .done other) ->
        after.tree = world.tree ∨ client.StopsShort now peer world after accepted) := by
  have concludesOnly :
      (client.conclude saved plan result finished.cache >>= fun _ => pure result).Does True False :=
    (does_conclude saved plan result finished.cache).bind fun _ => trivial
  have silent := (World.talk_perform peer concludesOnly there).1
  obtain ⟨text, readable⟩ := has.loads.readable
  rw [← has.tree] at readable
  have ensures : (client.conclude saved plan result finished.cache >>=
      fun _ => (pure result : Errand FetchResult)).Ensures
        (fun other tree => other = result ∧ saved.torn = [] ∧
          Concludes client.directory finished.cache result.updated there.tree tree)
        (Interrupts saved client.directory finished.cache result.updated there.tree)
        there.tree := by
    rw [Errand.ensures_bind]
    refine (ensures_concludes saved plan result has.writable readable).imp fun _ tree facts => ?_
    exact (Errand.ensures_pure _).mpr ⟨rfl, facts⟩
  have meets := World.meets_perform peer ensures written
  rw [ran] at meets silent
  constructor
  · intro other done
    obtain ⟨rfl, whole, concludes⟩ := meets.result other done
    obtain ⟨planned, -, -, accepts⟩ := has.accepts
    exact ⟨accepts.updated, commits_of_concludes has whole concludes silent⟩
  · intro unfinished
    rcases meets.breach unfinished with same | ⟨torn, stores⟩
    · exact .inl (same.trans has.tree)
    · exact .inr (stopsShort_of_stores has torn stores silent)

end Conclude

/-- A folder with a manifest, and a server that has a newer vCard. -/
def folderWith (manifest : String) : World (List Reply) :=
  ⟨⟨[["contacts"]], [(["contacts", ".contactsync-manifest.json"], manifest)]⟩, [], [],
    Folder.hostileReplies⟩

def localClient : Client :=
  ⟨Folder.localHost, ["contacts"], some "K"⟩

def faultOf? {α : Type} : Ending α -> Option ClientFault
  | .failed fault => some fault
  | _ => none

end PairedContacts.Client
