import PairedContacts.Client.Sync
import PairedContacts.Proofs.Client.Folder
import PairedContacts.Proofs.Session.Effect

/-!
# What an exchange leaves in a folder

A client that looks at its folder and asks its server changes no file.  When it stores what it has
fetched, each accepted contact gets its vCard, other vCards stay as they are, and the manifest tells
of both; only a torn name can keep it from the manifest.
-/

set_option autoImplicit false

namespace PairedContacts

/-- A requester has taken the accepted contacts into its cache, and the result names them. -/
structure Requester.Accepts (before : Requester) (accepted : List (Uid × String × Int))
    (result : FetchResult) (after : Requester) : Prop where
  once : (accepted.map Prod.fst).Nodup
  cards : ∀ entry ∈ accepted, VCard.IsCardOf before.session.space entry.2.1 entry.1 entry.2.2
  updated : result.updated = accepted.map Prod.fst
  cache : after.cache = Requester.store before.cache accepted

namespace Client

open SavedManifest (IsWritable)

variable {client : Client} {now : Int} {tree : FileTree} {broken : FileTree -> Prop}

/-! ## What the parts may do -/

section Does

variable {mayWrite mayPost : Prop}

theorem does_take {α : Type} (step : Step α) (requester : Requester) :
    (take step requester).Does mayWrite mayPost := by
  rw [take]
  cases ended : (step requester).1.outcome <;> simp only [ended] <;> trivial

theorem does_ask (packet : Packet) : (client.ask now packet).Does mayWrite True := by
  have does : (Errand.postPacket (client.endpoint.within packetsPath) packet).Does mayWrite True :=
    ⟨trivial, fun _ => trivial⟩
  refine does.bind fun reply => ?_
  split
  · exact Errand.does_ofExcept _
  · trivial

theorem does_checkSpace (session : Session) (answer : Packet) :
    (client.checkSpace session answer).Does mayWrite mayPost := by
  rw [checkSpace]
  split
  · show Errand.Does _ _ (if _ then _ else _)
    split <;> trivial
  · trivial

theorem does_plan (manifest : Manifest) : (client.plan now manifest).Does mayWrite True := by
  refine (does_take _ _).bind fun asked => ?_
  exact (does_ask _).bind fun answer => does_take _ _

theorem does_fetch (requester : Requester) : (client.fetch now requester).Does mayWrite True := by
  refine (does_take _ _).bind ?_
  rintro ⟨request, asking⟩
  cases request with
  | none => trivial
  | some request =>
      exact (does_ask _).bind fun answer => (does_checkSpace _ _).bind fun _ => does_take _ _

theorem does_report (before after : String) (uids : List Uid) :
    (report before after uids).Does mayWrite mayPost :=
  Errand.does_forM fun _ => Errand.does_print _

theorem does_reportDeleted (before after : String) (saved : SavedManifest) (plan : FetchPlan) :
    (reportDeleted before after saved plan).Does mayWrite mayPost :=
  Errand.does_forM fun _ => Errand.does_printName _ _ _

/-- Telling the status takes no writing. -/
theorem does_status : (client.status now).Does mayWrite True := by
  refine (Folder.does_readManifest _).bind fun saved => (does_plan _).bind fun planned => ?_
  refine (Errand.does_print _).bind fun _ => ?_
  refine (Errand.does_print _).bind fun _ => ?_
  refine (Errand.does_print _).bind fun _ => ?_
  refine (Errand.does_print _).bind fun _ => ?_
  exact (does_report _ _ _).bind fun _ => does_reportDeleted _ _ _ _

/-- Concluding an exchange takes no posting. -/
theorem does_conclude (saved : SavedManifest) (plan : FetchPlan) (result : FetchResult)
    (cache : Cache) : (client.conclude saved plan result cache).Does True mayPost := by
  have made : (Errand.ensureDirectory client.directory).Does True mayPost := ⟨trivial, trivial⟩
  have stored (uid : Uid) : (client.storeCard cache uid).Does True mayPost := by
    have written : (Folder.writeCard client.directory uid
      ((cache.cards.get? uid).getD "")).Does True mayPost := ⟨trivial, trivial⟩
    exact written.bind fun _ => Errand.does_print _
  refine made.bind fun _ => (Errand.does_forM stored).bind fun _ => ?_
  refine (does_report _ _ _).bind fun _ => (does_report _ _ _).bind fun _ => ?_
  refine (does_reportDeleted _ _ _ _).bind fun _ => ?_
  exact (Folder.does_writeDocument _ _).bind fun _ => Errand.does_print _

end Does

/-! ## Asking -/

theorem ensures_take {α : Type} {step : Step α} {requester : Requester}
    {done : α × Requester -> FileTree -> Prop} (breaks : broken tree)
    (taken : ∀ result, (step requester).1.outcome = .ok result ->
      done (result, (step requester).2) tree) :
    (take step requester).Ensures done broken tree := by
  rw [take]
  cases ended : (step requester).1.outcome with
  | error failure =>
      simp only [ended]
      exact (Errand.ensures_fail _).mpr breaks
  | ok result =>
      simp only [ended]
      exact (Errand.ensures_pure _).mpr (taken result ended)

theorem ensures_ask {packet : Packet} {done : Packet -> FileTree -> Prop}
    (breaks : broken tree) (answered : ∀ answer, done answer tree) :
    (client.ask now packet).Ensures done broken tree := by
  rw [ask, Errand.ensures_bind]
  refine Errand.ensures_postPacket breaks fun reply => ?_
  split
  · exact Errand.ensures_ofExcept breaks fun answer _ => answered answer
  · exact (Errand.ensures_fail _).mpr breaks

theorem ensures_checkSpace {session : Session} {answer : Packet}
    {done : Unit -> FileTree -> Prop} (breaks : broken tree) (holds : done () tree) :
    (client.checkSpace session answer).Ensures done broken tree := by
  rw [checkSpace]
  split
  · show Errand.Ensures _ _ (if _ then _ else _) _
    split
    · exact (Errand.ensures_fail _).mpr breaks
    · exact (Errand.ensures_pure _).mpr holds
  · exact (Errand.ensures_pure _).mpr holds

/-- Planning changes no file, and it starts from the manifest that was loaded. -/
theorem ensures_plan (client : Client) (manifest : Manifest) (tree : FileTree) :
    (client.plan now manifest).Ensures
      (fun planned after => after = tree ∧
        (Requester.begin ⟨manifest, []⟩ (client.space.getD VCard.defaultNamespace)).Keeps planned.2)
      (· = tree) tree := by
  rw [plan, Errand.ensures_bind]
  refine ensures_take rfl fun request asked => ?_
  rw [Errand.ensures_bind]
  refine ensures_ask rfl fun answer => ?_
  refine ensures_take rfl fun plan planned => ⟨rfl, ?_⟩
  exact (Requester.keeps_requestManifest now _).trans (Requester.keeps_receiveManifest answer _)

/-- What a requester accepts of an answer, stands in the answer. -/
theorem exists_accepts_of_receiveCards {requester asking : Requester} {answer : Packet}
    {result : FetchResult} (asked : requester.Keeps asking)
    (received : (Requester.receiveCards answer asking).1.outcome = .ok result) :
    ∃ accepted, requester.Accepts accepted result (Requester.receiveCards answer asking).2 ∧
      ∀ entry ∈ accepted, answer.get? entry.1.text = some (.text entry.2.1) := by
  obtain ⟨judged, done, rfl, stored⟩ := Requester.exists_judged_of_receiveCards received
  have sound := Requester.areSound_of_judgeAll done
  refine ⟨_, ⟨sound.once, ?_, rfl, ?_⟩, sound.told⟩
  · rw [← asked.space]
    exact sound.cards
  · rw [stored, asked.cache]

/-- Fetching changes no file. -/
theorem ensures_fetch (client : Client) (requester : Requester) (tree : FileTree) :
    (client.fetch now requester).Ensures
      (fun fetched after => after = tree ∧
        ∃ accepted, requester.Accepts accepted fetched.1 fetched.2) (· = tree) tree := by
  have asked := Requester.keeps_requestFetch now requester
  rw [fetch, Errand.ensures_bind]
  refine ensures_take rfl fun request requested => ?_
  cases request with
  | none =>
      refine (Errand.ensures_pure _).mpr ⟨rfl, [], ?_⟩
      exact ⟨List.nodup_nil, nofun, rfl, asked.cache⟩
  | some request =>
      show Errand.Ensures _ _ (_ >>= _) _
      rw [Errand.ensures_bind]
      refine ensures_ask rfl fun answer => ?_
      rw [Errand.ensures_bind]
      refine ensures_checkSpace rfl ?_
      refine ensures_take rfl fun result received => ⟨rfl, ?_⟩
      obtain ⟨accepted, accepts, -⟩ := exists_accepts_of_receiveCards asked received
      exact ⟨accepted, accepts⟩

/-! ## Storing -/

/-- The vCards of some contacts are in their files, and every other path reads as before. -/
structure StoresCards (directory : FilePath) (cards : KeyedList Uid String) (uids : List Uid)
    (before after : FileTree) : Prop where
  here : ∀ uid ∈ uids, FileTree.hasLongName (Folder.cardPath directory uid) = false ∧
    after.read (Folder.cardPath directory uid) = .ok (some ((cards.get? uid).getD "" ++ "\n"))
  elsewhere : ∀ path, (∀ uid ∈ uids, path ≠ Folder.cardPath directory uid) ->
    after.read path = before.read path
  kept : ∀ path, (∀ uid ∈ uids, path ≠ Folder.cardPath directory uid) ->
    after.files.get? path = before.files.get? path

theorem ensures_storeCard {found : Option String} (cache : Cache) (uid : Uid)
    (readable : tree.read (Folder.manifestPath client.directory) = .ok found) :
    (client.storeCard cache uid).Ensures
      (fun _ after => tree.Gains (Folder.cardPath client.directory uid)
        ((cache.cards.get? uid).getD "" ++ "\n") after) broken tree := by
  rw [storeCard, Errand.ensures_bind]
  exact (Folder.ensures_writeCard uid _ readable).imp fun _ _ gains =>
    (Errand.ensures_print _).mpr gains

theorem ensures_storeCards {found : Option String} (cache : Cache) (uids : List Uid)
    (readable : tree.read (Folder.manifestPath client.directory) = .ok found) :
    (uids.forM (client.storeCard cache)).Ensures
      (fun _ after => StoresCards client.directory cache.cards uids tree after) broken tree := by
  induction uids generalizing tree with
  | nil => exact (Errand.ensures_pure _).mpr ⟨by simp, fun _ _ => rfl, fun _ _ => rfl⟩
  | cons uid rest ih =>
      show Errand.Ensures _ _ (client.storeCard cache uid >>= fun _ =>
        rest.forM (client.storeCard cache)) _
      rw [Errand.ensures_bind]
      refine (ensures_storeCard cache uid readable).imp fun _ middle gains => ?_
      have readableLater : middle.read (Folder.manifestPath client.directory) = .ok found := by
        rw [gains.elsewhere _ (Folder.cardPath_ne_manifestPath _ _).symm, readable]
      refine (ih readableLater).imp fun _ after stores => ⟨?_, ?_, ?_⟩
      · intro other member
        -- A contact that comes again is written with the same vCard.
        by_cases later : other ∈ rest
        · exact stores.here other later
        · obtain rfl := (List.mem_cons.mp member).resolve_right later
          refine ⟨gains.shortName, ?_⟩
          rw [stores.elsewhere _ fun uid within same => later ?_, gains.here]
          rwa [Folder.cardPath_injective same]
      · intro path apart
        rw [stores.elsewhere path fun uid within => apart uid (List.mem_cons_of_mem _ within),
          gains.elsewhere path (apart uid (by simp))]
      · intro path apart
        rw [stores.kept path fun uid within => apart uid (List.mem_cons_of_mem _ within),
          gains.kept path (apart uid (by simp))]

variable {space : String} {manifest loaded : Manifest} {saved : SavedManifest}
  {before finished : Requester} {accepted : List (Uid × String × Int)} {result : FetchResult}

/-- Once the accepted vCards are stored, each contact that the requester knows of has its vCard. -/
theorem hasCards_of_stores {directory : FilePath} {after : FileTree}
    (has : Folder.HasCards space directory loaded tree) (began : before.cache = ⟨loaded, []⟩)
    (inSpace : before.session.space = space)
    (accepts : before.Accepts accepted result finished)
    (stores : StoresCards directory finished.cache.cards result.updated tree after) :
    Folder.HasCards space directory finished.cache.timestamps after := by
  rw [accepts.updated, accepts.cache, began] at stores
  rw [accepts.cache, began]
  constructor
  · rw [Requester.timestamps_store]
    exact KeyedList.nodup_keys_putAll has.once _
  · intro uid timestamp known
    rcases Requester.store_cases accepts.once ⟨loaded, []⟩ uid with
      ⟨entry, member, rfl, card, dated⟩ | ⟨out, -, kept⟩
    · obtain ⟨short, written⟩ := stores.here entry.1 (List.mem_map_of_mem member)
      rw [card] at written
      rw [dated] at known
      cases known
      refine ⟨short, _, written, VCard.isCardOf_append_lineFeed ?_⟩
      rw [← inSpace]
      exact accepts.cards entry member
    · rw [kept] at known
      refine (has.card uid timestamp known).of_read_eq (stores.elsewhere _ ?_)
      intro other member same
      rw [Folder.cardPath_injective same] at out
      exact out member

/-- Storing the accepted contacts keeps a manifest writable. -/
theorem isWritable_of_accepts (writable : IsWritable (.ofManifest loaded))
    (began : before.cache = ⟨loaded, []⟩) (accepts : before.Accepts accepted result finished) :
    IsWritable (.ofManifest finished.cache.timestamps) := by
  obtain ⟨once, good⟩ := SavedManifest.isWritable_ofManifest_iff.mp writable
  rw [SavedManifest.isWritable_ofManifest_iff, accepts.cache, began, Requester.timestamps_store]
  refine ⟨KeyedList.nodup_keys_putAll once _, fun entry member => ?_⟩
  rcases KeyedList.mem_putAll member with kept | stored
  · exact good entry kept
  · obtain ⟨taken, among, rfl⟩ := List.mem_map.mp stored
    have card := accepts.cards taken among
    exact ⟨card.isProper, card.short⟩

/-! ## Concluding -/

theorem areWhole_deletedNames_iff {plan : FetchPlan} :
    (∀ name ∈ deletedNames saved plan, name.isTorn = false) ↔ saved.torn = [] := by
  have sorted : (deletedNames saved plan).Perm
      (plan.deleted.map (fun uid => .ofString uid.text) ++ saved.torn.keys) :=
    List.mergeSort_perm _ _
  constructor
  · intro whole
    refine List.eq_nil_iff_forall_not_mem.mpr fun entry member => ?_
    have listed : entry.1 ∈ deletedNames saved plan :=
      sorted.mem_iff.mpr (List.mem_append_right _ (List.mem_map_of_mem member))
    have torn := (List.mem_filter.mp member).2
    rw [whole entry.1 listed] at torn
    cases torn
  · intro whole name member
    have listed := sorted.mem_iff.mp member
    rw [whole] at listed
    obtain ⟨uid, -, rfl⟩ : ∃ uid ∈ plan.deleted, LooseText.ofString uid.text = name := by
      simpa [KeyedList.keys] using listed
    exact LooseText.isTorn_ofString uid.text

/-- Saying who is not told of any more changes no file.  It breaks off at a torn name. -/
theorem ensures_reportDeleted {start finish : String} {plan : FetchPlan}
    {done : Unit -> FileTree -> Prop} (breaks : saved.torn ≠ [] -> broken tree)
    (holds : saved.torn = [] -> done () tree) :
    (reportDeleted start finish saved plan).Ensures done broken tree := by
  refine Errand.ensures_forM_printName ?_ fun whole => holds (areWhole_deletedNames_iff.mp whole)
  rintro ⟨name, member, torn⟩
  refine breaks fun whole => ?_
  rw [areWhole_deletedNames_iff.mpr whole name member] at torn
  cases torn

/-- The directory is made, and the vCards are stored there. -/
def StoresInside (directory : FilePath) (cache : Cache) (uids : List Uid)
    (before after : FileTree) : Prop :=
  ∃ made, before.makeDirectory directory = .ok made ∧
    StoresCards directory cache.cards uids made after

/-- What concluding an exchange leaves: the directory is made, the vCards are stored there and then
the manifest. -/
def Concludes (directory : FilePath) (cache : Cache) (uids : List Uid) (before after : FileTree) :
    Prop :=
  ∃ stored, StoresInside directory cache uids before stored ∧
    Folder.StoresManifest directory (.ofManifest cache.timestamps) stored after

/-- What is left where concluding an exchange breaks off: nothing is changed, or the vCards are
stored and a torn name has kept the manifest from being stored. -/
def Interrupts (saved : SavedManifest) (directory : FilePath) (cache : Cache) (uids : List Uid)
    (before after : FileTree) : Prop :=
  after = before ∨ saved.torn ≠ [] ∧ StoresInside directory cache uids before after

/-- Concluding an exchange stores everything, unless it breaks off. -/
theorem ensures_concludes (saved : SavedManifest) (plan : FetchPlan) (result : FetchResult)
    {cache : Cache} {found : Option String} (writable : IsWritable (.ofManifest cache.timestamps))
    (readable : tree.read (Folder.manifestPath client.directory) = .ok found) :
    (client.conclude saved plan result cache).Ensures
      (fun _ after => saved.torn = [] ∧
        Concludes client.directory cache result.updated tree after)
      (Interrupts saved client.directory cache result.updated tree) tree := by
  rw [conclude, Errand.ensures_bind]
  refine Errand.ensures_ensureDirectory (.inl rfl) fun made makes => ?_
  have readableMade : made.read (Folder.manifestPath client.directory) = .ok found := by
    have short := Folder.hasLongName_manifestPath client.directory
    rw [Folder.manifestPath_eq] at short readable ⊢
    exact FileTree.read_makeDirectory_child makes short readable
  rw [Errand.ensures_bind]
  refine (ensures_storeCards cache result.updated readableMade).imp fun _ stored stores => ?_
  have readableLater : stored.read (Folder.manifestPath client.directory) = .ok found := by
    rw [stores.elsewhere _ fun uid _ => (Folder.cardPath_ne_manifestPath _ uid).symm, readableMade]
  rw [Errand.ensures_bind]
  refine Errand.ensures_forM_print _ _ ?_
  rw [Errand.ensures_bind]
  refine Errand.ensures_forM_print _ _ ?_
  rw [Errand.ensures_bind]
  refine ensures_reportDeleted (fun torn => .inr ⟨torn, made, makes, stores⟩) fun whole => ?_
  rw [whole, List.append_nil, Errand.ensures_bind]
  refine (Folder.ensures_writeManifest writable readableLater).imp fun _ after told => ?_
  exact (Errand.ensures_print _).mpr ⟨rfl, stored, ⟨made, makes, stores⟩, told⟩

/-- Concluding an exchange leaves the folder with what the requester knows. -/
theorem ensures_conclude (plan : FetchPlan)
    (holds : Folder.Holds space client.directory manifest tree) (same : loaded.Perm manifest)
    (began : before.cache = ⟨loaded, []⟩) (inSpace : before.session.space = space)
    (accepts : before.Accepts accepted result finished) :
    (client.conclude (.ofManifest loaded) plan result finished.cache).Ensures
      (fun _ after => Folder.Holds space client.directory finished.cache.timestamps after)
      (· = tree) tree := by
  obtain ⟨text, readable⟩ := holds.stored.readable
  have writable := isWritable_of_accepts (holds.of_perm same).isWritable began accepts
  refine (ensures_concludes _ plan result writable readable).mono ?_ ?_
  · rintro - after ⟨-, stored, ⟨made, makes, stores⟩, told⟩
    have present := (holds.of_makeDirectory makes).toHasCards.of_perm same
    have has := hasCards_of_stores present began inSpace accepts stores
    refine ⟨⟨has.once, fun uid timestamp known => ?_⟩, told.told⟩
    exact (has.card uid timestamp known).of_read_eq
      (told.elsewhere _ (Folder.cardPath_ne_manifestPath _ uid))
  · rintro after (unchanged | ⟨torn, -⟩)
    · exact unchanged
    · exact absurd (SavedManifest.torn_ofManifest loaded) torn

/-- A sync leaves a coherent folder, or breaks off before it has changed any file. -/
theorem ensures_sync (client : Client) (inSpace : client.space = some space)
    (holds : Folder.Holds space client.directory manifest tree) :
    (client.sync now).Ensures
      (fun _ after => Folder.IsCoherent space client.directory after) (· = tree) tree := by
  rw [sync, Errand.ensures_bind]
  refine holds.ensures_readManifest.imp ?_
  rintro _ after ⟨⟨loaded, rfl, same⟩, rfl⟩
  rw [SavedManifest.manifest_ofManifest, Errand.ensures_bind]
  refine (ensures_plan client loaded after).imp ?_
  rintro ⟨plan, planned⟩ later ⟨rfl, keeps⟩
  show Errand.Ensures _ _ (client.fetch now planned >>= _) _
  rw [Errand.ensures_bind]
  refine (ensures_fetch client planned later).imp ?_
  rintro ⟨result, finished⟩ last ⟨rfl, accepted, accepts⟩
  show Errand.Ensures _ _
    (client.conclude (.ofManifest loaded) plan result finished.cache >>= _) _
  rw [Errand.ensures_bind]
  rw [inSpace] at keeps
  refine (ensures_conclude plan holds same keeps.cache keeps.space accepts).imp ?_
  exact fun _ final held => (Errand.ensures_pure _).mpr ⟨_, held⟩

end Client

end PairedContacts
