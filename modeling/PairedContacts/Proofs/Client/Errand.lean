import PairedContacts.Client.Errand
import PairedContacts.Proofs.Text.Loose

/-!
# What an errand ensures

An errand ensures something if it does so whatever the peer answers: one thing about its result and
the files if it is done, and another about the files if it breaks off.  What it does when a file
cannot be written is left open, so what an errand ensures holds wherever all of its writes succeed.
-/

set_option autoImplicit false

namespace PairedContacts

namespace Errand

variable {α β : Type}

/-- From a tree of files on, an errand that can write its files ends with a result and a tree as
described, or breaks off with a tree as described, whatever is answered to it. -/
def Ensures (done : α -> FileTree -> Prop) (broken : FileTree -> Prop) :
    Errand α -> FileTree -> Prop
  | .done result, tree => done result tree
  | .fail _, tree => broken tree
  | .leave _, tree => broken tree
  | .say _ next, tree => next.Ensures done broken tree
  | .read path next, tree =>
      match tree.read path with
      | .ok text => (next text).Ensures done broken tree
      | .error _ => broken tree
  | .write path text next, tree =>
      match tree.write path text with
      | .ok after => next.Ensures done broken after
      | .error _ => True
  | .makeDirectory path next, tree =>
      match tree.makeDirectory path with
      | .ok after => next.Ensures done broken after
      | .error _ => broken tree
  | .post _ _ next, tree => broken tree ∧ ∀ reply, (next reply).Ensures done broken tree

variable {done : β -> FileTree -> Prop} {broken : FileTree -> Prop}

theorem ensures_bind (errand : Errand α) (next : α -> Errand β) (tree : FileTree) :
    (errand >>= next).Ensures done broken tree ↔
      errand.Ensures (fun result after => (next result).Ensures done broken after) broken tree := by
  show (errand.bind next).Ensures done broken tree ↔ _
  induction errand generalizing tree with
  | done result => rfl
  | fail fault => rfl
  | leave code => rfl
  | say line rest ih => exact ih tree
  | read path rest ih =>
      cases given : tree.read path with
      | ok text => simp only [bind, Ensures, given, ih]
      | error fault => simp only [bind, Ensures, given]
  | write path text rest ih =>
      cases given : tree.write path text with
      | ok after => simp only [bind, Ensures, given, ih]
      | error fault => simp only [bind, Ensures, given]
  | makeDirectory path rest ih =>
      cases given : tree.makeDirectory path with
      | ok after => simp only [bind, Ensures, given, ih]
      | error fault => simp only [bind, Ensures, given]
  | post endpoint packet rest ih => simp only [bind, Ensures, ih]

theorem ensures_discard {errand : Errand α} {tree : FileTree} {done : Unit -> FileTree -> Prop} :
    (discard errand).Ensures done broken tree ↔
      errand.Ensures (fun _ after => done () after) broken tree :=
  ensures_bind errand (fun _ => pure ()) tree

theorem Ensures.mono {errand : Errand β} {tree : FileTree} {more : β -> FileTree -> Prop}
    {worse : FileTree -> Prop} (ensures : errand.Ensures done broken tree)
    (ofDone : ∀ result after, done result after -> more result after)
    (ofBroken : ∀ after, broken after -> worse after) : errand.Ensures more worse tree := by
  induction errand generalizing tree with
  | done result => exact ofDone result tree ensures
  | fail fault => exact ofBroken tree ensures
  | leave code => exact ofBroken tree ensures
  | say line rest ih => exact ih ensures
  | read path rest ih =>
      rw [Ensures] at ensures ⊢
      cases given : tree.read path with
      | ok text =>
          rw [given] at ensures
          exact ih text ensures
      | error fault =>
          rw [given] at ensures
          exact ofBroken tree ensures
  | write path text rest ih =>
      rw [Ensures] at ensures ⊢
      cases given : tree.write path text with
      | ok after =>
          rw [given] at ensures
          exact ih ensures
      | error fault => trivial
  | makeDirectory path rest ih =>
      rw [Ensures] at ensures ⊢
      cases given : tree.makeDirectory path with
      | ok after =>
          rw [given] at ensures
          exact ih ensures
      | error fault =>
          rw [given] at ensures
          exact ofBroken tree ensures
  | post endpoint packet rest ih =>
      exact ⟨ofBroken tree ensures.1, fun reply => ih reply (ensures.2 reply)⟩

theorem Ensures.imp {errand : Errand β} {tree : FileTree} {more : β -> FileTree -> Prop}
    (ensures : errand.Ensures done broken tree)
    (weaker : ∀ result after, done result after -> more result after) :
    errand.Ensures more broken tree :=
  ensures.mono weaker fun _ => id

/-! ## Single acts -/

section Acts

variable {tree : FileTree}

theorem ensures_pure (result : β) :
    (pure result : Errand β).Ensures done broken tree ↔ done result tree :=
  Iff.rfl

theorem ensures_fail (fault : ClientFault) :
    (fail fault : Errand β).Ensures done broken tree ↔ broken tree :=
  Iff.rfl

theorem ensures_read {path : FilePath} {text : Option String} (found : tree.read path = .ok text)
    (next : Option String -> Errand β) :
    (read path next).Ensures done broken tree ↔ (next text).Ensures done broken tree := by
  rw [Ensures, found]

theorem ensures_readFile {path : FilePath} {done : Option String -> FileTree -> Prop}
    (breaks : broken tree) (found : ∀ text, tree.read path = .ok text -> done text tree) :
    (readFile path).Ensures done broken tree := by
  rw [readFile, Ensures]
  cases given : tree.read path with
  | ok text => exact found text given
  | error fault => exact breaks

theorem ensures_ofExcept {answer : Except ClientFault β} (breaks : broken tree)
    (succeeds : ∀ result, answer = .ok result -> done result tree) :
    (ofExcept answer).Ensures done broken tree := by
  cases answer with
  | error fault => exact breaks
  | ok result => exact succeeds result rfl

theorem ensures_postPacket {done : Reply -> FileTree -> Prop} {endpoint : Net.Endpoint}
    {packet : Packet} (breaks : broken tree) (answered : ∀ reply, done reply tree) :
    (postPacket endpoint packet).Ensures done broken tree :=
  ⟨breaks, answered⟩

variable {done : Unit -> FileTree -> Prop}

theorem ensures_print (line : String) :
    (print line).Ensures done broken tree ↔ done () tree :=
  Iff.rfl

theorem ensures_writeFile {path : FilePath} {text : String}
    (written : ∀ after, tree.write path text = .ok after -> done () after) :
    (writeFile path text).Ensures done broken tree := by
  rw [writeFile, Ensures]
  cases given : tree.write path text with
  | ok after => exact written after given
  | error fault => trivial

theorem ensures_ensureDirectory {path : FilePath} (breaks : broken tree)
    (made : ∀ after, tree.makeDirectory path = .ok after -> done () after) :
    (ensureDirectory path).Ensures done broken tree := by
  rw [ensureDirectory, Ensures]
  cases given : tree.makeDirectory path with
  | ok after => exact made after given
  | error fault => exact breaks

/-- Saying lines changes no files. -/
theorem ensures_forM_print {ι : Type} (items : List ι) (line : ι -> String)
    (holds : done () tree) :
    (items.forM fun item => print (line item)).Ensures done broken tree := by
  induction items with
  | nil => exact holds
  | cons item rest ih =>
      show (print (line item) >>= fun _ => rest.forM fun item => print (line item)).Ensures
        done broken tree
      rw [ensures_bind]
      exact ih

theorem ensures_printName {before after : String} {name : LooseText}
    (breaks : name.isTorn = true -> broken tree) (holds : name.isTorn = false -> done () tree) :
    (printName before after name).Ensures done broken tree := by
  rw [printName]
  cases plain : name.plain? with
  | none => exact breaks (LooseText.plain?_eq_none_iff.mp plain)
  | some text =>
      obtain rfl := LooseText.plain?_eq_some_iff.mp plain
      exact holds (LooseText.isTorn_ofString text)

/-- Saying names changes no files, and breaks off at one that is torn. -/
theorem ensures_forM_printName {before after : String} {names : List LooseText}
    (breaks : (∃ name ∈ names, name.isTorn = true) -> broken tree)
    (holds : (∀ name ∈ names, name.isTorn = false) -> done () tree) :
    (names.forM (printName before after)).Ensures done broken tree := by
  induction names with
  | nil => exact holds (by simp)
  | cons name rest ih =>
      show (printName before after name >>= fun _ => rest.forM (printName before after)).Ensures
        done broken tree
      rw [ensures_bind]
      refine ensures_printName (fun torn => breaks ⟨name, by simp, torn⟩) fun whole => ?_
      refine ih ?_ fun others => holds (List.forall_mem_cons.mpr ⟨whole, others⟩)
      rintro ⟨other, member, torn⟩
      exact breaks ⟨other, List.mem_cons_of_mem _ member, torn⟩

end Acts

/-! ## What an errand may do -/

/-- An errand that writes files, and that posts packets, only if it may. -/
def Does (mayWrite mayPost : Prop) : Errand α -> Prop
  | .done _ => True
  | .fail _ => True
  | .leave _ => True
  | .say _ next => next.Does mayWrite mayPost
  | .read _ next => ∀ text, (next text).Does mayWrite mayPost
  | .write _ _ next => mayWrite ∧ next.Does mayWrite mayPost
  | .makeDirectory _ next => mayWrite ∧ next.Does mayWrite mayPost
  | .post _ _ next => mayPost ∧ ∀ reply, (next reply).Does mayWrite mayPost

variable {mayWrite mayPost : Prop}

theorem Does.bind {errand : Errand α} {next : α -> Errand β}
    (first : errand.Does mayWrite mayPost) (later : ∀ result, (next result).Does mayWrite mayPost) :
    (errand >>= next).Does mayWrite mayPost := by
  show (errand.bind next).Does mayWrite mayPost
  induction errand with
  | done result => exact later result
  | fail fault => trivial
  | leave code => trivial
  | say line rest ih => exact ih first
  | read path rest ih => exact fun text => ih text (first text)
  | write path text rest ih => exact ⟨first.1, ih first.2⟩
  | makeDirectory path rest ih => exact ⟨first.1, ih first.2⟩
  | post endpoint packet rest ih => exact ⟨first.1, fun reply => ih reply (first.2 reply)⟩

theorem does_ofExcept (answer : Except ClientFault α) :
    (ofExcept answer).Does mayWrite mayPost := by
  cases answer <;> trivial

theorem does_print (line : String) : (print line).Does mayWrite mayPost :=
  trivial

theorem does_printName (before after : String) (name : LooseText) :
    (printName before after name).Does mayWrite mayPost := by
  rw [printName]
  split <;> trivial

theorem does_forM {ι : Type} {items : List ι} {act : ι -> Errand Unit}
    (each : ∀ item, (act item).Does mayWrite mayPost) :
    (items.forM act).Does mayWrite mayPost := by
  induction items with
  | nil => trivial
  | cons item rest ih => exact (each item).bind fun _ => ih

end Errand

namespace World

variable {α β σ : Type}

/-! ## Carrying out -/

/-- An errand that may not write leaves every file as it was, however it ends. -/
theorem tree_perform (peer : Peer σ) {mayPost : Prop} {errand : Errand α}
    (does : errand.Does False mayPost) (world : World σ) :
    (perform peer errand world).2.tree = world.tree := by
  induction errand generalizing world with
  | done result => rfl
  | fail fault => rfl
  | leave code => rfl
  | say line rest ih => exact ih does (world.say line)
  | read path rest ih =>
      rw [perform]
      cases world.tree.read path with
      | ok text => exact ih text (does text) world
      | error fault => rfl
  | write path text rest ih => exact does.1.elim
  | makeDirectory path rest ih => exact does.1.elim
  | post endpoint packet rest ih =>
      rw [perform]
      rcases peer world.memory endpoint packet with ⟨answer, memory⟩
      cases answer with
      | ok reply => exact ih reply (does.2 reply) _
      | error fault => rfl

/-- An errand that may not post leaves the peer alone. -/
theorem talk_perform (peer : Peer σ) {mayWrite : Prop} {errand : Errand α}
    (does : errand.Does mayWrite False) (world : World σ) :
    (perform peer errand world).2.posts = world.posts ∧
      (perform peer errand world).2.memory = world.memory := by
  induction errand generalizing world with
  | done result => exact ⟨rfl, rfl⟩
  | fail fault => exact ⟨rfl, rfl⟩
  | leave code => exact ⟨rfl, rfl⟩
  | say line rest ih => exact ih does (world.say line)
  | read path rest ih =>
      rw [perform]
      cases world.tree.read path with
      | ok text => exact ih text (does text) world
      | error fault => exact ⟨rfl, rfl⟩
  | write path text rest ih =>
      rw [perform]
      cases world.tree.write path text with
      | ok tree => exact ih does.2 { world with tree := tree }
      | error fault => exact ⟨rfl, rfl⟩
  | makeDirectory path rest ih =>
      rw [perform]
      cases world.tree.makeDirectory path with
      | ok tree => exact ih does.2 { world with tree := tree }
      | error fault => exact ⟨rfl, rfl⟩
  | post endpoint packet rest ih => exact does.1.elim

/-- An errand that may neither write nor post only says lines. -/
theorem unchanged_of_perform {peer : Peer σ} {errand : Errand α} {world after : World σ}
    {ending : Ending α} (looks : errand.Does False False)
    (ran : perform peer errand world = (ending, after)) :
    after.tree = world.tree ∧ after.posts = world.posts ∧ after.memory = world.memory := by
  have tree := tree_perform peer looks world
  have talk := talk_perform peer looks world
  rw [ran] at tree talk
  exact ⟨tree, talk⟩

/-- Lines that are said one after another stand behind those that were said before. -/
theorem perform_forM_print (peer : Peer σ) (said : List String) (world : World σ) :
    perform peer (said.forM Errand.print) world =
      (.done (), { world with lines := world.lines ++ said }) := by
  induction said generalizing world with
  | nil =>
      rw [List.append_nil]
      rfl
  | cons first rest ih =>
      have later := ih (world.say first)
      rw [say, List.append_assoc, List.singleton_append] at later
      exact later

/-- An errand that goes on with another one has come to it, or it has ended before, and not with a
result. -/
theorem perform_bind_cases {peer : Peer σ} {errand : Errand α} {next : α -> Errand β}
    {world after : World σ} {ending : Ending β}
    (ran : perform peer (errand >>= next) world = (ending, after)) :
    (∃ value middle, perform peer errand world = (.done value, middle) ∧
      perform peer (next value) middle = (ending, after)) ∨
      (∀ result, ending ≠ .done result) ∧ (perform peer errand world).2 = after := by
  rw [perform_bind] at ran
  rcases ended : perform peer errand world with ⟨first, middle⟩
  rw [ended] at ran
  cases first with
  | done value => exact .inl ⟨value, middle, rfl, ran⟩
  | left code =>
      cases ran
      exact .inr ⟨by simp, rfl⟩
  | failed fault =>
      cases ran
      exact .inr ⟨by simp, rfl⟩

/-- What goes on after an errand is done began where the errand left off. -/
theorem exists_of_perform_bind {peer : Peer σ} {errand : Errand α} {next : α -> Errand β}
    {world after : World σ} {result : β}
    (ran : perform peer (errand >>= next) world = (.done result, after)) :
    ∃ value middle, perform peer errand world = (.done value, middle) ∧
      perform peer (next value) middle = (.done result, after) :=
  (perform_bind_cases ran).resolve_right fun ended => ended.1 result rfl

/-- What an errand ensures of its result is true whenever it is done. -/
theorem result_of_perform {peer : Peer σ} {done : α -> FileTree -> Prop}
    {broken : FileTree -> Prop} {errand : Errand α} {world after : World σ} {result : α}
    (ensures : errand.Ensures done broken world.tree)
    (ran : perform peer errand world = (.done result, after)) : done result after.tree := by
  induction errand generalizing world with
  | done value =>
      cases ran
      exact ensures
  | fail fault => cases ran
  | leave code => cases ran
  | say line rest ih =>
      refine ih ?_ ran
      exact ensures
  | read path rest ih =>
      rw [Errand.Ensures] at ensures
      rw [perform] at ran
      cases given : world.tree.read path with
      | ok text =>
          rw [given] at ensures ran
          exact ih text ensures ran
      | error fault =>
          rw [given] at ran
          cases ran
  | write path text rest ih =>
      rw [Errand.Ensures] at ensures
      rw [perform] at ran
      cases given : world.tree.write path text with
      | ok tree =>
          rw [given] at ensures ran
          exact ih ensures ran
      | error fault =>
          rw [given] at ran
          cases ran
  | makeDirectory path rest ih =>
      rw [Errand.Ensures] at ensures
      rw [perform] at ran
      cases given : world.tree.makeDirectory path with
      | ok tree =>
          rw [given] at ensures ran
          exact ih ensures ran
      | error fault =>
          rw [given] at ran
          cases ran
  | post endpoint packet rest ih =>
      rw [perform] at ran
      rcases given : peer world.memory endpoint packet with ⟨answer, memory⟩
      rw [given] at ran
      cases answer with
      | ok reply =>
          refine ih reply ?_ ran
          exact ensures.2 reply
      | error fault => cases ran

/-- Whether every file is written that an errand writes. -/
def writesSucceed (peer : Peer σ) : Errand α -> World σ -> Bool
  | .done _, _ => true
  | .fail _, _ => true
  | .leave _, _ => true
  | .say line next, world => writesSucceed peer next (world.say line)
  | .read path next, world =>
      match world.tree.read path with
      | .ok text => writesSucceed peer (next text) world
      | .error _ => true
  | .write path text next, world =>
      match world.tree.write path text with
      | .ok tree => writesSucceed peer next { world with tree := tree }
      | .error _ => false
  | .makeDirectory path next, world =>
      match world.tree.makeDirectory path with
      | .ok tree => writesSucceed peer next { world with tree := tree }
      | .error _ => true
  | .post endpoint packet next, world =>
      let (answer, memory) := peer world.memory endpoint packet
      match answer with
      | .ok reply => writesSucceed peer (next reply) (world.posted endpoint packet memory)
      | .error _ => true

/-- An errand whose files are all written, writes those of each of its parts. -/
theorem writesSucceed_of_bind {peer : Peer σ} {errand : Errand α} {next : α -> Errand β}
    {world middle : World σ} {value : α}
    (written : writesSucceed peer (errand >>= next) world = true)
    (ran : perform peer errand world = (.done value, middle)) :
    writesSucceed peer (next value) middle = true := by
  change writesSucceed peer (errand.bind next) world = true at written
  induction errand generalizing world with
  | done result =>
      cases ran
      exact written
  | fail fault => cases ran
  | leave code => cases ran
  | say line rest ih => exact ih ran written
  | read path rest ih =>
      rw [Errand.bind, writesSucceed] at written
      rw [perform] at ran
      cases given : world.tree.read path with
      | ok text =>
          rw [given] at written ran
          exact ih text ran written
      | error fault =>
          rw [given] at ran
          cases ran
  | write path text rest ih =>
      rw [Errand.bind, writesSucceed] at written
      rw [perform] at ran
      cases given : world.tree.write path text with
      | ok tree =>
          rw [given] at written ran
          exact ih ran written
      | error fault =>
          rw [given] at ran
          cases ran
  | makeDirectory path rest ih =>
      rw [Errand.bind, writesSucceed] at written
      rw [perform] at ran
      cases given : world.tree.makeDirectory path with
      | ok tree =>
          rw [given] at written ran
          exact ih ran written
      | error fault =>
          rw [given] at ran
          cases ran
  | post endpoint packet rest ih =>
      rw [Errand.bind, writesSucceed] at written
      rw [perform] at ran
      rcases given : peer world.memory endpoint packet with ⟨answer, memory⟩
      rw [given] at written ran
      cases answer with
      | ok reply => exact ih reply ran written
      | error fault => cases ran

/-- How an errand ended, as a result with a tree of files or as a breach. -/
structure Meets (done : α -> FileTree -> Prop) (broken : FileTree -> Prop)
    (ended : Ending α × World σ) : Prop where
  result : ∀ result, ended.1 = .done result -> done result ended.2.tree
  breach : (∀ result, ended.1 ≠ .done result) -> broken ended.2.tree

theorem meets_failed {done : α -> FileTree -> Prop} {broken : FileTree -> Prop}
    {world : World σ} (breaks : broken world.tree) (fault : ClientFault) :
    Meets done broken (.failed fault, world) := by
  refine ⟨fun result same => ?_, fun _ => breaks⟩
  cases same

theorem meets_left {done : α -> FileTree -> Prop} {broken : FileTree -> Prop}
    {world : World σ} (breaks : broken world.tree) (code : Nat) :
    Meets done broken (.left code, world) := by
  refine ⟨fun result same => ?_, fun _ => breaks⟩
  cases same

theorem Meets.elim {done : α -> FileTree -> Prop} {broken kept : FileTree -> Prop}
    {ended : Ending α × World σ} (meets : Meets done broken ended)
    (ofDone : ∀ result tree, done result tree -> kept tree)
    (ofBroken : ∀ tree, broken tree -> kept tree) : kept ended.2.tree := by
  by_cases finished : ∃ result, ended.1 = .done result
  · obtain ⟨result, done⟩ := finished
    exact ofDone result _ (meets.result result done)
  · exact ofBroken _ (meets.breach fun result done => finished ⟨result, done⟩)

/-- What an errand ensures comes true with every peer if all of its writes succeed. -/
theorem meets_perform {done : α -> FileTree -> Prop} {broken : FileTree -> Prop} (peer : Peer σ)
    {errand : Errand α} {world : World σ} (ensures : errand.Ensures done broken world.tree)
    (written : writesSucceed peer errand world = true) :
    Meets done broken (perform peer errand world) := by
  induction errand generalizing world with
  | done result =>
      refine ⟨?_, fun none => absurd rfl (none result)⟩
      intro other same
      obtain rfl := Ending.done.inj same
      exact ensures
  | fail fault => exact meets_failed ensures fault
  | leave code => exact meets_left ensures code
  | say line rest ih => exact ih ensures written
  | read path rest ih =>
      rw [Errand.Ensures] at ensures
      rw [writesSucceed] at written
      rw [perform]
      cases given : world.tree.read path with
      | ok text =>
          rw [given] at ensures written
          exact ih text ensures written
      | error fault =>
          rw [given] at ensures
          exact meets_failed ensures _
  | write path text rest ih =>
      rw [Errand.Ensures] at ensures
      rw [writesSucceed] at written
      rw [perform]
      cases given : world.tree.write path text with
      | ok tree =>
          rw [given] at ensures written
          exact ih ensures written
      | error fault =>
          rw [given] at written
          cases written
  | makeDirectory path rest ih =>
      rw [Errand.Ensures] at ensures
      rw [writesSucceed] at written
      rw [perform]
      cases given : world.tree.makeDirectory path with
      | ok tree =>
          rw [given] at ensures written
          exact ih ensures written
      | error fault =>
          rw [given] at ensures
          exact meets_failed ensures _
  | post endpoint packet rest ih =>
      rw [writesSucceed] at written
      rw [perform]
      rcases given : peer world.memory endpoint packet with ⟨answer, memory⟩
      cases answer with
      | ok reply =>
          rw [given] at written
          exact ih reply (ensures.2 reply) written
      | error fault =>
          have kept : broken (world.posted endpoint packet memory).tree := ensures.1
          exact meets_failed kept fault

end World

-- What an errand ensures is told by the lemmas above; it is not to be worked out by running it.
attribute [irreducible] Errand.Ensures

end PairedContacts
