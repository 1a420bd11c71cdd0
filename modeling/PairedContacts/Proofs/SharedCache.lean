import PairedContacts.Proofs.Session.Coherence

/-!
# Sessions over one cache

Any number of sessions share a cache, and their steps come in any order with any packets.  A step
that fails is refused for its order or for its packet, and it leaves no trace: a run goes on as if
it had not been tried.  In the cache every vCard stays filed under the uID that its metadata names,
together with the timestamp that its metadata tells.
-/

set_option autoImplicit false

namespace PairedContacts

structure SharedCache where
  sessions : List Session
  cache : Cache

/-- What may happen next; a session is named by its place. -/
inductive Move where
  | begin (space : String)
  | call (place : Nat) (call : SessionCall)

def Move.space? : Move -> Option String
  | begin space => some space
  | call _ _ => none

/-- The outcome of a call, if a session was called. -/
abbrev Report := Option (Except Failure Answer)

def Report.isFailure (report : Report) : Bool :=
  report.any fun outcome => !outcome.toBool

namespace SharedCache

variable {ι : Type}

def start (cache : Cache) : SharedCache :=
  ⟨[], cache⟩

def act (state : SharedCache) : Move -> SharedCache × Report
  | .begin space => (⟨state.sessions ++ [.fresh space], state.cache⟩, none)
  | .call place call =>
      match state.sessions[place]? with
      | none => (state, none)
      | some session =>
          let (run, after) := call.take ⟨session, state.cache⟩
          (⟨state.sessions.set place after.session, after.cache⟩, some run.outcome)

/-- Where a run leads.  Every move carries a label by which its report can be told. -/
def run (state : SharedCache) (moves : List (ι × Move)) : SharedCache :=
  moves.foldl (fun reached move => (reached.act move.2).1) state

def reports (state : SharedCache) : List (ι × Move) -> List (ι × Report)
  | [] => []
  | move :: rest => (move.1, (state.act move.2).2) :: reports (state.act move.2).1 rest

end SharedCache

/-! ## Calls that fail -/

/-- A failure by which a session refuses a call: out of order, or for its packet. -/
def Failure.IsRefusal (failure : Failure) : Prop :=
  (∃ fault, failure = .outOfOrder fault) ∨ ∃ fault, failure = .request fault

/-- A step that fails only by refusing, and then changes nothing. -/
def Step.IsGuarded {α : Type} (step : Step α) : Prop :=
  ∀ requester failure, (step requester).1.outcome = .error failure ->
    failure.IsRefusal ∧ (step requester).2 = requester

theorem SessionCall.isGuarded_take (call : SessionCall) : call.take.IsGuarded := by
  intro requester failure failed
  have effect := call.effect_take requester
  rw [failed] at effect
  generalize (call.take requester).2 = after at effect ⊢
  cases effect with
  | outOfOrder early => exact ⟨.inl ⟨_, rfl⟩, rfl⟩
  | rejected ready => exact ⟨.inr ⟨_, rfl⟩, rfl⟩

/-- A session that has taken a manifest holds the plan for it. -/
def Session.HasPlan (session : Session) : Prop :=
  session.phase = .manifestReceived ->
    ∃ known, session.plan = FetchPlan.compute known session.remote

theorem SessionCall.Effect.hasPlan {call : SessionCall} {before after : Requester}
    {outcome : Except Failure Answer} (effect : call.Effect before outcome after)
    (planned : before.session.HasPlan) : after.session.HasPlan := by
  cases effect with
  | outOfOrder early => exact planned
  | rejected ready => exact planned
  | planned ready read => exact fun _ => ⟨_, rfl⟩
  | asked ready | upToDate ready nothing | fetching ready wanted | received ready judges =>
      intro phase
      cases phase

namespace SharedCache

variable {ι : Type} {state : SharedCache}

/-- A property of sessions and their cache that starts with every session and that calls keep holds
of every session in a run. -/
theorem run_induction (kept : SharedCache -> Prop) {moves : List (ι × Move)}
    (acts : ∀ state, ∀ move ∈ moves, kept state -> kept (act state move.2).1) (begun : kept state) :
    kept (run state moves) := by
  induction moves generalizing state with
  | nil => exact begun
  | cons move rest ih =>
      rw [run, List.foldl_cons]
      exact ih (fun other later member => acts other later (List.mem_cons_of_mem _ member))
        (acts state move (by simp) begun)

theorem act_call {place : Nat} {session : Session} (found : state.sessions[place]? = some session)
    (call : SessionCall) :
    act state (.call place call) =
      (⟨state.sessions.set place (call.take ⟨session, state.cache⟩).2.session,
        (call.take ⟨session, state.cache⟩).2.cache⟩,
       some (call.take ⟨session, state.cache⟩).1.outcome) := by
  rw [act, found]

theorem act_absent {place : Nat} (absent : state.sessions[place]? = none) (call : SessionCall) :
    act state (.call place call) = (state, none) := by
  rw [act, absent]

theorem hasPlan_act (planned : ∀ session ∈ state.sessions, session.HasPlan) (move : Move) :
    ∀ session ∈ (act state move).1.sessions, session.HasPlan := by
  intro session member
  cases move with
  | begin space =>
      rcases List.mem_append.mp member with old | new
      · exact planned session old
      · obtain rfl := List.mem_singleton.mp new
        intro phase
        cases phase
  | call place call =>
      cases found : state.sessions[place]? with
      | none =>
          rw [act_absent found] at member
          exact planned session member
      | some called =>
          rw [act_call found] at member
          rcases List.mem_or_eq_of_mem_set member with other | rfl
          · exact planned session other
          · exact (call.effect_take _).hasPlan (planned called (List.mem_of_getElem? found))

theorem hasPlan_run (cache : Cache) (moves : List (ι × Move)) :
    ∀ session ∈ (run (start cache) moves).sessions, session.HasPlan :=
  run_induction (fun state => ∀ session ∈ state.sessions, session.HasPlan)
    (fun _ move _ planned => hasPlan_act planned move.2) (by simp [start])

theorem exists_of_isFailure {outcome : Except Failure Answer}
    (failed : Report.isFailure (some outcome) = true) : ∃ failure, outcome = .error failure := by
  cases outcome with
  | error failure => exact ⟨failure, rfl⟩
  | ok answer => cases failed

theorem act_of_failure {move : Move} (failed : Report.isFailure (act state move).2 = true) :
    (act state move).1 = state := by
  cases move with
  | begin space => cases failed
  | call place call =>
      cases found : state.sessions[place]? with
      | none => rw [act_absent found]
      | some session =>
          rw [act_call found] at failed ⊢
          obtain ⟨failure, ended⟩ := exists_of_isFailure failed
          obtain ⟨-, same⟩ := call.isGuarded_take ⟨session, state.cache⟩ failure ended
          have written : state.sessions.set place session = state.sessions := by
            obtain ⟨within, rfl⟩ := List.getElem?_eq_some_iff.mp found
            exact List.set_getElem_self within
          simp only [same, written]

/-- Moves that only report failures can be taken out of a run. -/
theorem run_without_failures {moves : List (ι × Move)} (extra : ι -> Bool)
    (fail : ∀ report ∈ reports state moves, extra report.1 = true ->
      Report.isFailure report.2 = true) :
    run state (moves.filter fun move => !extra move.1) = run state moves ∧
      reports state (moves.filter fun move => !extra move.1) =
        (reports state moves).filter fun report => !extra report.1 := by
  induction moves generalizing state with
  | nil => exact ⟨rfl, rfl⟩
  | cons move rest ih =>
      obtain ⟨ends, told⟩ := ih fun report member => fail report (List.mem_cons_of_mem _ member)
      rw [List.filter_cons, reports, List.filter_cons, run, run, List.foldl_cons]
      cases added : extra move.1 with
      | true =>
          have failed := fail (move.1, (state.act move.2).2) (by simp [reports]) added
          have same := act_of_failure failed
          rw [same] at ends told ⊢
          exact ⟨ends, told⟩
      | false =>
          refine ⟨ends, ?_⟩
          simp only [Bool.not_false, if_true]
          rw [reports, told]

section Hostile

def hostileManifest : Packet :=
  ((Message.respondManifest 1 []).set "uids" (.list [.text "a", .null, .text "b"])).set "a" (.int 5)

def cardOfA : String :=
  "X-KDECONNECT-ID-DEV-phone:a\nX-KDECONNECT-TIMESTAMP:7\nEND:VCARD"

/-- The vCard that was asked for, and the same one for a contact that was not. -/
def hostileCards : Packet :=
  (((Message.respondCards 2 []).set "uids" (.list [.text "b", .text "a"])).set "a"
    (.text cardOfA)).set "b" (.text cardOfA)

/-- A session in which the marked calls come too early or bring the wrong packet. -/
def hostileMoves : List (Bool × Move) :=
  [(false, .begin "KDECONNECT"), (true, .call 0 (.receiveManifest hostileManifest)),
    (false, .call 0 (.requestManifest 1)), (true, .call 0 (.receiveManifest hostileCards)),
    (false, .call 0 (.receiveManifest hostileManifest)), (false, .call 0 (.requestFetch 2)),
    (true, .call 0 (.receiveCards hostileManifest)), (false, .call 0 (.receiveCards hostileCards))]

end Hostile

/-- In a run of any sessions over any cache, a call that fails is refused for its order or for its
packet, never for a plan that is not there, and leaves session and cache as they were.  Taking such
calls out of the run changes neither what the other moves report nor where the run leads. -/
theorem failing_calls_leave_no_trace (cache : Cache) (moves : List (ι × Move)) (extra : ι -> Bool) :
    (∀ session ∈ (run (start cache) moves).sessions,
      (session.phase = .manifestReceived ->
        ∃ known, session.plan = FetchPlan.compute known session.remote) ∧
      ∀ (call : SessionCall) (failure : Failure),
        (call.take ⟨session, (run (start cache) moves).cache⟩).1.outcome = .error failure ->
        ((∃ fault, failure = .outOfOrder fault) ∨ ∃ fault, failure = .request fault) ∧
          (call.take ⟨session, (run (start cache) moves).cache⟩).2 =
            ⟨session, (run (start cache) moves).cache⟩) ∧
    ((∀ report ∈ reports (start cache) moves, extra report.1 = true ->
        Report.isFailure report.2 = true) ->
      run (start cache) (moves.filter fun move => !extra move.1) = run (start cache) moves ∧
        reports (start cache) (moves.filter fun move => !extra move.1) =
          (reports (start cache) moves).filter fun report => !extra report.1) := by
  constructor
  · intro session member
    refine ⟨hasPlan_run cache moves session member, ?_⟩
    intro call failure failed
    exact call.isGuarded_take _ failure failed
  · exact run_without_failures extra

theorem failing_calls_leave_no_trace_hostile :
    run (start .empty) (hostileMoves.filter fun move => !move.1) =
        run (start .empty) hostileMoves ∧
      reports (start .empty) (hostileMoves.filter fun move => !move.1) =
        (reports (start .empty) hostileMoves).filter fun report => !report.1 := by
  refine (failing_calls_leave_no_trace .empty hostileMoves id).2 ?_
  have fail : (reports (start .empty) hostileMoves).all
      (fun report => !report.1 || Report.isFailure report.2) = true := by
    decide +kernel
  intro report member tried
  simpa [show report.1 = true from tried] using List.all_eq_true.mp fail report member

/-! ## Coherence -/

/-- All sessions are in one namespace, in which their cache is coherent. -/
structure IsCoherent (space : String) (state : SharedCache) : Prop where
  spaces : ∀ session ∈ state.sessions, session.space = space
  cache : state.cache.IsCoherent space

theorem IsCoherent.act {space : String} (coherent : state.IsCoherent space) {move : Move}
    (one : ∀ other, move.space? = some other -> other = space) :
    (state.act move).1.IsCoherent space := by
  cases move with
  | begin other =>
      refine ⟨?_, coherent.cache⟩
      intro session member
      rcases List.mem_append.mp member with old | new
      · exact coherent.spaces session old
      · obtain rfl := List.mem_singleton.mp new
        exact one other rfl
  | call place call =>
      cases found : state.sessions[place]? with
      | none =>
          rw [act_absent found]
          exact coherent
      | some called =>
          have before : Requester.IsCoherent space ⟨called, state.cache⟩ :=
            ⟨coherent.spaces called (List.mem_of_getElem? found), coherent.cache⟩
          have after := (call.effect_take _).isCoherent before
          rw [act_call found]
          refine ⟨?_, after.cache⟩
          intro session member
          rcases List.mem_or_eq_of_mem_set member with other | rfl
          · exact coherent.spaces session other
          · exact after.inSpace

theorem isCoherent_run {space : String} {moves : List (ι × Move)}
    (one : ∀ move ∈ moves, ∀ other, move.2.space? = some other -> other = space) :
    (run (start .empty) moves).IsCoherent space :=
  run_induction (IsCoherent space)
    (fun _ move member coherent => coherent.act (one move member))
    ⟨by simp [start], Cache.isCoherent_empty space⟩

/-- Whatever sessions of one namespace do over a cache that was empty, and whatever packets they are
given: the cache has vCards and timestamps for the same contacts, and every vCard reads back to the
uID that it is filed under and to the timestamp beside it. -/
theorem cache_stays_coherent {space : String} (moves : List (ι × Move))
    (one : ∀ move ∈ moves, ∀ other, move.2.space? = some other -> other = space) :
    let cache := (run (start .empty) moves).cache
    cache.cards.keys = KeyedList.keys cache.timestamps ∧
      ∀ uid ∈ cache.cards.keys, ∃ text timestamp finalized,
        KeyedList.get? cache.cards uid = some text ∧
        KeyedList.get? cache.timestamps uid = some timestamp ∧
        VCard.parseFinalized space text = .ok finalized ∧
        finalized.metadata.uid = uid ∧ finalized.metadata.timestamp = timestamp := by
  have coherent := (isCoherent_run one).cache
  refine ⟨coherent.sameKeys, ?_⟩
  intro uid cached
  obtain ⟨text, timestamp, found, told, finalized, parsed, named, dated⟩ :=
    coherent.exists_card cached
  exact ⟨text, timestamp, finalized, found, told, parsed, named, dated⟩

theorem cache_stays_coherent_hostile :
    (∀ move ∈ hostileMoves, ∀ other, move.2.space? = some other -> other = "KDECONNECT") ∧
      let cache := (run (start .empty) hostileMoves).cache
      cache.cards.keys = KeyedList.keys cache.timestamps ∧
        ∀ uid ∈ cache.cards.keys, ∃ text timestamp finalized,
          KeyedList.get? cache.cards uid = some text ∧
          KeyedList.get? cache.timestamps uid = some timestamp ∧
          VCard.parseFinalized "KDECONNECT" text = .ok finalized ∧
          finalized.metadata.uid = uid ∧ finalized.metadata.timestamp = timestamp :=
  have one : ∀ move ∈ hostileMoves, ∀ other, move.2.space? = some other ->
      other = "KDECONNECT" := by
    simp [hostileMoves, Move.space?]
  ⟨one, cache_stays_coherent hostileMoves one⟩

example : (run (start .empty) hostileMoves).cache.cards = [(⟨"a"⟩, cardOfA)] := by decide +kernel

end SharedCache

end PairedContacts
