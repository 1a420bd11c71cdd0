import PairedContacts.Proofs.Contacts.FetchPlan
import PairedContacts.Proofs.SharedCache

/-!
# The course of a session

A session is called any number of times, in any order and with any packets, and its cache may be
another one at every call, since other sessions write to it.  Of all these calls at most four are
taken, one for every phase and in the order of the phases; the others are refused and leave the
session as it was.
-/

set_option autoImplicit false

namespace PairedContacts

/-! ## One call after another -/

/-- A call of a session: the cache that it found, its outcome, and the session before and after. -/
structure Turn where
  call : SessionCall
  cache : Cache
  before : Session
  outcome : Except Failure Answer
  after : Session

namespace Session

variable {session : Session}

def turn (session : Session) (called : Cache × SessionCall) : Turn where
  call := called.2
  cache := called.1
  before := session
  outcome := (called.2.take ⟨session, called.1⟩).1.outcome
  after := (called.2.take ⟨session, called.1⟩).2.session

/-- The turns of a session that is called again and again, each time with whatever is in its cache
by then. -/
def turns (session : Session) : List (Cache × SessionCall) -> List Turn
  | [] => []
  | called :: rest => session.turn called :: turns (session.turn called).after rest

def reached (session : Session) (calls : List (Cache × SessionCall)) : Session :=
  calls.foldl (fun state called => (state.turn called).after) session

theorem exists_of_turns_eq {calls : List (Cache × SessionCall)} {earlier later : List Turn}
    {turn : Turn} (parts : session.turns calls = earlier ++ turn :: later) :
    ∃ first called rest, calls = first ++ called :: rest ∧ earlier = session.turns first ∧
      turn = (session.reached first).turn called ∧ later = turn.after.turns rest := by
  induction earlier generalizing session calls with
  | nil =>
      cases calls with
      | nil => cases parts
      | cons called rest =>
          obtain ⟨rfl, rfl⟩ := List.cons.inj parts
          exact ⟨[], called, rest, rfl, rfl, rfl, rfl⟩
  | cons head tail ih =>
      cases calls with
      | nil => cases parts
      | cons called rest =>
          obtain ⟨rfl, others⟩ := List.cons.inj parts
          obtain ⟨first, next, final, rfl, rfl, same, ends⟩ := ih others
          exact ⟨called :: first, next, final, rfl, rfl, same, ends⟩

end Session

namespace Turn

/-- Whether the call was taken; a call that fails is refused. -/
def isTaken (turn : Turn) : Bool :=
  turn.outcome.toBool

def emitted? (turn : Turn) : Option Packet :=
  match turn.outcome with
  | .ok (.asked request) => some request
  | .ok (.fetching request) => request
  | _ => none

/-- The turn asked for the manifest. -/
def Asks (turn : Turn) : Prop :=
  ∃ now, turn.outcome = .ok (.asked (Message.requestManifest now))

/-- The turn accepted a manifest, and planned with it and the timestamps that it found cached. -/
def Accepts (turn : Turn) (plan : FetchPlan) : Prop :=
  turn.outcome = .ok (.planned plan) ∧
    ∃ packet remote, turn.call = .receiveManifest packet ∧
      (Message.readManifest packet).outcome = .ok remote ∧
      plan = FetchPlan.compute turn.cache.timestamps remote

/-- The turn asked for vCards. -/
def Fetches (turn : Turn) (uids : List Uid) : Prop :=
  ∃ now, turn.outcome = .ok (.fetching (some (Message.requestCards now uids)))

end Turn

/-- The turns that a session has taken so far, as its phase tells. -/
def Session.HasTaken (session : Session) (taken : List Turn) : Prop :=
  match session.phase with
  | .idle => taken = []
  | .manifestRequested => ∃ asked, taken = [asked] ∧ asked.Asks
  | .manifestReceived =>
      ∃ asked accepted, taken = [asked, accepted] ∧ asked.Asks ∧ accepted.Accepts session.plan
  | .fetchRequested =>
      ∃ asked accepted fetch, taken = [asked, accepted, fetch] ∧ asked.Asks ∧
        accepted.Accepts session.plan ∧ fetch.Fetches session.plan.toFetch ∧
        session.requested = session.plan.toFetch
  | .complete =>
      ∃ asked accepted, asked.Asks ∧ accepted.Accepts session.plan ∧
        ((∃ final, taken = [asked, accepted, final] ∧ final.outcome = .ok (.fetching none)) ∨
          ∃ fetch final, taken = [asked, accepted, fetch, final] ∧
            fetch.Fetches session.plan.toFetch ∧
            ∃ result, final.outcome = .ok (.received result))

theorem Session.HasTaken.of_manifestReceived {session : Session} {taken : List Turn}
    (course : session.HasTaken taken) (phase : session.phase = .manifestReceived) :
    ∃ asked accepted, taken = [asked, accepted] ∧ asked.Asks ∧ accepted.Accepts session.plan := by
  simpa only [HasTaken, phase] using course

theorem Session.HasTaken.of_fetchRequested {session : Session} {taken : List Turn}
    (course : session.HasTaken taken) (phase : session.phase = .fetchRequested) :
    ∃ asked accepted fetch, taken = [asked, accepted, fetch] ∧ asked.Asks ∧
      accepted.Accepts session.plan ∧ fetch.Fetches session.plan.toFetch ∧
      session.requested = session.plan.toFetch := by
  simpa only [HasTaken, phase] using course

theorem Session.HasTaken.next {before after : Requester} {taken : List Turn} {call : SessionCall}
    {outcome : Except Failure Answer} (course : before.session.HasTaken taken)
    (effect : call.Effect before outcome after) :
    after.session.HasTaken (taken ++
      [⟨call, before.cache, before.session, outcome, after.session⟩].filter Turn.isTaken) := by
  cases effect with
  | outOfOrder early => simpa [Turn.isTaken, Except.toBool] using course
  | rejected ready => simpa [Turn.isTaken, Except.toBool] using course
  | asked ready =>
      simp only [HasTaken, ready] at course
      subst course
      exact ⟨_, rfl, _, rfl⟩
  | planned ready read =>
      simp only [HasTaken, ready] at course
      obtain ⟨asked, rfl, asks⟩ := course
      exact ⟨asked, _, rfl, asks, rfl, _, _, rfl, read, rfl⟩
  | upToDate ready nothing =>
      obtain ⟨asked, accepted, rfl, asks, accepts⟩ := course.of_manifestReceived ready
      exact ⟨asked, accepted, asks, accepts, .inl ⟨_, rfl, rfl⟩⟩
  | fetching ready wanted =>
      obtain ⟨asked, accepted, rfl, asks, accepts⟩ := course.of_manifestReceived ready
      exact ⟨asked, accepted, _, rfl, asks, accepts, ⟨_, rfl⟩, rfl⟩
  | received ready judges =>
      obtain ⟨asked, accepted, fetch, rfl, asks, accepts, fetches, -⟩ :=
        course.of_fetchRequested ready
      exact ⟨asked, accepted, asks, accepts, .inr ⟨fetch, _, rfl, fetches, _, rfl⟩⟩

namespace Session

variable {session : Session} {calls : List (Cache × SessionCall)} {turn : Turn}

theorem effect_turn (session : Session) (called : Cache × SessionCall) :
    called.2.Effect ⟨session, called.1⟩ (session.turn called).outcome
      (called.2.take ⟨session, called.1⟩).2 :=
  called.2.effect_take ⟨session, called.1⟩

theorem HasTaken.turns {taken : List Turn} (course : session.HasTaken taken)
    (calls : List (Cache × SessionCall)) :
    (session.reached calls).HasTaken (taken ++ (session.turns calls).filter Turn.isTaken) := by
  -- The turns already taken are carried along: what the phase tells is about all of them.
  induction calls generalizing session taken with
  | nil => simpa [turns, reached] using course
  | cons called rest ih =>
      have split : (session.turns (called :: rest)).filter Turn.isTaken =
          [session.turn called].filter Turn.isTaken ++
            ((session.turn called).after.turns rest).filter Turn.isTaken :=
        List.filter_append [session.turn called] _
      rw [split, ← List.append_assoc]
      exact ih (course.next (effect_turn session called))

theorem hasTaken_turns (space : String) (calls : List (Cache × SessionCall)) :
    ((fresh space).reached calls).HasTaken (((fresh space).turns calls).filter Turn.isTaken) := by
  have begun : (fresh space).HasTaken [] := rfl
  exact begun.turns calls

end Session

/-! ## The order of the phases -/

/-- A turn that is refused leaves the session as it was, and every other one leads it to the next
phase; only a session that has nothing to fetch leaves out a phase. -/
def Turn.Advances (turn : Turn) : Prop :=
  (turn.isTaken = false ∧ turn.after = turn.before) ∨
    turn.after.phase.rank = turn.before.phase.rank + 1 ∨
    (turn.before.phase = .manifestReceived ∧ turn.after.phase = .complete ∧
      turn.outcome = .ok (.fetching none))

theorem SessionCall.Effect.advances {call : SessionCall} {before after : Requester}
    {outcome : Except Failure Answer} (effect : call.Effect before outcome after) :
    Turn.Advances ⟨call, before.cache, before.session, outcome, after.session⟩ := by
  cases effect with
  | outOfOrder early => exact .inl ⟨rfl, rfl⟩
  | rejected ready => exact .inl ⟨rfl, rfl⟩
  | asked ready => exact .inr (.inl (by rw [ready]; rfl))
  | planned ready read => exact .inr (.inl (by rw [ready]; rfl))
  | upToDate ready nothing => exact .inr (.inr ⟨ready, rfl, rfl⟩)
  | fetching ready wanted => exact .inr (.inl (by rw [ready]; rfl))
  | received ready judges => exact .inr (.inl (by rw [ready]; rfl))

theorem Turn.Advances.rank_le {turn : Turn} (advances : turn.Advances) :
    turn.before.phase.rank ≤ turn.after.phase.rank := by
  rcases advances with ⟨-, same⟩ | next | ⟨received, complete, -⟩
  · rw [same]
  · omega
  · rw [received, complete]
    decide

namespace Session

variable {session : Session} {calls : List (Cache × SessionCall)} {turn : Turn}

theorem advances_turn (session : Session) (called : Cache × SessionCall) :
    (session.turn called).Advances :=
  (effect_turn session called).advances

theorem exists_of_mem_turns (member : turn ∈ session.turns calls) :
    ∃ first called, turn = (session.reached first).turn called := by
  obtain ⟨earlier, later, parts⟩ := List.append_of_mem member
  obtain ⟨first, called, -, -, -, same, -⟩ := exists_of_turns_eq parts
  exact ⟨first, called, same⟩

theorem rank_le_of_mem_turns (member : turn ∈ session.turns calls) :
    session.phase.rank ≤ turn.before.phase.rank := by
  induction calls generalizing session with
  | nil => cases member
  | cons called rest ih =>
      rcases List.mem_cons.mp member with rfl | later
      · exact Nat.le_refl _
      · exact (advances_turn session called).rank_le.trans (ih later)

theorem pairwise_rank_turns (session : Session) (calls : List (Cache × SessionCall)) :
    (session.turns calls).Pairwise fun one other =>
      one.after.phase.rank ≤ other.before.phase.rank := by
  induction calls generalizing session with
  | nil => exact List.Pairwise.nil
  | cons called rest ih =>
      exact List.pairwise_cons.mpr ⟨fun _ later => rank_le_of_mem_turns later, ih _⟩

/-! ## What is emitted -/

theorem filterMap_emitted?_filter (turns : List Turn) :
    (turns.filter Turn.isTaken).filterMap Turn.emitted? = turns.filterMap Turn.emitted? := by
  induction turns with
  | nil => rfl
  | cons turn rest ih =>
      rw [List.filter_cons, List.filterMap_cons, ← ih]
      cases ended : turn.outcome with
      | error failure => simp [Turn.isTaken, Turn.emitted?, ended, Except.toBool]
      | ok answer => simp [Turn.isTaken, ended, Except.toBool, List.filterMap_cons]

theorem HasTaken.emitted {taken : List Turn} (course : session.HasTaken taken) :
    taken.filterMap Turn.emitted? = [] ∨
      (∃ now, taken.filterMap Turn.emitted? = [Message.requestManifest now]) ∨
      ∃ now later uids, taken.filterMap Turn.emitted? =
        [Message.requestManifest now, Message.requestCards later uids] := by
  cases phase : session.phase with
  | idle =>
      simp only [HasTaken, phase] at course
      exact .inl (by rw [course]; rfl)
  | manifestRequested =>
      simp only [HasTaken, phase] at course
      obtain ⟨asked, rfl, now, asks⟩ := course
      exact .inr (.inl ⟨now, by simp [Turn.emitted?, asks]⟩)
  | manifestReceived =>
      obtain ⟨asked, accepted, rfl, ⟨now, asks⟩, accepts, -⟩ := course.of_manifestReceived phase
      exact .inr (.inl ⟨now, by simp [Turn.emitted?, asks, accepts]⟩)
  | fetchRequested =>
      obtain ⟨asked, accepted, fetch, rfl, ⟨now, asks⟩, ⟨accepts, -⟩, ⟨later, fetches⟩, -⟩ :=
        course.of_fetchRequested phase
      exact .inr (.inr ⟨now, later, _, by simp [Turn.emitted?, asks, accepts, fetches]; rfl⟩)
  | complete =>
      simp only [HasTaken, phase] at course
      obtain ⟨asked, accepted, ⟨now, asks⟩, ⟨accepts, -⟩, ended⟩ := course
      rcases ended with ⟨final, rfl, nothing⟩ | ⟨fetch, final, rfl, ⟨later, fetches⟩, _, received⟩
      · exact .inr (.inl ⟨now, by simp [Turn.emitted?, asks, accepts, nothing]⟩)
      · exact .inr (.inr ⟨now, later, _, by
          simp [Turn.emitted?, asks, accepts, fetches, received]; rfl⟩)

end Session

theorem SessionCall.Effect.of_fetching {call : SessionCall} {before after : Requester}
    {request : Option Packet} (effect : call.Effect before (.ok (.fetching request)) after) :
    before.session.phase = .manifestReceived ∧
      (request = none ↔ before.session.plan.toFetch = []) ∧
      ∀ fetch, request = some fetch ->
        ∃ now, fetch = Message.requestCards now before.session.plan.toFetch := by
  cases effect with
  | upToDate ready nothing => exact ⟨ready, by simp [nothing], by simp⟩
  | fetching ready wanted =>
      refine ⟨ready, by simp [wanted], ?_⟩
      rintro fetch ⟨⟩
      exact ⟨_, rfl⟩

theorem SessionCall.Effect.of_complete {call : SessionCall} {before after : Requester}
    {outcome : Except Failure Answer} (effect : call.Effect before outcome after)
    (complete : before.session.phase = .complete) :
    outcome = .error (.outOfOrder ⟨call.step, .complete⟩) := by
  cases effect with
  | outOfOrder early => rw [complete]
  | rejected ready =>
      rw [complete] at ready
      cases call <;> cases ready
  | asked ready => cases complete.symm.trans ready
  | planned ready read => cases complete.symm.trans ready
  | upToDate ready nothing => cases complete.symm.trans ready
  | fetching ready wanted => cases complete.symm.trans ready
  | received ready judges => cases complete.symm.trans ready

namespace Session

theorem eq_complete_of_rank_le {phase : Phase} (last : Phase.complete.rank ≤ phase.rank) :
    phase = .complete := by
  cases phase with
  | complete => rfl
  | _ => exact absurd last (by decide)

theorem outcome_of_complete {session : Session} (complete : session.phase = .complete)
    {calls : List (Cache × SessionCall)} {turn : Turn} (member : turn ∈ session.turns calls) :
    turn.outcome = .error (.outOfOrder ⟨turn.call.step, .complete⟩) := by
  have late := rank_le_of_mem_turns member
  obtain ⟨first, called, rfl⟩ := exists_of_mem_turns member
  rw [complete] at late
  exact (effect_turn (session.reached first) called).of_complete (eq_complete_of_rank_le late)

/-- However a session is called, with whatever packets, and whatever happens to its cache in
between: its phases go forward one by one, and only a session with nothing to fetch leaves out the
fourth.  It emits at most one request for the manifest and then at most one for vCards.  Before that
it has accepted one manifest, and it asks for the contacts of which the cache of that moment had no
timestamp or a smaller one, in their order; it asks for none exactly if there are none.  A session
that is complete refuses every call. -/
theorem turns_follow_the_phases (space : String) (calls : List (Cache × SessionCall)) :
    let turns := (fresh space).turns calls
    (∀ turn ∈ turns, turn.Advances) ∧
    (turns.Pairwise fun one other => one.after.phase.rank ≤ other.before.phase.rank) ∧
    (turns.filterMap Turn.emitted? = [] ∨
      (∃ now, turns.filterMap Turn.emitted? = [Message.requestManifest now]) ∨
      ∃ now later uids, turns.filterMap Turn.emitted? =
        [Message.requestManifest now, Message.requestCards later uids]) ∧
    (∀ earlier turn later request, turns = earlier ++ turn :: later ->
      turn.outcome = .ok (.fetching request) ->
      ∃ asked accepted packet remote uids,
        earlier.filter Turn.isTaken = [asked, accepted] ∧ asked.Asks ∧
        accepted.call = .receiveManifest packet ∧
        (Message.readManifest packet).outcome = .ok remote ∧
        Uid.Ascending uids ∧
        (∀ uid, uid ∈ uids ↔ ∃ there, KeyedList.get? remote uid = some there ∧
          ∀ here, KeyedList.get? accepted.cache.timestamps uid = some here -> here < there) ∧
        (request = none ↔ uids = []) ∧
        ∀ fetch, request = some fetch -> ∃ now, fetch = Message.requestCards now uids) ∧
    ∀ earlier turn later, turns = earlier ++ turn :: later -> turn.after.phase = .complete ->
      ∀ next ∈ later, next.outcome = .error (.outOfOrder ⟨next.call.step, .complete⟩) := by
  intro turns
  refine ⟨?_, pairwise_rank_turns _ _, ?_, ?_, ?_⟩
  · intro turn member
    obtain ⟨first, called, rfl⟩ := exists_of_mem_turns member
    exact advances_turn _ called
  · rw [← filterMap_emitted?_filter]
    exact (hasTaken_turns space calls).emitted
  · intro earlier turn later request parts released
    obtain ⟨first, called, rest, -, rfl, rfl, -⟩ := exists_of_turns_eq parts
    have effect := effect_turn ((fresh space).reached first) called
    rw [released] at effect
    obtain ⟨received, nothing, asks⟩ := effect.of_fetching
    obtain ⟨asked, accepted, taken, begins, -, packet, remote, manifest, read, planned⟩ :=
      (hasTaken_turns space first).of_manifestReceived received
    rw [planned] at nothing asks
    refine ⟨asked, accepted, packet, remote, _, taken, begins, manifest, read,
      FetchPlan.ascending_toFetch _ _, ?_, nothing, asks⟩
    intro uid
    rw [FetchPlan.mem_toFetch_iff, FetchPlan.verdict_eq_fetch_iff]
  · intro earlier turn later parts complete next member
    obtain ⟨first, called, rest, -, -, -, rfl⟩ := exists_of_turns_eq parts
    exact outcome_of_complete complete member

/-- Calls of which some come too early, and after which the cache has what was to be fetched. -/
def hastyCalls : List (Cache × SessionCall) :=
  [(.empty, .requestFetch 0), (.empty, .requestManifest 1), (.empty, .requestManifest 2),
    (.empty, .receiveManifest SharedCache.hostileManifest)]

/-- The request goes by the cache of the moment when the manifest was accepted. -/
theorem turns_follow_the_phases_hastyCalls :
    let later := Cache.empty.put ⟨"a"⟩ "" 9
    (((fresh "KDECONNECT").reached hastyCalls).turn (later, .requestFetch 3)).outcome =
        .ok (.fetching (some (Message.requestCards 3 [⟨"a"⟩]))) ∧
      ∃ asked accepted packet remote uids,
        ((fresh "KDECONNECT").turns hastyCalls).filter Turn.isTaken = [asked, accepted] ∧
        asked.Asks ∧ accepted.call = .receiveManifest packet ∧
        (Message.readManifest packet).outcome = .ok remote ∧
        Uid.Ascending uids ∧
        (∀ uid, uid ∈ uids ↔ ∃ there, KeyedList.get? remote uid = some there ∧
          ∀ here, KeyedList.get? accepted.cache.timestamps uid = some here -> here < there) ∧
        (some (Message.requestCards 3 [⟨"a"⟩]) = none ↔ uids = []) ∧
        ∀ fetch, some (Message.requestCards 3 [⟨"a"⟩]) = some fetch ->
          ∃ now, fetch = Message.requestCards now uids := by
  intro later
  have released : (((fresh "KDECONNECT").reached hastyCalls).turn
      (later, .requestFetch 3)).outcome =
        .ok (.fetching (some (Message.requestCards 3 [⟨"a"⟩]))) := by
    have ready : ((fresh "KDECONNECT").reached hastyCalls).phase = .manifestReceived := by
      decide +kernel
    have newer : ((fresh "KDECONNECT").reached hastyCalls).plan.toFetch = [⟨"a"⟩] := by
      decide +kernel
    have taken : (Requester.requestFetch 3).Takes
        ⟨(fresh "KDECONNECT").reached hastyCalls, later⟩ _ _ :=
      Requester.takes_requestFetch_some 3 ready (by simp [newer])
    rw [← newer]
    exact (taken.map Answer.fetching).outcome
  have parts : (fresh "KDECONNECT").turns (hastyCalls ++ [(later, .requestFetch 3)]) =
      (fresh "KDECONNECT").turns hastyCalls ++
        [((fresh "KDECONNECT").reached hastyCalls).turn (later, .requestFetch 3)] := rfl
  obtain ⟨-, -, -, fetched, -⟩ :=
    turns_follow_the_phases "KDECONNECT" (hastyCalls ++ [(later, .requestFetch 3)])
  exact ⟨released, fetched _ _ _ _ parts released⟩

end Session

/-- Every session of a run over a shared cache has such a course, with the calls that were its own
and the caches that they found. -/
theorem SharedCache.exists_reached_of_run {ι : Type} (cache : Cache) (moves : List (ι × Move)) :
    ∀ session ∈ (run (start cache) moves).sessions,
      ∃ space calls, session = (Session.fresh space).reached calls := by
  refine run_induction (fun state => ∀ session ∈ state.sessions,
    ∃ space calls, session = (Session.fresh space).reached calls) ?_ (by simp [start])
  intro state move _ courses session member
  obtain ⟨label, move⟩ := move
  cases move with
  | begin space =>
      rcases List.mem_append.mp member with old | new
      · exact courses session old
      · exact ⟨space, [], List.mem_singleton.mp new⟩
  | call place call =>
      cases found : state.sessions[place]? with
      | none =>
          rw [act_absent found] at member
          exact courses session member
      | some called =>
          rw [act_call found] at member
          rcases List.mem_or_eq_of_mem_set member with other | rfl
          · exact courses session other
          · obtain ⟨space, calls, rfl⟩ := courses called (List.mem_of_getElem? found)
            have longer : (Session.fresh space).reached (calls ++ [(state.cache, call)]) =
                (((Session.fresh space).reached calls).turn (state.cache, call)).after :=
              List.foldl_append
            exact ⟨space, _, longer.symm⟩

end PairedContacts
