import PairedContacts.Proofs.Exchange
import PairedContacts.Proofs.Session.Effect

/-!
# Sources that change

A requester goes through any number of sessions with a service whose table changes at any time
between two steps, while requests and answers are on their way.  Every vCard in the cache is the one
that some past table had, together with the timestamp that the same table gave for it.  If
timestamps tell of every change, a contact that the plan leaves alone is therefore up to date.
-/

set_option autoImplicit false

namespace PairedContacts

/-- A requester and a service with a table that changes.  Everything that was asked and answered can
still arrive. -/
structure Correspondence where
  past : List (List Row)
  rows : List Row
  requester : Requester
  requests : List Packet
  answers : List Packet

/-- What may happen next; packets are named by their place among the requests or the answers. -/
inductive Deed where
  | change (rows : List Row)
  | answer (request : Nat) (now : Int)
  | beginSession
  | requestManifest (now : Int)
  | receiveManifest (answer : Nat)
  | requestFetch (now : Int)
  | receiveCards (answer : Nat)

namespace Deed

def table? : Deed -> Option (List Row)
  | change rows => some rows
  | _ => none

end Deed

namespace Correspondence

/-- All tables so far, the present one last. -/
def tables (state : Correspondence) : List (List Row) :=
  state.past ++ [state.rows]

def start (service : ContactsService) (rows : List Row) : Correspondence :=
  ⟨[], rows, .begin .empty service.sender.space, [], []⟩

def deliver {α : Type} (state : Correspondence) (place : Nat) (step : Packet -> Step α) :
    Correspondence :=
  match state.answers[place]? with
  | none => state
  | some packet => { state with requester := (step packet state.requester).2 }

def act (service : ContactsService) (state : Correspondence) : Deed -> Correspondence
  | .change rows => { state with past := state.tables, rows := rows }
  | .answer place now =>
      match state.requests[place]? with
      | none => state
      | some packet =>
          let answered := service.dispatcher.dispatch ⟨Source.ofRows state.rows, now⟩ packet
          { state with answers := state.answers ++ answered.outcome.toOption.toList }
  | .beginSession =>
      { state with requester := .begin state.requester.cache service.sender.space }
  | .requestManifest now =>
      let (asked, requester) := Requester.requestManifest now state.requester
      { state with
        requester := requester
        requests := state.requests ++ asked.outcome.toOption.toList }
  | .receiveManifest place => state.deliver place Requester.receiveManifest
  | .requestFetch now =>
      let (asked, requester) := Requester.requestFetch now state.requester
      { state with
        requester := requester
        requests := state.requests ++ asked.outcome.toOption.join.toList }
  | .receiveCards place => state.deliver place Requester.receiveCards

def run (service : ContactsService) (rows : List Row) (deeds : List Deed) : Correspondence :=
  deeds.foldl (act service) (start service rows)

/-! ## The tables of a run -/

theorem rows_mem_tables (state : Correspondence) : state.rows ∈ state.tables :=
  List.mem_append_right _ (List.mem_singleton.mpr rfl)

theorem tables_deliver {α : Type} (state : Correspondence) (place : Nat)
    (step : Packet -> Step α) : (state.deliver place step).tables = state.tables := by
  rw [deliver]
  cases state.answers[place]? <;> rfl

theorem tables_act (service : ContactsService) (state : Correspondence) (deed : Deed) :
    (act service state deed).tables = state.tables ++ deed.table?.toList := by
  cases deed with
  | change rows => rfl
  | answer place now =>
      refine Eq.trans ?_ (List.append_nil _).symm
      rw [act]
      cases state.requests[place]? <;> rfl
  | receiveManifest place =>
      exact (tables_deliver state place _).trans (List.append_nil _).symm
  | receiveCards place =>
      exact (tables_deliver state place _).trans (List.append_nil _).symm
  | _ => exact (List.append_nil _).symm

theorem tables_run (service : ContactsService) (rows : List Row) (deeds : List Deed) :
    (run service rows deeds).tables = rows :: deeds.filterMap Deed.table? := by
  have fold : ∀ state : Correspondence, (deeds.foldl (act service) state).tables =
      state.tables ++ deeds.filterMap Deed.table? := by
    induction deeds with
    | nil => intro state; simp
    | cons deed rest ih =>
        intro state
        rw [List.foldl_cons, ih, tables_act, List.append_assoc, List.filterMap_cons]
        cases deed.table? <;> rfl
  exact fold (start service rows)

/-! ## What past tables said -/

inductive AnswersFrom (service : ContactsService) (tables : List (List Row)) : Packet -> Prop
  | manifest {rows : List Row} (now : Int) (table : rows ∈ tables) :
      AnswersFrom service tables (Message.respondManifest now (service.manifestOf rows))
  | cards {rows : List Row} {uids : List Uid} (now : Int) (table : rows ∈ tables)
      (proper : ∀ uid ∈ uids, uid.IsProper) (once : uids.Nodup) :
      AnswersFrom service tables (Message.respondCards now (service.cardsOf rows uids))

inductive IsAsked : Packet -> Prop
  | manifest (now : Int) : IsAsked (Message.requestManifest now)
  | cards (now : Int) (uids : List Uid) : IsAsked (Message.requestCards now uids)

theorem isAsked_of_requestManifest (now : Int) (requester : Requester) :
    ∀ packet ∈ (Requester.requestManifest now requester).1.outcome.toOption.toList,
      IsAsked packet := by
  intro packet member
  cases emitted : (Requester.requestManifest now requester).1.outcome with
  | error failure =>
      rw [emitted] at member
      cases member
  | ok asked =>
      rw [emitted] at member
      obtain rfl := List.mem_singleton.mp member
      rw [Requester.asked_of_requestManifest emitted]
      exact .manifest now

theorem isAsked_of_requestFetch (now : Int) (requester : Requester) :
    ∀ packet ∈ (Requester.requestFetch now requester).1.outcome.toOption.join.toList,
      IsAsked packet := by
  intro packet member
  cases emitted : (Requester.requestFetch now requester).1.outcome with
  | error failure =>
      rw [emitted] at member
      cases member
  | ok asked =>
      rw [emitted] at member
      cases asked with
      | none => cases member
      | some request =>
          obtain rfl := List.mem_singleton.mp member
          rw [Requester.asked_of_requestFetch emitted]
          exact .cards now _

/-- Every cached vCard is the one of a past table, with the timestamp of the same table. -/
def CachedFrom (service : ContactsService) (tables : List (List Row)) (cache : Cache) : Prop :=
  ∀ uid card, KeyedList.get? cache.cards uid = some card ->
    ∃ rows ∈ tables, service.cardOf rows uid = some card ∧
      KeyedList.get? cache.timestamps uid = MergeGroup.newest service.layout rows uid

structure Faithful (service : ContactsService) (state : Correspondence) : Prop where
  space : state.requester.session.space = service.sender.space
  asked : ∀ packet ∈ state.requests, IsAsked packet
  answered : ∀ packet ∈ state.answers, AnswersFrom service state.tables packet
  cached : CachedFrom service state.tables state.requester.cache

theorem AnswersFrom.mono {service : ContactsService} {tables more : List (List Row)}
    {packet : Packet} (among : ∀ rows ∈ tables, rows ∈ more)
    (answers : AnswersFrom service tables packet) : AnswersFrom service more packet := by
  cases answers with
  | manifest now table => exact .manifest now (among _ table)
  | cards now table proper once => exact .cards now (among _ table) proper once

theorem CachedFrom.mono {service : ContactsService} {tables more : List (List Row)} {cache : Cache}
    (among : ∀ rows ∈ tables, rows ∈ more) (cached : CachedFrom service tables cache) :
    CachedFrom service more cache := by
  intro uid card found
  obtain ⟨rows, table, has, timestamp⟩ := cached uid card found
  exact ⟨rows, among rows table, has, timestamp⟩

theorem answersFrom_dispatch {service : ContactsService} {rows : List Row}
    {tables : List (List Row)} {packet answer : Packet} {now : Int} (reads : service.Reads rows)
    (table : rows ∈ tables) (asked : IsAsked packet)
    (done : (service.dispatcher.dispatch ⟨Source.ofRows rows, now⟩ packet).outcome = .ok answer) :
    AnswersFrom service tables answer := by
  cases asked with
  | manifest sent =>
      have ofType : (Message.requestManifest sent).type = Message.manifestRequest := rfl
      have answered := ContactsService.outcome_dispatch_manifest reads now ofType
      rw [done] at answered
      obtain rfl := Except.ok.inj answered
      exact .manifest now table
  | cards sent uids =>
      have answered := ContactsService.outcome_dispatch_cards reads now rfl
        (Message.uidList_requestCards sent uids)
      rw [done] at answered
      obtain rfl := Except.ok.inj answered
      exact .cards now table (fun uid => Message.isProper_of_mem_distinctUids)
        (Message.nodup_distinctUids _)

theorem not_judgeAll_respondManifest (session : Session) (now : Int) (manifest : Manifest)
    (judged : List JudgedCard) :
    (Requester.judgeAll session (Message.respondManifest now manifest)).outcome ≠ .ok judged := by
  have fails : (Requester.judgeAll session (Message.respondManifest now manifest)).outcome =
      .error (.request (.unexpectedType Message.cardsResponse Message.manifestResponse)) := rfl
  rw [fails]
  simp

theorem CachedFrom.store {service : ContactsService} {tables : List (List Row)} {rows : List Row}
    {entries : KeyedList Uid String} {cache : Cache} (table : rows ∈ tables)
    (once : entries.keys.Nodup)
    (has : ∀ entry ∈ entries, service.cardOf rows entry.1 = some entry.2)
    (requested : List Uid) (cached : CachedFrom service tables cache) :
    CachedFrom service tables (Requester.store cache
      ((entries.filter fun entry => service.takes requested entry.1).map fun entry =>
        (entry.1, entry.2, service.timestampOf rows entry.1))) := by
  have acceptedOnce : (((entries.filter fun entry => service.takes requested entry.1).map
      fun entry => (entry.1, entry.2, service.timestampOf rows entry.1)).map Prod.fst).Nodup := by
    rw [List.map_map]
    exact (List.filter_sublist.map Prod.fst).nodup once
  intro uid card found
  rcases Requester.store_cases acceptedOnce cache uid with
    ⟨entry, here, rfl, stored, timestamp⟩ | ⟨-, stored, timestamp⟩
  · obtain ⟨sent, member, rfl⟩ := List.mem_map.mp here
    have delivered := has sent (List.mem_filter.mp member).1
    rw [stored] at found
    obtain rfl := Option.some.inj found
    refine ⟨rows, table, delivered, ?_⟩
    rw [timestamp, ContactsService.newest_of_cardOf delivered]
  · rw [stored] at found
    rw [timestamp]
    exact cached uid card found

theorem CachedFrom.receiveCards {service : ContactsService} {tables : List (List Row)}
    {requester : Requester} {packet : Packet} (answers : AnswersFrom service tables packet)
    (space : requester.session.space = service.sender.space)
    (cached : CachedFrom service tables requester.cache) :
    CachedFrom service tables (Requester.receiveCards packet requester).2.cache := by
  rcases Requester.receiveCards_cases packet requester with ⟨judged, judges, after⟩ | unchanged
  · cases answers with
    | manifest now table => exact absurd judges (not_judgeAll_respondManifest _ now _ judged)
    | @cards rows uids now table proper once =>
        rw [ContactsService.outcome_judgeAll now proper once space] at judges
        obtain rfl := Except.ok.inj judges
        rw [after, ContactsService.accepted_judged]
        have portable : Message.IsPortable (service.cardsOf rows uids) :=
          ContactsService.isPortable_cardsOf proper once
        refine CachedFrom.store table portable.sorted.once (fun entry member => ?_) _ cached
        have held := (Uid.sortEntries_perm (service.cardsOf rows uids)).mem_iff.mp member
        exact ((ContactsService.mem_cardsOf once).mp held).2
  · rw [unchanged]
    exact cached

/-! ## Every state of a run -/

theorem faithful_start (service : ContactsService) (rows : List Row) :
    Faithful service (start service rows) := by
  refine ⟨rfl, ?_, ?_, ?_⟩
  · intro packet member
    cases member
  · intro packet member
    cases member
  · intro uid card found
    cases found

variable {service : ContactsService} {state : Correspondence}

theorem Faithful.change (faithful : Faithful service state) (rows : List Row) :
    Faithful service (act service state (.change rows)) := by
  have among : ∀ table ∈ state.tables, table ∈ (act service state (.change rows)).tables :=
    fun table member => List.mem_append_left _ member
  exact ⟨faithful.space, faithful.asked,
    fun packet member => (faithful.answered packet member).mono among,
    faithful.cached.mono among⟩

theorem Faithful.answer (faithful : Faithful service state) (reads : service.Reads state.rows)
    (place : Nat) (now : Int) : Faithful service (act service state (.answer place now)) := by
  rw [act]
  cases found : state.requests[place]? with
  | none => exact faithful
  | some packet =>
      refine ⟨faithful.space, faithful.asked, fun answer member => ?_, faithful.cached⟩
      rcases List.mem_append.mp member with before | added
      · exact faithful.answered answer before
      -- However old the request is, the answer comes from the table of this moment.
      · have asked := faithful.asked packet (List.mem_of_getElem? found)
        have table := rows_mem_tables state
        cases done : (service.dispatcher.dispatch
            ⟨Source.ofRows state.rows, now⟩ packet).outcome with
        | error failure =>
            rw [done] at added
            cases added
        | ok released =>
            rw [done] at added
            obtain rfl := List.mem_singleton.mp added
            exact answersFrom_dispatch reads table asked done

theorem Faithful.step (faithful : Faithful service state) {requester : Requester}
    (keeps : state.requester.Keeps requester) {added : List Packet}
    (asked : ∀ packet ∈ added, IsAsked packet) :
    Faithful service
      { state with requester := requester, requests := state.requests ++ added } := by
  refine ⟨keeps.space.trans faithful.space, fun packet member => ?_, faithful.answered, ?_⟩
  · rcases List.mem_append.mp member with before | new
    · exact faithful.asked packet before
    · exact asked packet new
  · show CachedFrom service state.tables requester.cache
    rw [keeps.cache]
    exact faithful.cached

theorem Faithful.act (faithful : Faithful service state) (reads : service.Reads state.rows)
    (deed : Deed) : Faithful service (act service state deed) := by
  cases deed with
  | change rows => exact faithful.change rows
  | answer place now => exact faithful.answer reads place now
  | beginSession => exact ⟨rfl, faithful.asked, faithful.answered, faithful.cached⟩
  | requestManifest now =>
      exact faithful.step (Requester.keeps_requestManifest now state.requester)
        (isAsked_of_requestManifest now state.requester)
  | receiveManifest place =>
      rw [Correspondence.act, deliver]
      cases state.answers[place]? with
      | none => exact faithful
      | some packet =>
          have keeps := Requester.keeps_receiveManifest packet state.requester
          refine ⟨keeps.space.trans faithful.space, faithful.asked, faithful.answered, ?_⟩
          show CachedFrom service state.tables _
          rw [keeps.cache]
          exact faithful.cached
  | requestFetch now =>
      exact faithful.step (Requester.keeps_requestFetch now state.requester)
        (isAsked_of_requestFetch now state.requester)
  | receiveCards place =>
      rw [Correspondence.act, deliver]
      cases found : state.answers[place]? with
      | none => exact faithful
      | some packet =>
          have answers := faithful.answered packet (List.mem_of_getElem? found)
          refine ⟨?_, faithful.asked, faithful.answered,
            faithful.cached.receiveCards answers faithful.space⟩
          rcases Requester.receiveCards_cases packet state.requester with
            ⟨judged, -, after⟩ | unchanged
          · simp only [after]
            exact faithful.space
          · simp only [unchanged]
            exact faithful.space

/-- What every step keeps, a run from a faithful state keeps. -/
theorem Faithful.run {deeds : List Deed} (faithful : Faithful service state)
    (reads : ∀ rows ∈ state.tables ++ deeds.filterMap Deed.table?, service.Reads rows) :
    Faithful service (deeds.foldl (Correspondence.act service) state) := by
  induction deeds generalizing state with
  | nil => exact faithful
  | cons deed rest ih =>
      have present := rows_mem_tables state
      rw [List.foldl_cons]
      refine ih (faithful.act (reads _ (List.mem_append_left _ present)) deed) fun rows member => ?_
      apply reads
      rw [tables_act, List.append_assoc] at member
      rw [List.filterMap_cons]
      cases table : deed.table? with
      | none => simpa [table] using member
      | some added => simpa [table] using member

/-! ## No lost update -/

/-- Between two tables the timestamp of a contact does not fall, and rises if its text differs. -/
def Advances (layout : Layout) (earlier later : List Row) : Prop :=
  ∀ uid before after, MergeGroup.newest layout earlier uid = some before ->
    MergeGroup.newest layout later uid = some after ->
      before ≤ after ∧
        (MergeGroup.lastText layout earlier uid ≠ MergeGroup.lastText layout later uid ->
          before < after)

theorem cardOf_of_advances {earlier later : List Row} {uid : Uid} {before after : Int}
    (advances : Advances service.layout earlier later)
    (old : MergeGroup.newest service.layout earlier uid = some before)
    (new : MergeGroup.newest service.layout later uid = some after) (notRisen : after ≤ before) :
    service.cardOf later uid = service.cardOf earlier uid := by
  obtain ⟨notFallen, rises⟩ := advances uid before after old new
  have sameText : MergeGroup.lastText service.layout earlier uid =
      MergeGroup.lastText service.layout later uid := by
    apply Decidable.byContradiction
    intro differs
    have risen := rises differs
    omega
  have sameTimestamp : after = before := by omega
  rw [ContactsService.cardOf, ContactsService.cardOf, MergeGroup.card, MergeGroup.card, old, new,
    sameText, sameTimestamp]

/-- Whatever happens, and in whatever order, if timestamps tell of every change of a vCard, then a
contact that is cached and that the plan for the present table leaves alone is cached with the vCard
that the present table has. -/
theorem unchanged_up_to_date (opens : Access.opens service.access = true)
    (admitted : VCard.admitsDevice service.sender.deviceId.toList = true) (first : List Row)
    (deeds : List Deed)
    (typed : ∀ table ∈ first :: deeds.filterMap Deed.table?, ∀ row ∈ table, row.isTyped = true)
    (short : ∀ table ∈ first :: deeds.filterMap Deed.table?, ∀ row ∈ table, row.isShort = true)
    (advances : (first :: deeds.filterMap Deed.table?).Pairwise (Advances service.layout)) :
    let state := Correspondence.run service first deeds
    ∃ manifest,
      (Manifest.build (Source.ofRows state.rows) service.access service.layout none).outcome =
        .ok manifest ∧
      ∀ uid ∈ (FetchPlan.compute state.requester.cache.timestamps manifest).unchanged,
        ∀ card, KeyedList.get? state.requester.cache.cards uid = some card ->
          ∀ uids : List Uid, uid ∈ uids ->
            ∃ cards,
              (Cards.collect (Source.ofRows state.rows) service.access service.layout
                service.sender uids).outcome = .ok cards ∧
              KeyedList.get? cards uid = some card := by
  intro state
  have tables : state.tables = first :: deeds.filterMap Deed.table? :=
    tables_run service first deeds
  have reads : ∀ rows ∈ state.tables, service.Reads rows := by
    intro rows member
    rw [tables] at member
    exact ⟨opens, admitted, typed rows member, short rows member⟩
  have faithful : Faithful service state := by
    refine (faithful_start service first).run fun rows member => reads rows ?_
    rw [tables]
    exact member
  have present : service.Reads state.rows :=
    reads state.rows (rows_mem_tables state)
  refine ⟨_, Manifest.outcome_build service.layout none opens present.typed, ?_⟩
  intro uid unchanged card cached uids wanted
  refine ⟨_, Cards.outcome_collect opens admitted present.typed present.short uids, ?_⟩
  obtain ⟨rows, table, had, known⟩ := faithful.cached uid card cached
  obtain ⟨here, there, old, new, notRisen⟩ :=
    FetchPlan.verdict_eq_keep_iff.mp (FetchPlan.mem_unchanged_iff.mp unchanged)
  rw [known] at old
  rw [Manifest.get?_ofRows_all] at new
  -- Only a past table can differ from the present one, and then its timestamp would be older.
  have same : service.cardOf state.rows uid = some card := by
    rcases List.mem_append.mp table with before | now
    · rw [← tables] at advances
      have related := (List.pairwise_append.mp advances).2.2 rows before state.rows
        (List.mem_singleton.mpr rfl)
      rw [cardOf_of_advances related old new notRisen, had]
    · obtain rfl := List.mem_singleton.mp now
      exact had
  rw [Cards.get?_collected wanted]
  exact same

def changedRow (lookup : String) : List Row :=
  [[("lookup_key", ⟨some "text", .text lookup⟩),
    ("last_updated_timestamp", ⟨some "integer", .int 6⟩),
    ("vcard", ⟨some "text", .text "BEGIN:VCARD\nFN:New\nEND:VCARD"⟩)]]

/-- The change falls between the answer and its arrival, and a second session fetches it. -/
def twoSessions : List Deed :=
  [.requestManifest 1, .answer 0 1, .receiveManifest 0, .requestFetch 1, .answer 1 1,
    .change (changedRow "alice"), .receiveCards 1, .beginSession, .requestManifest 2, .answer 2 2,
    .receiveManifest 2, .requestFetch 2, .answer 3 2, .receiveCards 3]

theorem advances_changedRow : Advances Layout.standard (oneRow "alice") (changedRow "alice") := by
  intro uid before after old new
  have five : before = 5 := by
    obtain ⟨row, inGroup, read⟩ := List.mem_filterMap.mp (List.max?_mem old)
    obtain rfl := List.mem_singleton.mp (mem_mergeGroup.mp inGroup).1
    exact (Option.some.inj read).symm
  have six : after = 6 := by
    obtain ⟨row, inGroup, read⟩ := List.mem_filterMap.mp (List.max?_mem new)
    obtain rfl := List.mem_singleton.mp (mem_mergeGroup.mp inGroup).1
    exact (Option.some.inj read).symm
  omega

theorem unchanged_up_to_date_twoSessions :
    let state := Correspondence.run plainService (oneRow "alice") twoSessions
    ∃ manifest,
      (Manifest.build (Source.ofRows state.rows) plainService.access plainService.layout
        none).outcome = .ok manifest ∧
      ∀ uid ∈ (FetchPlan.compute state.requester.cache.timestamps manifest).unchanged,
        ∀ card, KeyedList.get? state.requester.cache.cards uid = some card ->
          ∀ uids : List Uid, uid ∈ uids ->
            ∃ cards,
              (Cards.collect (Source.ofRows state.rows) plainService.access plainService.layout
                plainService.sender uids).outcome = .ok cards ∧
              KeyedList.get? cards uid = some card :=
  unchanged_up_to_date rfl plainService_settled.admitted (oneRow "alice") twoSessions (by decide)
    (by decide +kernel)
    (List.pairwise_cons.mpr ⟨fun later member => List.mem_singleton.mp member ▸ advances_changedRow,
      List.pairwise_singleton _ _⟩)

example : (run plainService (oneRow "alice") twoSessions).requester.cache.timestamps =
    [(⟨"alice"⟩, 6)] := by decide +kernel

end Correspondence

end PairedContacts
