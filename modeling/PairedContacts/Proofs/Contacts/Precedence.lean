import PairedContacts.Proofs.Contacts.Service
import PairedContacts.Proofs.Database
import PairedContacts.Proofs.Dealings
import PairedContacts.Proofs.Settings

/-!
# In which ways requests fail

A service that settings describe, over the tables of a database, refuses a request by the first
check that the request does not pass: its type, its list of uIDs, access to the contacts, and
whether there is a table.  Whatever the table holds and whatever else stands in the request, it is
answered if it passes these, and no other failure occurs.
-/

set_option autoImplicit false

namespace PairedContacts

/-! ## What the source is asked -/

theorem Projection.visitRows_congr {σ : Type} {source other : Source} {selection : Selection}
    (same : source.select selection.query = other.select selection.query)
    (access : Option Access) (visit : σ -> Uid -> Record -> Run σ) (start : σ) :
    visitRows source access selection visit start =
      visitRows other access selection visit start := by
  rw [visitRows, visitRows, Source.reading, Source.reading, same]

theorem Projection.outcome_visitRows_of_refused {σ : Type} {source : Source}
    {access : Option Access} {selection : Selection} {failure : Failure}
    (opens : Access.opens access = true)
    (refused : source.select selection.query = .error failure)
    (visit : σ -> Uid -> Record -> Run σ) (start : σ) :
    (visitRows source access selection visit start).outcome = .error failure := by
  rw [visitRows, Access.demand_of_opens opens, Run.outcome_bind_ok rfl, Source.reading, refused]
  rfl

namespace Cards

variable {source : Source} {access : Option Access} {layout : Layout} {sender : Sender}
  {uids : List Uid}

theorem outcome_collect_of_refused {failure : Failure} (opens : Access.opens access = true)
    (somebody : uids ≠ [])
    (refused : source.select (selection layout uids).query = .error failure) :
    (collect source access layout sender uids).outcome = .error failure := by
  have failed := Projection.outcome_visitRows_of_refused opens refused (visit layout) ⟨[], []⟩
  have asked : ¬uids.isEmpty = true := by simpa using somebody
  rw [collect, Access.demand_of_opens opens, Run.outcome_bind_ok rfl, if_neg asked,
    Run.bind_error failed]

theorem outcome_collect_nobody (opens : Access.opens access = true) :
    (collect source access layout sender []).outcome = .ok [] := by
  rw [collect, Access.demand_of_opens opens]
  rfl

theorem outcome_collect_of_closed (closed : Access.opens access = false) :
    (collect source access layout sender uids).outcome = .error .accessDenied := by
  rw [collect, Run.bind_error (Access.isRefused_demand closed).failed]

end Cards

namespace ContactsService

variable {service : ContactsService} {source : Source} {rows : List Row} {packet : Packet}

section Manifest

variable (now : Int)

theorem outcome_answerManifest_of_select (reads : service.Reads rows)
    (selected : source.select (Manifest.selection service.layout none).query = .ok rows) :
    (service.answerManifest ⟨source, now⟩ packet).outcome =
      .ok (Message.respondManifest now (service.manifestOf rows)) := by
  have given := Source.ofRows_gives rows (Manifest.selection service.layout none).query rfl
  have same := selected.trans given.symm
  rw [← outcome_answerManifest reads now packet, answerManifest, answerManifest, Manifest.build,
    Manifest.build, Projection.visitRows_congr same]

theorem outcome_answerManifest_of_refused {failure : Failure}
    (opens : Access.opens service.access = true)
    (refused : source.select (Manifest.selection service.layout none).query = .error failure) :
    (service.answerManifest ⟨source, now⟩ packet).outcome = .error failure := by
  have failed := Projection.outcome_visitRows_of_refused opens refused
    (Manifest.visit service.layout) []
  rw [answerManifest, Manifest.build, Run.bind_error failed]

theorem outcome_answerManifest_of_closed (closed : Access.opens service.access = false) :
    (service.answerManifest ⟨source, now⟩ packet).outcome = .error .accessDenied := by
  have denied := (Access.isRefused_demand closed).failed
  rw [answerManifest, Manifest.build, Projection.visitRows, Run.bind_error denied]
  rfl

end Manifest

section Cards

variable (now : Int) {raw : List Value}

theorem outcome_answerCards_of_listed (listed : Message.uidList packet = .ok raw) :
    (service.answerCards ⟨source, now⟩ packet).outcome =
      (Cards.collect source service.access service.layout service.sender
        (Message.distinctUids raw)).outcome.map (Message.respondCards now) := by
  rw [answerCards, listed, Run.outcome_bind_ok rfl,
    Run.outcome_bind_ok (Message.outcome_parseUids raw), Run.outcome_bind]
  rfl

theorem outcome_answerCards_of_select (reads : service.Reads rows)
    (listed : Message.uidList packet = .ok raw)
    (selected : source.select (Cards.selection service.layout (Message.distinctUids raw)).query =
      .ok rows) :
    (service.answerCards ⟨source, now⟩ packet).outcome =
      .ok (Message.respondCards now (service.cardsOf rows (Message.distinctUids raw))) := by
  have given := Source.ofRows_gives rows
    (Cards.selection service.layout (Message.distinctUids raw)).query rfl
  have same := selected.trans given.symm
  rw [← outcome_answerCards reads now listed, outcome_answerCards_of_listed now listed,
    outcome_answerCards_of_listed now listed, Cards.collect, Cards.collect,
    Projection.visitRows_congr same]

end Cards

/-! ## How a request ends -/

structure Responds (packet answer : Packet) : Prop where
  manifest : packet.type = Message.manifestRequest -> answer.type = Message.manifestResponse
  cards : packet.type = Message.cardsRequest -> answer.type = Message.cardsResponse

/-- The ends that a request can come to, each with the checks that lead to it. -/
inductive Ends (service : ContactsService) (database : Database) (now : Int) (packet : Packet) :
    Except Failure Packet -> Prop where
  | unsupported (unsupported : packet.type ∉ supported) :
      Ends service database now packet (.error (.unsupportedType packet.type))
  | malformed {fault : RequestFault} (known : packet.type ∈ supported)
      (unlisted : Message.IsUnlisted packet) :
      Ends service database now packet (.error (.request fault))
  | denied (known : packet.type ∈ supported) (listed : ¬Message.IsUnlisted packet)
      (closed : Access.opens service.access = false) :
      Ends service database now packet (.error .accessDenied)
  | nobody (known : packet.type ∈ supported) (listed : ¬Message.IsUnlisted packet)
      (opens : Access.opens service.access = true) (nobody : Message.AsksNobody packet) :
      Ends service database now packet (.ok (Message.respondCards now []))
  | noTable (known : packet.type ∈ supported) (listed : ¬Message.IsUnlisted packet)
      (opens : Access.opens service.access = true) (somebody : ¬Message.AsksNobody packet)
      (absent : database.table? service.layout.table = none) :
      Ends service database now packet (.error (.noTable service.layout.table))
  | answered {answer : Packet} (known : packet.type ∈ supported)
      (listed : ¬Message.IsUnlisted packet) (opens : Access.opens service.access = true)
      (somebody : ¬Message.AsksNobody packet)
      (present : database.table? service.layout.table ≠ none)
      (responds : Responds packet answer) : Ends service database now packet (.ok answer)

section Ends

variable {database : Database} (settled : service.sender.IsSettled) (fits : database.FitsCells)
  (now : Int)

include settled fits

/-- What a service reads if the table is there. -/
theorem exists_select_of_present (query : Query) (opens : Access.opens service.access = true)
    (unfiltered : query.filter = []) (table : query.table = service.layout.table)
    (present : database.table? service.layout.table ≠ none) :
    ∃ rows, service.Reads rows ∧ database.source.select query = .ok rows := by
  obtain ⟨stored, found⟩ := Option.ne_none_iff_exists'.mp present
  obtain ⟨rows, selected, typed, short, -⟩ :=
    Database.exists_select fits unfiltered (table ▸ found)
  exact ⟨rows, ⟨opens, settled.admitted, typed, short⟩, selected⟩

theorem ends_answerManifest (asked : packet.type = Message.manifestRequest) :
    service.Ends database now packet
      (service.answerManifest ⟨database.source, now⟩ packet).outcome := by
  have known : packet.type ∈ supported := by simp [supported, asked]
  have other : packet.type ≠ Message.cardsRequest := asked ▸ by decide
  have listed : ¬Message.IsUnlisted packet := fun unlisted => other unlisted.1
  have somebody : ¬Message.AsksNobody packet := fun nobody => other nobody.1
  cases opens : Access.opens service.access with
  | false =>
      rw [outcome_answerManifest_of_closed now opens]
      exact .denied known listed opens
  | true =>
      by_cases present : database.table? service.layout.table = none
      · have refused : database.source.select (Manifest.selection service.layout none).query =
            .error (.noTable service.layout.table) := Database.select_of_absent present
        rw [outcome_answerManifest_of_refused now opens refused]
        exact .noTable known listed opens somebody present
      · obtain ⟨rows, reads, selected⟩ := exists_select_of_present settled fits
          (Manifest.selection service.layout none).query opens rfl rfl present
        rw [outcome_answerManifest_of_select now reads selected]
        exact .answered known listed opens somebody present
          ⟨fun _ => rfl, fun same => absurd same other⟩

theorem ends_answerCards (asked : packet.type = Message.cardsRequest) :
    service.Ends database now packet
      (service.answerCards ⟨database.source, now⟩ packet).outcome := by
  have known : packet.type ∈ supported := by simp [supported, asked]
  have other : packet.type ≠ Message.manifestRequest := asked ▸ by decide
  rcases Message.request_cases asked with ⟨fault, read, unlisted, -⟩ | ⟨raw, read, listed, nobody⟩
  · rw [answerCards, read]
    exact .malformed known unlisted
  -- The list is read before access is asked for, and the table only for the uIDs in it.
  rw [outcome_answerCards_of_listed now read]
  cases opens : Access.opens service.access with
  | false =>
      rw [Cards.outcome_collect_of_closed opens]
      exact .denied known listed opens
  | true =>
      by_cases empty : Message.distinctUids raw = []
      · rw [empty, Cards.outcome_collect_nobody opens]
        exact .nobody known listed opens (nobody.mp empty)
      · have somebody : ¬Message.AsksNobody packet := fun none => empty (nobody.mpr none)
        by_cases present : database.table? service.layout.table = none
        · have refused : database.source.select
              (Cards.selection service.layout (Message.distinctUids raw)).query =
                .error (.noTable service.layout.table) := Database.select_of_absent present
          rw [Cards.outcome_collect_of_refused opens empty refused]
          exact .noTable known listed opens somebody present
        · obtain ⟨rows, reads, selected⟩ := exists_select_of_present settled fits
            (Cards.selection service.layout (Message.distinctUids raw)).query opens rfl rfl present
          rw [← outcome_answerCards_of_listed now read,
            outcome_answerCards_of_select now reads read selected]
          exact .answered known listed opens somebody present
            ⟨fun same => absurd same other, fun _ => rfl⟩

omit settled fits in
theorem Ends.declared {answer : Packet} (ends : service.Ends database now packet (.ok answer)) :
    answer.type ∈ outgoing := by
  cases ends with
  | nobody known listed opens nobody => exact List.mem_cons_of_mem _ List.mem_cons_self
  | answered known listed opens somebody present responds =>
      simp only [supported, List.mem_cons, List.not_mem_nil, or_false] at known
      rcases known with asked | asked
      · simp [outgoing, responds.manifest asked]
      · simp [outgoing, responds.cards asked]

omit settled fits in
/-- The answer of a handler is of a declared type, so it is let out. -/
theorem Ends.release {answered : Run Packet}
    (ends : service.Ends database now packet answered.outcome) :
    service.Ends database now packet
      (answered >>= service.dispatcher.release packet).outcome := by
  cases ended : answered.outcome with
  | error failure =>
      rw [Run.bind_error ended]
      exact ended ▸ ends
  | ok answer =>
      rw [ended] at ends
      have passes : service.dispatcher.outgoing.contains answer.type = true :=
        List.contains_iff_mem.mpr ends.declared
      rw [Run.outcome_bind_ok ended, Dispatcher.release, if_pos passes]
      exact ends

/-- A service that can sign footers ends every request in one of these ways. -/
theorem ends_dispatch (packet : Packet) :
    service.Ends database now packet
      (service.dispatcher.dispatch ⟨database.source, now⟩ packet).outcome := by
  rcases dispatch_cases service ⟨database.source, now⟩ packet with
    ⟨asked, handled⟩ | ⟨asked, handled⟩ | ⟨unsupported, refused⟩
  · rw [handled]
    exact (ends_answerManifest settled fits now asked).release
  · rw [handled]
    exact (ends_answerCards settled fits now asked).release
  · rw [refused]
    exact .unsupported unsupported

end Ends

/-- A failure of a kind. -/
def FailsAs (kind : FailureKind) (answered : Except Failure Packet) : Prop :=
  ∃ failure, answered = .error failure ∧ failure.kind = kind

theorem not_failsAs_ok (kind : FailureKind) (answer : Packet) : ¬FailsAs kind (.ok answer) := by
  rintro ⟨failure, impossible, -⟩
  cases impossible

theorem failsAs_error_iff {kind : FailureKind} {failure : Failure} :
    FailsAs kind (.error failure) ↔ failure.kind = kind := by
  simp [FailsAs]

theorem opens_service (settings : Settings) :
    Access.opens settings.service.access = settings.accessGranted := by
  rw [Settings.service, Access.grant]
  cases settings.accessGranted <;> rfl

/-- Over any database the service that settings describe refuses a request of another type, then a
request for vCards without a list of uIDs, then all requests if access is not granted; a request for
no contact is answered by none; then a missing table is reported, and all the rest is answered.
There are no other failures. -/
theorem requests_fail_as_declared {values : KeyedList String Value}
    {environment : KeyedList String String} {settings : Settings}
    (loaded : Settings.load values environment = .ok settings) {database : Database}
    (fits : database.FitsCells) (now : Int) (packet : Packet) :
    let answered := (settings.service.dispatcher.dispatch ⟨database.source, now⟩ packet).outcome
    (FailsAs .unsupportedType answered ↔ packet.type ∉ supported) ∧
      (packet.type ∈ supported ->
        (FailsAs .malformedRequest answered ↔ Message.IsUnlisted packet) ∧
        (¬Message.IsUnlisted packet ->
          (FailsAs .permissionDenied answered ↔ settings.accessGranted = false) ∧
          (settings.accessGranted = true ->
            (Message.AsksNobody packet -> answered = .ok (Message.respondCards now [])) ∧
            (¬Message.AsksNobody packet ->
              (FailsAs .sourceUnavailable answered ↔
                database.table? settings.layout.table = none) ∧
              (database.table? settings.layout.table ≠ none ->
                ∃ answer, answered = .ok answer ∧ Responds packet answer))))) ∧
      ∀ failure, answered = .error failure ->
        failure.kind ∈ [FailureKind.unsupportedType, .malformedRequest, .permissionDenied,
          .sourceUnavailable] := by
  intro answered
  have ends := ends_dispatch (Settings.isSettled_of_load loaded) fits now packet
  have granted := opens_service settings
  have layout : settings.service.layout = settings.layout := rfl
  change settings.service.Ends database now packet answered at ends
  generalize answered = result at ends
  cases ends with
  | unsupported unsupported => simp [failsAs_error_iff, Failure.kind, unsupported]
  | malformed known unlisted => simp [failsAs_error_iff, Failure.kind, known, unlisted]
  | denied known listed closed =>
      rw [granted] at closed
      simp [failsAs_error_iff, Failure.kind, known, listed, closed]
  | nobody known listed opens nobody =>
      rw [granted] at opens
      simp [not_failsAs_ok, known, listed, opens, nobody]
  | noTable known listed opens somebody absent =>
      rw [granted] at opens
      rw [layout] at absent
      simp [failsAs_error_iff, Failure.kind, known, listed, opens, somebody, absent]
  | answered known listed opens somebody present responds =>
      rw [granted] at opens
      rw [layout] at present
      simp [not_failsAs_ok, known, listed, opens, somebody, present, responds]

/-- A table with one row, whose identity is an integer and whose timestamp is a text. -/
def oddTable : StoredTable :=
  ⟨"Raw_Contacts", [.declare "lookup_key" "", .declare "last_updated_timestamp" "BLOB"],
    [⟨1, [some (.integer 7), some (.text "x")]⟩]⟩

theorem requests_fail_as_declared_oddTable :
    ∃ settings, Settings.load [("device_id", .text "phone")] [] = .ok settings ∧
      FailsAs .sourceUnavailable (settings.service.dispatcher.dispatch
        ⟨Database.source [], 0⟩ (Message.requestManifest 0)).outcome ∧
      ∃ answer, (settings.service.dispatcher.dispatch ⟨Database.source [oddTable], 0⟩
        (Message.requestManifest 0)).outcome = .ok answer := by
  have loaded : ∃ settings, Settings.load [("device_id", .text "phone")] [] = .ok settings ∧
      settings.accessGranted = true ∧ settings.layout = .standard := ⟨_, rfl, rfl, rfl⟩
  obtain ⟨settings, loaded, granted, standard⟩ := loaded
  have other : (Message.requestManifest 0).type ≠ Message.cardsRequest := by decide
  have known : (Message.requestManifest 0).type ∈ supported := by decide
  have emptyFits : Database.FitsCells [] := by simp [Database.FitsCells]
  have oddFits : Database.FitsCells [oddTable] := by
    simp [Database.FitsCells, oddTable, Stored.fits, Affinity.fitsCell, wordBound]
  have present : Database.table? [oddTable] settings.layout.table ≠ none := by
    rw [standard]
    decide
  obtain ⟨-, ofEmpty⟩ := (((requests_fail_as_declared loaded emptyFits 0
    (Message.requestManifest 0)).2.1 known).2 fun unlisted => other unlisted.1).2 granted
  obtain ⟨-, ofOdd⟩ := (((requests_fail_as_declared loaded oddFits 0
    (Message.requestManifest 0)).2.1 known).2 fun unlisted => other unlisted.1).2 granted
  obtain ⟨answer, answered, -⟩ := (ofOdd fun nobody => other nobody.1).2 present
  exact ⟨settings, loaded, (ofEmpty fun nobody => other nobody.1).1.mpr rfl, answer, answered⟩

end ContactsService

end PairedContacts
