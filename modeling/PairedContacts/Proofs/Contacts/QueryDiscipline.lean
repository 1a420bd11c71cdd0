import PairedContacts.Contacts.PhoneBook
import PairedContacts.Proofs.Contacts.Service
import PairedContacts.Proofs.Dealings

/-!
# When the service looks at the contacts

Packets and lookups of phone numbers reach the contacts by different ways.  By none of them a query
is opened without access; with access one query is opened, unless the call can be answered or has to
be refused without it, and it is closed before the call is over, however that ends.
-/

set_option autoImplicit false

namespace PairedContacts

inductive ContactsCall where
  | dispatch (packet : Packet)
  | lookup (number : String)

inductive ContactsReply where
  | answer (packet : Packet)
  | entry (entry : PhoneBook.Entry)

namespace ContactsCall

/-- The calls that are answered, or refused, without a look at the contacts. -/
def IsIdle : ContactsCall -> Prop
  | dispatch packet =>
      packet.type ∉ ContactsService.supported ∨ Message.IsUnlisted packet ∨
        Message.AsksNobody packet
  | lookup number => PhoneBook.normalize number = ""

/-- The query that a call opens if it has access. -/
def query? (layout : Layout) : ContactsCall -> Option Query
  | dispatch packet =>
      if packet.type = Message.manifestRequest then some (Manifest.selection layout none).query
      else if packet.type = Message.cardsRequest then
        (Message.uidList packet).toOption.bind fun raw =>
          if (Message.distinctUids raw).isEmpty then none
          else some (Cards.selection layout (Message.distinctUids raw)).query
      else none
  | lookup number =>
      if (PhoneBook.normalize number).isEmpty then none
      else some (PhoneBook.query layout (PhoneBook.normalize number))

end ContactsCall

namespace Message

theorem isQuiet_readUids (raw : List Value) : (readUids raw).IsQuiet := by
  induction raw with
  | nil => exact Run.isQuiet_pure _
  | cons value rest ih =>
      rw [readUids]
      split
      · exact ih.bind fun _ => Run.isQuiet_pure _
      · exact (Run.isQuiet_note _).bind fun _ => ih

theorem isQuiet_parseUids (raw : List Value) : (parseUids raw).IsQuiet :=
  (isQuiet_readUids raw).bind fun _ => Run.isQuiet_pure _

end Message

namespace ContactsCall

/-- A call with access opens nothing exactly if it is idle. -/
theorem query?_eq_none_iff {layout : Layout} {call : ContactsCall} :
    call.query? layout = none ↔ call.IsIdle := by
  cases call with
  | lookup number => simp [query?, IsIdle]
  | dispatch packet =>
      rw [query?, IsIdle]
      by_cases manifest : packet.type = Message.manifestRequest
      · have other : Message.manifestRequest ≠ Message.cardsRequest := by decide
        simp [manifest, other, ContactsService.supported, Message.IsUnlisted, Message.AsksNobody]
      · by_cases cards : packet.type = Message.cardsRequest
        · have supported : packet.type ∈ ContactsService.supported := by
            simp [ContactsService.supported, cards]
          rw [if_neg manifest, if_pos cards]
          rcases Message.request_cases cards with
            ⟨fault, read, unlisted, -⟩ | ⟨raw, read, listed, nobody⟩
          · simp [read, unlisted, Except.toOption]
          · simp [read, supported, listed, Except.toOption, nobody]
        · simp [manifest, cards, ContactsService.supported]

end ContactsCall

/-! ## The parts of the service -/

theorem Manifest.isQuiet_visit (layout : Layout) (manifest : Manifest) (uid : Uid)
    (record : Record) : (Manifest.visit layout manifest uid record).IsQuiet := by
  rw [Manifest.visit]
  split
  · exact Run.isQuiet_pure _
  · exact Run.isQuiet_note_pure _ _

namespace Cards

theorem isQuiet_visit (layout : Layout) (findings : Findings) (uid : Uid) (record : Record) :
    (visit layout findings uid record).IsQuiet := by
  have taken : (takeText layout findings uid record).IsQuiet := by
    rw [takeText]
    split
    · exact Run.isQuiet_pure _
    · exact Run.isQuiet_pure _
    · exact Run.isQuiet_note_pure _ _
  exact taken.bind fun _ => Run.isQuiet_pure _

theorem isQuiet_finish (layout : Layout) (sender : Sender) (findings : Findings)
    (cards : KeyedList Uid String) (uid : Uid) :
    (finish layout sender findings cards uid).IsQuiet := by
  rw [finish]
  split
  · exact Run.isQuiet_pure _
  · exact Run.isQuiet_note_pure _ _
  · exact Run.isQuiet_note_pure _ _
  · split
    · exact Run.isQuiet_pure _
    · exact Run.isQuiet_note_pure _ _
    · exact Run.isQuiet_throw _

theorem dealings_collect {source : Source} {access : Option Access}
    (opens : Access.opens access = true) (layout : Layout) (sender : Sender) (uids : List Uid) :
    (collect source access layout sender uids).dealings =
      if uids.isEmpty then [] else (selection layout uids).query.dealings := by
  rw [collect, Access.demand_of_opens opens, (Run.isQuiet_pure ()).dealings_bind rfl]
  split
  · rfl
  · rw [Run.dealings_bind_quiet fun findings =>
      Run.isQuiet_foldlM (isQuiet_finish layout sender findings) uids []]
    exact Projection.dealings_visitRows opens (isQuiet_visit layout) _

end Cards

namespace PhoneBook

theorem isQuiet_firstEntry (layout : Layout) (rows : List Row) :
    (firstEntry layout rows).IsQuiet := by
  cases rows with
  | nil => exact Run.isQuiet_pure _
  | cons row rest =>
      exact (Projection.isQuiet_readRecord row _).bind fun _ => Run.isQuiet_pure _

theorem dealings_lookup {source : Source} {access : Option Access}
    (opens : Access.opens access = true) (layout : Layout) (number : String) :
    (lookup source access layout number).dealings =
      if (normalize number).isEmpty then [] else (query layout (normalize number)).dealings := by
  rw [lookup, Access.demand_of_opens opens, (Run.isQuiet_pure ()).dealings_bind rfl]
  dsimp only
  split
  · rfl
  -- Neither catching a failure nor returning from there deals with the source.
  · rw [Run.dealings_bind_quiet, Run.dealings_tryCatch, Run.dealings_bind_quiet]
    · exact source.dealings_reading _ (isQuiet_firstEntry layout)
    · exact fun _ => Run.isQuiet_pure _
    · intro failure
      split
      · exact Run.isQuiet_note_pure _ _
      · exact (Run.isQuiet_throw _).bind fun _ => Run.isQuiet_pure _
    · rintro (early | entry) <;> exact Run.isQuiet_pure _

end PhoneBook

namespace ContactsService

variable {service : ContactsService}

/-- Whatever way a call takes to the contacts. -/
def perform (service : ContactsService) (around : Surroundings) :
    ContactsCall -> Run ContactsReply
  | .dispatch packet => do
      let answer <- service.dispatcher.dispatch around packet
      return .answer answer
  | .lookup number => do
      let entry <- PhoneBook.lookup around.source service.access service.layout number
      return .entry entry

theorem dealings_answerManifest (opens : Access.opens service.access = true)
    (around : Surroundings) (packet : Packet) :
    (service.answerManifest around packet).dealings =
      (Manifest.selection service.layout none).query.dealings := by
  rw [answerManifest, Run.dealings_bind_quiet fun _ => Run.isQuiet_pure _]
  exact Projection.dealings_visitRows opens (Manifest.isQuiet_visit service.layout) []

theorem dealings_answerCards (opens : Access.opens service.access = true)
    (around : Surroundings) {packet : Packet} {raw : List Value}
    (listed : Message.uidList packet = .ok raw) :
    (service.answerCards around packet).dealings =
      if (Message.distinctUids raw).isEmpty then []
      else (Cards.selection service.layout (Message.distinctUids raw)).query.dealings := by
  rw [answerCards, listed, (Run.isQuiet_ofExcept _).dealings_bind rfl,
    (Message.isQuiet_parseUids raw).dealings_bind (Message.outcome_parseUids raw),
    Run.dealings_bind_quiet fun _ => Run.isQuiet_pure _]
  exact Cards.dealings_collect opens _ _ _

/-! ## Calls -/

theorem dealings_perform (opens : Access.opens service.access = true) (around : Surroundings)
    (call : ContactsCall) :
    (service.perform around call).dealings =
      (call.query? service.layout).toList.flatMap Query.dealings := by
  cases call with
  | dispatch packet =>
      have released := service.dispatcher.isQuiet_release packet
      rw [perform, Run.dealings_bind_quiet fun _ => Run.isQuiet_pure _, ContactsCall.query?]
      rcases dispatch_cases service around packet with
        ⟨asked, handled⟩ | ⟨asked, handled⟩ | ⟨unsupported, refused⟩
      · rw [handled, Run.dealings_bind_quiet released, dealings_answerManifest opens, if_pos asked]
        simp
      · rw [handled, Run.dealings_bind_quiet released, if_neg (asked ▸ by decide), if_pos asked]
        cases listed : Message.uidList packet with
        | error fault =>
            rw [answerCards, listed, Run.dealings_bind_error rfl]
            rfl
        | ok raw =>
            rw [dealings_answerCards opens around listed]
            simp only [Except.toOption, Option.bind_some]
            split <;> simp
      · have silent : (Run.note (.noHandler packet.type) >>= fun _ =>
            (throw (.unsupportedType packet.type) : Run Packet)).IsQuiet :=
          (Run.isQuiet_note _).bind fun _ => Run.isQuiet_throw _
        simp only [supported, List.mem_cons, List.not_mem_nil, or_false, not_or] at unsupported
        rw [refused, silent, if_neg unsupported.1, if_neg unsupported.2]
        rfl
  | lookup number =>
      rw [perform, Run.dealings_bind_quiet fun _ => Run.isQuiet_pure _,
        PhoneBook.dealings_lookup opens, ContactsCall.query?]
      split <;> simp

theorem isRefused_answerManifest (closed : Access.opens service.access = false)
    (around : Surroundings) (packet : Packet) :
    (service.answerManifest around packet).IsRefused .accessDenied :=
  ((Access.isRefused_demand closed).bind _).bind _

/-- Without access a request for vCards is refused for its list of uIDs, or for want of access. -/
theorem exists_isRefused_answerCards (closed : Access.opens service.access = false)
    (around : Surroundings) (packet : Packet) :
    ∃ failure, (service.answerCards around packet).IsRefused failure := by
  rw [answerCards]
  cases listed : Message.uidList packet with
  | error fault => exact ⟨.request fault, (Run.isRefused_throw _).bind _⟩
  | ok raw =>
      have parsed := Message.outcome_parseUids raw
      have denied := Access.isRefused_demand closed
      refine ⟨.accessDenied, (Run.isQuiet_ofExcept _).isRefused_bind rfl ?_⟩
      refine (Message.isQuiet_parseUids raw).isRefused_bind parsed ?_
      exact (denied.bind _).bind _

/-- Without access every call is refused before it looks at the contacts. -/
theorem isRefused_perform (closed : Access.opens service.access = false) (around : Surroundings)
    (call : ContactsCall) :
    ∃ failure, (service.perform around call).IsRefused failure ∧
      ∀ number, call = .lookup number -> failure = .accessDenied := by
  cases call with
  | lookup number =>
      exact ⟨.accessDenied, ((Access.isRefused_demand closed).bind _).bind _, fun _ _ => rfl⟩
  | dispatch packet =>
      have refused : ∃ failure, (service.dispatcher.dispatch around packet).IsRefused failure := by
        rcases dispatch_cases service around packet with
          ⟨-, handled⟩ | ⟨-, handled⟩ | ⟨-, handled⟩
        · rw [handled]
          exact ⟨_, (isRefused_answerManifest closed around packet).bind _⟩
        · rw [handled]
          obtain ⟨failure, refused⟩ := exists_isRefused_answerCards closed around packet
          exact ⟨failure, refused.bind _⟩
        · rw [handled]
          exact ⟨_, (Run.isQuiet_note _).isRefused_bind rfl (Run.isRefused_throw _)⟩
      obtain ⟨failure, refused⟩ := refused
      exact ⟨failure, refused.bind _, fun _ lookup => by cases lookup⟩

/-! ## Histories of calls -/

/-- Calls one after another, each of them with the source and at the time that it meets. -/
def course (service : ContactsService) (history : List (Surroundings × ContactsCall)) :
    Run (List (Except Failure ContactsReply)) :=
  history.mapM fun step => (service.perform step.1 step.2).attempt

theorem exists_dealings_perform (service : ContactsService) (around : Surroundings)
    (call : ContactsCall) :
    ∃ queries, (service.perform around call).dealings = List.flatMap Query.dealings queries := by
  cases opens : Access.opens service.access with
  | true => exact ⟨_, dealings_perform opens around call⟩
  | false =>
      obtain ⟨failure, refused, -⟩ := isRefused_perform opens around call
      exact ⟨[], refused.quiet⟩

/-- In a history every query is closed before the next one is opened. -/
theorem exists_dealings_course (service : ContactsService)
    (history : List (Surroundings × ContactsCall)) :
    ∃ queries, (service.course history).dealings = List.flatMap Query.dealings queries := by
  rw [course, Run.dealings_mapM_attempt]
  induction history with
  | nil => exact ⟨[], rfl⟩
  | cons step rest ih =>
      obtain ⟨first, now⟩ := service.exists_dealings_perform step.1 step.2
      obtain ⟨others, later⟩ := ih
      exact ⟨first ++ others, by rw [List.flatMap_cons, now, later, List.flatMap_append]⟩

theorem queries_course_of_closed (closed : Access.opens service.access = false)
    (history : List (Surroundings × ContactsCall)) : (service.course history).queries = [] := by
  have silent : (service.course history).dealings = [] := by
    rw [course, Run.dealings_mapM_attempt, List.flatMap_eq_nil_iff]
    intro step _
    obtain ⟨failure, refused, -⟩ := isRefused_perform closed step.1 step.2
    exact refused.quiet
  rw [Run.queries_eq, silent]
  rfl

/-- Without a token for the contacts nothing is ever queried and every call fails, a lookup for want
of access.  With the token a call opens one query, or none exactly if it is idle.  After every call
of a history, whatever came of it, all queries are closed. -/
theorem query_discipline (service : ContactsService)
    (history : List (Surroundings × ContactsCall)) :
    (service.access ≠ some ⟨Access.readContacts⟩ ->
      (service.course history).queries = [] ∧
        ∀ step ∈ history, ∃ failure, (service.perform step.1 step.2).outcome = .error failure ∧
          ∀ number, step.2 = .lookup number -> failure = .accessDenied) ∧
      (service.access = some ⟨Access.readContacts⟩ ->
        ∀ step ∈ history, (service.perform step.1 step.2).queries.length ≤ 1 ∧
          ((service.perform step.1 step.2).queries = [] ↔ step.2.IsIdle)) ∧
      ∀ done, done <+: history -> (service.course done).openQueries = 0 := by
  refine ⟨fun refusing => ?_, fun granted step _ => ?_, fun done _ => ?_⟩
  · have closed : Access.opens service.access = false := by
      rw [← Bool.not_eq_true, Access.opens_iff]
      exact refusing
    refine ⟨queries_course_of_closed closed history, fun step _ => ?_⟩
    obtain ⟨failure, refused, denied⟩ := isRefused_perform closed step.1 step.2
    exact ⟨failure, refused.failed, denied⟩
  · have opened := Run.queries_of_dealings
      (dealings_perform (Access.opens_iff.mpr granted) step.1 step.2)
    rw [opened, Option.toList_eq_nil_iff, ContactsCall.query?_eq_none_iff]
    exact ⟨Option.length_toList_le, Iff.rfl⟩
  · obtain ⟨queries, paired⟩ := service.exists_dealings_course done
    exact Run.openQueries_of_dealings paired

/-- A history with a source that cannot be opened and with a row that cannot be read. -/
theorem query_discipline_failing :
    (plainService.course
        [(⟨Source.refusing (.noTable "raw_contacts"), 0⟩, .dispatch (Message.requestManifest 0)),
         (⟨Source.ofRows [[("lookup_key", ⟨some "text", .text "c"⟩),
            ("last_updated_timestamp", ⟨some "integer", .real ⟨0x7FF0000000000000⟩⟩)]], 0⟩,
          .dispatch (Message.requestManifest 0)),
         (⟨Source.ofRows [], 0⟩, .lookup "+1 2")]).openQueries = 0 ∧
      (plainService.perform ⟨Source.ofRows [], 0⟩
        (.dispatch (Message.requestCards 0 []))).queries = [] ∧
      (ContactsService.course { plainService with access := some ⟨"WRITE_CONTACTS"⟩ }
        [(⟨Source.ofRows [], 0⟩, .lookup "+1 2")]).queries = [] := by
  refine ⟨(query_discipline plainService _).2.2 _ (List.prefix_refl _), ?_, ?_⟩
  · refine ((query_discipline plainService
      [(⟨Source.ofRows [], 0⟩, .dispatch (Message.requestCards 0 []))]).2.1 rfl _
        List.mem_cons_self).2.mpr ?_
    exact .inr (.inr ⟨rfl, [], rfl, by simp⟩)
  · exact ((query_discipline { plainService with access := some ⟨"WRITE_CONTACTS"⟩ } _).1
      (by decide)).1

end ContactsService

end PairedContacts
