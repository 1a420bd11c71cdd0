import PairedContacts.Proofs.Contacts.Answer
import PairedContacts.Proofs.Contacts.Precedence
import PairedContacts.Proofs.Contacts.Wire
import PairedContacts.Proofs.Registration
import PairedContacts.Server.Startup

/-!
# What a requester can be told

A requester can be told a packet that the wire can hold, and a failure of a kind that has a status.
Nothing else comes of a request to the contacts service, whatever its source holds, and nothing else
comes of a dispatcher whose handlers keep to this.
-/

set_option autoImplicit false

namespace PairedContacts

/-- The status by which a requester is told a failure of a kind. -/
def Server.status? : FailureKind -> Option Nat
  | .unsupportedType => some 404
  | .malformedRequest => some 422
  | .permissionDenied => some 403
  | .sourceUnavailable | .database => some 503
  | .internal => some 500
  | _ => none

/-- An end of a request that a requester can be told. -/
inductive IsTellable : Except Failure Packet -> Prop where
  | answer {answer : Packet} (portable : answer.IsPortable) : IsTellable (.ok answer)
  | failure {failure : Failure} (known : (Server.status? failure.kind).isSome = true) :
      IsTellable (.error failure)

/-- Handlers by which every packet that can be posted comes to an end that a requester can be
told. -/
def AreTellable (around : Surroundings) (handlers : KeyedList String Handler) : Prop :=
  ∀ entry ∈ handlers, ∀ packet : Packet, packet.IsPostable ->
    IsTellable (entry.2 around packet).outcome

/-! ## Dispatchers -/

namespace AreTellable

variable {around : Surroundings} {plugin : Plugin}

theorem entriesFor (told : AreTellable around plugin.handlers) (types : List String) :
    AreTellable around (Dispatcher.entriesFor plugin types) := by
  intro entry member
  obtain ⟨type, -, found⟩ := List.mem_filterMap.mp member
  obtain ⟨handler, held, rfl⟩ := Option.map_eq_some_iff.mp found
  exact told _ (KeyedList.mem_of_get? held)

theorem register {dispatcher : Dispatcher} (held : AreTellable around dispatcher.handlers)
    (told : AreTellable around plugin.handlers) :
    AreTellable around (dispatcher.register plugin).1.handlers := by
  obtain ⟨added, -, grown⟩ := dispatcher.exists_added plugin
  rw [grown]
  exact List.forall_mem_append.mpr ⟨held, told.entriesFor added⟩

/-- A packet of a type that nobody handles and an answer of a type that nobody declared are
failures with a status. -/
theorem dispatch {dispatcher : Dispatcher} (held : AreTellable around dispatcher.handlers)
    {packet : Packet} (postable : packet.IsPostable) :
    IsTellable (dispatcher.dispatch around packet).outcome := by
  cases found : KeyedList.get? dispatcher.handlers packet.type with
  | none =>
      rw [Dispatcher.dispatch_of_none around found]
      exact .failure rfl
  | some handler =>
      rw [Dispatcher.dispatch_of_some around found]
      have told := held _ (KeyedList.mem_of_get? found) packet postable
      cases ended : (handler around packet).outcome with
      | error failure =>
          rw [Run.bind_error ended]
          exact ended ▸ told
      | ok answer =>
          rw [ended] at told
          rw [Run.outcome_bind_ok ended, Dispatcher.release]
          split
          · exact told
          · exact .failure rfl

end AreTellable

/-! ## Sources -/

/-- A source that answers a query without a filter by rows as a table stores them, or by a failure
that has a status. -/
def Source.IsSound (source : Source) : Prop :=
  ∀ query : Query, query.filter = [] ->
    (∃ rows, source.select query = .ok rows ∧ (∀ row ∈ rows, row.isTyped = true) ∧
      (∀ row ∈ rows, row.isShort = true) ∧ ∀ row ∈ rows, row.FitsCells) ∨
    ∃ failure, source.select query = .error failure ∧
      (Server.status? failure.kind).isSome = true

/-- A store whose cells are all of a kind that can be stored. -/
def Store.IsSound : Store -> Prop
  | .reachable database => database.FitsCells
  | .unreachable _ => True

theorem Store.IsSound.source {store : Store} (sound : store.IsSound) : store.source.IsSound := by
  intro query unfiltered
  cases store with
  | unreachable reason => exact .inr ⟨.database reason, rfl, rfl⟩
  | reachable database =>
      cases found : database.table? query.table with
      | none => exact .inr ⟨_, Database.select_of_absent found, rfl⟩
      | some table => exact .inl (Database.exists_select sound unfiltered found)

/-! ## The contacts service -/

namespace ContactsService

variable {service : ContactsService} {source : Source} {now : Int}

/-- The wire has room for every integer of a cell. -/
theorem admits_of_fitsCell {n : Int} (fits : Affinity.fitsCell n = true) :
    Packet.dialect.admits n = true := by
  have bound : wordBound < tenTo (Packet.dialect.room true) := by decide +kernel
  have room : tenTo (Packet.dialect.room true) ≤ tenTo (Packet.dialect.room (decide (n < 0))) := by
    refine Numeral.tenTo_le ?_
    cases decide (n < 0) <;> decide
  rw [Json.Dialect.admits_iff]
  simp only [Affinity.fitsCell, Bool.and_eq_true, decide_eq_true_eq] at fits
  omega

theorem admits_manifestOf {rows : List Row} (fit : ∀ row ∈ rows, row.FitsCells) :
    ∀ entry ∈ service.manifestOf rows, Packet.dialect.admits entry.2 = true := by
  intro entry member
  have once := (isPortable_manifestOf service rows).once
  have found := KeyedList.get?_of_mem once member
  rw [manifestOf, Manifest.get?_ofRows_all] at found
  obtain ⟨row, within, read⟩ := MergeGroup.exists_cell?_of_newest found
  exact admits_of_fitsCell (fit row within _ _ read)

section

variable (settled : service.sender.IsSettled) (sound : source.IsSound)
  (punctual : Packet.dialect.admits now = true)

include settled sound punctual

theorem isTellable_answerManifest (packet : Packet) :
    IsTellable (service.answerManifest ⟨source, now⟩ packet).outcome := by
  cases opens : Access.opens service.access with
  | false =>
      rw [outcome_answerManifest_of_closed now opens]
      exact .failure rfl
  | true =>
      rcases sound (Manifest.selection service.layout none).query rfl with
        ⟨rows, selected, typed, short, fit⟩ | ⟨failure, refused, known⟩
      · have reads : service.Reads rows := ⟨opens, settled.admitted, typed, short⟩
        rw [outcome_answerManifest_of_select now reads selected]
        apply IsTellable.answer
        exact Message.isPortable_respondManifest punctual (isPortable_manifestOf service rows)
          (admits_manifestOf fit)
      · rw [outcome_answerManifest_of_refused now opens refused]
        exact .failure known

theorem isTellable_answerCards (packet : Packet) :
    IsTellable (service.answerCards ⟨source, now⟩ packet).outcome := by
  cases listed : Message.uidList packet with
  | error fault =>
      rw [answerCards, listed]
      exact .failure rfl
  | ok raw =>
      have answer (rows : List Row) : IsTellable (.ok (Message.respondCards now
          (service.cardsOf rows (Message.distinctUids raw)))) := by
        apply IsTellable.answer
        exact Message.isPortable_respondCards punctual (isPortable_requestedCards service rows raw)
      cases opens : Access.opens service.access with
      | false =>
          rw [outcome_answerCards_of_listed now listed, Cards.outcome_collect_of_closed opens]
          exact .failure rfl
      | true =>
          let asked := Cards.selection service.layout (Message.distinctUids raw)
          rcases sound asked.query rfl with
            ⟨rows, selected, typed, short, -⟩ | ⟨failure, refused, known⟩
          · have reads : service.Reads rows := ⟨opens, settled.admitted, typed, short⟩
            rw [outcome_answerCards_of_select now reads listed selected]
            exact answer rows
          · rw [outcome_answerCards_of_listed now listed]
            -- A source that would fail is not asked for nobody.
            by_cases nobody : Message.distinctUids raw = []
            · have none := answer []
              rw [nobody] at none
              rw [nobody, Cards.outcome_collect_nobody opens]
              exact none
            · rw [Cards.outcome_collect_of_refused opens nobody refused]
              exact .failure known

theorem areTellable_plugin : AreTellable ⟨source, now⟩ service.plugin.handlers := by
  intro entry member packet _
  simp only [plugin, List.mem_cons, List.not_mem_nil, or_false] at member
  rcases member with rfl | rfl
  · exact isTellable_answerManifest settled sound punctual packet
  · exact isTellable_answerCards settled sound punctual packet

end

end ContactsService

end PairedContacts
