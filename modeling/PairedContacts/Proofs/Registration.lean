import PairedContacts.Dispatcher
import PairedContacts.Proofs.KeyedList

/-!
# Registering plugins

A plugin is registered type by type.  If one of its types is refused, the types before it have been
added all the same, though nothing has been declared of their answers: the dispatcher is as it was
exactly if the first type of the plugin is the one that is refused.
-/

set_option autoImplicit false

namespace PairedContacts

namespace Dispatcher

variable {plugin : Plugin} {handlers : KeyedList String Handler} {types : List String}

/-- Types of a plugin that can be added to handlers one after another. -/
structure AreFree (plugin : Plugin) (handlers : KeyedList String Handler) (types : List String) :
    Prop where
  once : types.Nodup
  fresh : ∀ type ∈ types, type ∉ KeyedList.keys handlers
  handled : ∀ type ∈ types, ∃ handler, KeyedList.get? plugin.handlers type = some handler

/-- Why a type of a plugin cannot be added to handlers. -/
inductive Refuses (plugin : Plugin) (handlers : KeyedList String Handler) (type : String) :
    RegistrationFault -> Prop where
  | noHandler (absent : KeyedList.get? plugin.handlers type = none) :
      Refuses plugin handlers type (.noHandler plugin.name type)
  | handlerExists (handled : ∃ handler, KeyedList.get? plugin.handlers type = some handler)
      (held : type ∈ KeyedList.keys handlers) : Refuses plugin handlers type (.handlerExists type)

/-- The handlers that a plugin has for types. -/
def entriesFor (plugin : Plugin) (types : List String) : KeyedList String Handler :=
  types.filterMap fun type =>
    (KeyedList.get? plugin.handlers type).map fun handler => (type, handler)

theorem get?_entriesFor (plugin : Plugin) (types : List String) (type : String) :
    KeyedList.get? (entriesFor plugin types) type =
      if type ∈ types then KeyedList.get? plugin.handlers type else none := by
  induction types with
  | nil => rfl
  | cons first rest ih =>
      rw [entriesFor, List.filterMap_cons]
      cases found : KeyedList.get? plugin.handlers first with
      | none =>
          simp only [Option.map_none]
          rw [← entriesFor, ih]
          by_cases same : type = first
          · subst same
            simp [found]
          · simp [same]
      | some handler =>
          simp only [Option.map_some]
          rw [← entriesFor, KeyedList.get?_cons, ih]
          by_cases same : first = type
          · subst same
            simp [found]
          · simp [same, Ne.symm same]

theorem keys_entriesFor (free : AreFree plugin handlers types) :
    KeyedList.keys (entriesFor plugin types) = types := by
  obtain ⟨-, -, handled⟩ := free
  induction types with
  | nil => rfl
  | cons first rest ih =>
      obtain ⟨handler, found⟩ := handled first (by simp)
      have later := ih fun type member => handled type (List.mem_cons_of_mem _ member)
      rw [entriesFor, List.filterMap_cons, found]
      exact congrArg (first :: ·) later

theorem areFree_nil (plugin : Plugin) (handlers : KeyedList String Handler) :
    AreFree plugin handlers [] :=
  ⟨List.nodup_nil, by simp, by simp⟩

theorem AreFree.cons {first : String} {handler : Handler}
    (found : KeyedList.get? plugin.handlers first = some handler)
    (fresh : first ∉ KeyedList.keys handlers)
    (rest : AreFree plugin (handlers ++ [(first, handler)]) types) :
    AreFree plugin handlers (first :: types) := by
  have apart : ∀ type ∈ types, type ∉ KeyedList.keys handlers ∧ type ≠ first := by
    intro type member
    simpa [KeyedList.keys_append, KeyedList.keys] using rest.fresh type member
  refine ⟨List.nodup_cons.mpr ⟨fun later => (apart first later).2 rfl, rest.once⟩, ?_, ?_⟩
  · intro type member
    rcases List.mem_cons.mp member with rfl | later
    · exact fresh
    · exact (apart type later).1
  · intro type member
    rcases List.mem_cons.mp member with rfl | later
    · exact ⟨handler, found⟩
    · exact rest.handled type later

/-- All types are added, or those in front of the first one that is refused. -/
theorem addHandlers_cases (plugin : Plugin) (handlers : KeyedList String Handler)
    (types : List String) :
    (AreFree plugin handlers types ∧
      addHandlers plugin handlers types = (handlers ++ entriesFor plugin types, .ok ())) ∨
    ∃ added refused rest fault, types = added ++ refused :: rest ∧
      AreFree plugin handlers added ∧
      Refuses plugin (handlers ++ entriesFor plugin added) refused fault ∧
      addHandlers plugin handlers types = (handlers ++ entriesFor plugin added, .error fault) := by
  induction types generalizing handlers with
  | nil => exact .inl ⟨areFree_nil plugin handlers, by simp [addHandlers, entriesFor]⟩
  | cons type rest ih =>
      have none : handlers ++ entriesFor plugin [] = handlers := List.append_nil handlers
      have stops {fault : RegistrationFault} (refuses : Refuses plugin handlers type fault)
          (ends : addHandlers plugin handlers (type :: rest) = (handlers, .error fault)) :
          ∃ added refused later fault, type :: rest = added ++ refused :: later ∧
            AreFree plugin handlers added ∧
            Refuses plugin (handlers ++ entriesFor plugin added) refused fault ∧
            addHandlers plugin handlers (type :: rest) =
              (handlers ++ entriesFor plugin added, .error fault) :=
        ⟨[], type, rest, fault, rfl, areFree_nil plugin handlers, by rwa [none],
          by rw [none, ends]⟩
      cases found : KeyedList.get? plugin.handlers type with
      | none => exact .inr (stops (.noHandler found) (by simp [addHandlers, found]))
      | some handler =>
          by_cases held : KeyedList.holds handlers type = true
          · exact .inr (stops (.handlerExists ⟨handler, found⟩ (KeyedList.isSome_get?_iff.mp held))
              (by simp [addHandlers, found, held]))
          · have fresh : type ∉ KeyedList.keys handlers :=
              fun known => held (KeyedList.isSome_get?_iff.mpr known)
            have step : addHandlers plugin handlers (type :: rest) =
                addHandlers plugin (handlers ++ [(type, handler)]) rest := by
              rw [← KeyedList.put_of_fresh fresh handler]
              simp [addHandlers, found, held]
            have grown (added : List String) :
                handlers ++ [(type, handler)] ++ entriesFor plugin added =
                  handlers ++ entriesFor plugin (type :: added) := by
              simp [entriesFor, found]
            rcases ih (handlers ++ [(type, handler)]) with
              ⟨free, all⟩ | ⟨added, refused, later, fault, rfl, free, refuses, ends⟩
            · exact .inl ⟨free.cons found fresh, by rw [step, all, grown]⟩
            · refine .inr ⟨type :: added, refused, later, fault, rfl, free.cons found fresh, ?_, ?_⟩
              · rwa [← grown]
              · rw [step, ends, grown]

theorem exists_added_of_register {dispatcher after : Dispatcher} {fault : RegistrationFault}
    (rejected : dispatcher.register plugin = (after, .error fault)) :
    ∃ added refused rest, plugin.supported = added ++ refused :: rest ∧
      AreFree plugin dispatcher.handlers added ∧ Refuses plugin after.handlers refused fault ∧
      after = ⟨dispatcher.handlers ++ entriesFor plugin added, dispatcher.outgoing⟩ := by
  rw [register] at rejected
  rcases addHandlers_cases plugin dispatcher.handlers plugin.supported with
    ⟨-, all⟩ | ⟨added, refused, rest, other, parts, free, refuses, ends⟩
  · rw [all] at rejected
    cases rejected
  · rw [ends] at rejected
    cases rejected
    exact ⟨added, refused, rest, parts, free, refuses, rfl⟩

/-- Whether a registration succeeds or not, the handlers that it adds are those for the first types
of the plugin. -/
theorem exists_added (dispatcher : Dispatcher) (plugin : Plugin) :
    ∃ added, added <+: plugin.supported ∧
      (dispatcher.register plugin).1.handlers =
        dispatcher.handlers ++ entriesFor plugin added := by
  rw [register]
  rcases addHandlers_cases plugin dispatcher.handlers plugin.supported with
    ⟨-, all⟩ | ⟨added, refused, rest, fault, parts, -, -, part⟩
  · exact ⟨plugin.supported, List.prefix_refl _, by rw [all]⟩
  · exact ⟨added, ⟨refused :: rest, parts.symm⟩, by rw [part]⟩

/-! ## What shows of a dispatcher -/

theorem inOrder_perm (texts : List String) : (inOrder texts).Perm texts :=
  List.mergeSort_perm texts _

theorem supportedTypes_perm {dispatcher : Dispatcher} (outgoing : List String)
    (free : AreFree plugin dispatcher.handlers types) :
    (supportedTypes ⟨dispatcher.handlers ++ entriesFor plugin types, outgoing⟩).Perm
      (dispatcher.supportedTypes ++ types) := by
  refine (inOrder_perm _).trans ?_
  rw [KeyedList.keys_append, keys_entriesFor free]
  exact (inOrder_perm _).symm.append_right types

theorem dispatch_of_some {dispatcher : Dispatcher} {handler : Handler} (around : Surroundings)
    {packet : Packet} (found : KeyedList.get? dispatcher.handlers packet.type = some handler) :
    dispatcher.dispatch around packet = handler around packet >>= dispatcher.release packet := by
  rw [dispatch, found]

theorem dispatch_of_none {dispatcher : Dispatcher} (around : Surroundings) {packet : Packet}
    (absent : KeyedList.get? dispatcher.handlers packet.type = none) :
    (dispatcher.dispatch around packet).outcome = .error (.unsupportedType packet.type) := by
  rw [dispatch, absent]
  rfl

/-- Where more handlers are behind those of a dispatcher, it dispatches as before. -/
theorem dispatch_append {dispatcher : Dispatcher} {more : KeyedList String Handler}
    (around : Surroundings) {packet : Packet} (absent : KeyedList.get? more packet.type = none) :
    dispatch ⟨dispatcher.handlers ++ more, dispatcher.outgoing⟩ around packet =
      dispatcher.dispatch around packet := by
  have same : KeyedList.get? (dispatcher.handlers ++ more) packet.type =
      KeyedList.get? dispatcher.handlers packet.type := by
    rw [KeyedList.get?_append, absent, Option.or_none]
  rw [dispatch, dispatch, same]
  rfl

/-- A rejected registration declares no types of answers, but it keeps the types of the plugin in
front of the refused one: they are free types that the plugin has handlers for.  Packets of these
types were not supported before and now go to the plugin, whose answers are released only if their
types had been declared by others.  Packets of all other types are dispatched as before.  So nothing
has changed exactly if the first type of the plugin is the refused one. -/
theorem rejected_registration_keeps_added {dispatcher after : Dispatcher} {plugin : Plugin}
    {fault : RegistrationFault}
    (rejected : dispatcher.register plugin = (after, .error fault)) :
    after.outgoingTypes = dispatcher.outgoingTypes ∧
    ∃ added refused rest, plugin.supported = added ++ refused :: rest ∧
      AreFree plugin dispatcher.handlers added ∧ Refuses plugin after.handlers refused fault ∧
      after.supportedTypes.Perm (dispatcher.supportedTypes ++ added) ∧
      (∀ around (packet : Packet), packet.type ∉ added ->
        after.dispatch around packet = dispatcher.dispatch around packet) ∧
      (∀ around (packet : Packet), packet.type ∈ added ->
        (dispatcher.dispatch around packet).outcome = .error (.unsupportedType packet.type) ∧
        ∃ handler, KeyedList.get? plugin.handlers packet.type = some handler ∧
          after.dispatch around packet = handler around packet >>= dispatcher.release packet) ∧
      ((after.supportedTypes = dispatcher.supportedTypes ∧
        ∀ around packet, after.dispatch around packet = dispatcher.dispatch around packet) ↔
          added = []) := by
  obtain ⟨added, refused, rest, parts, free, refuses, rfl⟩ := exists_added_of_register rejected
  have grown := supportedTypes_perm dispatcher.outgoing free
  have kept : ∀ around (packet : Packet), packet.type ∉ added ->
      dispatch ⟨dispatcher.handlers ++ entriesFor plugin added, dispatcher.outgoing⟩ around packet =
        dispatcher.dispatch around packet := by
    intro around packet other
    exact dispatch_append around (by rw [get?_entriesFor, if_neg other])
  refine ⟨rfl, added, refused, rest, parts, free, refuses, grown, kept, ?_, ?_⟩
  · intro around packet member
    have absent : KeyedList.get? dispatcher.handlers packet.type = none :=
      KeyedList.get?_eq_none_iff.mpr (free.fresh _ member)
    obtain ⟨handler, handled⟩ := free.handled _ member
    refine ⟨dispatch_of_none around absent, handler, handled, dispatch_of_some around ?_⟩
    rw [KeyedList.get?_append, absent, Option.none_or, get?_entriesFor, if_pos member, handled]
  · constructor
    · rintro ⟨same, -⟩
      have length := grown.length_eq
      rw [same, List.length_append] at length
      exact List.length_eq_zero_iff.mp (by omega)
    · rintro rfl
      refine ⟨?_, fun around packet => kept around packet (by simp)⟩
      rw [entriesFor, List.filterMap_nil, List.append_nil]

/-- A plugin that declares a type it has a handler for, and then one without. -/
def halfHandled : Plugin where
  name := "EchoPlugin"
  supported := ["test.a", "test.b"]
  outgoing := ["test.a"]
  handlers := [("test.a", fun _ packet => pure packet)]

theorem rejected_registration_keeps_added_halfHandled :
    ∃ after, empty.register halfHandled = (after, .error (.noHandler "EchoPlugin" "test.b")) ∧
      after.outgoingTypes = empty.outgoingTypes ∧
      ∃ added refused rest, halfHandled.supported = added ++ refused :: rest ∧
        AreFree halfHandled empty.handlers added ∧
        Refuses halfHandled after.handlers refused (.noHandler "EchoPlugin" "test.b") ∧
        after.supportedTypes.Perm (empty.supportedTypes ++ added) ∧
        (∀ around (packet : Packet), packet.type ∉ added ->
          after.dispatch around packet = empty.dispatch around packet) ∧
        (∀ around (packet : Packet), packet.type ∈ added ->
          (empty.dispatch around packet).outcome = .error (.unsupportedType packet.type) ∧
          ∃ handler, KeyedList.get? halfHandled.handlers packet.type = some handler ∧
            after.dispatch around packet = handler around packet >>= empty.release packet) ∧
        ((after.supportedTypes = empty.supportedTypes ∧
          ∀ around packet, after.dispatch around packet = empty.dispatch around packet) ↔
            added = []) :=
  have rejected : empty.register halfHandled =
      (⟨halfHandled.handlers, []⟩, .error (.noHandler "EchoPlugin" "test.b")) := rfl
  ⟨_, rejected, rejected_registration_keeps_added rejected⟩

end Dispatcher

end PairedContacts
