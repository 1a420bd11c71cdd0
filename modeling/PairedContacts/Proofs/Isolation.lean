import PairedContacts.Proofs.Outcome
import PairedContacts.Proofs.Registration

/-!
# Plugins side by side

Plugins that support different types can be registered in any order, and a packet goes to the
handler of the one plugin that supports its type, as if that plugin were alone.  The declarations of
answers are not kept apart: an answer is released if any of the plugins declares its type.  So a
plugin is isolated from the others except where it answers by a type that it does not declare itself
and another plugin does.
-/

set_option autoImplicit false

namespace PairedContacts

/-- Two plugins that support no type in common. -/
def Plugin.IsApart (first second : Plugin) : Prop :=
  ∀ type ∈ first.supported, type ∉ second.supported

theorem Plugin.IsApart.symm {first second : Plugin} (apart : first.IsApart second) :
    second.IsApart first :=
  fun type inSecond inFirst => apart type inFirst inSecond

namespace Dispatcher

/-- A type of answers that a plugin does not declare, but one of the others does. -/
def Borrows (plugin : Plugin) (others : List Plugin) (type : String) : Prop :=
  type ∉ plugin.outgoing ∧ ∃ other ∈ others, type ∈ other.outgoing

/-! ## Registrations that succeed -/

variable {dispatcher : Dispatcher} {plugin : Plugin}

theorem AreFree.not_refuses {added rest : List String} {refused : String}
    {fault : RegistrationFault}
    (free : AreFree plugin dispatcher.handlers (added ++ refused :: rest))
    (within : AreFree plugin dispatcher.handlers added) :
    ¬Refuses plugin (dispatcher.handlers ++ entriesFor plugin added) refused fault := by
  have listed : refused ∈ added ++ refused :: rest := by simp
  intro refuses
  cases refuses with
  | noHandler absent =>
      obtain ⟨handler, handled⟩ := free.handled refused listed
      rw [absent] at handled
      cases handled
  | handlerExists handled held =>
      rw [KeyedList.keys_append, keys_entriesFor within, List.mem_append] at held
      rcases held with before | earlier
      · exact free.fresh refused listed before
      · exact (List.nodup_append.mp free.once).2.2 refused earlier refused (by simp) rfl

/-- A plugin is registered exactly if its types are free, and then all of them are added. -/
theorem register_of_areFree (free : AreFree plugin dispatcher.handlers plugin.supported) :
    dispatcher.register plugin =
      (⟨dispatcher.handlers ++ entriesFor plugin plugin.supported,
        firstOccurrences (dispatcher.outgoing ++ plugin.outgoing)⟩, .ok ()) := by
  rw [register]
  rcases addHandlers_cases plugin dispatcher.handlers plugin.supported with
    ⟨-, all⟩ | ⟨added, refused, rest, fault, parts, within, refuses, -⟩
  · rw [all]
  · rw [parts] at free
    exact absurd refuses (free.not_refuses within)

theorem areFree_of_register (registered : (dispatcher.register plugin).2 = .ok ()) :
    AreFree plugin dispatcher.handlers plugin.supported := by
  rw [register] at registered
  rcases addHandlers_cases plugin dispatcher.handlers plugin.supported with
    ⟨free, -⟩ | ⟨added, refused, rest, fault, -, -, -, part⟩
  · exact free
  · rw [part] at registered
    cases registered

/-- What is free beside some handlers stays so beside those of a plugin that is apart. -/
theorem AreFree.beside {other : Plugin} (free : AreFree other dispatcher.handlers other.supported)
    (own : AreFree plugin dispatcher.handlers plugin.supported) (apart : plugin.IsApart other) :
    AreFree other (dispatcher.handlers ++ entriesFor plugin plugin.supported) other.supported := by
  refine ⟨free.once, fun type listed held => ?_, free.handled⟩
  rw [KeyedList.keys_append, keys_entriesFor own, List.mem_append] at held
  rcases held with before | added
  · exact free.fresh type listed before
  · exact apart type added listed

/-- Plugins that are apart are all registered.  Their handlers come one plugin after another, and
the declared types are those of all of them. -/
theorem exists_registerAll {plugins : List Plugin}
    (free : ∀ plugin ∈ plugins, AreFree plugin dispatcher.handlers plugin.supported)
    (apart : plugins.Pairwise Plugin.IsApart) :
    ∃ outgoing,
      dispatcher.registerAll plugins = .ok ⟨dispatcher.handlers ++
        plugins.flatMap fun plugin => entriesFor plugin plugin.supported, outgoing⟩ ∧
      ∀ type, type ∈ outgoing ↔
        type ∈ dispatcher.outgoing ∨ ∃ plugin ∈ plugins, type ∈ plugin.outgoing := by
  induction plugins generalizing dispatcher with
  | nil => exact ⟨dispatcher.outgoing, by rw [List.flatMap_nil, List.append_nil]; rfl, by simp⟩
  | cons first rest ih =>
      obtain ⟨apartRest, apart⟩ := List.pairwise_cons.mp apart
      have own := free first List.mem_cons_self
      let next : Dispatcher := ⟨dispatcher.handlers ++ entriesFor first first.supported,
        firstOccurrences (dispatcher.outgoing ++ first.outgoing)⟩
      have freeRest : ∀ other ∈ rest, AreFree other next.handlers other.supported := by
        intro other member
        exact (free other (List.mem_cons_of_mem _ member)).beside own (apartRest other member)
      obtain ⟨outgoing, all, declared⟩ := ih freeRest apart
      have step : dispatcher.registerAll (first :: rest) = next.registerAll rest := by
        rw [registerAll, List.foldlM_cons, register_of_areFree own]
        rfl
      refine ⟨outgoing, ?_, fun type => ?_⟩
      · rw [step, all, List.flatMap_cons, List.append_assoc]
      · rw [declared]
        simp [next, mem_firstOccurrences, or_assoc]

/-! ## The handler of a type -/

theorem get?_flatMap_of_unsupported {plugins : List Plugin} {type : String}
    (unsupported : ∀ plugin ∈ plugins, type ∉ plugin.supported) :
    KeyedList.get? (plugins.flatMap fun plugin => entriesFor plugin plugin.supported) type =
      none := by
  induction plugins with
  | nil => rfl
  | cons first rest ih =>
      have later := ih fun plugin member => unsupported plugin (List.mem_cons_of_mem _ member)
      rw [List.flatMap_cons, KeyedList.get?_append, later, get?_entriesFor,
        if_neg (unsupported first List.mem_cons_self)]
      rfl

/-- Among plugins that are apart, the handler of a type is that of the plugin which supports it. -/
theorem get?_flatMap_of_supported {plugins : List Plugin} (apart : plugins.Pairwise Plugin.IsApart)
    (member : plugin ∈ plugins) {type : String} (supported : type ∈ plugin.supported) :
    KeyedList.get? (plugins.flatMap fun plugin => entriesFor plugin plugin.supported) type =
      KeyedList.get? plugin.handlers type := by
  induction plugins with
  | nil => cases member
  | cons first rest ih =>
      obtain ⟨apartRest, apart⟩ := List.pairwise_cons.mp apart
      rw [List.flatMap_cons, KeyedList.get?_append, get?_entriesFor]
      rcases List.mem_cons.mp member with rfl | later
      · have nobody := get?_flatMap_of_unsupported fun other inRest =>
          apartRest other inRest type supported
        rw [if_pos supported, nobody, Option.or_none]
      · have elsewhere : type ∉ first.supported :=
          fun inFirst => apartRest plugin later type inFirst supported
        rw [if_neg elsewhere, Option.none_or]
        exact ih apart later

/-- A dispatcher that has the handlers of plugins for the types that they support, and releases the
answers that any of them declares. -/
structure Pools (dispatcher : Dispatcher) (plugins : List Plugin) : Prop where
  handlers : ∀ plugin ∈ plugins, ∀ type ∈ plugin.supported,
    KeyedList.get? dispatcher.handlers type = KeyedList.get? plugin.handlers type
  outgoing : ∀ type, type ∈ dispatcher.outgoing ↔ ∃ plugin ∈ plugins, type ∈ plugin.outgoing

theorem exists_ofPlugins {plugins : List Plugin}
    (valid : ∀ plugin ∈ plugins, (empty.register plugin).2 = .ok ())
    (apart : plugins.Pairwise Plugin.IsApart) :
    ∃ pooled, ofPlugins plugins = .ok pooled ∧ pooled.Pools plugins := by
  obtain ⟨outgoing, all, declared⟩ :=
    exists_registerAll (fun plugin member => areFree_of_register (valid plugin member)) apart
  refine ⟨_, all, fun plugin member type supported => ?_, fun type => ?_⟩
  · exact get?_flatMap_of_supported apart member supported
  · rw [declared]
    simp [empty]

/-! ## Answers -/

section Answers

variable {asked answer : Packet}

theorem release_of_declared (declared : answer.type ∈ dispatcher.outgoing) :
    dispatcher.release asked answer = pure answer := by
  rw [release, if_pos (by simpa using declared)]

theorem release_of_undeclared (undeclared : answer.type ∉ dispatcher.outgoing) :
    dispatcher.release asked answer = throw (.undeclaredAnswer asked.type answer.type) := by
  rw [release, if_neg (by simpa using undeclared)]

variable {around : Surroundings} {packet : Packet} {handler : Handler}

theorem outcome_dispatch_of_declared
    (found : KeyedList.get? dispatcher.handlers packet.type = some handler)
    (answers : (handler around packet).outcome = .ok answer)
    (declared : answer.type ∈ dispatcher.outgoing) :
    (dispatcher.dispatch around packet).outcome = .ok answer := by
  rw [dispatch_of_some around found, Run.outcome_bind_ok answers, release_of_declared declared]
  rfl

theorem outcome_dispatch_of_undeclared
    (found : KeyedList.get? dispatcher.handlers packet.type = some handler)
    (answers : (handler around packet).outcome = .ok answer)
    (undeclared : answer.type ∉ dispatcher.outgoing) :
    (dispatcher.dispatch around packet).outcome =
      .error (.undeclaredAnswer packet.type answer.type) := by
  rw [dispatch_of_some around found, Run.outcome_bind_ok answers,
    release_of_undeclared undeclared]
  rfl

/-- Two dispatchers with one handler for a packet differ only by whether they release its answer. -/
theorem dispatch_eq_iff {other : Dispatcher}
    (found : KeyedList.get? dispatcher.handlers packet.type = some handler)
    (foundOther : KeyedList.get? other.handlers packet.type = some handler) :
    dispatcher.dispatch around packet = other.dispatch around packet ↔
      ∀ answer, (handler around packet).outcome = .ok answer ->
        (answer.type ∈ dispatcher.outgoing ↔ answer.type ∈ other.outgoing) := by
  constructor
  · intro same answer answers
    have ends := congrArg Run.outcome same
    by_cases here : answer.type ∈ dispatcher.outgoing <;>
      by_cases there : answer.type ∈ other.outgoing
    · exact iff_of_true here there
    · rw [outcome_dispatch_of_declared found answers here,
        outcome_dispatch_of_undeclared foundOther answers there] at ends
      cases ends
    · rw [outcome_dispatch_of_undeclared found answers here,
        outcome_dispatch_of_declared foundOther answers there] at ends
      cases ends
    · exact iff_of_false here there
  · intro agree
    rw [dispatch_of_some around found, dispatch_of_some around foundOther]
    cases ended : (handler around packet).outcome with
    | error failure => rw [Run.bind_error ended, Run.bind_error ended]
    | ok answer =>
        have released : dispatcher.release packet answer = other.release packet answer := by
          have declared := agree answer ended
          by_cases there : answer.type ∈ other.outgoing
          · rw [release_of_declared there, release_of_declared (declared.mpr there)]
          · rw [release_of_undeclared there, release_of_undeclared (mt declared.mp there)]
        rw [Run.bind_ok ended, Run.bind_ok ended, released]

end Answers

/-- A plugin that can be registered alone is registered with others that are apart from it and from
each other, in any order, and what it supports is handled as if it were alone: a packet comes to the
same end unless the answer to it has a type that the plugin borrows.  Such an answer is released
among the others and refused alone; one of a type that nobody declares is refused in both. -/
theorem isolated_unless_borrowing {plugin : Plugin} {alone : Dispatcher}
    {others order : List Plugin} (registered : empty.register plugin = (alone, .ok ()))
    (valid : ∀ other ∈ others, (empty.register other).2 = .ok ())
    (apart : (plugin :: others).Pairwise Plugin.IsApart)
    (arranged : order.Perm (plugin :: others)) :
    ∃ pooled, ofPlugins order = .ok pooled ∧
      ∀ around (packet : Packet), packet.type ∈ plugin.supported ->
        ∃ handler, KeyedList.get? plugin.handlers packet.type = some handler ∧
          (pooled.dispatch around packet = alone.dispatch around packet ↔
            ∀ answer, (handler around packet).outcome = .ok answer ->
              ¬Borrows plugin others answer.type) ∧
          ∀ answer, (handler around packet).outcome = .ok answer ->
            answer.type ∉ plugin.outgoing ->
              (alone.dispatch around packet).outcome =
                .error (.undeclaredAnswer packet.type answer.type) ∧
              (Borrows plugin others answer.type ->
                (pooled.dispatch around packet).outcome = .ok answer) := by
  have all : ∀ other ∈ order, (empty.register other).2 = .ok () := by
    intro other member
    rcases List.mem_cons.mp (arranged.mem_iff.mp member) with rfl | among
    · rw [registered]
    · exact valid other among
  have apartInOrder : order.Pairwise Plugin.IsApart :=
    (arranged.pairwise_iff fun apart => apart.symm).mpr apart
  obtain ⟨pooled, started, pools⟩ := exists_ofPlugins all apartInOrder
  have own : alone.Pools [plugin] := by
    have valid : ∀ other ∈ [plugin], (empty.register other).2 = .ok () := by simp [registered]
    obtain ⟨single, started, pools⟩ := exists_ofPlugins valid (List.pairwise_singleton _ _)
    rw [ofPlugins, registerAll, List.foldlM_cons, registered] at started
    obtain rfl := Except.ok.inj started
    exact pools
  have ownDeclared : ∀ type, type ∈ alone.outgoing ↔ type ∈ plugin.outgoing := by
    simp [own.outgoing]
  have declared : ∀ type, type ∈ pooled.outgoing ↔
      type ∈ plugin.outgoing ∨ ∃ other ∈ others, type ∈ other.outgoing := by
    intro type
    simp [pools.outgoing, arranged.mem_iff]
  refine ⟨pooled, started, fun around packet supported => ?_⟩
  have member : plugin ∈ order := arranged.mem_iff.mpr List.mem_cons_self
  obtain ⟨handler, handles⟩ :=
    (areFree_of_register (all plugin member)).handled packet.type supported
  have inPool := (pools.handlers plugin member _ supported).trans handles
  have byItself := (own.handlers plugin (by simp) _ supported).trans handles
  refine ⟨handler, handles, ?_, fun answer answers undeclared => ⟨?_, fun borrows => ?_⟩⟩
  · rw [dispatch_eq_iff inPool byItself]
    refine forall₂_congr fun answer answers => ?_
    rw [declared, ownDeclared, Borrows, or_iff_left_iff_imp, not_and', Classical.not_not]
  · exact outcome_dispatch_of_undeclared byItself answers (mt (ownDeclared _).mp undeclared)
  · exact outcome_dispatch_of_declared inPool answers ((declared _).mpr (.inr borrows.2))

def lentAnswer : Packet :=
  ⟨2, "test.b", [], ne_of_beq_false rfl⟩

/-- A plugin that does not declare the type by which it answers. -/
def borrowingPlugin : Plugin :=
  ⟨"Borrowing", ["test.a"], [], [("test.a", fun _ _ => pure lentAnswer)]⟩

/-- A plugin that declares the answers of the borrowing one. -/
def lendingPlugin : Plugin :=
  ⟨"Lending", ["test.b"], ["test.b"], [("test.b", fun _ packet => pure packet)]⟩

theorem isolated_unless_borrowing_lentType :
    ∃ alone pooled, empty.register borrowingPlugin = (alone, .ok ()) ∧
      (empty.register lendingPlugin).2 = .ok () ∧
      (borrowingPlugin :: [lendingPlugin]).Pairwise Plugin.IsApart ∧
      ofPlugins [lendingPlugin, borrowingPlugin] = .ok pooled ∧
      ∀ around (packet : Packet), packet.type = "test.a" ->
        (alone.dispatch around packet).outcome =
          .error (.undeclaredAnswer packet.type "test.b") ∧
        (pooled.dispatch around packet).outcome = .ok lentAnswer := by
  have registered : empty.register borrowingPlugin =
      (⟨borrowingPlugin.handlers, []⟩, .ok ()) := rfl
  have valid : ∀ other ∈ [lendingPlugin], (empty.register other).2 = .ok () :=
    List.forall_mem_singleton.mpr rfl
  have apart : (borrowingPlugin :: [lendingPlugin]).Pairwise Plugin.IsApart := by
    rw [List.pairwise_pair, Plugin.IsApart]
    decide
  obtain ⟨pooled, started, ends⟩ :=
    isolated_unless_borrowing registered valid apart (List.Perm.swap _ _ [])
  refine ⟨_, pooled, registered, rfl, apart, started, fun around packet asked => ?_⟩
  obtain ⟨handler, handles, -, undeclared⟩ := ends around packet (by rw [asked]; decide)
  have own : KeyedList.get? borrowingPlugin.handlers "test.a" =
      some fun _ _ => pure lentAnswer := rfl
  rw [asked, own] at handles
  obtain rfl := Option.some.inj handles
  obtain ⟨refused, released⟩ := undeclared lentAnswer rfl (by decide)
  exact ⟨refused, released ⟨by decide, lendingPlugin, by simp, by decide⟩⟩

end Dispatcher

end PairedContacts
