import PairedContacts.Proofs.Contacts.QueryDiscipline
import PairedContacts.Proofs.Registration

/-!
# One answer or none

A transport registers plugins at a dispatcher and hands it the packets that it receives, in any
order.  A packet is handled, and then its answer is sent and nothing else, or it is not, and then
nothing is sent: its failure is withheld from the transport if it is one of the protocol or an
internal one, and passed on to it otherwise.  So what is sent over a whole run are the answers to
the packets that were handled, one for each, in their order.
-/

set_option autoImplicit false

namespace PairedContacts

/-- A plugin answers by the results of its handlers; the sending is left to the dispatcher. -/
def Plugin.IsSilent (plugin : Plugin) : Prop :=
  ∀ entry ∈ plugin.handlers, ∀ around packet, (entry.2 around packet).sent = []

/-- A failure that a dispatcher does not pass on to the transport. -/
def Failure.IsWithheld (failure : Failure) : Prop :=
  failure.kind.isProtocol = true ∨ failure.kind = .internal

theorem Run.IsQuiet.sent {α : Type} {run : Run α} (quiet : run.IsQuiet) : run.sent = [] := by
  rw [sent_eq, quiet]
  rfl

namespace ContactsService

variable (service : ContactsService) (around : Surroundings) (packet : Packet)

theorem sent_answerManifest : (service.answerManifest around packet).sent = [] := by
  cases opens : Access.opens service.access with
  | true =>
      rw [Run.sent_eq, dealings_answerManifest opens]
      rfl
  | false => exact (isRefused_answerManifest opens around packet).quiet.sent

theorem sent_answerCards : (service.answerCards around packet).sent = [] := by
  cases opens : Access.opens service.access with
  | true =>
      rw [Run.sent_eq]
      cases listed : Message.uidList packet with
      | error fault =>
          rw [answerCards, listed, Run.dealings_bind_error rfl]
          rfl
      | ok raw =>
          rw [dealings_answerCards opens around listed]
          split <;> rfl
  | false =>
      obtain ⟨failure, refused⟩ := exists_isRefused_answerCards opens around packet
      exact refused.quiet.sent

/-- The contacts service sends nothing by itself, whatever is read or asked. -/
theorem isSilent_plugin : service.plugin.IsSilent := by
  intro entry member around packet
  simp only [plugin, List.mem_cons, List.not_mem_nil, or_false] at member
  rcases member with rfl | rfl
  · exact service.sent_answerManifest around packet
  · exact service.sent_answerCards around packet

end ContactsService

namespace Dispatcher

/-! ## One packet -/

section Packet

variable {dispatcher : Dispatcher} {around : Surroundings} {packet : Packet}

theorem receive_of_ok {answer : Packet}
    (answered : (dispatcher.dispatch around packet).outcome = .ok answer) :
    dispatcher.receive around packet =
      ⟨(dispatcher.dispatch around packet).events ++ [.sent answer], .ok true⟩ := by
  simp only [receive, answered]

theorem exists_receive_of_withheld {failure : Failure} (withheld : failure.IsWithheld)
    (failed : (dispatcher.dispatch around packet).outcome = .error failure) :
    ∃ notice, dispatcher.receive around packet =
      ⟨(dispatcher.dispatch around packet).events ++ [.notice notice], .ok false⟩ := by
  by_cases protocol : failure.kind.isProtocol = true
  · exact ⟨.rejected packet.type failure, by simp [receive, failed, failureNotice?, protocol]⟩
  · have internal := withheld.resolve_left protocol
    refine ⟨.unhandled packet.type failure, ?_⟩
    simp [receive, failed, failureNotice?, internal, FailureKind.isProtocol]

theorem receive_of_foreign {failure : Failure} (foreign : ¬failure.IsWithheld)
    (failed : (dispatcher.dispatch around packet).outcome = .error failure) :
    dispatcher.receive around packet =
      ⟨(dispatcher.dispatch around packet).events, .error failure⟩ := by
  rw [Failure.IsWithheld, not_or] at foreign
  simp [receive, failed, failureNotice?, foreign]

/-- Before a packet is answered nothing is sent, if the handlers send nothing. -/
theorem sent_dispatch
    (silent : ∀ entry ∈ dispatcher.handlers, ∀ around packet, (entry.2 around packet).sent = [])
    (around : Surroundings) (packet : Packet) : (dispatcher.dispatch around packet).sent = [] := by
  cases found : KeyedList.get? dispatcher.handlers packet.type with
  | none =>
      rw [dispatch, found]
      exact ((Run.isQuiet_note _).bind fun _ => Run.isQuiet_throw _).sent
  | some handler =>
      have own := silent _ (KeyedList.mem_of_get? found) around packet
      rw [dispatch_of_some around found, Run.sent_eq,
        Run.dealings_bind_quiet (dispatcher.isQuiet_release packet), ← Run.sent_eq, own]

/-- An answer that is released is the one that the handler of the type of the packet gave. -/
theorem exists_handler_of_dispatch {answer : Packet}
    (answered : (dispatcher.dispatch around packet).outcome = .ok answer) :
    ∃ handler, KeyedList.get? dispatcher.handlers packet.type = some handler ∧
      (handler around packet).outcome = .ok answer ∧ answer.type ∈ dispatcher.outgoing := by
  cases found : KeyedList.get? dispatcher.handlers packet.type with
  | none =>
      rw [dispatch_of_none around found] at answered
      cases answered
  | some handler =>
      refine ⟨handler, rfl, ?_⟩
      rw [dispatch_of_some around found] at answered
      cases ended : (handler around packet).outcome with
      | error failure =>
          rw [Run.bind_error ended] at answered
          cases answered
      | ok given =>
          rw [Run.outcome_bind_ok ended, release] at answered
          split at answered
          · rename_i declared
            cases answered
            exact ⟨rfl, by simpa using declared⟩
          · cases answered

end Packet

/-! ## Runs -/

/-- What a transport does with a dispatcher.  Each packet comes in surroundings of its own, so a
handler need not answer the same packet twice alike. -/
inductive Call where
  | register (plugin : Plugin)
  | receive (around : Surroundings) (packet : Packet)

def Call.plugin? : Call -> Option Plugin
  | register plugin => some plugin
  | receive _ _ => none

/-- The plugins that calls try to register, whether they succeed or not. -/
def plugins (calls : List Call) : List Plugin :=
  calls.filterMap Call.plugin?

/-- A packet with the dispatcher that receives it, as it is at that time. -/
structure Reception where
  dispatcher : Dispatcher
  around : Surroundings
  packet : Packet

namespace Reception

def dispatched (reception : Reception) : Run Packet :=
  reception.dispatcher.dispatch reception.around reception.packet

def run (reception : Reception) : Run Bool :=
  reception.dispatcher.receive reception.around reception.packet

def isHandled (reception : Reception) : Bool :=
  reception.run.outcome.toOption.getD false

end Reception

def receptions (dispatcher : Dispatcher) : List Call -> List Reception
  | [] => []
  | .register plugin :: rest => receptions (dispatcher.register plugin).1 rest
  | .receive around packet :: rest => ⟨dispatcher, around, packet⟩ :: receptions dispatcher rest

/-- All that is sent while calls are made, from an empty dispatcher on. -/
def sentOver (calls : List Call) : List Packet :=
  (receptions empty calls).flatMap fun reception => reception.run.sent

/-- Handlers each of which one of the plugins has for a type that it supports. -/
def ComeFrom (plugins : List Plugin) (handlers : KeyedList String Handler) : Prop :=
  ∀ entry ∈ handlers, ∃ plugin ∈ plugins, entry.1 ∈ plugin.supported ∧
    KeyedList.get? plugin.handlers entry.1 = some entry.2

theorem ComeFrom.register {plugins : List Plugin} {dispatcher : Dispatcher} {plugin : Plugin}
    (come : ComeFrom plugins dispatcher.handlers) (member : plugin ∈ plugins) :
    ComeFrom plugins (dispatcher.register plugin).1.handlers := by
  obtain ⟨added, front, grown⟩ := dispatcher.exists_added plugin
  rw [grown]
  refine List.forall_mem_append.mpr ⟨come, fun entry among => ?_⟩
  obtain ⟨type, listed, found⟩ := List.mem_filterMap.mp among
  obtain ⟨handler, held, rfl⟩ := Option.map_eq_some_iff.mp found
  exact ⟨plugin, member, front.subset listed, held⟩

theorem comeFrom_of_mem_receptions {plugins : List Plugin} {dispatcher : Dispatcher}
    (come : ComeFrom plugins dispatcher.handlers) {calls : List Call}
    (within : ∀ plugin ∈ Dispatcher.plugins calls, plugin ∈ plugins) {reception : Reception}
    (member : reception ∈ receptions dispatcher calls) :
    ComeFrom plugins reception.dispatcher.handlers := by
  induction calls generalizing dispatcher with
  | nil => cases member
  | cons call rest ih =>
      cases call with
      | register plugin =>
          have here : plugin ∈ plugins := within plugin List.mem_cons_self
          exact ih (come.register here)
            (fun other later => within other (List.mem_cons_of_mem _ later)) member
      | receive around packet =>
          rcases List.mem_cons.mp member with rfl | later
          · exact come
          · exact ih come within later

/-- How the reception of a packet can end, where plugins have been registered. -/
inductive Reception.Ends (plugins : List Plugin) (reception : Reception) : Prop where
  /-- The one packet that is sent is the answer of the handler, and its type is declared. -/
  | handled {plugin : Plugin} {handler : Handler} {answer : Packet} (registered : plugin ∈ plugins)
      (supported : reception.packet.type ∈ plugin.supported)
      (handles : KeyedList.get? plugin.handlers reception.packet.type = some handler)
      (answers : (handler reception.around reception.packet).outcome = .ok answer)
      (declared : answer.type ∈ reception.dispatcher.outgoingTypes)
      (dispatched : reception.dispatched.outcome = .ok answer)
      (reported : reception.run.outcome = .ok true) (sent : reception.run.sent = [answer])
  | withheld {failure : Failure} (kind : failure.IsWithheld)
      (dispatched : reception.dispatched.outcome = .error failure)
      (reported : reception.run.outcome = .ok false) (sent : reception.run.sent = [])
  | passedOn {failure : Failure} (kind : ¬failure.IsWithheld)
      (dispatched : reception.dispatched.outcome = .error failure)
      (reported : reception.run.outcome = .error failure) (sent : reception.run.sent = [])

namespace Reception

variable {plugins : List Plugin} {reception : Reception}

theorem ends_of_silent (silent : ∀ plugin ∈ plugins, plugin.IsSilent)
    (come : ComeFrom plugins reception.dispatcher.handlers) : reception.Ends plugins := by
  have before : reception.dispatched.events.filterMap Event.packet? = [] := by
    refine sent_dispatch (fun entry member => ?_) reception.around reception.packet
    obtain ⟨plugin, registered, -, held⟩ := come entry member
    exact silent plugin registered _ (KeyedList.mem_of_get? held)
  cases ended : reception.dispatched.outcome with
  | ok answer =>
      obtain ⟨handler, found, answers, declared⟩ := exists_handler_of_dispatch ended
      obtain ⟨plugin, registered, supported, held⟩ := come _ (KeyedList.mem_of_get? found)
      have received : reception.run = ⟨reception.dispatched.events ++ [.sent answer], .ok true⟩ :=
        receive_of_ok ended
      refine .handled registered supported held answers ?_ ended ?_ ?_
      · exact (inOrder_perm _).mem_iff.mpr declared
      · rw [received]
      · rw [received, Run.sent, List.filterMap_append, before]
        rfl
  | error failure =>
      by_cases kind : failure.IsWithheld
      · obtain ⟨notice, received⟩ : ∃ notice, reception.run =
            ⟨reception.dispatched.events ++ [.notice notice], .ok false⟩ :=
          exists_receive_of_withheld kind ended
        refine .withheld kind ended ?_ ?_
        · rw [received]
        · rw [received, Run.sent, List.filterMap_append, before]
          rfl
      · have received : reception.run = ⟨reception.dispatched.events, .error failure⟩ :=
          receive_of_foreign kind ended
        refine .passedOn kind ended ?_ ?_
        · rw [received]
        · rw [received]
          exact before

/-- What is sent is the answer of a packet that is handled. -/
theorem Ends.sent (ends : reception.Ends plugins) :
    reception.run.sent.map Except.ok =
      if reception.isHandled then [reception.dispatched.outcome] else [] := by
  cases ends with
  | handled _ _ _ _ _ dispatched reported sent =>
      simp [isHandled, Except.toOption, dispatched, reported, sent]
  | withheld _ _ reported sent => simp [isHandled, Except.toOption, reported, sent]
  | passedOn _ _ reported sent => simp [isHandled, Except.toOption, reported, sent]

theorem Ends.reported_false_iff (ends : reception.Ends plugins) :
    reception.run.outcome = .ok false ↔
      ∃ failure, reception.dispatched.outcome = .error failure ∧ failure.IsWithheld := by
  cases ends with
  | handled _ _ _ _ _ dispatched reported _ => simp [dispatched, reported]
  | withheld kind dispatched reported _ => simp [dispatched, reported, kind]
  | passedOn kind dispatched reported _ => simp [dispatched, reported, kind]

end Reception

/-- What is sent in receptions, one after another, are the answers of those that are handled. -/
theorem sent_of_ends {plugins : List Plugin} {all : List Reception}
    (ends : ∀ reception ∈ all, reception.Ends plugins) :
    (all.flatMap fun reception => reception.run.sent).map Except.ok =
      (all.filter Reception.isHandled).map fun reception => reception.dispatched.outcome := by
  induction all with
  | nil => rfl
  | cons first rest ih =>
      have now := (ends first List.mem_cons_self).sent
      have later := ih fun reception member => ends reception (List.mem_cons_of_mem _ member)
      rw [List.flatMap_cons, List.map_append, now, later, List.filter_cons]
      split <;> rfl

/-- Plugins that send nothing by themselves are registered, with success or without, and packets are
received in between, in any order.  Every packet that is reported as handled is answered by the one
packet that its handler gave, of a type that is declared at that time.  For the others nothing is
sent, and they are reported as not handled exactly if their failure is one of the protocol or an
internal one.  So all that is sent are the answers to the handled packets, in the order of these. -/
theorem one_answer_or_none (calls : List Call)
    (silent : ∀ plugin ∈ plugins calls, plugin.IsSilent) :
    (∀ reception ∈ receptions empty calls, reception.Ends (plugins calls) ∧
      (reception.run.outcome = .ok false ↔
        ∃ failure, reception.dispatched.outcome = .error failure ∧ failure.IsWithheld)) ∧
      (sentOver calls).map Except.ok = ((receptions empty calls).filter Reception.isHandled).map
        fun reception => reception.dispatched.outcome := by
  have nothing : ComeFrom (plugins calls) empty.handlers := by simp [ComeFrom, empty]
  have ends : ∀ reception ∈ receptions empty calls, reception.Ends (plugins calls) := by
    intro reception member
    exact Reception.ends_of_silent silent
      (comeFrom_of_mem_receptions nothing (fun _ registered => registered) member)
  refine ⟨fun reception member => ?_, ?_⟩
  · exact ⟨ends reception member, (ends reception member).reported_false_iff⟩
  · exact sent_of_ends ends

def emptyPacket (type : String) (nonempty : (type == "") = false) : Packet :=
  ⟨1, type, [], ne_of_beq_false nonempty⟩

/-- A plugin that declares the answers of another one, and a handler of which fails for its own
reasons. -/
def lockedPlugin : Plugin where
  name := "Locked"
  supported := ["test.c"]
  outgoing := ["test.a"]
  handlers := [("test.c", fun _ _ => throw (.reported .database "locked"))]

/-- An answer that is not declared before another plugin is registered, a type that nobody supports
and a failure that is passed on. -/
def mixedCalls : List Call :=
  let around : Surroundings := ⟨.ofRows [], 0⟩
  [.register halfHandled, .receive around (emptyPacket "test.a" rfl), .register lockedPlugin,
    .receive around (emptyPacket "test.a" rfl), .receive around (emptyPacket "test.b" rfl),
    .receive around (emptyPacket "test.c" rfl)]

theorem one_answer_or_none_mixed :
    (∀ plugin ∈ plugins mixedCalls, plugin.IsSilent) ∧
      (receptions empty mixedCalls).map (fun reception => reception.run.outcome.toOption) =
        [some false, some true, some false, none] ∧
      sentOver mixedCalls = [emptyPacket "test.a" rfl] := by
  have silent : ∀ plugin ∈ plugins mixedCalls, plugin.IsSilent := by
    have registered : plugins mixedCalls = [halfHandled, lockedPlugin] := rfl
    rw [registered, List.forall_mem_cons, List.forall_mem_singleton, Plugin.IsSilent,
      Plugin.IsSilent, halfHandled, lockedPlugin, List.forall_mem_singleton,
      List.forall_mem_singleton]
    exact ⟨fun _ _ => rfl, fun _ _ => rfl⟩
  refine ⟨silent, rfl, ?_⟩
  have sent := (one_answer_or_none mixedCalls silent).2
  have answers : ((receptions empty mixedCalls).filter Reception.isHandled).map
      (fun reception => reception.dispatched.outcome) = [.ok (emptyPacket "test.a" rfl)] := rfl
  rw [answers, List.map_eq_singleton_iff] at sent
  obtain ⟨packet, only, same⟩ := sent
  rw [only, Except.ok.inj same]

end Dispatcher

end PairedContacts
