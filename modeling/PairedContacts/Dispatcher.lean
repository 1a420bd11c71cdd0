import PairedContacts.FirstOccurrences
import PairedContacts.Source

/-!
# Dispatching packets

A plugin brings handlers for the packet types that it supports and declares the types of its
answers.  A dispatcher holds the handlers of many plugins, one for a type, and answers a packet by
the handler of its type.  Every packet that is handled has exactly one answer.
-/

set_option autoImplicit false

namespace PairedContacts

structure Surroundings where
  source : Source
  now : Int

abbrev Handler := Surroundings -> Packet -> Run Packet

structure Plugin where
  name : String
  supported : List String
  outgoing : List String
  handlers : KeyedList String Handler

structure Dispatcher where
  handlers : KeyedList String Handler
  outgoing : List String

namespace Dispatcher

def empty : Dispatcher :=
  ⟨[], []⟩

/-- Adds the handlers of a plugin one type after another.  The handlers added before a type that
cannot be added stay. -/
def addHandlers (plugin : Plugin) (handlers : KeyedList String Handler) :
    List String -> KeyedList String Handler × Except RegistrationFault Unit
  | [] => (handlers, .ok ())
  | type :: rest =>
      match KeyedList.get? plugin.handlers type with
      | none => (handlers, .error (.noHandler plugin.name type))
      | some handler =>
          if KeyedList.holds handlers type then (handlers, .error (.handlerExists type))
          else addHandlers plugin (KeyedList.put handlers type handler) rest

/-- Registers a plugin; the types of its answers are declared once all handlers are added. -/
def register (dispatcher : Dispatcher) (plugin : Plugin) :
    Dispatcher × Except RegistrationFault Unit :=
  let (handlers, outcome) := addHandlers plugin dispatcher.handlers plugin.supported
  match outcome with
  | .ok () => (⟨handlers, firstOccurrences (dispatcher.outgoing ++ plugin.outgoing)⟩, .ok ())
  | .error fault => (⟨handlers, dispatcher.outgoing⟩, .error fault)

/-- Registers plugins one after another, until one of them is rejected. -/
def registerAll (dispatcher : Dispatcher) (plugins : List Plugin) :
    Except RegistrationFault Dispatcher :=
  plugins.foldlM (fun held plugin => (held.register plugin).2.map fun _ => (held.register plugin).1)
    dispatcher

def ofPlugins (plugins : List Plugin) : Except RegistrationFault Dispatcher :=
  empty.registerAll plugins

def inOrder (texts : List String) : List String :=
  texts.mergeSort fun a b => decide (a ≤ b)

def supportedTypes (dispatcher : Dispatcher) : List String :=
  inOrder (KeyedList.keys dispatcher.handlers)

def outgoingTypes (dispatcher : Dispatcher) : List String :=
  inOrder dispatcher.outgoing

/-- Lets an answer pass whose type is declared. -/
def release (dispatcher : Dispatcher) (asked answer : Packet) : Run Packet :=
  if dispatcher.outgoing.contains answer.type then pure answer
  else throw (.undeclaredAnswer asked.type answer.type)

def dispatch (dispatcher : Dispatcher) (around : Surroundings) (packet : Packet) : Run Packet :=
  match KeyedList.get? dispatcher.handlers packet.type with
  | none => do
      Run.note (.noHandler packet.type)
      throw (.unsupportedType packet.type)
  | some handler => do
      let answer <- handler around packet
      release dispatcher packet answer

/-- The notice of a failure that is not passed on to the transport. -/
def failureNotice? (packet : Packet) (failure : Failure) : Option Notice :=
  if failure.kind.isProtocol then some (.rejected packet.type failure)
  else if failure.kind = .internal then some (.unhandled packet.type failure)
  else none

def receive (dispatcher : Dispatcher) (around : Surroundings) (packet : Packet) : Run Bool :=
  let answered := dispatcher.dispatch around packet
  match answered.outcome with
  | .ok answer => ⟨answered.events ++ [.sent answer], .ok true⟩
  | .error failure =>
      match failureNotice? packet failure with
      | some notice => ⟨answered.events ++ [.notice notice], .ok false⟩
      | none => ⟨answered.events, .error failure⟩

end Dispatcher

end PairedContacts
