/-!
# Phases of a session

A session passes through five phases in order.  Each of its four steps belongs to one phase and
leads to a later one.
-/

set_option autoImplicit false

namespace PairedContacts

inductive Phase where
  | idle
  | manifestRequested
  | manifestReceived
  | fetchRequested
  | complete
  deriving DecidableEq, Repr

namespace Phase

def name : Phase -> String
  | idle => "idle"
  | manifestRequested => "manifest_requested"
  | manifestReceived => "manifest_received"
  | fetchRequested => "fetch_requested"
  | complete => "complete"

def rank : Phase -> Nat
  | idle => 0
  | manifestRequested => 1
  | manifestReceived => 2
  | fetchRequested => 3
  | complete => 4

end Phase

inductive SessionStep where
  | requestManifest
  | receiveManifest
  | requestFetch
  | receiveCards
  deriving DecidableEq, Repr

namespace SessionStep

def action : SessionStep -> String
  | requestManifest => "request the manifest"
  | receiveManifest => "receive a manifest"
  | requestFetch => "request vCards"
  | receiveCards => "receive vCards"

def phase : SessionStep -> Phase
  | requestManifest => .idle
  | receiveManifest => .manifestRequested
  | requestFetch => .manifestReceived
  | receiveCards => .fetchRequested

end SessionStep

structure OutOfOrder where
  step : SessionStep
  found : Phase
  deriving DecidableEq, Repr

def OutOfOrder.message (fault : OutOfOrder) : String :=
  "Cannot " ++ fault.step.action ++ " in state " ++ fault.found.name ++ "; expected " ++
    fault.step.phase.name

end PairedContacts
