import PairedContacts.Notice

/-!
# Runs

A run is what an operation did and how it ended: the events in their order, and a result or a
failure.  Running one operation after another appends their events, and a failure keeps the events
that came before it.
-/

set_option autoImplicit false

namespace PairedContacts

structure Query where
  table : String
  columns : List String
  /-- The values that the selected rows have to hold. -/
  filter : KeyedList String Value

inductive Event where
  | notice (notice : Notice)
  | opened (query : Query)
  | closed (query : Query)
  | sent (packet : Packet)
  | created (file : FilePath)

namespace Event

def notice? : Event -> Option Notice
  | notice remark => some remark
  | _ => none

def query? : Event -> Option Query
  | opened query => some query
  | _ => none

def isClosing : Event -> Bool
  | closed _ => true
  | _ => false

def packet? : Event -> Option Packet
  | sent packet => some packet
  | _ => none

def file? : Event -> Option FilePath
  | created file => some file
  | _ => none

end Event

structure Run (α : Type) where
  events : List Event
  outcome : Except Failure α

namespace Run

variable {α β : Type}

def pure (result : α) : Run α :=
  ⟨[], .ok result⟩

def fail (failure : Failure) : Run α :=
  ⟨[], .error failure⟩

def bind (run : Run α) (next : α -> Run β) : Run β :=
  match run.outcome with
  | .error failure => ⟨run.events, .error failure⟩
  | .ok result => ⟨run.events ++ (next result).events, (next result).outcome⟩

instance : Monad Run where
  pure := pure
  bind := bind

instance : MonadExceptOf Failure Run where
  throw := fail
  tryCatch run handle :=
    match run.outcome with
    | .ok _ => run
    | .error failure => ⟨run.events ++ (handle failure).events, (handle failure).outcome⟩

def record (event : Event) : Run Unit :=
  ⟨[event], .ok ()⟩

def note (notice : Notice) : Run Unit :=
  record (.notice notice)

def ofExcept : Except Failure α -> Run α
  | .ok result => pure result
  | .error failure => fail failure

def notices (run : Run α) : List Notice :=
  run.events.filterMap Event.notice?

def queries (run : Run α) : List Query :=
  run.events.filterMap Event.query?

/-- How many of the queries that were opened are still open at the end. -/
def openQueries (run : Run α) : Int :=
  (run.queries.length : Int) - run.events.countP Event.isClosing

def sent (run : Run α) : List Packet :=
  run.events.filterMap Event.packet?

def files (run : Run α) : List FilePath :=
  run.events.filterMap Event.file?

@[simp] theorem events_pure (result : α) : (Pure.pure result : Run α).events = [] := rfl

@[simp] theorem outcome_pure (result : α) : (Pure.pure result : Run α).outcome = .ok result := rfl

@[simp] theorem events_throw (failure : Failure) : (throw failure : Run α).events = [] := rfl

@[simp] theorem outcome_throw (failure : Failure) :
    (throw failure : Run α).outcome = .error failure := rfl

theorem bind_ok {run : Run α} {result : α} (done : run.outcome = .ok result) (next : α -> Run β) :
    run >>= next = ⟨run.events ++ (next result).events, (next result).outcome⟩ := by
  show Run.bind run next = _
  simp [Run.bind, done]

theorem bind_error {run : Run α} {failure : Failure} (failed : run.outcome = .error failure)
    (next : α -> Run β) : run >>= next = ⟨run.events, .error failure⟩ := by
  show Run.bind run next = _
  simp [Run.bind, failed]

theorem bind_assoc {γ : Type} (run : Run α) (first : α -> Run β) (second : β -> Run γ) :
    run >>= first >>= second = run >>= fun result => first result >>= second := by
  cases ended : run.outcome with
  | error failure =>
      rw [bind_error ended, bind_error ended]
      exact bind_error rfl second
  | ok result =>
      rw [bind_ok ended, bind_ok ended]
      cases next : (first result).outcome with
      | error failure =>
          rw [bind_error next]
          exact bind_error rfl second
      | ok value =>
          rw [bind_ok next, bind_ok rfl second, List.append_assoc]

instance : LawfulMonad Run :=
  LawfulMonad.mk' Run
    (by
      intro α run
      obtain ⟨events, outcome⟩ := run
      cases outcome <;> simp [Functor.map, Run.bind, Run.pure])
    (fun _ _ => rfl)
    (fun run first second => bind_assoc run first second)

end Run

end PairedContacts
