import PairedContacts.Dispatcher
import PairedContacts.Proofs.Projection

/-!
# Dealings

What a run has to do with its source and with a peer are the queries that it opens and closes and
the packets that it sends.  Most parts of a run are quiet: they open, close and send nothing.  A
query whose rows are used quietly is closed right after it was opened, whether it could be answered
or not and however the use of its rows ended.
-/

set_option autoImplicit false

namespace PairedContacts

variable {α β σ : Type}

def Event.deals : Event -> Bool
  | opened _ => true
  | closed _ => true
  | sent _ => true
  | _ => false

/-- A query that is opened and closed with nothing in between. -/
def Query.dealings (query : Query) : List Event :=
  [.opened query, .closed query]

namespace Run

def dealings (run : Run α) : List Event :=
  run.events.filter Event.deals

def IsQuiet (run : Run α) : Prop :=
  run.dealings = []

theorem queries_eq (run : Run α) : run.queries = run.dealings.filterMap Event.query? := by
  rw [queries, dealings, List.filterMap_filter]
  congr 1
  funext event
  cases event <;> rfl

theorem openQueries_eq (run : Run α) :
    run.openQueries = (run.queries.length : Int) - run.dealings.countP Event.isClosing := by
  have same : run.dealings.countP Event.isClosing = run.events.countP Event.isClosing := by
    rw [dealings, List.countP_filter]
    congr 1
    funext event
    cases event <;> rfl
  rw [openQueries, same]

theorem sent_eq (run : Run α) : run.sent = run.dealings.filterMap Event.packet? := by
  rw [sent, dealings, List.filterMap_filter]
  congr 1
  funext event
  cases event <;> rfl

/-! ## One after another -/

variable {run : Run α} {next : α -> Run β}

theorem dealings_bind_ok {result : α} (done : run.outcome = .ok result) :
    (run >>= next).dealings = run.dealings ++ (next result).dealings := by
  rw [bind_ok done, dealings, List.filter_append, ← dealings, ← dealings]

theorem dealings_bind_error {failure : Failure} (failed : run.outcome = .error failure) :
    (run >>= next).dealings = run.dealings := by
  rw [bind_error failed]
  rfl

theorem dealings_bind_quiet (quiet : ∀ result, (next result).IsQuiet) :
    (run >>= next).dealings = run.dealings := by
  cases ended : run.outcome with
  | error failure => exact dealings_bind_error ended
  | ok result => rw [dealings_bind_ok ended, quiet result, List.append_nil]

theorem IsQuiet.dealings_bind (quiet : run.IsQuiet) {result : α}
    (done : run.outcome = .ok result) : (run >>= next).dealings = (next result).dealings := by
  rw [dealings_bind_ok done, quiet, List.nil_append]

theorem IsQuiet.bind (quiet : run.IsQuiet) (rest : ∀ result, (next result).IsQuiet) :
    (run >>= next).IsQuiet :=
  (dealings_bind_quiet rest).trans quiet

theorem isQuiet_pure (result : α) : (Pure.pure result : Run α).IsQuiet := rfl

theorem isQuiet_throw (failure : Failure) : (throw failure : Run α).IsQuiet := rfl

theorem isQuiet_note (notice : Notice) : (Run.note notice).IsQuiet := rfl

/-- A notice that is all that happens on the way to a result. -/
theorem isQuiet_note_pure (notice : Notice) (result : α) :
    (Run.note notice >>= fun _ => (Pure.pure result : Run α)).IsQuiet :=
  (isQuiet_note notice).bind fun _ => isQuiet_pure result

theorem isQuiet_ofExcept (outcome : Except Failure α) : (Run.ofExcept outcome).IsQuiet := by
  cases outcome <;> rfl

theorem isQuiet_foldlM {visit : σ -> α -> Run σ} (quiet : ∀ state item, (visit state item).IsQuiet)
    (items : List α) (start : σ) : (items.foldlM visit start).IsQuiet := by
  induction items generalizing start with
  | nil => exact isQuiet_pure start
  | cons item rest ih =>
      rw [List.foldlM_cons]
      exact (quiet start item).bind ih

theorem tryCatch_ok {result : α} (done : run.outcome = .ok result) (handle : Failure -> Run α) :
    tryCatch run handle = run := by
  simp only [MonadExcept.tryCatch, tryCatchThe, MonadExceptOf.tryCatch, done]

theorem tryCatch_error {failure : Failure} (failed : run.outcome = .error failure)
    (handle : Failure -> Run α) :
    tryCatch run handle =
      ⟨run.events ++ (handle failure).events, (handle failure).outcome⟩ := by
  simp only [MonadExcept.tryCatch, tryCatchThe, MonadExceptOf.tryCatch, failed]

/-- A failure that is caught quietly leaves the dealings as they were. -/
theorem dealings_tryCatch {handle : Failure -> Run α}
    (quiet : ∀ failure, (handle failure).IsQuiet) :
    (tryCatch run handle).dealings = run.dealings := by
  cases ended : run.outcome with
  | ok result => rw [tryCatch_ok ended]
  | error failure =>
      rw [tryCatch_error ended, dealings, List.filter_append, ← dealings, ← dealings,
        quiet failure, List.append_nil]

/-! ## Many runs

A caller that goes on after a failure sees it as one more answer. -/

def attempt (run : Run α) : Run (Except Failure α) :=
  ⟨run.events, .ok run.outcome⟩

theorem dealings_mapM_attempt (act : α -> Run β) (items : List α) :
    (items.mapM fun item => (act item).attempt).dealings =
      items.flatMap fun item => (act item).dealings := by
  induction items with
  | nil => rfl
  | cons item rest ih =>
      have done : (act item).attempt.outcome = .ok (act item).outcome := rfl
      rw [List.mapM_cons, dealings_bind_ok done, dealings_bind_quiet fun _ => isQuiet_pure _, ih,
        List.flatMap_cons]
      rfl

theorem queries_of_dealings {queries : List Query}
    (paired : run.dealings = queries.flatMap Query.dealings) : run.queries = queries := by
  rw [queries_eq, paired]
  clear paired
  induction queries with
  | nil => rfl
  | cons query rest ih =>
      rw [List.flatMap_cons, List.filterMap_append, ih]
      rfl

/-- Queries that are opened and closed in pairs are all closed. -/
theorem openQueries_of_dealings {queries : List Query}
    (paired : run.dealings = queries.flatMap Query.dealings) : run.openQueries = 0 := by
  have closings : (queries.flatMap Query.dealings).countP Event.isClosing = queries.length := by
    clear paired
    induction queries with
    | nil => rfl
    | cons query rest ih =>
        rw [List.flatMap_cons, List.countP_append, ih, List.length_cons, Nat.add_comm]
        rfl
  rw [openQueries_eq, queries_of_dealings paired, paired, closings, Int.sub_self]

end Run

theorem Access.opens_iff {access : Option Access} :
    Access.opens access = true ↔ access = some ⟨Access.readContacts⟩ := by
  cases access with
  | none => simp [opens]
  | some token =>
      obtain ⟨permission⟩ := token
      simp [opens]

/-- A query is closed right behind its opening if its rows are used quietly. -/
theorem Source.dealings_reading (source : Source) (query : Query) {use : List Row -> Run α}
    (quiet : ∀ rows, (use rows).IsQuiet) :
    (source.reading query use).dealings = query.dealings := by
  have within : ∀ used : Run α, used.IsQuiet ->
      (Event.opened query :: (used.events ++ [.closed query])).filter Event.deals =
        query.dealings := by
    intro used silent
    have nothing : used.events.filter Event.deals = [] := silent
    rw [List.filter_cons_of_pos rfl, List.filter_append, nothing]
    rfl
  rw [reading, Run.dealings]
  cases source.select query with
  | ok rows => exact within (use rows) (quiet rows)
  | error failure => exact within (throw failure) (Run.isQuiet_throw failure)

/-- A run that has done nothing with its source and has failed. -/
structure Run.IsRefused (run : Run α) (failure : Failure) : Prop where
  quiet : run.IsQuiet
  failed : run.outcome = .error failure

theorem Run.isRefused_throw (failure : Failure) : (throw failure : Run α).IsRefused failure :=
  ⟨isQuiet_throw failure, rfl⟩

theorem Run.IsRefused.bind {run : Run α} {failure : Failure} (refused : run.IsRefused failure)
    (next : α -> Run β) : (run >>= next).IsRefused failure :=
  ⟨(dealings_bind_error refused.failed).trans refused.quiet, by rw [bind_error refused.failed]⟩

theorem Run.IsQuiet.isRefused_bind {run : Run α} {next : α -> Run β} {result : α}
    {failure : Failure} (quiet : run.IsQuiet) (done : run.outcome = .ok result)
    (refused : (next result).IsRefused failure) : (run >>= next).IsRefused failure :=
  ⟨(quiet.dealings_bind done).trans refused.quiet, (outcome_bind_ok done next).trans refused.failed⟩

theorem Access.isRefused_demand {access : Option Access} (closed : Access.opens access = false) :
    (Access.demand access).IsRefused .accessDenied := by
  rw [demand, closed]
  exact Run.isRefused_throw _

namespace Projection

theorem isQuiet_readInto (row : Row) (record : Record) (column : String) :
    (readInto row record column).IsQuiet := by
  rw [readInto]
  split
  · exact Run.isQuiet_pure _
  · exact Run.isQuiet_pure _
  · split
    · exact Run.isQuiet_note_pure _ _
    · exact Run.isQuiet_throw _

theorem isQuiet_readRecord (row : Row) (columns : List String) :
    (readRecord row columns).IsQuiet :=
  Run.isQuiet_foldlM (isQuiet_readInto row) columns []

theorem isQuiet_readRow (selection : Selection) (row : Row) : (readRow selection row).IsQuiet := by
  rw [readRow]
  split
  · exact Run.isQuiet_note_pure _ _
  · split
    · exact (isQuiet_readRecord row _).bind fun _ => Run.isQuiet_pure _
    · exact Run.isQuiet_pure _

variable {visit : σ -> Uid -> Record -> Run σ}

theorem isQuiet_visitRow (selection : Selection)
    (quiet : ∀ state uid record, (visit state uid record).IsQuiet) (state : σ) (row : Row) :
    (visitRow selection visit state row).IsQuiet := by
  refine (isQuiet_readRow selection row).bind fun read => ?_
  cases read with
  | none => exact Run.isQuiet_pure state
  | some pair => exact quiet state pair.1 pair.2

theorem dealings_visitRows {source : Source} {access : Option Access} {selection : Selection}
    (opens : Access.opens access = true)
    (quiet : ∀ state uid record, (visit state uid record).IsQuiet) (start : σ) :
    (visitRows source access selection visit start).dealings = selection.query.dealings := by
  rw [visitRows, Access.demand_of_opens opens, (Run.isQuiet_pure ()).dealings_bind rfl]
  exact source.dealings_reading _ fun rows =>
    Run.isQuiet_foldlM (isQuiet_visitRow selection quiet) rows start

end Projection

theorem Dispatcher.isQuiet_release (dispatcher : Dispatcher) (asked answer : Packet) :
    (dispatcher.release asked answer).IsQuiet := by
  rw [release]
  split
  · exact Run.isQuiet_pure _
  · exact Run.isQuiet_throw _

end PairedContacts
