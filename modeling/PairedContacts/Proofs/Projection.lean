import PairedContacts.Proofs.Cell
import PairedContacts.Proofs.Outcome
import PairedContacts.Projection

/-!
# Reading rows

A row without a usable identity and a cell without a usable value are passed over, and what is done
with the others is a fold over the rows in their order.  The one thing that a reading cannot get
past is a number that the type of its cell cannot hold; among typed rows there is none.
-/

set_option autoImplicit false

namespace PairedContacts

theorem Access.demand_of_opens {access : Option Access} (opens : Access.opens access = true) :
    Access.demand access = pure () := by
  rw [Access.demand, if_pos opens]

/-- A source that opens: every query without a filter is answered by the rows. -/
def Source.Gives (source : Source) (rows : List Row) : Prop :=
  ∀ query, query.filter = [] -> source.select query = .ok rows

theorem Source.ofRows_gives (rows : List Row) : (Source.ofRows rows).Gives rows := by
  intro query unfiltered
  have all : (rows.filter fun row => row.meets query.filter) = rows := by
    rw [List.filter_eq_self, unfiltered]
    intro row member
    rfl
  exact congrArg Except.ok all

theorem Source.Gives.outcome_reading {α : Type} {source : Source} {rows : List Row}
    (gives : source.Gives rows) {query : Query} (unfiltered : query.filter = [])
    (use : List Row -> Run α) : (source.reading query use).outcome = (use rows).outcome := by
  rw [reading, gives query unfiltered]

theorem Selection.wants_iff {selection : Selection} {uid : Uid} :
    selection.wants uid = true ↔ ∀ uids, selection.wanted = some uids -> uid ∈ uids := by
  unfold wants
  cases selection.wanted <;> simp

/-- The failure that reading a cell ends with: a number that its announced type cannot hold. -/
def Row.failure? (row : Row) (column : String) : Option Failure :=
  if row.overflows column then some (.cell .overflow) else none

theorem Row.failure?_eq_none_iff {row : Row} {column : String} :
    row.failure? column = none ↔ row.read column ≠ .error .overflow := by
  rw [failure?, ne_eq, read_eq_overflow_iff]
  simp

theorem Row.failure?_of_isTyped {row : Row} (typed : row.isTyped = true) (column : String) :
    row.failure? column = none := by
  rw [failure?_eq_none_iff]
  rcases read_of_isTyped typed column with read | ⟨-, tag, read⟩
  · simp [read]
  · simp [read]

namespace Projection

/-! ## Records -/

def enter (row : Row) (record : Record) (column : String) : Record :=
  match row.cell? column with
  | none => record
  | some value => record.put column value

def recordOf (row : Row) (columns : List String) : Record :=
  columns.foldl (enter row) []

theorem outcome_readInto (row : Row) (record : Record) (column : String) :
    (readInto row record column).outcome =
      (row.failure? column).elim (.ok (enter row record column)) .error := by
  rw [readInto, enter, Row.cell?]
  by_cases overflows : row.read column = .error .overflow
  · rw [Row.failure?, if_pos (Row.read_eq_overflow_iff.mp overflows), overflows]
    rfl
  · rw [Row.failure?_eq_none_iff.mpr overflows]
    cases read : row.read column with
    | ok value => cases value <;> rfl
    | error fault =>
        cases fault with
        | overflow => exact absurd read overflows
        | _ => rfl

theorem outcome_readRecord (row : Row) (columns : List String) :
    (readRecord row columns).outcome =
      (columns.findSome? row.failure?).elim (.ok (recordOf row columns)) .error :=
  Run.outcome_foldlM [] fun record column _ => outcome_readInto row record column

theorem get?_enter (row : Row) (record : Record) (column other : String) :
    KeyedList.get? (enter row record column) other =
      if other = column then (row.cell? column).or (KeyedList.get? record other)
      else KeyedList.get? record other := by
  rw [enter]
  cases row.cell? column with
  | none => simp
  | some value => simp [KeyedList.get?_put]

theorem get?_foldl_enter (row : Row) (columns : List String) (record : Record) (column : String) :
    KeyedList.get? (columns.foldl (enter row) record) column =
      (if column ∈ columns then row.cell? column else none).or (KeyedList.get? record column) := by
  induction columns generalizing record with
  | nil => simp
  | cons first rest ih =>
      rw [List.foldl_cons, ih, get?_enter]
      by_cases same : column = first
      · subst same
        by_cases later : column ∈ rest <;> cases row.cell? column <;> simp [later]
      · simp [same]

theorem get?_recordOf (row : Row) (columns : List String) (column : String) :
    KeyedList.get? (recordOf row columns) column =
      if column ∈ columns then row.cell? column else none := by
  rw [recordOf, get?_foldl_enter]
  simp [KeyedList.get?]

/-! ## Rows -/

/-- What a row is read as: its identity and its record, if the identity is wanted. -/
def pairOf (selection : Selection) (row : Row) : Option (Uid × Record) :=
  match row.identity selection.lookupColumn with
  | .error _ => none
  | .ok uid =>
      if selection.wants uid then some (uid, recordOf row selection.columns) else none

/-- The failure that reading a row ends with, if its record is wanted. -/
def failure? (selection : Selection) (row : Row) : Option Failure :=
  (row.identity selection.lookupColumn).toOption.bind fun uid =>
    if selection.wants uid then selection.columns.findSome? row.failure? else none

theorem findSome?_failure?_of_isTyped (selection : Selection) {rows : List Row}
    (typed : ∀ row ∈ rows, row.isTyped = true) : rows.findSome? (failure? selection) = none := by
  rw [List.findSome?_eq_none_iff]
  intro row member
  have readable : selection.columns.findSome? row.failure? = none := by
    rw [List.findSome?_eq_none_iff]
    intro column _
    exact Row.failure?_of_isTyped (typed row member) column
  rw [failure?, readable]
  cases row.identity selection.lookupColumn <;> simp [Except.toOption]

theorem outcome_readRow (selection : Selection) (row : Row) :
    (readRow selection row).outcome =
      (failure? selection row).elim (.ok (pairOf selection row)) .error := by
  rw [readRow, pairOf, failure?]
  cases row.identity selection.lookupColumn with
  | error fault => rfl
  | ok uid =>
      simp only [Except.toOption, Option.bind_some]
      by_cases wanted : selection.wants uid = true
      · simp only [if_pos wanted]
        have read := outcome_readRecord row selection.columns
        cases failing : selection.columns.findSome? row.failure? with
        | none =>
            rw [failing] at read
            rw [Run.outcome_bind_ok read]
            rfl
        | some failure =>
            rw [failing] at read
            rw [Run.bind_error read]
            rfl
      · simp only [if_neg wanted]
        rfl

variable {σ : Type} {visit : σ -> Uid -> Record -> Run σ} {step : σ -> Uid -> Record -> σ}

def turn (selection : Selection) (step : σ -> Uid -> Record -> σ) (state : σ) (row : Row) : σ :=
  match pairOf selection row with
  | none => state
  | some (uid, record) => step state uid record

/-- What is kept of the wanted identities after visits to the rows of all is what the visits to the
rows of the wanted ones come to. -/
theorem restrict_foldl_turn (selection : Selection) (restrict : σ -> σ)
    (own : ∀ state uid record, selection.wants uid = true ->
      restrict (step state uid record) = step (restrict state) uid record)
    (frame : ∀ state uid record, selection.wants uid = false ->
      restrict (step state uid record) = restrict state)
    (rows : List Row) (start : σ) :
    restrict (rows.foldl (turn { selection with wanted := none } step) start) =
      rows.foldl (turn selection step) (restrict start) := by
  induction rows generalizing start with
  | nil => rfl
  | cons row rest ih =>
      have first : restrict (turn { selection with wanted := none } step start row) =
          turn selection step (restrict start) row := by
        unfold turn pairOf
        cases row.identity selection.lookupColumn with
        | error fault => rfl
        | ok uid =>
            have everyone : Selection.wants { selection with wanted := none } uid = true := rfl
            cases wanted : selection.wants uid with
            | true => simpa [everyone, wanted] using own start uid _ wanted
            | false => simpa [everyone, wanted] using frame start uid _ wanted
      rw [List.foldl_cons, List.foldl_cons, ih, first]

/-- Visiting rows is a fold of the steps of the visits, unless reading a row fails. -/
theorem outcome_visitRows_any {source : Source} {rows : List Row} {access : Option Access}
    {selection : Selection} (opens : Access.opens access = true) (gives : source.Gives rows)
    (steps : ∀ state uid record, (visit state uid record).outcome = .ok (step state uid record))
    (start : σ) :
    (visitRows source access selection visit start).outcome =
      (rows.findSome? (failure? selection)).elim
        (.ok (rows.foldl (turn selection step) start)) .error := by
  rw [visitRows, Access.demand_of_opens opens, Run.outcome_bind_ok rfl, gives.outcome_reading rfl]
  refine Run.outcome_foldlM start fun state row member => ?_
  have read := outcome_readRow selection row
  rw [visitRow]
  cases failing : failure? selection row with
  | some failure =>
      rw [failing] at read
      rw [Run.bind_error read]
      rfl
  | none =>
      rw [failing] at read
      rw [Run.outcome_bind_ok read, turn]
      cases pairOf selection row with
      | none => rfl
      | some pair => exact steps state pair.1 pair.2

theorem outcome_visitRows {rows : List Row} {access : Option Access} {selection : Selection}
    (opens : Access.opens access = true) (typed : ∀ row ∈ rows, row.isTyped = true)
    (steps : ∀ state uid record, (visit state uid record).outcome = .ok (step state uid record))
    (start : σ) :
    (visitRows (Source.ofRows rows) access selection visit start).outcome =
      .ok (rows.foldl (turn selection step) start) := by
  rw [outcome_visitRows_any opens (Source.ofRows_gives rows) steps,
    findSome?_failure?_of_isTyped selection typed]
  rfl

end Projection

end PairedContacts
