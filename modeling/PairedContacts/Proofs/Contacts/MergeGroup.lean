import PairedContacts.Contacts.Cards
import PairedContacts.Proofs.Projection
import PairedContacts.Proofs.Uid

/-!
# Merge groups

What the rows of a table say of one contact: its timestamp is the greatest integer among their
timestamps, and its vCard is the last text among their vCards, finalized with that timestamp.
-/

set_option autoImplicit false

namespace PairedContacts

def mergeGroup (lookupColumn : String) (rows : List Row) (uid : Uid) : List Row :=
  rows.filter fun row => (row.identity lookupColumn).toOption = some uid

namespace MergeGroup

def timestampIn (layout : Layout) (row : Row) : Option Int :=
  (row.cell? layout.timestamp).bind ColumnValue.integer?

def textIn (layout : Layout) (row : Row) : Option String :=
  (row.cell? layout.card).bind ColumnValue.text?

def newest (layout : Layout) (rows : List Row) (uid : Uid) : Option Int :=
  ((mergeGroup layout.lookup rows uid).filterMap (timestampIn layout)).max?

def lastText (layout : Layout) (rows : List Row) (uid : Uid) : Option String :=
  ((mergeGroup layout.lookup rows uid).filterMap (textIn layout)).getLast?

/-- The vCard that a table has for a uID, if its group has a text and a timestamp and the text is a
record. -/
def card (layout : Layout) (sender : Sender) (rows : List Row) (uid : Uid) : Option String :=
  (lastText layout rows uid).bind fun text =>
    (newest layout rows uid).bind fun timestamp =>
      (VCard.finalize sender.space text ⟨sender.deviceId, uid, timestamp⟩).toOption

theorem exists_newest_iff {layout : Layout} {rows : List Row} {uid : Uid} :
    (∃ timestamp, newest layout rows uid = some timestamp) ↔
      ∃ row ∈ mergeGroup layout.lookup rows uid, ∃ timestamp,
        timestampIn layout row = some timestamp := by
  rw [newest, ← Option.isSome_iff_exists, ← Option.ne_none_iff_isSome, ne_eq,
    List.max?_eq_none_iff, List.filterMap_eq_nil_iff]
  simp [Option.eq_none_iff_forall_ne_some]

end MergeGroup

theorem mem_mergeGroup {lookupColumn : String} {rows : List Row} {uid : Uid} {row : Row} :
    row ∈ mergeGroup lookupColumn rows uid ↔ row ∈ rows ∧ row.identity lookupColumn = .ok uid := by
  rw [mergeGroup, List.mem_filter, decide_eq_true_eq]
  cases row.identity lookupColumn <;> simp [Except.toOption]

theorem Row.ofValue_of_identity {row : Row} {lookupColumn : String} {uid : Uid}
    (carried : row.identity lookupColumn = .ok uid) :
    Uid.ofValue (row.value lookupColumn) = .ok uid := by
  rw [Row.identity.eq_def] at carried
  split at carried
  · cases carried
  · split at carried
    · cases carried
    · split at carried
      · rename_i read
        cases carried
        exact read
      · cases carried

theorem Row.isProper_of_identity {row : Row} {lookupColumn : String} {uid : Uid}
    (carried : row.identity lookupColumn = .ok uid) : uid.IsProper :=
  Uid.isProper_of_ofValue (Row.ofValue_of_identity carried)

namespace Projection

variable {σ τ α : Type} {selection : Selection} {step : σ -> Uid -> Record -> σ} {uid : Uid}

theorem pairOf_eq_some_iff {row : Row} {pair : Uid × Record} :
    pairOf selection row = some pair ↔ row.identity selection.lookupColumn = .ok pair.1 ∧
      selection.wants pair.1 = true ∧ pair.2 = recordOf row selection.columns := by
  rw [pairOf]
  cases row.identity selection.lookupColumn with
  | error fault => simp
  | ok carried =>
      obtain ⟨other, record⟩ := pair
      by_cases wanted : selection.wants carried = true
      · simp only [if_pos wanted, Option.some.injEq, Prod.mk.injEq, Except.ok.injEq]
        constructor
        · rintro ⟨rfl, rfl⟩
          exact ⟨rfl, wanted, rfl⟩
        · rintro ⟨rfl, -, rfl⟩
          exact ⟨rfl, rfl⟩
      · simp only [if_neg wanted, reduceCtorEq, Except.ok.injEq, false_iff]
        rintro ⟨rfl, held, -⟩
        exact wanted held

/-- What the steps of all rows do to one contact is what those of its merge group do. -/
theorem view_foldl_turn (view : σ -> τ) {value : Row -> Option α} (take : τ -> α -> τ)
    (own : ∀ state row, view (step state uid (recordOf row selection.columns)) =
      (value row).elim (view state) (take (view state)))
    (frame : ∀ state other record, other ≠ uid -> view (step state other record) = view state)
    (wanted : selection.wants uid = true) (rows : List Row) (start : σ) :
    view (rows.foldl (turn selection step) start) =
      ((mergeGroup selection.lookupColumn rows uid).filterMap value).foldl take (view start) := by
  induction rows generalizing start with
  | nil => rfl
  | cons row rest ih =>
      rw [List.foldl_cons, ih, mergeGroup, mergeGroup, List.filter_cons, turn]
      cases carried : row.identity selection.lookupColumn with
      | error fault =>
          have none : pairOf selection row = none := by rw [pairOf, carried]
          simp [none, Except.toOption]
      | ok other =>
          by_cases same : other = uid
          · subst same
            have pair : pairOf selection row = some (other, recordOf row selection.columns) :=
              pairOf_eq_some_iff.mpr ⟨carried, wanted, rfl⟩
            rw [pair]
            simp only [own, Except.toOption, decide_true, if_true, List.filterMap_cons]
            cases value row <;> rfl
          -- A row of another contact is left out by the filter, and the frame makes up for it.
          · have skipped : view (turn selection step start row) = view start := by
              rw [turn]
              cases read : pairOf selection row with
              | none => rfl
              | some pair =>
                  obtain ⟨here, -, -⟩ := pairOf_eq_some_iff.mp read
                  rw [carried] at here
                  obtain rfl := Except.ok.inj here
                  exact frame start _ _ same
            rw [turn] at skipped
            simp [skipped, same, Except.toOption]

theorem foldl_turn_induction (kept : σ -> Prop)
    (step_kept : ∀ state uid record, kept state -> kept (step state uid record)) (rows : List Row)
    {start : σ} (begun : kept start) : kept (rows.foldl (turn selection step) start) := by
  induction rows generalizing start with
  | nil => exact begun
  | cons row rest ih =>
      rw [List.foldl_cons]
      apply ih
      rw [turn]
      cases pairOf selection row with
      | none => exact begun
      | some pair => exact step_kept start pair.1 pair.2 begun

end Projection

end PairedContacts
