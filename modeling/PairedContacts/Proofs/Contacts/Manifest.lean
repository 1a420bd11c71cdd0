import PairedContacts.Proofs.Contacts.MergeGroup

/-!
# What a manifest says

Over typed rows a manifest can be built, and gives every wanted contact the greatest timestamp of
its merge group.
-/

set_option autoImplicit false

namespace PairedContacts

def higher (current : Option Int) (timestamp : Int) : Option Int :=
  some (current.elim timestamp fun known => max known timestamp)

theorem foldl_higher_some (timestamps : List Int) (known : Int) :
    timestamps.foldl higher (some known) = some (timestamps.foldl max known) := by
  induction timestamps generalizing known with
  | nil => rfl
  | cons timestamp rest ih => exact ih (max known timestamp)

theorem foldl_higher (timestamps : List Int) :
    timestamps.foldl higher none = timestamps.max? := by
  cases timestamps with
  | nil => rfl
  | cons first rest => exact foldl_higher_some rest first

namespace Manifest

theorem get?_raise (manifest : Manifest) (uid other : Uid) (timestamp : Int) :
    KeyedList.get? (manifest.raise uid timestamp) other =
      if other = uid then higher (KeyedList.get? manifest uid) timestamp
      else KeyedList.get? manifest other := by
  rw [raise]
  cases found : KeyedList.get? manifest uid with
  | none => simp [KeyedList.get?_put, higher]
  | some current =>
      by_cases later : current < timestamp
      · have greater : max current timestamp = timestamp := by omega
        simp [later, KeyedList.get?_put, higher, greater]
      · have greater : max current timestamp = current := by omega
        by_cases same : other = uid
        · simp [later, same, found, higher, greater]
        · simp [later, same]

theorem nodup_keys_raise {manifest : Manifest} (once : (KeyedList.keys manifest).Nodup) (uid : Uid)
    (timestamp : Int) : (KeyedList.keys (manifest.raise uid timestamp)).Nodup := by
  rw [raise]
  split
  · exact KeyedList.nodup_keys_put once uid timestamp
  · split
    · exact KeyedList.nodup_keys_put once uid timestamp
    · exact once

def step (layout : Layout) (manifest : Manifest) (uid : Uid) (record : Record) : Manifest :=
  (timestampOf layout record).elim manifest (manifest.raise uid)

def ofRows (layout : Layout) (wanted : Option (List Uid)) (rows : List Row) : Manifest :=
  rows.foldl (Projection.turn (selection layout wanted) (step layout)) []

theorem outcome_visit (layout : Layout) (manifest : Manifest) (uid : Uid) (record : Record) :
    (visit layout manifest uid record).outcome = .ok (step layout manifest uid record) := by
  rw [visit, step]
  cases timestampOf layout record <;> rfl

theorem outcome_build {rows : List Row} {access : Option Access} (layout : Layout)
    (wanted : Option (List Uid)) (opens : Access.opens access = true)
    (typed : ∀ row ∈ rows, row.isTyped = true) :
    (build (Source.ofRows rows) access layout wanted).outcome = .ok (ofRows layout wanted rows) :=
  Projection.outcome_visitRows opens typed (outcome_visit layout) []

theorem timestampOf_recordOf {layout : Layout} {columns : List String}
    (read : layout.timestamp ∈ columns) (row : Row) :
    timestampOf layout (Projection.recordOf row columns) = MergeGroup.timestampIn layout row := by
  rw [timestampOf, Projection.get?_recordOf, if_pos read, MergeGroup.timestampIn]

theorem get?_step_self {layout : Layout} {columns : List String} (read : layout.timestamp ∈ columns)
    (manifest : Manifest) (uid : Uid) (row : Row) :
    KeyedList.get? (step layout manifest uid (Projection.recordOf row columns)) uid =
      (MergeGroup.timestampIn layout row).elim (KeyedList.get? manifest uid)
        (higher (KeyedList.get? manifest uid)) := by
  rw [step, timestampOf_recordOf read]
  cases MergeGroup.timestampIn layout row with
  | none => rfl
  | some timestamp => simp [get?_raise]

theorem get?_step_of_ne (layout : Layout) (manifest : Manifest) {uid other : Uid} (record : Record)
    (different : other ≠ uid) :
    KeyedList.get? (step layout manifest other record) uid = KeyedList.get? manifest uid := by
  rw [step]
  cases timestampOf layout record with
  | none => rfl
  | some timestamp => simp [get?_raise, Ne.symm different]

theorem get?_ofRows {layout : Layout} {wanted : Option (List Uid)} {uid : Uid}
    (asked : (selection layout wanted).wants uid = true) (rows : List Row) :
    KeyedList.get? (ofRows layout wanted rows) uid = MergeGroup.newest layout rows uid := by
  have read : layout.timestamp ∈ (selection layout wanted).columns := by simp [selection]
  rw [ofRows, Projection.view_foldl_turn (fun manifest => KeyedList.get? manifest uid) higher
    (fun manifest => get?_step_self read manifest uid)
    (fun manifest _ record different => get?_step_of_ne layout manifest record different) asked]
  exact foldl_higher _

theorem nodup_keys_ofRows (layout : Layout) (wanted : Option (List Uid)) (rows : List Row) :
    (KeyedList.keys (ofRows layout wanted rows)).Nodup := by
  refine Projection.foldl_turn_induction (fun manifest => (KeyedList.keys manifest).Nodup) ?_ rows
    List.nodup_nil
  intro manifest uid record once
  rw [step]
  cases timestampOf layout record with
  | none => exact once
  | some timestamp => exact nodup_keys_raise once uid timestamp

theorem get?_ofRows_all (layout : Layout) (rows : List Row) (uid : Uid) :
    KeyedList.get? (ofRows layout none rows) uid = MergeGroup.newest layout rows uid :=
  get?_ofRows rfl rows

end Manifest

namespace MergeGroup

/-- Whoever has a timestamp has a row, so the uID can be written down and read again. -/
theorem isProper_of_newest {layout : Layout} {rows : List Row} {uid : Uid} {timestamp : Int}
    (found : newest layout rows uid = some timestamp) : uid.IsProper := by
  have member := List.max?_mem found
  obtain ⟨row, inGroup, -⟩ := List.mem_filterMap.mp member
  exact Row.isProper_of_identity (mem_mergeGroup.mp inGroup).2

/-- A timestamp of the manifest is an integer that can be read out of a row. -/
theorem exists_cell?_of_newest {layout : Layout} {rows : List Row} {uid : Uid} {timestamp : Int}
    (found : newest layout rows uid = some timestamp) :
    ∃ row ∈ rows, row.cell? layout.timestamp = some (.integer timestamp) := by
  have member := List.max?_mem found
  obtain ⟨row, inGroup, read⟩ := List.mem_filterMap.mp member
  obtain ⟨value, cell, integer⟩ := Option.bind_eq_some_iff.mp read
  cases value with
  | integer n =>
      obtain rfl := Option.some.inj integer
      exact ⟨row, (mem_mergeGroup.mp inGroup).1, cell⟩
  | _ => cases integer

theorem short_of_newest {layout : Layout} {rows : List Row} {uid : Uid} {timestamp : Int}
    (typed : ∀ row ∈ rows, row.isTyped = true) (short : ∀ row ∈ rows, row.isShort = true)
    (found : newest layout rows uid = some timestamp) : Numeral.isTooLong timestamp = false := by
  obtain ⟨row, within, cell⟩ := exists_cell?_of_newest found
  exact Row.short_of_cell? (typed row within) (short row within) cell

end MergeGroup

end PairedContacts
