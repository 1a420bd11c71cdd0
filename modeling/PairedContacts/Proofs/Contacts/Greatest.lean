import PairedContacts.Proofs.Contacts.Manifest

/-!
# The greatest timestamps

A manifest has a wanted contact exactly if some row of the contact has an integer as its timestamp,
and gives it the greatest of those integers.  Rows count without regard to their order, and which
other contacts are wanted does not show.
-/

set_option autoImplicit false

namespace PairedContacts

namespace MergeGroup

variable {layout : Layout} {rows others : List Row} {uid : Uid} {timestamp : Int}

/-- Some row of a contact has this integer as its timestamp. -/
def Reports (layout : Layout) (rows : List Row) (uid : Uid) (timestamp : Int) : Prop :=
  ∃ row ∈ rows, row.identity layout.lookup = .ok uid ∧
    row.content? layout.timestamp = some (.integer timestamp)

theorem timestampIn_eq_some_iff {row : Row} (typed : row.isTyped = true) :
    timestampIn layout row = some timestamp ↔
      row.content? layout.timestamp = some (.integer timestamp) := by
  unfold timestampIn
  rw [Row.cell?_of_isTyped typed]
  cases row.content? layout.timestamp with
  | none => simp
  | some content => cases content <;> simp [ColumnValue.integer?]

theorem mem_timestamps_iff (typed : ∀ row ∈ rows, row.isTyped = true) :
    timestamp ∈ (mergeGroup layout.lookup rows uid).filterMap (timestampIn layout) ↔
      Reports layout rows uid timestamp := by
  rw [List.mem_filterMap]
  constructor
  · rintro ⟨row, inGroup, read⟩
    obtain ⟨within, carried⟩ := mem_mergeGroup.mp inGroup
    exact ⟨row, within, carried, (timestampIn_eq_some_iff (typed row within)).mp read⟩
  · rintro ⟨row, within, carried, held⟩
    exact ⟨row, mem_mergeGroup.mpr ⟨within, carried⟩,
      (timestampIn_eq_some_iff (typed row within)).mpr held⟩

theorem newest_eq_some_iff (typed : ∀ row ∈ rows, row.isTyped = true) :
    newest layout rows uid = some timestamp ↔
      Reports layout rows uid timestamp ∧
        ∀ other, Reports layout rows uid other -> other ≤ timestamp := by
  unfold newest
  rw [List.max?_eq_some_iff]
  simp only [mem_timestamps_iff typed]

theorem exists_newest_iff_reports (typed : ∀ row ∈ rows, row.isTyped = true) :
    (∃ timestamp, newest layout rows uid = some timestamp) ↔
      ∃ timestamp, Reports layout rows uid timestamp := by
  constructor
  · rintro ⟨timestamp, found⟩
    exact ⟨timestamp, ((newest_eq_some_iff typed).mp found).1⟩
  · rintro ⟨timestamp, row, within, carried, held⟩
    exact exists_newest_iff.mpr ⟨row, mem_mergeGroup.mpr ⟨within, carried⟩, timestamp,
      (timestampIn_eq_some_iff (typed row within)).mpr held⟩

/-- What a group says of its timestamps does not depend on the order of the rows. -/
theorem newest_perm (same : others.Perm rows) (uid : Uid) :
    newest layout others uid = newest layout rows uid := by
  have timestamps : ((mergeGroup layout.lookup others uid).filterMap (timestampIn layout)).Perm
      ((mergeGroup layout.lookup rows uid).filterMap (timestampIn layout)) :=
    (same.filter _).filterMap _
  unfold newest
  apply Option.ext
  intro timestamp
  rw [List.max?_eq_some_iff, List.max?_eq_some_iff, timestamps.mem_iff]
  simp only [timestamps.mem_iff]

end MergeGroup

namespace Manifest

/-- The part of a manifest that is about some contacts. -/
def restrict (keep : Uid -> Bool) (manifest : Manifest) : Manifest :=
  manifest.filter fun entry => keep entry.1

theorem restrict_raise (keep : Uid -> Bool) (manifest : Manifest) (uid : Uid) (timestamp : Int) :
    restrict keep (manifest.raise uid timestamp) =
      if keep uid then (restrict keep manifest).raise uid timestamp
      else restrict keep manifest := by
  have known : KeyedList.get? (restrict keep manifest) uid =
      if keep uid then KeyedList.get? manifest uid else none :=
    KeyedList.get?_filter keep manifest uid
  have written : restrict keep (KeyedList.put manifest uid timestamp) =
      if keep uid then KeyedList.put (restrict keep manifest) uid timestamp
      else restrict keep manifest :=
    KeyedList.filter_put keep manifest uid timestamp
  -- Only an entry of the same contact stops an entry, so it is stopped in the part if in the whole.
  unfold raise
  rw [known]
  cases kept : keep uid <;> cases KeyedList.get? manifest uid with
  | none => simp [written, kept]
  | some current => by_cases later : current < timestamp <;> simp [later, written, kept]

/-- The manifest for some contacts is the part about them of the manifest for all. -/
theorem ofRows_eq_restrict (layout : Layout) (wanted : Option (List Uid)) (rows : List Row) :
    ofRows layout wanted rows =
      restrict (selection layout wanted).wants (ofRows layout none rows) := by
  symm
  apply Projection.restrict_foldl_turn (selection layout wanted)
  · intro manifest uid record wantedHere
    unfold step
    cases timestampOf layout record with
    | none => rfl
    | some timestamp => simp [restrict_raise, wantedHere]
  · intro manifest uid record unwanted
    unfold step
    cases timestampOf layout record with
    | none => rfl
    | some timestamp => simp [restrict_raise, unwanted]

theorem get?_ofRows_any (layout : Layout) (wanted : Option (List Uid)) (rows : List Row)
    (uid : Uid) :
    KeyedList.get? (ofRows layout wanted rows) uid =
      if (selection layout wanted).wants uid then MergeGroup.newest layout rows uid else none := by
  rw [ofRows_eq_restrict, restrict, KeyedList.get?_filter, get?_ofRows_all]

theorem ofRows_perm {rows others : List Row} (layout : Layout) (wanted : Option (List Uid))
    (same : others.Perm rows) :
    (ofRows layout wanted others).Perm (ofRows layout wanted rows) := by
  apply KeyedList.perm_of_get? (nodup_keys_ofRows layout wanted rows)
    (nodup_keys_ofRows layout wanted others)
  intro uid
  rw [get?_ofRows_any, get?_ofRows_any, MergeGroup.newest_perm same]

/-- Over typed rows a manifest can be built, with every contact once.  A contact is in it exactly
if it is wanted and some row of the contact has an integer as its timestamp, and its entry is the
greatest of these integers.  The manifest for some contacts is the part about them of the manifest
for all, and whatever the order of the rows, it has the same entries. -/
theorem greatest_in_any_order {rows : List Row} {access : Option Access} (layout : Layout)
    (wanted : Option (List Uid)) (opens : Access.opens access = true)
    (typed : ∀ row ∈ rows, row.isTyped = true) :
    ∃ full manifest : Manifest,
      (build (Source.ofRows rows) access layout none).outcome = .ok full ∧
      (build (Source.ofRows rows) access layout wanted).outcome = .ok manifest ∧
      (KeyedList.keys manifest).Nodup ∧
      (∀ uid, uid ∈ KeyedList.keys manifest ↔
        (∀ uids, wanted = some uids -> uid ∈ uids) ∧
          ∃ timestamp, MergeGroup.Reports layout rows uid timestamp) ∧
      (∀ uid timestamp, KeyedList.get? manifest uid = some timestamp ->
        MergeGroup.Reports layout rows uid timestamp ∧
          ∀ other, MergeGroup.Reports layout rows uid other -> other ≤ timestamp) ∧
      (∀ uids, wanted = some uids -> manifest = full.filter fun entry => entry.1 ∈ uids) ∧
      ∀ others, others.Perm rows -> ∃ same : Manifest,
        (build (Source.ofRows others) access layout wanted).outcome = .ok same ∧
          same.Perm manifest := by
  refine ⟨_, _, outcome_build layout none opens typed, outcome_build layout wanted opens typed,
    nodup_keys_ofRows layout wanted rows, ?_, ?_, ?_, ?_⟩
  · intro uid
    have asked : (selection layout wanted).wants uid = true ↔
        ∀ uids, wanted = some uids -> uid ∈ uids :=
      Selection.wants_iff
    rw [← asked, ← MergeGroup.exists_newest_iff_reports typed, ← KeyedList.isSome_get?_iff,
      get?_ofRows_any, Option.isSome_iff_exists]
    cases (selection layout wanted).wants uid <;> simp
  · intro uid timestamp found
    rw [get?_ofRows_any] at found
    split at found
    · exact (MergeGroup.newest_eq_some_iff typed).mp found
    · cases found
  · rintro uids rfl
    rw [ofRows_eq_restrict]
    unfold restrict
    simp [Selection.wants, selection]
  · intro others same
    have othersTyped : ∀ row ∈ others, row.isTyped = true := by
      intro row member
      exact typed row (same.mem_iff.mp member)
    exact ⟨_, outcome_build layout wanted opens othersTyped, ofRows_perm layout wanted same⟩

/-- Two contacts with their rows mixed: one is called by an integer and by its numeral and was
changed before the epoch, the other has a timestamp that is a text in its last row. -/
def mixedTimestamps : List Row :=
  [[("lookup_key", ⟨some "integer", .int 17⟩),
      ("last_updated_timestamp", ⟨some "integer", .int (-5)⟩)],
    [("lookup_key", ⟨some "text", .text "bob"⟩),
      ("last_updated_timestamp", ⟨some "integer", .int 4⟩)],
    [("lookup_key", ⟨some "text", .text "17"⟩),
      ("last_updated_timestamp", ⟨some "integer", .int (-3)⟩)],
    [("lookup_key", ⟨some "text", .text "bob"⟩),
      ("last_updated_timestamp", ⟨some "text", .text "9"⟩)]]

theorem greatest_in_any_order_mixedTimestamps :
    Access.opens (Access.grant true) = true ∧
      (∀ row ∈ mixedTimestamps, row.isTyped = true) ∧
      ∀ others : List Row, others.Perm mixedTimestamps -> ∃ same : Manifest,
        (build (Source.ofRows others) (Access.grant true) .standard none).outcome = .ok same ∧
          same.Perm [(⟨"17"⟩, -3), (⟨"bob"⟩, 4)] := by
  have opens : Access.opens (Access.grant true) = true := rfl
  have typed : ∀ row ∈ mixedTimestamps, row.isTyped = true := by decide
  refine ⟨opens, typed, ?_⟩
  obtain ⟨-, manifest, -, built, -, -, -, -, permuted⟩ :=
    greatest_in_any_order .standard none opens typed
  have entries : ofRows .standard none mixedTimestamps = [(⟨"17"⟩, -3), (⟨"bob"⟩, 4)] := by
    decide +kernel
  rw [outcome_build .standard none opens typed, entries] at built
  obtain rfl := Except.ok.inj built
  exact permuted

end Manifest

end PairedContacts
