import PairedContacts.Contacts.FetchPlan
import PairedContacts.Proofs.Uid

/-!
# What a plan fetches

A contact is fetched exactly if the source has it and no timestamp that is as great is known, and
it is left alone exactly if one is.  So a plan divides the contacts of both manifests, and fetching
some of those that it names takes just these off the next plan.
-/

set_option autoImplicit false

namespace PairedContacts.FetchPlan

variable {known remote : Manifest} {uid : Uid}

theorem verdict_eq_fetch_iff : verdict known remote uid = .fetch ↔
    ∃ there, KeyedList.get? remote uid = some there ∧
      ∀ here, KeyedList.get? known uid = some here -> here < there := by
  rw [verdict]
  cases KeyedList.get? remote uid with
  | none => simp
  | some there =>
      cases KeyedList.get? known uid with
      | none => simp
      | some here => by_cases newer : here < there <;> simp [newer]

theorem verdict_eq_keep_iff : verdict known remote uid = .keep ↔
    ∃ here there, KeyedList.get? known uid = some here ∧
      KeyedList.get? remote uid = some there ∧ there ≤ here := by
  rw [verdict]
  cases KeyedList.get? remote uid with
  | none => simp
  | some there =>
      cases KeyedList.get? known uid with
      | none => simp
      | some here =>
          by_cases newer : here < there
          · simp [newer]
          · simp [newer, Int.not_lt.mp newer]

theorem mem_uids : uid ∈ uids known remote ↔
    uid ∈ KeyedList.keys known ∨ uid ∈ KeyedList.keys remote := by
  rw [uids, Uid.sort, List.mem_mergeSort, mem_firstOccurrences, List.mem_append]

theorem ascending_uids (known remote : Manifest) : Uid.Ascending (uids known remote) :=
  Uid.ascending_sort (nodup_firstOccurrences _)

/-- The contacts of one verdict. -/
def part (known remote : Manifest) (judged : Verdict) : List Uid :=
  (uids known remote).filter fun uid => verdict known remote uid = judged

theorem compute_eq_parts (known remote : Manifest) : compute known remote =
    ⟨part known remote .fetch, part known remote .keep, part known remote .deleted⟩ :=
  rfl

theorem mem_part_iff {judged : Verdict} : uid ∈ part known remote judged ↔
    uid ∈ uids known remote ∧ verdict known remote uid = judged := by
  rw [part, List.mem_filter, decide_eq_true_eq]

theorem ascending_part (known remote : Manifest) (judged : Verdict) :
    Uid.Ascending (part known remote judged) :=
  (ascending_uids known remote).filter _

theorem ne_of_mem_part {first second : Verdict} (different : first ≠ second) :
    ∀ one ∈ part known remote first, ∀ other ∈ part known remote second, one ≠ other := by
  rintro uid judged _ again rfl
  exact different ((mem_part_iff.mp judged).2.symm.trans (mem_part_iff.mp again).2)

theorem mem_toFetch_iff :
    uid ∈ (compute known remote).toFetch ↔ verdict known remote uid = .fetch := by
  rw [compute_eq_parts, mem_part_iff, and_iff_right_iff_imp, mem_uids]
  intro fetched
  obtain ⟨there, found, -⟩ := verdict_eq_fetch_iff.mp fetched
  exact .inr (KeyedList.isSome_get?_iff.mp (by rw [found]; rfl))

theorem mem_unchanged_iff :
    uid ∈ (compute known remote).unchanged ↔ verdict known remote uid = .keep := by
  rw [compute_eq_parts, mem_part_iff, and_iff_right_iff_imp, mem_uids]
  intro kept
  obtain ⟨here, there, -, found, -⟩ := verdict_eq_keep_iff.mp kept
  exact .inr (KeyedList.isSome_get?_iff.mp (by rw [found]; rfl))

theorem ascending_toFetch (known remote : Manifest) :
    Uid.Ascending (compute known remote).toFetch :=
  ascending_part known remote .fetch

theorem verdict_eq_deleted_iff :
    verdict known remote uid = .deleted ↔ KeyedList.get? remote uid = none := by
  unfold verdict
  cases KeyedList.get? remote uid with
  | none => simp
  | some there =>
      cases KeyedList.get? known uid with
      | none => simp
      | some here => by_cases newer : here < there <;> simp [newer]

theorem mem_deleted_iff : uid ∈ (compute known remote).deleted ↔
    uid ∈ KeyedList.keys known ∧ uid ∉ KeyedList.keys remote := by
  rw [compute_eq_parts, mem_part_iff, mem_uids, verdict_eq_deleted_iff,
    KeyedList.get?_eq_none_iff]
  constructor
  · rintro ⟨here | there, gone⟩
    · exact ⟨here, gone⟩
    · exact absurd there gone
  · rintro ⟨here, gone⟩
    exact ⟨.inl here, gone⟩

/-! ## The parts of a plan -/

/-- The parts of a plan that divides the contacts of two manifests: each part in the order of the
uIDs, every contact in one of them, and the contacts that only one manifest has, or that both have,
where they belong. -/
structure Divides (plan : FetchPlan) (known remote : Manifest) : Prop where
  inOrder : Uid.Ascending plan.toFetch ∧ Uid.Ascending plan.unchanged ∧
    Uid.Ascending plan.deleted
  once : (plan.toFetch ++ plan.unchanged ++ plan.deleted).Nodup
  whole : ∀ uid, uid ∈ plan.toFetch ++ plan.unchanged ++ plan.deleted ↔
    uid ∈ KeyedList.keys known ∨ uid ∈ KeyedList.keys remote
  deleted : ∀ uid, uid ∈ plan.deleted ↔
    uid ∈ KeyedList.keys known ∧ uid ∉ KeyedList.keys remote
  toFetch : ∀ uid, uid ∈ plan.toFetch ↔ uid ∈ KeyedList.keys remote ∧
    (uid ∉ KeyedList.keys known ∨ ∃ here there, KeyedList.get? known uid = some here ∧
      KeyedList.get? remote uid = some there ∧ here < there)
  unchanged : ∀ uid, uid ∈ plan.unchanged ↔ ∃ here there,
    KeyedList.get? known uid = some here ∧ KeyedList.get? remote uid = some there ∧ there ≤ here

theorem mem_toFetch_iff_keys : uid ∈ (compute known remote).toFetch ↔
    uid ∈ KeyedList.keys remote ∧
      (uid ∉ KeyedList.keys known ∨ ∃ here there, KeyedList.get? known uid = some here ∧
        KeyedList.get? remote uid = some there ∧ here < there) := by
  rw [mem_toFetch_iff, verdict_eq_fetch_iff, ← KeyedList.get?_eq_none_iff,
    ← KeyedList.isSome_get?_iff]
  cases KeyedList.get? remote uid <;> cases KeyedList.get? known uid <;> simp

theorem mem_parts_iff : uid ∈ (compute known remote).toFetch ++ (compute known remote).unchanged ++
    (compute known remote).deleted ↔ uid ∈ KeyedList.keys known ∨ uid ∈ KeyedList.keys remote := by
  rw [← mem_uids]
  simp only [compute_eq_parts, List.mem_append, mem_part_iff]
  cases verdict known remote uid <;> simp

theorem nodup_parts (known remote : Manifest) :
    ((compute known remote).toFetch ++ (compute known remote).unchanged ++
      (compute known remote).deleted).Nodup := by
  rw [compute_eq_parts, List.nodup_append, List.nodup_append]
  refine ⟨⟨(ascending_part known remote .fetch).nodup, (ascending_part known remote .keep).nodup,
    ne_of_mem_part (by decide)⟩, (ascending_part known remote .deleted).nodup, ?_⟩
  intro uid earlier
  rcases List.mem_append.mp earlier with fetched | kept
  · exact ne_of_mem_part (by decide) uid fetched
  · exact ne_of_mem_part (by decide) uid kept

/-! ## Progress -/

/-- The known manifest once some contacts have been fetched: they have the timestamps of the
source. -/
def adopt (known remote : Manifest) (fetched : List Uid) : Manifest :=
  fetched.foldl (KeyedList.enter (KeyedList.get? remote)) known

theorem get?_adopt (known remote : Manifest) (fetched : List Uid) (uid : Uid) :
    KeyedList.get? (adopt known remote fetched) uid =
      if uid ∈ fetched then (KeyedList.get? remote uid).or (KeyedList.get? known uid)
      else KeyedList.get? known uid :=
  KeyedList.get?_foldl_enter _ fetched known uid

/-- A fetched contact is up to date, and what is said of the others stays. -/
theorem verdict_adopt {fetched : List Uid}
    (planned : ∀ uid ∈ fetched, uid ∈ (compute known remote).toFetch) (uid : Uid) :
    verdict (adopt known remote fetched) remote uid =
      if uid ∈ fetched then .keep else verdict known remote uid := by
  by_cases arrived : uid ∈ fetched
  · obtain ⟨there, found, -⟩ := verdict_eq_fetch_iff.mp (mem_toFetch_iff.mp (planned uid arrived))
    rw [if_pos arrived, verdict_eq_keep_iff]
    exact ⟨there, there, by simp [get?_adopt, arrived, found], found, Int.le_refl there⟩
  · unfold verdict
    rw [get?_adopt, if_neg arrived, if_neg arrived]

theorem toFetch_adopt {fetched : List Uid}
    (planned : ∀ uid ∈ fetched, uid ∈ (compute known remote).toFetch) :
    (compute (adopt known remote fetched) remote).toFetch =
      (compute known remote).toFetch.filter fun uid => uid ∉ fetched := by
  apply (ascending_toFetch _ _).eq_of_mem_iff ((ascending_toFetch known remote).filter _)
  intro uid
  rw [mem_toFetch_iff, verdict_adopt planned, List.mem_filter, mem_toFetch_iff]
  by_cases arrived : uid ∈ fetched <;> simp [arrived]

/-- What the source no longer has cannot be fetched from it, whatever is asked for. -/
theorem deleted_adopt (known remote : Manifest) (fetched : List Uid) :
    (compute (adopt known remote fetched) remote).deleted = (compute known remote).deleted := by
  have ordered (here : Manifest) : Uid.Ascending (compute here remote).deleted :=
    ascending_part here remote .deleted
  apply (ordered _).eq_of_mem_iff (ordered known)
  intro uid
  rw [mem_deleted_iff, mem_deleted_iff, and_congr_left_iff]
  intro gone
  rw [← KeyedList.isSome_get?_iff, ← KeyedList.isSome_get?_iff, get?_adopt,
    KeyedList.get?_eq_none_iff.mpr gone]
  simp

/-- The plan for two manifests divides their contacts.  Once some of the contacts to fetch have
been fetched, the next plan has the same contacts to fetch without these, and the same deleted
ones. -/
theorem plan_divides_and_progresses (known remote : Manifest) :
    (compute known remote).Divides known remote ∧
      ∀ fetched : List Uid, (∀ uid ∈ fetched, uid ∈ (compute known remote).toFetch) ->
        (compute (adopt known remote fetched) remote).toFetch =
            (compute known remote).toFetch.filter (fun uid => uid ∉ fetched) ∧
          (compute (adopt known remote fetched) remote).deleted =
            (compute known remote).deleted := by
  constructor
  · exact {
      inOrder := ⟨ascending_part known remote .fetch, ascending_part known remote .keep,
        ascending_part known remote .deleted⟩
      once := nodup_parts known remote
      whole := fun uid => mem_parts_iff
      deleted := fun uid => mem_deleted_iff
      toFetch := fun uid => mem_toFetch_iff_keys
      unchanged := fun uid => mem_unchanged_iff.trans verdict_eq_keep_iff }
  · intro fetched planned
    exact ⟨toFetch_adopt planned, deleted_adopt known remote fetched⟩

/-- Of a changed contact and a new one, with a third that is gone, the changed one is fetched. -/
theorem plan_divides_and_progresses_partly :
    ⟨"b"⟩ ∈ (compute [(⟨"b"⟩, 5), (⟨"c"⟩, 1)] [(⟨"b"⟩, 7), (⟨"a"⟩, -2)]).toFetch ∧
      ⟨"a"⟩ ∈ (compute [(⟨"b"⟩, 7), (⟨"c"⟩, 1)] [(⟨"b"⟩, 7), (⟨"a"⟩, -2)]).toFetch ∧
      ⟨"b"⟩ ∉ (compute [(⟨"b"⟩, 7), (⟨"c"⟩, 1)] [(⟨"b"⟩, 7), (⟨"a"⟩, -2)]).toFetch ∧
      ⟨"c"⟩ ∈ (compute [(⟨"b"⟩, 7), (⟨"c"⟩, 1)] [(⟨"b"⟩, 7), (⟨"a"⟩, -2)]).deleted := by
  obtain ⟨divides, progress⟩ :=
    plan_divides_and_progresses [(⟨"b"⟩, 5), (⟨"c"⟩, 1)] [(⟨"b"⟩, 7), (⟨"a"⟩, -2)]
  have changed := (divides.toFetch ⟨"b"⟩).mpr ⟨by decide, .inr ⟨5, 7, rfl, rfl, by decide⟩⟩
  have new := (divides.toFetch ⟨"a"⟩).mpr ⟨by decide, .inl (by decide)⟩
  have gone := (divides.deleted ⟨"c"⟩).mpr (by decide)
  obtain ⟨remaining, deleted⟩ := progress [⟨"b"⟩] (by
    intro uid member
    rwa [List.mem_singleton.mp member])
  have adopted : adopt [(⟨"b"⟩, 5), (⟨"c"⟩, 1)] [(⟨"b"⟩, 7), (⟨"a"⟩, -2)] [⟨"b"⟩] =
      [(⟨"b"⟩, 7), (⟨"c"⟩, 1)] := rfl
  rw [adopted] at remaining deleted
  rw [remaining, deleted]
  exact ⟨changed, List.mem_filter.mpr ⟨new, by decide⟩,
    fun member => absurd (List.mem_filter.mp member).2 (by decide), gone⟩

end PairedContacts.FetchPlan
