import PairedContacts.KeyedList

/-!
# Keys and values of a keyed list

A key is found exactly if it is among the keys.  Where every key comes once, the list is the map
that it stands for: each of its pairs is found, in whatever order the pairs come.
-/

set_option autoImplicit false

namespace PairedContacts.KeyedList

variable {κ ν : Type} [DecidableEq κ]

theorem get?_cons (k key : κ) (v : ν) (rest : KeyedList κ ν) :
    KeyedList.get? ((k, v) :: rest) key =
      if k = key then some v else KeyedList.get? rest key :=
  rfl

omit [DecidableEq κ] in
theorem keys_append (entries others : KeyedList κ ν) :
    KeyedList.keys (entries ++ others) = entries.keys ++ others.keys :=
  List.map_append

theorem get?_append (entries others : KeyedList κ ν) (key : κ) :
    KeyedList.get? (entries ++ others) key = (entries.get? key).or (others.get? key) := by
  induction entries with
  | nil => rfl
  | cons entry rest ih =>
      obtain ⟨k, v⟩ := entry
      rw [List.cons_append, get?_cons, get?_cons, ih]
      by_cases same : k = key <;> simp [same]

theorem get?_filter (keep : κ -> Bool) (entries : KeyedList κ ν) (key : κ) :
    KeyedList.get? (entries.filter fun entry => keep entry.1) key =
      if keep key then entries.get? key else none := by
  induction entries with
  | nil => simp [get?]
  | cons entry rest ih =>
      obtain ⟨k, v⟩ := entry
      rw [List.filter_cons, get?_cons]
      by_cases same : k = key
      · subst same
        cases kept : keep k <;> simp [get?_cons, ih, kept]
      · cases kept : keep k <;> simp [get?_cons, ih, same]

theorem get?_map_value {μ : Type} (convert : ν -> μ) (entries : KeyedList κ ν) (key : κ) :
    KeyedList.get? (entries.map fun entry => (entry.1, convert entry.2)) key =
      (entries.get? key).map convert := by
  induction entries with
  | nil => rfl
  | cons entry rest ih =>
      obtain ⟨k, v⟩ := entry
      rw [List.map_cons, get?_cons, get?_cons, ih]
      by_cases same : k = key <;> simp [same]

theorem get?_map_key (value : κ -> ν) (keys : List κ) (key : κ) :
    KeyedList.get? (keys.map fun k => (k, value k)) key =
      if key ∈ keys then some (value key) else none := by
  induction keys with
  | nil => rfl
  | cons k rest ih =>
      rw [List.map_cons, get?_cons, ih]
      by_cases same : k = key
      · simp [same]
      · simp [same, Ne.symm same]

theorem get?_eq_none_iff {entries : KeyedList κ ν} {key : κ} :
    entries.get? key = none ↔ key ∉ entries.keys := by
  induction entries with
  | nil => simp [get?, keys]
  | cons entry rest ih =>
      obtain ⟨k, v⟩ := entry
      rw [get?_cons]
      by_cases same : k = key
      · simp [same, keys]
      · simp [same, ih, keys, Ne.symm same]

theorem isSome_get?_iff {entries : KeyedList κ ν} {key : κ} :
    (entries.get? key).isSome = true ↔ key ∈ entries.keys := by
  rw [← Decidable.not_iff_not, ← get?_eq_none_iff]
  simp

theorem mem_of_get? {entries : KeyedList κ ν} {key : κ} {value : ν}
    (found : entries.get? key = some value) : (key, value) ∈ entries := by
  induction entries with
  | nil => cases found
  | cons entry rest ih =>
      obtain ⟨k, v⟩ := entry
      rw [get?_cons] at found
      by_cases same : k = key
      · rw [if_pos same, Option.some.injEq] at found
        simp [same, found]
      · rw [if_neg same] at found
        exact List.mem_cons_of_mem _ (ih found)

theorem get?_of_mem {entries : KeyedList κ ν} {key : κ} {value : ν}
    (once : entries.keys.Nodup) (member : (key, value) ∈ entries) :
    entries.get? key = some value := by
  induction entries with
  | nil => cases member
  | cons entry rest ih =>
      obtain ⟨k, v⟩ := entry
      obtain ⟨fresh, restOnce⟩ := List.nodup_cons.mp once
      rw [get?_cons]
      rcases List.mem_cons.mp member with same | later
      · cases same
        exact if_pos rfl
      · rw [if_neg, ih restOnce later]
        have known : key ∈ keys rest := List.mem_map_of_mem later
        rintro rfl
        exact fresh known

theorem get?_eq_some_iff {entries : KeyedList κ ν} {key : κ} {value : ν}
    (once : entries.keys.Nodup) : entries.get? key = some value ↔ (key, value) ∈ entries :=
  ⟨mem_of_get?, get?_of_mem once⟩

omit [DecidableEq κ] in
theorem nodup_of_keys {entries : KeyedList κ ν} (once : entries.keys.Nodup) : entries.Nodup :=
  List.Pairwise.of_map Prod.fst (fun _ _ different same => different (congrArg Prod.fst same)) once

/-- Where every key comes once, the order of the pairs does not matter. -/
theorem get?_perm {entries others : KeyedList κ ν} (once : entries.keys.Nodup)
    (same : entries.Perm others) (key : κ) : others.get? key = entries.get? key := by
  have othersOnce : others.keys.Nodup := (same.map Prod.fst).nodup once
  apply Option.ext
  intro value
  rw [get?_eq_some_iff once, get?_eq_some_iff othersOnce]
  exact same.mem_iff.symm

/-- Two lists of pairs that stand for one map are the same up to the order of the pairs. -/
theorem perm_of_get? {entries others : KeyedList κ ν} (once : entries.keys.Nodup)
    (othersOnce : others.keys.Nodup) (same : ∀ key, others.get? key = entries.get? key) :
    others.Perm entries := by
  apply (List.perm_ext_iff_of_nodup (nodup_of_keys othersOnce) (nodup_of_keys once)).mpr
  intro entry
  rw [← get?_eq_some_iff once, ← get?_eq_some_iff othersOnce, same]

/-! ## Writing -/

theorem keys_put (entries : KeyedList κ ν) (key : κ) (value : ν) :
    (entries.put key value).keys =
      if key ∈ entries.keys then entries.keys else entries.keys ++ [key] := by
  induction entries with
  | nil => simp [put, keys]
  | cons entry rest ih =>
      obtain ⟨k, v⟩ := entry
      rw [put]
      by_cases same : k = key
      · simp [same, keys]
      · rw [if_neg same]
        simp only [keys, List.map_cons, List.mem_cons, Ne.symm same, false_or] at ih ⊢
        rw [ih]
        by_cases known : key ∈ List.map Prod.fst rest <;> simp [known]

/-- Writing a key that is kept is writing into what is kept; any other key leaves that alone. -/
theorem filter_put (keep : κ -> Bool) (entries : KeyedList κ ν) (key : κ) (value : ν) :
    (entries.put key value).filter (fun entry => keep entry.1) =
      if keep key then KeyedList.put (entries.filter fun entry => keep entry.1) key value
      else entries.filter fun entry => keep entry.1 := by
  induction entries with
  | nil => cases kept : keep key <;> simp [put, kept]
  | cons entry rest ih =>
      obtain ⟨k, v⟩ := entry
      by_cases same : k = key
      · subst same
        cases kept : keep k <;> simp [put, kept]
      · cases here : keep k <;> cases kept : keep key <;> simp [put, same, here, kept, ih]

theorem mem_keys_put {entries : KeyedList κ ν} {key other : κ} {value : ν} :
    other ∈ (entries.put key value).keys ↔ other = key ∨ other ∈ entries.keys := by
  rw [keys_put]
  by_cases known : key ∈ entries.keys
  · rw [if_pos known]
    constructor
    · exact .inr
    · rintro (rfl | member)
      · exact known
      · exact member
  · simp [known, or_comm]

theorem mem_put {entries : KeyedList κ ν} {key : κ} {value : ν} {entry : κ × ν}
    (member : entry ∈ entries.put key value) : entry = (key, value) ∨ entry ∈ entries := by
  induction entries with
  | nil => exact .inl (List.mem_singleton.mp member)
  | cons first rest ih =>
      rw [put] at member
      split at member
      · exact (List.mem_cons.mp member).imp_right (List.mem_cons_of_mem _)
      · rcases List.mem_cons.mp member with rfl | later
        · exact .inr (by simp)
        · exact (ih later).imp_right (List.mem_cons_of_mem _)

theorem nodup_keys_put {entries : KeyedList κ ν} (once : entries.keys.Nodup) (key : κ)
    (value : ν) : (entries.put key value).keys.Nodup := by
  rw [keys_put]
  split
  · exact once
  · rename_i fresh
    refine List.nodup_append.mpr ⟨once, by simp, ?_⟩
    intro other member last here
    rintro rfl
    obtain rfl := List.mem_singleton.mp here
    exact fresh member

theorem put_of_fresh {entries : KeyedList κ ν} {key : κ} (fresh : key ∉ entries.keys) (value : ν) :
    entries.put key value = entries ++ [(key, value)] := by
  induction entries with
  | nil => rfl
  | cons entry rest ih =>
      obtain ⟨k, v⟩ := entry
      simp only [keys, List.map_cons, List.mem_cons, not_or] at fresh
      rw [put, if_neg (Ne.symm fresh.1), ih fresh.2, List.cons_append]

theorem putAll_of_fresh {entries pairs : KeyedList κ ν}
    (once : (entries ++ pairs).keys.Nodup) : entries.putAll pairs = entries ++ pairs := by
  induction pairs generalizing entries with
  | nil => simp [putAll]
  | cons pair rest ih =>
      have fresh : pair.1 ∉ entries.keys := by
        rw [keys, List.map_append, List.map_cons] at once
        intro known
        exact (List.nodup_append.mp once).2.2 pair.1 known pair.1 (by simp) rfl
      have split : entries ++ pair :: rest = entries ++ [pair] ++ rest := by simp
      rw [split] at once ⊢
      rw [← ih once, putAll, List.foldl_cons, put_of_fresh fresh]
      rfl

theorem mem_putAll {entries pairs : KeyedList κ ν} {entry : κ × ν}
    (member : entry ∈ entries.putAll pairs) : entry ∈ entries ∨ entry ∈ pairs := by
  induction pairs generalizing entries with
  | nil => exact .inl member
  | cons pair rest ih =>
      rcases ih member with earlier | later
      · rcases mem_put earlier with rfl | before
        · exact .inr (by simp)
        · exact .inl before
      · exact .inr (List.mem_cons_of_mem _ later)

theorem nodup_keys_putAll {entries : KeyedList κ ν} (once : entries.keys.Nodup)
    (pairs : KeyedList κ ν) : (entries.putAll pairs).keys.Nodup := by
  induction pairs generalizing entries with
  | nil => exact once
  | cons pair rest ih => exact ih (nodup_keys_put once pair.1 pair.2)

theorem get?_putAll {pairs : KeyedList κ ν} (once : pairs.keys.Nodup) (entries : KeyedList κ ν)
    (key : κ) : (entries.putAll pairs).get? key = (pairs.get? key).or (entries.get? key) := by
  induction pairs generalizing entries with
  | nil => rfl
  | cons pair rest ih =>
      obtain ⟨k, v⟩ := pair
      obtain ⟨fresh, restOnce⟩ := List.nodup_cons.mp once
      rw [putAll, List.foldl_cons]
      show (KeyedList.get? (KeyedList.putAll (entries.put k v) rest) key) = _
      rw [ih restOnce, get?_cons, get?_put]
      by_cases same : key = k
      · subst same
        rw [get?_eq_none_iff.mpr fresh]
        simp
      · simp [same, Ne.symm same]

/-- Enters a key with the value that it has, if it has one. -/
def enter (value : κ -> Option ν) (entries : KeyedList κ ν) (key : κ) : KeyedList κ ν :=
  (value key).elim entries (entries.put key)

theorem get?_foldl_enter (value : κ -> Option ν) (order : List κ) (entries : KeyedList κ ν)
    (key : κ) :
    KeyedList.get? (order.foldl (enter value) entries) key =
      if key ∈ order then (value key).or (entries.get? key) else entries.get? key := by
  induction order generalizing entries with
  | nil => simp
  | cons first rest ih =>
      rw [List.foldl_cons, ih, enter]
      by_cases same : key = first
      · subst same
        cases value key <;> simp [get?_put_self]
      · cases value first <;> simp [same, get?_put_of_ne]

theorem foldl_enter_of_nodup {value : κ -> Option ν} {order : List κ} (once : order.Nodup)
    {entries : KeyedList κ ν} (fresh : ∀ key ∈ order, key ∉ entries.keys) :
    order.foldl (enter value) entries =
      entries ++ order.filterMap fun key => (value key).map fun found => (key, found) := by
  induction order generalizing entries with
  | nil => simp
  | cons first rest ih =>
      obtain ⟨notLater, restOnce⟩ := List.nodup_cons.mp once
      rw [List.foldl_cons, List.filterMap_cons, enter]
      cases value first with
      | none => exact ih restOnce fun key member => fresh key (List.mem_cons_of_mem _ member)
      | some found =>
          have freshAfter : ∀ key ∈ rest, key ∉ (entries.put first found).keys := by
            intro key member known
            rcases mem_keys_put.mp known with rfl | before
            · exact notLater member
            · exact fresh key (List.mem_cons_of_mem _ member) before
          have written := put_of_fresh (fresh first (by simp)) found
          simp only [Option.elim_some, Option.map_some]
          rw [ih restOnce freshAfter, written, List.append_assoc, List.singleton_append]

end PairedContacts.KeyedList
