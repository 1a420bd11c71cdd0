/-!
# Keyed lists

A map that keeps its keys in the order in which they first arrived.  Writing to a present key
replaces its value in place; a new key goes to the end.
-/

set_option autoImplicit false

namespace PairedContacts

abbrev KeyedList (κ ν : Type) := List (κ × ν)

namespace KeyedList

variable {κ ν : Type} [DecidableEq κ]

def keys (entries : KeyedList κ ν) : List κ :=
  entries.map Prod.fst

def get? (entries : KeyedList κ ν) (key : κ) : Option ν :=
  match entries with
  | [] => none
  | (k, v) :: rest => if k = key then some v else get? rest key

def holds (entries : KeyedList κ ν) (key : κ) : Bool :=
  (entries.get? key).isSome

def put (entries : KeyedList κ ν) (key : κ) (value : ν) : KeyedList κ ν :=
  match entries with
  | [] => [(key, value)]
  | (k, v) :: rest => if k = key then (key, value) :: rest else (k, v) :: put rest key value

/-- Writes the pairs one after another, so the last value of a key wins. -/
def putAll (entries pairs : KeyedList κ ν) : KeyedList κ ν :=
  pairs.foldl (fun built pair => built.put pair.1 pair.2) entries

/-- The pairs of a list with each key once, at its first place and with its last value. -/
def ofPairs (pairs : List (κ × ν)) : KeyedList κ ν :=
  putAll [] pairs

theorem get?_put_self (entries : KeyedList κ ν) (key : κ) (value : ν) :
    (entries.put key value).get? key = some value := by
  induction entries with
  | nil => simp [put, get?]
  | cons entry rest ih =>
      by_cases same : entry.1 = key <;> simp [put, get?, same, ih]

theorem get?_put_of_ne (entries : KeyedList κ ν) {key other : κ} (value : ν)
    (different : other ≠ key) : (entries.put key value).get? other = entries.get? other := by
  induction entries with
  | nil => simp [put, get?, Ne.symm different]
  | cons entry rest ih =>
      by_cases same : entry.1 = key
      · simp [put, get?, same, Ne.symm different]
      · by_cases found : entry.1 = other <;> grind [put, get?]

theorem get?_put (entries : KeyedList κ ν) (key other : κ) (value : ν) :
    (entries.put key value).get? other =
      if other = key then some value else entries.get? other := by
  by_cases same : other = key
  · subst same
    simp [get?_put_self]
  · simp [same, get?_put_of_ne entries value same]

end KeyedList

end PairedContacts
