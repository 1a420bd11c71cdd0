/-!
# First occurrences

The elements of a list with each one once, in the order in which they first come.
-/

set_option autoImplicit false

namespace PairedContacts

def firstOccurrences {α : Type} [DecidableEq α] : List α -> List α
  | [] => []
  | x :: rest => x :: (firstOccurrences rest).filter fun y => y ≠ x

variable {α : Type} [DecidableEq α]

theorem mem_firstOccurrences {x : α} {xs : List α} : x ∈ firstOccurrences xs ↔ x ∈ xs := by
  induction xs with
  | nil => rfl
  | cons y rest ih =>
      by_cases same : x = y <;> simp [firstOccurrences, same, ih]

theorem nodup_firstOccurrences (xs : List α) : (firstOccurrences xs).Nodup := by
  induction xs with
  | nil => exact List.nodup_nil
  | cons y rest ih =>
      refine List.nodup_cons.mpr ⟨by simp, ih.filter _⟩

end PairedContacts
