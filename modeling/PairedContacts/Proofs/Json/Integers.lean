import PairedContacts.Proofs.Json.Reading

/-!
# Integers of a document that was read

The dialect has room for every integer that is read out of a document, however deep it stands: a
document with another one is refused.
-/

set_option autoImplicit false

namespace PairedContacts.Json

variable {τ : Type} {dialect : Dialect τ}

namespace Document

mutual

/-- Whether a dialect has room for all the integers in a document. -/
def isShort (dialect : Dialect τ) : Document τ -> Bool
  | .scalar content => content.isAdmitted dialect
  | .text _ => true
  | .list items => areShort dialect items
  | .map fields => haveShort dialect fields

def areShort (dialect : Dialect τ) : List (Document τ) -> Bool
  | [] => true
  | item :: rest => isShort dialect item && areShort dialect rest

def haveShort (dialect : Dialect τ) : List (τ × Document τ) -> Bool
  | [] => true
  | (_, item) :: rest => isShort dialect item && haveShort dialect rest

end

theorem areShort_iff {items : List (Document τ)} :
    areShort dialect items = true ↔ ∀ item ∈ items, item.isShort dialect = true := by
  induction items with
  | nil => simp [areShort]
  | cons item rest ih => rw [areShort, Bool.and_eq_true, ih, List.forall_mem_cons]

theorem haveShort_iff {fields : List (τ × Document τ)} :
    haveShort dialect fields = true ↔ ∀ field ∈ fields, field.2.isShort dialect = true := by
  induction fields with
  | nil => simp [haveShort]
  | cons field rest ih => rw [haveShort, Bool.and_eq_true, ih, List.forall_mem_cons]

end Document

variable [DecidableEq τ]

theorem isBuilt_isShort : IsBuilt dialect fun document => document.isShort dialect = true where
  scalar admitted := admitted
  text _ := rfl
  emptyList := rfl
  item := by
    intro done document before small
    have before := Document.areShort_iff.mp before
    rw [Document.isShort, Document.areShort_iff]
    simpa [small, or_imp, forall_and] using before
  emptyMap := rfl
  field := by
    intro done key document before small
    have before := Document.haveShort_iff.mp before
    rw [Document.isShort, Document.haveShort_iff]
    intro field member
    rcases KeyedList.mem_put member with rfl | known
    · exact small
    · exact before field known

/-- The dialect has room for every integer in a document that was read. -/
theorem isShort_of_parse [Inhabited τ] {text : String} {document : Document τ}
    (found : parse dialect text = .ok document) : document.isShort dialect = true :=
  good_of_parse isBuilt_isShort found

end PairedContacts.Json
