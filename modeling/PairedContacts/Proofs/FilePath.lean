import PairedContacts.FilePath

/-!
# Names in a directory

A name without a slash that is no dot is resolved to a path just below the directory.
-/

set_option autoImplicit false

namespace PairedContacts.FilePath

/-- A text that names something in a directory. -/
structure IsName (name : String) : Prop where
  noSlash : '/' ∉ name.toList
  notEmpty : name ≠ ""
  notDot : name ≠ "."
  notDots : name ≠ ".."

theorem names_of_noSlash {text : List Char} (noSlash : '/' ∉ text) : names text = [text] := by
  induction text with
  | nil => rfl
  | cons c rest ih =>
      simp only [List.mem_cons, not_or] at noSlash
      rw [names.eq_3 c rest (fun same => noSlash.1 same.symm), ih noSlash.2]

theorem resolve_of_isName {name : String} (named : IsName name) (directory : FilePath) :
    resolve directory name = directory ++ [name] := by
  have relative : name.startsWith "/" = false := by
    rw [String.startsWith_string_eq_false_iff]
    intro starts
    exact named.noSlash (starts.subset (by simp))
  rw [resolve, relative, names_of_noSlash named.noSlash]
  simp only [Bool.false_eq_true, if_false, List.map_cons, List.map_nil, String.ofList_toList,
    List.foldl_cons, List.foldl_nil]
  rw [enter, if_neg (by simp [named.notEmpty, named.notDot]), if_neg named.notDots]

theorem ancestors_concat (directory : FilePath) (name : String) :
    ancestors (directory ++ [name]) = ancestors directory ++ [directory] := by
  rw [ancestors, ancestors, List.length_append, List.length_singleton, List.range_succ,
    List.map_append, List.map_singleton, List.take_left]
  congr 1
  refine List.map_congr_left fun count member => ?_
  exact List.take_append_of_le_length (Nat.le_of_lt (List.mem_range.mp member))

end PairedContacts.FilePath
