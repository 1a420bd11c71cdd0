import PairedContacts.Client.FileTree
import PairedContacts.Proofs.FilePath
import PairedContacts.Proofs.KeyedList

/-!
# Reading what was written

A file that was written reads as its text as long as nothing blocks the way to it, and no other path
reads differently.  Making a directory changes nothing about the files that stand in it.
-/

set_option autoImplicit false

namespace PairedContacts.FileTree

variable {tree after : FileTree} {path : FilePath} {text : String}

structure IsWritten (tree : FileTree) (path : FilePath) (text : String) (after : FileTree) :
    Prop where
  after_eq : after = { tree with files := tree.files.put path text }
  notDirectory : tree.hasDirectory path = false
  shortName : hasLongName path = false

theorem isWritten_of_write (written : tree.write path text = .ok after) :
    tree.IsWritten path text after := by
  rw [write] at written
  split at written
  · cases written
  · split at written
    · cases written
    · split at written
      · cases written
      · rename_i short
        split at written
        · cases written
        · rename_i free
          exact ⟨(Except.ok.inj written).symm, by simpa using free, by simpa using short⟩

theorem read_eq_ok_iff {found : Option String} :
    tree.read path = .ok found ↔
      tree.hasDirectory path = false ∧ tree.isBlocked path = false ∧
        tree.files.get? path = found := by
  rw [read]
  cases tree.hasDirectory path <;> cases tree.isBlocked path <;> simp

theorem read_write_of_ne (written : tree.write path text = .ok after) {other : FilePath}
    (different : other ≠ path) : after.read other = tree.read other := by
  rw [(isWritten_of_write written).after_eq, read, read, KeyedList.get?_put_of_ne _ _ different]
  rfl

theorem read_write_self (written : tree.write path text = .ok after)
    (clear : tree.isBlocked path = false) : after.read path = .ok (some text) := by
  have here := isWritten_of_write written
  rw [here.after_eq, read_eq_ok_iff]
  exact ⟨here.notDirectory, clear, KeyedList.get?_put_self _ _ _⟩

/-! ## Files of a directory -/

theorem isBlocked_concat (tree : FileTree) (directory : FilePath) (name : String) :
    tree.isBlocked (directory ++ [name]) =
      (tree.isBlocked directory ||
        hasLongName (directory ++ [name]) && tree.hasDirectory directory) := by
  rw [isBlocked, FilePath.ancestors_concat, List.any_append, isBlocked]
  simp

/-- A file has a text afterwards, and every other file is as before. -/
structure Gains (before : FileTree) (path : FilePath) (text : String) (after : FileTree) :
    Prop where
  shortName : hasLongName path = false
  here : after.read path = .ok (some text)
  elsewhere : ∀ other, other ≠ path -> after.read other = before.read other
  kept : ∀ other, other ≠ path -> after.files.get? other = before.files.get? other

/-- Where one file of a directory can be read, another one can be read after it was written. -/
theorem gains_of_write_sibling {directory : FilePath} {name other : String}
    {found : Option String} (readable : tree.read (directory ++ [other]) = .ok found)
    (written : tree.write (directory ++ [name]) text = .ok after) :
    tree.Gains (directory ++ [name]) text after := by
  have here := isWritten_of_write written
  have clear := (read_eq_ok_iff.mp readable).2.1
  rw [isBlocked_concat, Bool.or_eq_false_iff] at clear
  refine ⟨here.shortName, read_write_self written ?_, fun _ => read_write_of_ne written, ?_⟩
  · rw [isBlocked_concat, clear.1, here.shortName]
    rfl
  · intro other different
    rw [here.after_eq, KeyedList.get?_put_of_ne _ _ different]

theorem length_le_of_mem_ancestors {directory step : FilePath}
    (member : step ∈ FilePath.ancestors directory ++ [directory]) :
    step.length ≤ directory.length := by
  rcases List.mem_append.mp member with above | here
  · obtain ⟨count, -, rfl⟩ := List.mem_map.mp above
    exact List.length_take_le' count directory
  · obtain rfl := List.mem_singleton.mp here
    exact Nat.le_refl _

structure IsMade (tree : FileTree) (directory : FilePath) (after : FileTree) : Prop where
  after_eq : after = { tree with directories := tree.directories ++
    (directory.ancestors ++ [directory]).filter fun step => !tree.hasDirectory step }
  shortNames : ∀ step ∈ directory.ancestors ++ [directory], hasLongName step = false

theorem isMade_of_makeDirectory {directory : FilePath}
    (made : tree.makeDirectory directory = .ok after) : tree.IsMade directory after := by
  rw [makeDirectory] at made
  split at made
  · cases made
  · split at made
    · cases made
    · split at made
      · cases made
      · rename_i short
        rw [Bool.not_eq_true, List.any_eq_false] at short
        exact ⟨(Except.ok.inj made).symm, by simpa using short⟩

theorem files_makeDirectory {directory : FilePath}
    (made : tree.makeDirectory directory = .ok after) : after.files = tree.files := by
  rw [(isMade_of_makeDirectory made).after_eq]

/-- Making a directory leaves every file in it as it was, if its name is not too long. -/
theorem read_makeDirectory_child {directory : FilePath} {name : String} {found : Option String}
    (made : tree.makeDirectory directory = .ok after)
    (short : hasLongName (directory ++ [name]) = false)
    (before : tree.read (directory ++ [name]) = .ok found) :
    after.read (directory ++ [name]) = .ok found := by
  obtain ⟨free, -, held⟩ := read_eq_ok_iff.mp before
  have here := isMade_of_makeDirectory made
  rw [here.after_eq, read_eq_ok_iff]
  refine ⟨?_, ?_, held⟩
  · rw [hasDirectory, Bool.or_eq_false_iff] at free ⊢
    refine ⟨free.1, Bool.eq_false_iff.mpr fun held => ?_⟩
    rcases List.mem_append.mp (List.contains_iff_mem.mp held) with old | new
    · exact Bool.eq_false_iff.mp free.2 (List.contains_iff_mem.mpr old)
    · have bound := length_le_of_mem_ancestors (List.mem_filter.mp new).1
      rw [List.length_append, List.length_singleton] at bound
      omega
  · rw [isBlocked_concat, short, Bool.false_and, Bool.or_false, isBlocked, List.any_eq_false]
    intro step member
    rw [here.shortNames step member]
    exact Bool.false_ne_true

end PairedContacts.FileTree
