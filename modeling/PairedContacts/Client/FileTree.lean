import PairedContacts.FilePath
import PairedContacts.KeyedList

/-!
# Trees of files

The directories and text files that a program can see.  A file is written into a directory that is
there, and a directory is made together with all that are missing above it.
-/

set_option autoImplicit false

namespace PairedContacts

inductive FileFault where
  | missing
  | isDirectory
  | notDirectory
  | occupied
  | nameTooLong
  /-- A null character stands in the path. -/
  | nullCharacter
  deriving DecidableEq, Repr

structure FileTree where
  directories : List FilePath
  files : KeyedList FilePath String

namespace FileTree

def maxNameSize : Nat := 255

def hasDirectory (tree : FileTree) (path : FilePath) : Bool :=
  path.isEmpty || tree.directories.contains path

def hasFile (tree : FileTree) (path : FilePath) : Bool :=
  tree.files.holds path

def hasLongName (path : FilePath) : Bool :=
  path.getLast?.any fun name => maxNameSize < name.utf8ByteSize

/-- Whether the way to a path comes from a directory to a name that none can have. -/
def isBlocked (tree : FileTree) (path : FilePath) : Bool :=
  (path.ancestors ++ [path]).any fun step => hasLongName step && tree.hasDirectory step.dropLast

/-- The text of a file, if there is something at the path. -/
def read (tree : FileTree) (path : FilePath) : Except FileFault (Option String) :=
  if tree.hasDirectory path then .error .isDirectory
  else if tree.isBlocked path then .error .nameTooLong
  else .ok (tree.files.get? path)

def write (tree : FileTree) (path : FilePath) (text : String) : Except FileFault FileTree :=
  if path.ancestors.any tree.hasFile then .error .notDirectory
  else if !tree.hasDirectory path.dropLast then .error .missing
  else if hasLongName path then .error .nameTooLong
  else if tree.hasDirectory path then .error .isDirectory
  else .ok { tree with files := tree.files.put path text }

def makeDirectory (tree : FileTree) (path : FilePath) : Except FileFault FileTree :=
  if tree.hasFile path then .error .occupied
  else if path.ancestors.any tree.hasFile then .error .notDirectory
  else if (path.ancestors ++ [path]).any hasLongName then .error .nameTooLong
  else
    let made := (path.ancestors ++ [path]).filter fun directory => !tree.hasDirectory directory
    .ok { tree with directories := tree.directories ++ made }

end FileTree

end PairedContacts
