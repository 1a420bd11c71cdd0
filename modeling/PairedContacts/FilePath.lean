/-!
# Paths

A path is the list of names from the root of the file system.
-/

set_option autoImplicit false

namespace PairedContacts

abbrev FilePath := List String

namespace FilePath

def names : List Char -> List (List Char)
  | [] => [[]]
  | '/' :: rest => [] :: names rest
  | c :: rest =>
      match names rest with
      | [] => [[c]]
      | name :: more => (c :: name) :: more

/-- Goes along one name: two points go back, and a single point or no name stays. -/
def enter (path : FilePath) (name : String) : FilePath :=
  if name = "" ∨ name = "." then path
  else if name = ".." then path.dropLast
  else path ++ [name]

def resolve (current : FilePath) (text : String) : FilePath :=
  let start := if text.startsWith "/" then [] else current
  ((names text.toList).map String.ofList).foldl enter start

def toText (path : FilePath) : String :=
  "/" ++ "/".intercalate path

def ancestors (path : FilePath) : List FilePath :=
  (List.range path.length).map fun count => path.take count

end FilePath

end PairedContacts
