import LogicLexer.Source

/-!
# Reading from a tree of files

A directory with all that is below it, and what reading a path relative to it gives. A path is
walked name by name, and the first name that leads nowhere decides the failure. Of the directories
above nothing is known but that they exist.
-/

namespace LogicLexer

/-- What stands at a place of a file tree. -/
inductive FileTree.Entry where
  /-- A file with its bytes. -/
  | file (content : ByteArray)
  /-- A directory. -/
  | directory

/-- A directory with all that is below it. -/
structure FileTree where
  /-- What is below, each with the names that lead to it. The directories on the way are there
  without being listed. -/
  entries : List (List String × FileTree.Entry)

namespace FileTree

/-- The longest name in bytes that a directory can hold. -/
def nameLimit : Nat := 255

/-- The length in bytes at which a path is refused. -/
def pathLimit : Nat := 4096

/-- The names on a path that lead somewhere: empty ones and those of the same directory do not. -/
def names (path : String) : List String :=
  (path.splitOn "/").filter fun name => name != "" && name != "."

/-- The tree of files and directories given by their paths. -/
def ofPaths (entries : List (String × Entry)) : FileTree :=
  ⟨entries.map fun (path, entry) => (names path, entry)⟩

/-- What stands where the given names lead. -/
def find? (tree : FileTree) (path : List String) : Option Entry :=
  match tree.entries.lookup path with
  | some entry => some entry
  | none =>
    if tree.entries.any fun (below, _) => path.isPrefixOf below then some .directory else none

/-- A directory that a walk has come to. -/
inductive Directory where
  /-- A directory of the tree. -/
  | inside (path : List String)
  /-- One of those above. -/
  | above

namespace Directory

/-- The directory above. -/
def parent : Directory → Directory
  | inside [] => above
  | inside path => inside path.dropLast
  | above => above

/-- What a name stands for in a directory, and where it leads if it is a directory. -/
def enter? (tree : FileTree) (name : String) : Directory → Option (Entry × Directory)
  | inside path => (tree.find? (path ++ [name])).map fun entry => (entry, inside (path ++ [name]))
  | above => none

end Directory

/-- Reads the file to which the names of a path lead from a directory. -/
def walk (tree : FileTree) : Directory → List String → Except ReadFailure ByteArray
  | _, [] => .error .isADirectory
  | here, name :: rest =>
    if name = "" ∨ name = "." then walk tree here rest
    else if name = ".." then walk tree here.parent rest
    else if nameLimit < name.utf8ByteSize then .error .nameTooLong
    else
      match here.enter? tree name with
      | none => .error .notFound
      | some (.directory, there) => walk tree there rest
      -- Whatever follows the name of a file, even a mere slash, takes it for a directory.
      | some (.file content, _) => if rest.isEmpty then .ok content else .error .notADirectory

/-- Reads the file at a path. -/
def read (tree : FileTree) (path : String) : Except ReadFailure ByteArray :=
  if path.toList.contains '\x00' then .error .nulInPath
  else if path.isEmpty then .error .notFound
  else if pathLimit ≤ path.utf8ByteSize then .error .nameTooLong
  else walk tree (if path.toList.head? = some '/' then .above else .inside []) (path.splitOn "/")

/-- The source of the file at a path. -/
def load (tree : FileTree) (path : String) : Except SourceError Source :=
  Source.ofRead path (tree.read path)

end FileTree

end LogicLexer
