/-!
# Files

The command line sees files through a **disk**: what stands at each path, or why nothing
can be found there.  A `FileTree` is a disk that is held in memory, with a working
directory at its root; what lies outside it counts as directories without entries.

A path is walked name by name.  An empty name and `.` stay where they are, `..` goes up,
and everything but the last name has to be a directory; so has the last one if a slash
follows it.
-/

namespace StubMachine

/-- Why a path cannot be read. -/
inductive PathFault
  | notFound
  | notDirectory
  | isDirectory
  | nameTooLong
deriving DecidableEq, Repr

/-- The words for a path that cannot be read. -/
def PathFault.message : PathFault → String
  | notFound => "No such file or directory (os error 2)"
  | notDirectory => "Not a directory (os error 20)"
  | isDirectory => "Is a directory (os error 21)"
  | nameTooLong => "File name too long (os error 36)"

/-- What stands at a path. -/
inductive Node
  | file (bytes : List UInt8)
  | directory

/-- What stands at each path. -/
abbrev Disk := String → Except PathFault Node

namespace Disk

/-- The bytes of a file. -/
def read (disk : Disk) (path : String) : Except PathFault (List UInt8) := do
  match ← disk path with
  | .file bytes => return bytes
  | .directory => throw .isDirectory

/-- Whether a path leads to a file. -/
def isFile (disk : Disk) (path : String) : Bool := (disk.read path).toBool

/-- A path below a directory; an absolute path stays as it is. -/
def join (directory path : String) : String :=
  if path.startsWith "/" || directory.isEmpty then path
  else if directory.endsWith "/" then directory ++ path
  else directory ++ "/" ++ path

end Disk

/-- Files by the names on the way to them. -/
structure FileTree where
  files : List (List String × List UInt8)

namespace FileTree

/-- The names of a path. -/
def names (path : String) : List String := path.splitOn "/"

/-- The tree with some files, the last one counting where a path is repeated. -/
def ofFiles (files : List (String × List UInt8)) : FileTree :=
  ⟨files.reverse.map fun (path, bytes) =>
    ((names path).filter fun name => name ≠ "" ∧ name ≠ ".", bytes)⟩

/-- A place in the tree, by the names on the way to it, or none outside. -/
abbrev Place := Option (List String)

/-- What stands at a place. -/
def nodeAt? (tree : FileTree) : Place → Option Node
  | none => some .directory
  | some place =>
    match tree.files.lookup place with
    | some bytes => some (.file bytes)
    | none =>
      if place = [] ∨ tree.files.any fun f => place.isPrefixOf f.1 then some .directory else none

/-- The most bytes that a name may have. -/
def maxNameLength : Nat := 255

/-- The most bytes that a path may have. -/
def maxPathLength : Nat := 4095

/-- Go from a place to one beside, above or below it. -/
def walk (tree : FileTree) (place : Place) (name : String) : Except PathFault Place :=
  match tree.nodeAt? place with
  | none => .error .notFound
  | some (.file _) => .error .notDirectory
  | some .directory =>
    if name = "" ∨ name = "." then .ok place
    else if name = ".." then
      .ok (place.bind fun names => if names = [] then none else some names.dropLast)
    else if maxNameLength < name.utf8ByteSize then .error .nameTooLong
    else
      match place with
      | none => .error .notFound
      | some names => .ok (some (names ++ [name]))

/-- **The disk that a tree is**, for paths relative to its root. -/
def disk (tree : FileTree) : Disk := fun path => do
  if path.isEmpty then throw .notFound
  if maxPathLength < path.utf8ByteSize then throw .nameTooLong
  let start : Place := if path.startsWith "/" then none else some []
  let place ← (names path).foldlM tree.walk start
  match tree.nodeAt? place with
  | some node => return node
  | none => throw .notFound

end FileTree

end StubMachine
