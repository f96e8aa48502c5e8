/-!
# Files in directories

A directory as a program finds it: the files and directories in it, by their paths. A file is read
by a path with slashes, which is followed name by name from the directory; what lies above it is not
known.

Results:
* `find?_set`: a node is found where it was put.
-/
namespace WireLedger

/-- What a path may lead to. -/
inductive FileTree.Node where
  | directory
  | file (bytes : List UInt8)
deriving DecidableEq, Repr

/-- What is in a directory and below it: the names on the way to each file and directory. -/
structure FileTree where
  nodes : List (List String × FileTree.Node)
deriving DecidableEq, Repr

namespace FileTree

/-- Why a file cannot be read. -/
inductive ReadError where
  | nulInPath
  | notFound
  | notADirectory
  | isADirectory
  | nameTooLong
  | notText
deriving DecidableEq, Repr

/-- The error as the system words it. -/
def ReadError.message : ReadError → String
  | nulInPath => "file name contained an unexpected NUL byte"
  | notFound => "No such file or directory (os error 2)"
  | notADirectory => "Not a directory (os error 20)"
  | isADirectory => "Is a directory (os error 21)"
  | nameTooLong => "File name too long (os error 36)"
  | notText => "stream did not contain valid UTF-8"

/-- The empty directory. -/
def empty : FileTree := ⟨[]⟩

/-- The number of bytes that a name may have. -/
def nameLimit : Nat := 255

/-- The number of bytes that a path may have. -/
def pathLimit : Nat := 4095

/-- What is at the end of a list of names. -/
def find? (tree : FileTree) (names : List String) : Option Node :=
  if names = [] then some .directory else tree.nodes.lookup names

/-- The tree with a node in the place of what was there. -/
def set (tree : FileTree) (names : List String) (node : Node) : FileTree :=
  ⟨(names, node) :: tree.nodes.filter (·.1 ≠ names)⟩

/-! ## Following a path -/

/-- A place that a path has led to. -/
inductive Place where
  /-- Directories above the one that is known. -/
  | above
  | inside (names : List String)
deriving DecidableEq, Repr

namespace Place

/-- Where a path starts. -/
def start (path : String) : Place := if path.startsWith "/" then .above else .inside []

/-- The directory around a place. -/
def parent : Place → Place
  | above | inside [] => above
  | inside names => inside names.dropLast

end Place

/-- Whether a name leads nowhere else. -/
def isHere (name : String) : Bool := name = "" || name = "."

/-- The place that one more name leads to. -/
def enter (tree : FileTree) (place : Place) (name : String) : Except ReadError Place :=
  match place with
  | .above => if isHere name ∨ name = ".." then .ok .above else .error .notFound
  | .inside names =>
    match tree.find? names with
    | some .directory =>
      if isHere name then .ok place
      else if name = ".." then .ok place.parent
      else if nameLimit < name.utf8ByteSize then .error .nameTooLong
      else if (tree.find? (names ++ [name])).isSome then .ok (.inside (names ++ [name]))
      else .error .notFound
    | some (.file _) => .error .notADirectory
    | none => .error .notFound

/-! ## Making files -/

/-- The tree with a directory at the place that one more name leads to, if nothing is there, and
that place. -/
def extend (origin : FileTree × Place) (name : String) : FileTree × Place :=
  let (tree, place) := origin
  if isHere name then origin
  else if name = ".." then (tree, place.parent)
  else
    match place with
    | .above => origin
    | .inside names =>
      let here := names ++ [name]
      (if (tree.find? here).isSome then tree else tree.set here .directory, .inside here)

/-- The tree with a file or a directory at a path, and with the directories on the way there. What
lies above the tree is not made. -/
def put (tree : FileTree) (path : String) (node : Node) : FileTree :=
  let names := (path.splitOn "/").filter (!isHere ·)
  let start := (tree, Place.start path)
  match node with
  | .directory => (names.foldl extend start).1
  | .file _ =>
    match names.dropLast.foldl extend start, names.getLast? with
    | (tree, .inside names), some name => tree.set (names ++ [name]) node
    | (tree, _), _ => tree

/-! ## Reading files -/

/-- The bytes of the file at a path. -/
def read (tree : FileTree) (path : String) : Except ReadError (List UInt8) := do
  if path.contains '\x00' then throw .nulInPath
  if pathLimit < path.utf8ByteSize then throw .nameTooLong
  if path = "" then throw .notFound
  match ← (path.splitOn "/").foldlM tree.enter (.start path) with
  | .above => throw .isADirectory
  | .inside names =>
    match tree.find? names with
    | some (.file bytes) => return bytes
    | some .directory => throw .isADirectory
    | none => throw .notFound

/-- The text of the file at a path (`read_to_string`). -/
def readText (tree : FileTree) (path : String) : Except ReadError String := do
  match String.fromUTF8? ⟨(← tree.read path).toArray⟩ with
  | some text => return text
  | none => throw .notText

theorem find?_set (tree : FileTree) (names : List String) (node : Node) (h : names ≠ []) :
    (tree.set names node).find? names = some node := by simp [find?, set, h]

end FileTree

end WireLedger
