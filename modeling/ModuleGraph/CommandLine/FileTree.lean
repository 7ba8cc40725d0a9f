import ModuleGraph.CommandLine.FilePath

/-!
# The tree of files

A tree holds files and directories at places. A path is followed name by name: each name but the
last has to be that of a directory. The directories above the working directory are all there.

## Main definitions

- `FileTree` — the files and directories at places
- `FileError` — why a path cannot be followed, read or written
- `FileTree.locate`, `FileTree.entry` — the place that a path leads to, and what is there
- `FileTree.read`, `FileTree.makeDirs`, `FileTree.write` — the operations on a path
-/

namespace ModuleGraph.CommandLine

/-- The files and directories at places. A later file takes the place of an earlier one. -/
structure FileTree where
  files : List (Location × ByteArray)
  directories : List Location

/-- Why a path cannot be followed, read or written. -/
inductive FileError where
  | notFound
  | notADirectory
  | isADirectory
  | occupied
  | nameTooLong
  | nulCharacter
  /-- The text to be written has no form in UTF-8. -/
  | unencodable
  deriving DecidableEq, Repr

def FileError.message : FileError → String
  | notFound => "No such file or directory"
  | notADirectory => "Not a directory"
  | isADirectory => "Is a directory"
  | occupied => "File exists"
  | nameTooLong => "File name too long"
  | nulCharacter => "embedded null byte"
  | unencodable => "the text has no form in UTF-8"

/-- What is at a place. -/
inductive Entry where
  | file (contents : ByteArray)
  | directory
  | nothing

/-- The longest name, in bytes. -/
def maxNameBytes : Nat := 255

/-- The longest path, in bytes. -/
def maxPathBytes : Nat := 4095

namespace FileTree

/-- The directories above a place, the place included. -/
def ancestors (location : Location) : List Location :=
  (List.range (location.names.length + 1)).map fun count =>
    { location with names := location.names.take count }

/-- The tree with one more file and the directories above it. -/
def addFile (tree : FileTree) (location : Location) (contents : ByteArray) : FileTree where
  files := (location, contents) :: tree.files.filter (·.1 != location)
  directories := ancestors location.up ++ tree.directories

def empty : FileTree := ⟨[], []⟩

def isDirectory (tree : FileTree) (location : Location) : Bool :=
  location.names.isEmpty || tree.directories.contains location

/-- What is at a place. -/
def entry (tree : FileTree) (location : Location) : Entry :=
  match tree.files.lookup location with
  | some contents => .file contents
  | none => if tree.isDirectory location then .directory else .nothing

/-- Follows names from a place on. -/
def follow (tree : FileTree) : Location → List String → Except FileError Location
  | location, [] => .ok location
  | location, name :: names =>
    match tree.entry location with
    | .file _ => .error .notADirectory
    | .nothing => .error .notFound
    | .directory =>
      if name.utf8ByteSize > maxNameBytes then .error .nameTooLong
      else tree.follow (location.step name) names

/-- The place that a path leads to; whether anything is there is another question. -/
def locate (tree : FileTree) (path : FilePath) : Except FileError Location :=
  if path.holdsNul then .error .nulCharacter
  else if path.toString.utf8ByteSize > maxPathBytes then .error .nameTooLong
  else tree.follow path.origin path.names

def read (tree : FileTree) (path : FilePath) : Except FileError ByteArray := do
  match tree.entry (← tree.locate path) with
  | .file contents => return contents
  | .directory => .error .isADirectory
  | .nothing => .error .notFound

/-- The tree with one more directory. -/
def addDirectory (tree : FileTree) (location : Location) : FileTree :=
  { tree with directories := location :: tree.directories }

/-- Makes the directory at a path, unless it is there already. The directory above has to be
there. -/
def makeDir (tree : FileTree) (path : FilePath) : Except FileError FileTree := do
  let location ← tree.locate path
  match tree.entry location with
  | .directory => return tree
  | .file _ => .error .occupied
  | .nothing => return tree.addDirectory location

/-- Makes the directory at a path and those above it, unless they are there already. -/
def makeDirsAt (tree : FileTree) (root : String) : List String → Except FileError FileTree
  | [] => tree.makeDir ⟨root, []⟩
  | name :: above =>
    -- the names come last first
    let path : FilePath := ⟨root, (name :: above).reverse⟩
    match tree.makeDir path with
    | .error .notFound => do
      let tree ← tree.makeDirsAt root above
      tree.makeDir path
    | result => result

/-- Makes the directory at a path and those above it, unless they are there already. -/
def makeDirs (tree : FileTree) (path : FilePath) : Except FileError FileTree :=
  tree.makeDirsAt path.root path.names.reverse

/-- Writes a file at a path, whose directory has to be there. -/
def write (tree : FileTree) (path : FilePath) (contents : ByteArray) :
    Except FileError FileTree := do
  let location ← tree.locate path
  match tree.entry location with
  | .directory => .error .isADirectory
  | _ => return tree.addFile location contents

end FileTree

end ModuleGraph.CommandLine
