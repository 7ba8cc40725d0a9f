/-!
# File paths

A path is a root, if it is absolute, and a list of names. Empty names and single dots say nothing
and are dropped; double dots are kept, since what they lead to depends on the files there are.

## Main definitions

- `FilePath` — a path
- `FilePath.ofString`, `FilePath.toString` — the path that a text denotes, and its text
- `FilePath.append` — a path followed from another
- `FilePath.parent` — a path without its last name
- `Location` — a place in the tree of files, and `FilePath.location`, the place that a path leads to
  where no name is a link
-/

namespace ModuleGraph.CommandLine

structure FilePath where
  /-- The slashes that an absolute path begins with. -/
  root : String
  names : List String
  deriving DecidableEq, Repr

namespace FilePath

/-- The slashes at the beginning of a text that make it absolute. -/
def rootOf (text : String) : String :=
  match (text.toList.takeWhile (· = '/')).length with
  | 0 => ""
  -- exactly two are kept apart
  | 2 => "//"
  | _ => "/"

def ofString (text : String) : FilePath where
  root := rootOf text
  names := (text.splitOn "/").filter fun name => name != "" && name != "."

def toString (path : FilePath) : String :=
  if path.root = "" ∧ path.names = [] then "." else path.root ++ "/".intercalate path.names

/-- A path followed from another; an absolute one leaves the other behind. -/
def append (path next : FilePath) : FilePath :=
  if next.root = "" then { path with names := path.names ++ next.names } else next

def parent (path : FilePath) : FilePath := { path with names := path.names.dropLast }

/-- Whether a path holds a character that no path may hold. -/
def holdsNul (path : FilePath) : Bool := path.names.any fun name => name.toList.contains '\x00'

end FilePath

/-- The name for the directory above. -/
def upName : String := ".."

/-- A place in the tree of files: some steps up from the working directory, or the top of the tree,
and then down along names. -/
structure Location where
  base : Option Nat
  names : List String
  deriving DecidableEq, Repr

namespace Location

/-- The working directory. -/
def here : Location := ⟨some 0, []⟩

/-- The top of the tree. -/
def top : Location := ⟨none, []⟩

/-- The place below under a name. -/
def down (location : Location) (name : String) : Location :=
  { location with names := location.names ++ [name] }

/-- The place above; the top of the tree is above itself. -/
def up (location : Location) : Location :=
  match location.names, location.base with
  | [], some steps => { location with base := some (steps + 1) }
  | [], none => location
  | names, _ => { location with names := names.dropLast }

/-- The place that a name leads to. -/
def step (location : Location) (name : String) : Location :=
  if name = upName then location.up else location.down name

/-- Whether a place is another or lies below it. -/
def within (location container : Location) : Bool :=
  match location.base, container.base with
  | some steps, some most =>
    -- a directory above the working directory holds all that is as far down
    if container.names.isEmpty then steps ≤ most
    else steps == most && container.names.isPrefixOf location.names
  | none, none => container.names.isPrefixOf location.names
  | _, _ => false

/-- The path of a place from the working directory. -/
def relativePath (location : Location) : String :=
  "/".intercalate (List.replicate (location.base.getD 0) upName ++ location.names)

end Location

/-- The place where a path begins. -/
def FilePath.origin (path : FilePath) : Location := if path.root = "" then .here else .top

/-- The place that a path leads to where no name is a link. -/
def FilePath.location (path : FilePath) : Location := path.names.foldl .step path.origin

end ModuleGraph.CommandLine
