import ModuleGraph.Document.Encode
import ModuleGraph.Document.Schema
import ModuleGraph.Json.Reader

/-!
# Loading documents

The bytes of a file are decoded, read as JSON, inspected, and turned into a graph.

## Main definitions

- `Document` — a graph with the name that its document gives to the program
- `LoadError` — why a file holds no graph
- `Loaded` — what was noted, and the document or the error
- `load` — what a file holds
-/

namespace ModuleGraph

/-- A graph with the name that its document gives to the program. -/
structure Document where
  graph : Graph Text
  programName : Option Text
  deriving DecidableEq, Repr

namespace Document

/-- Why a file holds no graph. -/
inductive LoadError where
  | notText
  | notJson (error : Json.ReadError)
  | faulty (fault : Fault)
  | undecodable (error : DecodeError)
  deriving DecidableEq, Repr

/-- What was noted about a file, and what it holds. -/
structure Loaded where
  warnings : List Dangling
  result : Except LoadError Document

/-- The document that a JSON value denotes. -/
def ofJson (value : Json) : Except DecodeError Document := do
  let graph ← decodeGraph value
  return { graph, programName := (value.field? "programName").bind Json.asText? }

/-- The text of a file: its bytes must be well-formed UTF-8, and its lines may end in any way. -/
def fileText (bytes : ByteArray) : Option Text :=
  (String.fromUTF8? bytes).map fun string => Text.unifyLineEnds string

/-- How deeply the values of a file may be nested. -/
def maxFileDepth : Nat := 985

/-- What a JSON value holds. -/
def loadJson (strict : Bool) (value : Json) : Loaded :=
  let inspection := inspect strict value
  { warnings := inspection.warnings
    result :=
      match inspection.fault with
      | some fault => .error (.faulty fault)
      | none => (ofJson value).mapError .undecodable }

/-- What a file holds. -/
def load (strict : Bool) (bytes : ByteArray) : Loaded :=
  match fileText bytes with
  | none => ⟨[], .error .notText⟩
  | some text =>
    match Json.parseUnmarked maxFileDepth text with
    | .error error => ⟨[], .error (.notJson error)⟩
    | .ok value => loadJson strict value

end Document

end ModuleGraph
