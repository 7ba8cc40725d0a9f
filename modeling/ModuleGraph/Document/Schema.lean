import ModuleGraph.Document.Decode

/-!
# The structure of documents

A document is inspected from its first node to its last connection, and the first thing wrong with
it is its fault. Wires that lead nowhere are legal: they are noted, or are faults in a strict
inspection.

## Main definitions

- `Place`, `Fault`, `Fault.message` — where and what is wrong with a document
- `Dangling`, `Dangling.warning` — a wire that leads nowhere
- `Inspection` — what was noted, and the fault if there is one
- `inspect` — the inspection of a document
-/

namespace ModuleGraph.Document

/-! ### Faults -/

/-- The two lists of ports of a node. -/
inductive Side where
  | inputs
  | outputs
  deriving DecidableEq, Repr

def Side.key : Side → String
  | inputs => "inputs"
  | outputs => "outputs"

/-- A part of a document, by its position. -/
inductive Place where
  | root
  | node (index : Nat)
  | port (owner : Nat) (side : Side) (index : Nat)
  | connection (index : Nat)
  deriving DecidableEq, Repr

def portsPath (node : Nat) (side : Side) : String :=
  "nodes[" ++ toString node ++ "]." ++ side.key

namespace Place

def path : Place → String
  | root => "graph root"
  | node index => "nodes[" ++ toString index ++ "]"
  | port owner side index => portsPath owner side ++ "[" ++ toString index ++ "]"
  | connection index => "connections[" ++ toString index ++ "]"

/-- What a part is called. -/
def noun : Place → String
  | root => "graph"
  | node _ => "node"
  | port _ _ _ => "port"
  | connection _ => "connection"

def memberPath (place : Place) (key : String) : String :=
  match place with
  | root => key
  | _ => place.path ++ "." ++ key

end Place

/-- A wire that leads nowhere: its position, its ends, and which of them do not exist. -/
structure Dangling where
  index : Nat
  ends : Endpoints Text
  sourceMissing : Bool
  targetMissing : Bool
  deriving DecidableEq, Repr

namespace Dangling

/-- What is wrong with each end. -/
def problems (dangling : Dangling) : List Text :=
  let ends := dangling.ends
  (if dangling.sourceMissing then
      ["source " ++ ends.sourceNode ++ "." ++ ends.sourcePort ++ " not found"]
    else []) ++
  if dangling.targetMissing then
    ["target " ++ ends.targetNode ++ "." ++ ends.targetPort ++ " not found"]
  else []

def message (dangling : Dangling) : Text :=
  (Place.connection dangling.index).path ++ ": " ++ Text.join "; " dangling.problems

/-- The wording where the wire is noted only. -/
def warning (dangling : Dangling) : Text :=
  dangling.message ++ " (connection will be skipped)"

end Dangling

/-- What is wrong with a document. -/
inductive Fault where
  | notAnObject
  | missingMember (place : Place) (key : String)
  | notAList (place : Place) (key : String)
  | notAText (place : Place) (key : String)
  | entryNotAnObject (place : Place)
  | duplicateId (place : Place) (id : Text)
  | dangling (wire : Dangling)
  deriving DecidableEq, Repr

def Fault.message : Fault → Text
  | notAnObject => "graph JSON must be a JSON object at the top level"
  | missingMember place key => place.path ++ ": missing required field '" ++ key ++ "'"
  | notAList place key => place.memberPath key ++ " must be a list"
  | notAText place key => place.memberPath key ++ " must be a string"
  | entryNotAnObject place => place.path ++ ": each " ++ place.noun ++ " must be a JSON object"
  | duplicateId place id => place.path ++ ": duplicate " ++ place.noun ++ " id '" ++ id ++ "'"
  | dangling wire => wire.message

/-! ### Parts -/

def portKeys : List String := ["id", "name", "type"]

def connectionKeys : List String :=
  ["id", "sourceNodeId", "sourcePortId", "targetNodeId", "targetPortId"]

/-- Refuses a part that lacks one of the keys. -/
def requireKeys (place : Place) (value : Json) : List String → Except Fault Unit
  | [] => .ok ()
  | key :: keys =>
    if (value.field? key).isSome then requireKeys place value keys
    else .error (.missingMember place key)

/-- The text under a key that is there. -/
def requireText (place : Place) (key : String) (value : Json) : Except Fault Text :=
  match value with
  | .string text => .ok text
  | _ => .error (.notAText place key)

def memberText (place : Place) (value : Json) (key : String) : Except Fault Text :=
  requireText place key ((value.field? key).getD .null)

/-- The items under a key that is there. -/
def requireList (place : Place) (key : String) (value : Json) : Except Fault (List Json) :=
  match value with
  | .array items => .ok items
  | _ => .error (.notAList place key)

/-- Refuses a part that is no object. -/
def requireObject (place : Place) (value : Json) : Except Fault Unit :=
  match value with
  | .object _ => .ok ()
  | _ => .error (.entryNotAnObject place)

/-- Refuses an identifier that has been seen. -/
def requireNew (place : Place) (seen : List Text) (id : Text) : Except Fault Unit :=
  if id ∈ seen then .error (.duplicateId place id) else .ok ()

/-- The identifier of a port. -/
def inspectPort (place : Place) (seen : List Text) (value : Json) : Except Fault Text := do
  requireObject place value
  requireKeys place value portKeys
  let id ← memberText place value "id"
  let _ ← memberText place value "name"
  let _ ← memberText place value "type"
  requireNew place seen id
  return id

/-- The identifiers of the ports of a list from the given index on; those in `seen` are taken. -/
def inspectPortsFrom (node : Nat) (side : Side) :
    (index : Nat) → (seen : List Text) → List Json → Except Fault (List Text)
  | _, _, [] => .ok []
  | index, seen, value :: values => do
    let id ← inspectPort (.port node side index) seen value
    let ids ← inspectPortsFrom node side (index + 1) (id :: seen) values
    return id :: ids

/-- The identifiers of the ports on one side of a node. -/
def inspectPorts (node : Nat) (side : Side) (seen : List Text) (value : Json) :
    Except Fault (List Text) := do
  let values ← requireList (.node node) side.key ((value.field? side.key).getD (.array []))
  inspectPortsFrom node side 0 seen values

/-- A node of the document with the identifiers of its ports. -/
structure Declared where
  id : Text
  inputs : List Text
  outputs : List Text
  deriving DecidableEq, Repr

/-- Refuses a node of no kind. -/
def requireKind (place : Place) (value : Json) : Except Fault Unit :=
  match nodeKind value with
  | .null => .error (.missingMember place "type")
  | _ => .ok ()

/-- What a node declares; the identifiers in `seen` are taken. -/
def inspectNode (index : Nat) (seen : List Text) (value : Json) : Except Fault Declared := do
  let place := Place.node index
  requireObject place value
  requireKeys place value ["id", "name"]
  requireKind place value
  let id ← memberText place value "id"
  let _ ← memberText place value "name"
  let _ ← requireText place "type" (nodeKind value)
  requireNew place seen id
  let inputs ← inspectPorts index .inputs [] value
  let outputs ← inspectPorts index .outputs inputs value
  return { id, inputs, outputs }

/-- What the nodes from the given index on declare. -/
def inspectNodesFrom :
    (index : Nat) → (seen : List Text) → List Json → Except Fault (List Declared)
  | _, _, [] => .ok []
  | index, seen, value :: values => do
    let node ← inspectNode index seen value
    let nodes ← inspectNodesFrom (index + 1) (node.id :: seen) values
    return node :: nodes

/-- A connection of the document. -/
def inspectConnection (index : Nat) (seen : List Text) (value : Json) :
    Except Fault (Connection Text) := do
  let place := Place.connection index
  requireObject place value
  requireKeys place value connectionKeys
  let id ← memberText place value "id"
  let sourceNode ← memberText place value "sourceNodeId"
  let sourcePort ← memberText place value "sourcePortId"
  let targetNode ← memberText place value "targetNodeId"
  let targetPort ← memberText place value "targetPortId"
  requireNew place seen id
  return { id, sourceNode, sourcePort, targetNode, targetPort }

/-! ### Wires -/

/-- Whether a node with the given identifier declares the port on the given side. -/
def declares (nodes : List Declared) (ports : Declared → List Text) (node port : Text) : Bool :=
  match nodes.find? (·.id == node) with
  | some declared => (ports declared).contains port
  | none => false

/-- The wire at the given position, if it leads nowhere. -/
def dangling? (nodes : List Declared) (index : Nat) (ends : Endpoints Text) : Option Dangling :=
  let sourceMissing := !declares nodes (·.outputs) ends.sourceNode ends.sourcePort
  let targetMissing := !declares nodes (·.inputs) ends.targetNode ends.targetPort
  if sourceMissing || targetMissing then some { index, ends, sourceMissing, targetMissing }
  else none

/-! ### Documents -/

/-- What was noted before the inspection ended, and the fault that ended it early. -/
structure Inspection where
  warnings : List Dangling
  fault : Option Fault
  deriving DecidableEq, Repr

namespace Inspection

/-- The inspection ended with a fault. -/
def failed (fault : Fault) : Inspection := ⟨[], some fault⟩

def clean : Inspection := ⟨[], none⟩

/-- The inspection with a wire noted before. -/
def warn (inspection : Inspection) (wire : Dangling) : Inspection :=
  { inspection with warnings := wire :: inspection.warnings }

def accepted (inspection : Inspection) : Bool := inspection.fault.isNone

end Inspection

/-- The inspection of the connections from the given index on. -/
def inspectConnectionsFrom (strict : Bool) (nodes : List Declared) :
    (index : Nat) → (seen : List Text) → List Json → Inspection
  | _, _, [] => .clean
  | index, seen, value :: values =>
    match inspectConnection index seen value with
    | .error fault => .failed fault
    | .ok connection =>
      let rest := inspectConnectionsFrom strict nodes (index + 1) (connection.id :: seen) values
      match dangling? nodes index connection.toEndpoints with
      | some wire => if strict then .failed (.dangling wire) else rest.warn wire
      | none => rest

/-- Refuses a member of the document that is there but is no text. -/
def requireTextIfPresent (value : Json) (key : String) : Except Fault Unit :=
  match value.field? key with
  | some member => (requireText .root key member).map fun _ => ()
  | none => .ok ()

/-- What the nodes of a document declare, and the values of its connections. -/
def inspectHead (value : Json) : Except Fault (List Declared × List Json) := do
  match value with
  | .object _ =>
    requireKeys .root value ["nodes", "connections"]
    let nodes ← requireList .root "nodes" ((value.field? "nodes").getD .null)
    let connections ← requireList .root "connections" ((value.field? "connections").getD .null)
    requireTextIfPresent value "name"
    requireTextIfPresent value "programName"
    let declared ← inspectNodesFrom 0 [] nodes
    return (declared, connections)
  | _ => .error .notAnObject

def inspect (strict : Bool) (value : Json) : Inspection :=
  match inspectHead value with
  | .error fault => .failed fault
  | .ok (nodes, connections) => inspectConnectionsFrom strict nodes 0 [] connections

end ModuleGraph.Document
