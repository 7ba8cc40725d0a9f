import ModuleGraph.Graph.Basic

/-!
# Reading graphs from documents

A graph is read from a JSON value. Lists that are absent are empty, a graph without a name is
untitled, and the kind of a node may stand under either of two keys. Members that mean nothing here
are passed over. Which values may be labels depends on the type of labels that is asked for.

## Main definitions

- `DecodeError` — a required member is missing, or a value has the wrong shape
- `nodeKind` — the value that gives the kind of a node
- `decodePort`, `decodeNode`, `decodeConnection`, `decodeGraph` — the parts that values denote
-/

namespace ModuleGraph.Document

/-- Why a value denotes no part of a graph. -/
inductive DecodeError where
  | missing (key : String)
  | shape
  /-- What should be a graph is no object. -/
  | noGraph
  deriving DecidableEq, Repr

variable {L : Type} [Label L]

def decodeLabel (value : Json) : Except DecodeError L :=
  match Label.ofJson? value with
  | some label => .ok label
  | none => .error .shape

/-- The label under a required key. -/
def labelField (value : Json) (key : String) : Except DecodeError L :=
  match value with
  | .object _ =>
    match value.field? key with
    | some label => decodeLabel label
    | none => .error (.missing key)
  | _ => .error .shape

/-- The items of a list. What is empty in another way passes for an empty list. -/
def decodeItems : Json → Except DecodeError (List Json)
  | .array items => .ok items
  | .object [] | .string [] => .ok []
  | _ => .error .shape

/-- The items under a key that may be absent. -/
def listField (value : Json) (key : String) : Except DecodeError (List Json) :=
  match value.field? key with
  | some items => decodeItems items
  | none => .ok []

/-- The value that gives the kind of a node: that of `type` if the key is there, else that of
`kind`. -/
def nodeKind (value : Json) : Json :=
  match value.field? "type" with
  | some kind => kind
  | none => (value.field? "kind").getD .null

def decodePort (value : Json) : Except DecodeError (Port L) := do
  let id ← labelField value "id"
  let name ← labelField value "name"
  let type ← labelField value "type"
  return { id, name, type }

def decodeNode (value : Json) : Except DecodeError (Node L) := do
  let id ← labelField value "id"
  let kind ← decodeLabel (nodeKind value)
  let name ← labelField value "name"
  let inputs ← (← listField value "inputs").mapM decodePort
  let outputs ← (← listField value "outputs").mapM decodePort
  return { id, kind, name, inputs, outputs }

def decodeConnection (value : Json) : Except DecodeError (Connection L) := do
  let id ← labelField value "id"
  let sourceNode ← labelField value "sourceNodeId"
  let sourcePort ← labelField value "sourcePortId"
  let targetNode ← labelField value "targetNodeId"
  let targetPort ← labelField value "targetPortId"
  return { id, sourceNode, sourcePort, targetNode, targetPort }

def graphName (value : Json) : Except DecodeError L :=
  match value.field? "name" with
  | some name => decodeLabel name
  | none => .ok (Label.ofText untitled)

def decodeGraph (value : Json) : Except DecodeError (Graph L) :=
  match value with
  | .object _ => do
    let nodes ← (← listField value "nodes").mapM decodeNode
    let connections ← (← listField value "connections").mapM decodeConnection
    let name ← graphName value
    return { name, nodes, connections }
  | _ => .error .noGraph

end ModuleGraph.Document
