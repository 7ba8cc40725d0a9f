import ModuleGraph.Graph.Label

/-!
# Module graphs

A graph holds the modules of a program as nodes and the wires between their ports as connections.
Connections name their endpoints; nothing guarantees that the endpoints exist.

## Main definitions

- `Port`, `Node`, `Connection`, `Graph` — the parts of a graph, polymorphic in their labels
- `Node.isAccount` — the node is a data record and no instruction
- `Node.output?`, `Node.input?`, `Graph.node?` — the first part with a given identifier
- `Connection.touches` — the connection names the node as one of its ends
- `distinctIds` — the identifiers of a list of nodes, each once
-/

namespace ModuleGraph

/-- A typed port of a node. -/
structure Port (L : Type) where
  id : L
  name : L
  type : L
  deriving DecidableEq, Repr

/-- A module of the program, with the ports it receives from and the ports it feeds. -/
structure Node (L : Type) where
  id : L
  kind : L
  name : L
  inputs : List (Port L)
  outputs : List (Port L)
  deriving DecidableEq, Repr

/-- The four labels that say what a wire runs between. -/
structure Endpoints (L : Type) where
  sourceNode : L
  sourcePort : L
  targetNode : L
  targetPort : L
  deriving DecidableEq, Repr

/-- A wire from an output port to an input port. -/
structure Connection (L : Type) extends Endpoints L where
  id : L
  deriving DecidableEq, Repr

/-- A snapshot of the modules and wires of a program. -/
structure Graph (L : Type) where
  name : L
  nodes : List (Node L)
  connections : List (Connection L)
  deriving DecidableEq, Repr

variable {L : Type}

/-- The name of a graph that was given none. -/
def untitled : Text := "untitled"

def Graph.empty [Label L] : Graph L := ⟨Label.ofText untitled, [], []⟩

/-! ### Nodes -/

/-- The kind of the nodes that are data records. -/
def accountKind : Text := "account"

/-- The kind of the node where a program begins. -/
def startKind : Text := "start"

namespace Node

/-- Whether the node is a data record and no instruction. -/
def isAccount [Label L] (node : Node L) : Bool := node.kind == Label.ofText accountKind

/-- Whether the node is one where the program begins. -/
def isStart [Label L] (node : Node L) : Bool := node.kind == Label.ofText startKind

def input? [BEq L] (node : Node L) (id : L) : Option (Port L) := node.inputs.find? (·.id == id)

def output? [BEq L] (node : Node L) (id : L) : Option (Port L) := node.outputs.find? (·.id == id)

end Node

/-- The first node with the given identifier. -/
def findNode? [BEq L] (nodes : List (Node L)) (id : L) : Option (Node L) := nodes.find? (·.id == id)

def Graph.node? [BEq L] (graph : Graph L) (id : L) : Option (Node L) := findNode? graph.nodes id

/-- The identifiers of the nodes, each once, in the order of the nodes. -/
def distinctIds [BEq L] (nodes : List (Node L)) : List L := (nodes.map (·.id)).eraseDups

/-! ### Connections -/

/-- Whether one of the ends of the connection is at the given node. -/
def Connection.touches [BEq L] (connection : Connection L) (id : L) : Bool :=
  connection.sourceNode == id || connection.targetNode == id

/-! ### Descriptions -/

section Descriptions

variable [Label L]

open Label (wording)

/-- A port in one line. -/
def Port.describe (port : Port L) : Text :=
  "Port(" ++ wording port.id ++ ":" ++ wording port.name ++ "<" ++ wording port.type ++ ">)"

/-- A node in one line, without its ports. -/
def Node.describe (node : Node L) : Text :=
  "Node(" ++ wording node.id ++ ":" ++ wording node.name ++ "<" ++ wording node.kind ++ ">)"

/-- A connection in one line, without its identifier. -/
def Connection.describe (connection : Connection L) : Text :=
  "Connection(" ++ wording connection.sourceNode ++ "." ++ wording connection.sourcePort ++
    " -> " ++ wording connection.targetNode ++ "." ++ wording connection.targetPort ++ ")"

end Descriptions

end ModuleGraph
