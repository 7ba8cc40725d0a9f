import ModuleGraph.Graph.Basic

/-!
# Writing graphs to documents

The document of a graph says everything that the graph holds and nothing else: the kind of a node
stands under `type`, and lists are written even if they are empty.

## Main definitions

- `encodePort`, `encodeNode`, `encodeConnection` — the documents of the parts of a graph
- `encodeGraph` — the document of a graph, with the name of a program if there is one
-/

namespace ModuleGraph.Document

variable {L : Type} [Label L]

open Label (toJson)

def encodePort (port : Port L) : Json :=
  .object [("id", toJson port.id), ("name", toJson port.name), ("type", toJson port.type)]

def encodeNode (node : Node L) : Json :=
  .object
    [("id", toJson node.id),
      ("type", toJson node.kind),
      ("name", toJson node.name),
      ("inputs", .array (node.inputs.map encodePort)),
      ("outputs", .array (node.outputs.map encodePort))]

def encodeConnection (connection : Connection L) : Json :=
  .object
    [("id", toJson connection.id),
      ("sourceNodeId", toJson connection.sourceNode),
      ("sourcePortId", toJson connection.sourcePort),
      ("targetNodeId", toJson connection.targetNode),
      ("targetPortId", toJson connection.targetPort)]

/-- The member that names the program, if it has a name that says anything. -/
def programNameMember (programName : Option L) : List (Text × Json) :=
  match programName with
  | none => []
  | some name => if Label.isEmpty name then [] else [("programName", toJson name)]

def graphMembers (graph : Graph L) : List (Text × Json) :=
  [("name", toJson graph.name),
    ("nodes", .array (graph.nodes.map encodeNode)),
    ("connections", .array (graph.connections.map encodeConnection))]

/-- The document of a graph, with the name of a program if there is one. -/
def encodeGraph (graph : Graph L) (programName : Option L) : Json :=
  .object (graphMembers graph ++ programNameMember programName)

end ModuleGraph.Document
