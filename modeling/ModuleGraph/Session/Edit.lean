import ModuleGraph.Catalog.Basic
import ModuleGraph.Graph.Verdict
import ModuleGraph.Session.History

/-!
# Editing a graph

An edit either fails and leaves the history alone, or commits one snapshot. A wire is added only if
it is not rejected; wires that are there already are not judged again.

## Main definitions

- `EditError` — why an edit cannot be made
- `Graph.propose` — the nodes and ports that a wire would join
- `History.addNode`, `History.removeNode`, `History.disconnect` — the edits that fail or commit
- `History.addWire` — the edit that commits a wire which has been judged
-/

namespace ModuleGraph

/-- Why an edit cannot be made. -/
inductive EditError (L : Type) where
  | unknownNode (id : L)
  | nodeExists (id : L)
  | secondStart
  | unknownOutput (port node : L)
  | unknownInput (port node : L)
  | unknownConnection (id : L)
  /-- A label is of no use. -/
  | unusable (fault : LabelFault)
  deriving DecidableEq, Repr

variable {L : Type} [Label L]

open Label (wording)

def EditError.message : EditError L → Text
  | unknownNode id => "Node '" ++ wording id ++ "' not found"
  | nodeExists id => "Node '" ++ wording id ++ "' already exists"
  | secondStart => "Only one start node is allowed per program"
  | unknownOutput port node =>
    "Output port '" ++ wording port ++ "' not found on node '" ++ wording node ++ "'"
  | unknownInput port node =>
    "Input port '" ++ wording port ++ "' not found on node '" ++ wording node ++ "'"
  | unknownConnection id => "Connection '" ++ wording id ++ "' not found"
  | unusable fault => fault.message

/-! ### Graphs -/

namespace Graph

/-- The graph with one more node. -/
def addNode (graph : Graph L) (node : Node L) : Graph L :=
  { graph with nodes := graph.nodes ++ [node] }

/-- The graph without the nodes of an identifier and without the wires at them. -/
def removeNode (graph : Graph L) (id : L) : Graph L :=
  { graph with
    nodes := graph.nodes.filter (·.id != id)
    connections := graph.connections.filter (!·.touches id) }

/-- The graph with one more wire. -/
def addConnection (graph : Graph L) (connection : Connection L) : Graph L :=
  { graph with connections := graph.connections ++ [connection] }

/-- The graph without the wires of an identifier. -/
def removeConnection (graph : Graph L) (id : L) : Graph L :=
  { graph with connections := graph.connections.filter (·.id != id) }

/-- The first node with the given identifier, or the error that there is none. -/
def requireNode (graph : Graph L) (id : L) : Except (EditError L) (Node L) :=
  match graph.node? id with
  | some node => .ok node
  | none => .error (.unknownNode id)

/-- The nodes and ports that a wire would join. -/
def propose (graph : Graph L) (ends : Endpoints L) : Except (EditError L) (Proposal L) := do
  let sourceNode ← graph.requireNode ends.sourceNode
  let targetNode ← graph.requireNode ends.targetNode
  match sourceNode.output? ends.sourcePort, targetNode.input? ends.targetPort with
  | none, _ => .error (.unknownOutput ends.sourcePort ends.sourceNode)
  | some _, none => .error (.unknownInput ends.targetPort ends.targetNode)
  | some sourcePort, some targetPort =>
    return { sourceNode, sourcePort, targetNode, targetPort }

end Graph

/-! ### Nodes -/

namespace History

/-- Adds a node whose identifier is new. -/
def addNode (history : History L) (node : Node L) : Except (EditError L) (History L) :=
  if (history.graph.node? node.id).isSome then
    .error (.nodeExists node.id)
  else
    .ok (history.commit (history.graph.addNode node) ("add node " ++ wording node.name))

/-- Removes a node and the wires at it; the result holds the node. -/
def removeNode (history : History L) (id : L) : Except (EditError L) (Node L × History L) := do
  let node ← history.graph.requireNode id
  return (node, history.commit (history.graph.removeNode id) ("remove node " ++ wording node.name))

/-! ### Wires -/

/-- The wire that a proposal asks for, under the given identifier. -/
def wireOf (proposal : Proposal L) (id : L) : Connection L :=
  { toEndpoints := proposal.endpoints, id }

/-- The action of adding a wire. -/
def connectAction (proposal : Proposal L) : Text :=
  "connect " ++ wording proposal.sourceNode.name ++ " -> " ++ wording proposal.targetNode.name

/-- Adds the wire of a proposal under the given identifier. -/
def addWire (history : History L) (proposal : Proposal L) (id : L) : History L :=
  history.commit (history.graph.addConnection (wireOf proposal id)) (connectAction proposal)

/-- Removes a wire; the result holds the wire. -/
def disconnect (history : History L) (id : L) :
    Except (EditError L) (Connection L × History L) :=
  match history.graph.connections.find? (·.id == id) with
  | some connection =>
    .ok (connection,
      history.commit (history.graph.removeConnection id) ("disconnect " ++ wording id))
  | none => .error (.unknownConnection id)

end History

end ModuleGraph
