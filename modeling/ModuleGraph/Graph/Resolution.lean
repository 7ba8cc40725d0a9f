import ModuleGraph.Graph.Basic

/-!
# Resolving connections

A connection resolves if its source names an output port and its target an input port, each on the
first node with the identifier given. The others are dangling, and everything derived from a graph
passes over them.

## Main definitions

- `Resolved` — a connection together with the nodes and ports at its ends
- `resolve?` — the ends of one connection
- `resolved` — the connections that resolve, in order
- `indexNodes` — the first node for every identifier
- `resolves` — whether the identifiers of nodes can be looked up
-/

namespace ModuleGraph

/-- A connection together with the nodes and ports at its ends. -/
structure Resolved (L : Type) where
  connection : Connection L
  sourceNode : Node L
  sourcePort : Port L
  targetNode : Node L
  targetPort : Port L
  deriving DecidableEq, Repr

variable {L : Type}

/-- The ends of a connection, unless one of them does not exist. -/
def resolve? [BEq L] (nodes : List (Node L)) (connection : Connection L) : Option (Resolved L) := do
  let source ← findNode? nodes connection.sourceNode
  let target ← findNode? nodes connection.targetNode
  let sourcePort ← source.output? connection.sourcePort
  let targetPort ← target.input? connection.targetPort
  return ⟨connection, source, sourcePort, target, targetPort⟩

/-- The connections that resolve, in order. -/
def resolved [BEq L] (nodes : List (Node L)) (connections : List (Connection L)) :
    List (Resolved L) :=
  connections.filterMap (resolve? nodes)

/-- The first node for every identifier, in order. -/
def indexNodes [BEq L] (nodes : List (Node L)) : List (Node L) :=
  (distinctIds nodes).filterMap (findNode? nodes)

/-- Whether nodes can be looked up: those of the list, and those that the connections name. -/
def resolves [Label L] (nodes : List (Node L)) (connections : List (Connection L)) : Bool :=
  (nodes.all fun node => Label.isKey node.id) &&
    connections.all fun connection =>
      Label.isKey connection.sourceNode && Label.isKey connection.targetNode

end ModuleGraph
