import ModuleGraph.Flow.Walk
import ModuleGraph.Log

/-!
# Flow analysis

What can be read off a graph without compiling it: the dependencies, an order that puts them first,
the cycles that stand in the way of such an order, and the nodes without a wire.

## Main definitions

- `Analysis` — the result
- `isolatedIds` — the identifiers that no resolved connection touches
- `analyze` — the analysis of a graph
- `Analysis.log` — the records of an analysis
-/

namespace ModuleGraph

/-- What can be read off a graph. -/
structure Analysis (L : Type) where
  dependencies : Dependencies L
  executionOrder : List L
  cycles : List (List L)
  isolated : List L
  deriving DecidableEq, Repr

variable {L : Type} [Label L]

/-- Whether one of the ends of a resolved connection is at a node with the given identifier. -/
def Resolved.reaches (wire : Resolved L) (id : L) : Bool :=
  wire.sourceNode.id == id || wire.targetNode.id == id

/-- The identifiers that no resolved connection touches. -/
def isolatedIds (nodes : List (Node L)) (connections : List (Connection L)) : List L :=
  let wires := resolved nodes connections
  (distinctIds nodes).filter fun id => !wires.any (·.reaches id)

def analyze (nodes : List (Node L)) (connections : List (Connection L)) : Analysis L :=
  let table := dependencies nodes connections
  let ids := distinctIds nodes
  { dependencies := table
    executionOrder := executionOrder table ids
    cycles := cycles table ids
    isolated := isolatedIds nodes connections }

def Graph.analyze (graph : Graph L) : Analysis L :=
  ModuleGraph.analyze graph.nodes graph.connections

/-- One record for each cycle. -/
def cycleLog (cycles : List (List L)) : Log :=
  cycles.map fun cycle =>
    ⟨.flow, .debug, "Cycle detected: " ++ Text.join " -> " (cycle.map Label.wording)⟩

/-- The record of what an analysis found in a graph with the given number of connections. -/
def Analysis.summary (analysis : Analysis L) (connections : Nat) : Log.Record :=
  let nodes := analysis.dependencies.length
  let cycles := analysis.cycles.length
  let isolated := analysis.isolated.length
  ⟨.flow, .debug,
    s!"Analysed {nodes} nodes / {connections} connections: {cycles} cycles, {isolated} isolated"⟩

/-- The records of the analysis of a graph with the given number of connections. -/
def Analysis.log (analysis : Analysis L) (connections : Nat) : Log :=
  cycleLog analysis.cycles ++ [analysis.summary connections]

end ModuleGraph
