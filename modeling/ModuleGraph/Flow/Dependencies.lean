import ModuleGraph.Graph.Resolution

/-!
# Dependencies

A node depends on the nodes that feed it. The table of dependencies lists, for every identifier in
the order of the nodes, the sources of its resolved connections, each once, in the order of the
connections.

## Main definitions

- `Dependencies` — a table of dependencies
- `Dependencies.of` — the dependencies of one identifier
- `Dependencies.add` — the table with one more dependency
- `dependencies` — the table of a graph
-/

namespace ModuleGraph

/-- A table that lists the dependencies of identifiers. -/
abbrev Dependencies (L : Type) := List (L × List L)

variable {L : Type} [BEq L]

namespace Dependencies

/-- The dependencies of an identifier; one that the table does not list has none. -/
def of (table : Dependencies L) (id : L) : List L :=
  (table.lookup id).getD []

/-- The table in which `target` also depends on `source`. -/
def add (table : Dependencies L) (target source : L) : Dependencies L :=
  table.map fun (id, sources) =>
    if id == target && !sources.contains source then (id, sources ++ [source]) else (id, sources)

end Dependencies

def dependencies (nodes : List (Node L)) (connections : List (Connection L)) : Dependencies L :=
  (resolved nodes connections).foldl
    (fun table wire => table.add wire.targetNode.id wire.sourceNode.id)
    ((distinctIds nodes).map fun id => (id, []))

end ModuleGraph
