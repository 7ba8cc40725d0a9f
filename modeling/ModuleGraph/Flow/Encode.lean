import ModuleGraph.Flow.Analysis

/-!
# Writing analyses

## Main definitions

- `Analysis.encode` — the JSON value of an analysis
-/

namespace ModuleGraph

variable {L : Type} [Label L]

/-- A list of labels as an array. -/
def encodeLabels (labels : List L) : Json := .array (labels.map Label.toJson)

def Dependencies.encode (table : Dependencies L) : Json :=
  .object (table.map fun (id, sources) => ((Label.toJson id).memberKey, encodeLabels sources))

def Analysis.encode (analysis : Analysis L) : Json :=
  .object
    [("dependencies", analysis.dependencies.encode),
      ("executionOrder", encodeLabels analysis.executionOrder),
      ("cycles", .array (analysis.cycles.map encodeLabels)),
      ("isolatedNodes", encodeLabels analysis.isolated)]

end ModuleGraph
