import ModuleGraph.Attempt
import ModuleGraph.Flow.Analysis

/-!
# Attempts at an analysis

The analysis of a graph looks up the identifiers of nodes, and reports each cycle as a text. With
labels that are no texts, either may fail.

## Main definitions

- `reportCycles` — the records of cycles, up to the first that cannot be reported
- `attemptOrder` — the execution order and the cycles of a table
- `Graph.attemptAnalysis` — the analysis of a graph
-/

namespace ModuleGraph

variable {L : Type} [Label L]

/-- Goes on once every cycle has been reported; the labels of one that is reported are texts. -/
def reportCycles {α : Type} (cycles : List (List L)) (next : Attempt α) : Attempt α :=
  let reported := cycles.takeWhile (·.all Label.isText)
  (Attempt.require (reported.length = cycles.length) .notAText next).after (cycleLog reported)

/-- The identifiers that the roots depend on, dependencies first, and the cycles among them. -/
def attemptOrder (table : Dependencies L) (roots : List L) : Attempt (List L × List (List L)) :=
  let order := executionOrder table roots
  let found := cycles table roots
  .require (order.all Label.isKey) .notAKey (reportCycles found (.done (order, found) []))

def Graph.attemptAnalysis (graph : Graph L) : Attempt (Analysis L) :=
  let analysis := graph.analyze
  .require (resolves graph.nodes graph.connections) .notAKey
    (reportCycles analysis.cycles
      (.done analysis [analysis.summary graph.connections.length]))

end ModuleGraph
