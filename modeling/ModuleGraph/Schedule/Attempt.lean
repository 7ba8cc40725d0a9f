import ModuleGraph.Attempt
import ModuleGraph.Schedule.Build

/-!
# Attempts at a schedule

The names of a program are made from the names and kinds of nodes, so that these have to be texts.
The nodes are looked at in the order in which they are scheduled: first those that become
instructions, then the accounts.

## Main definitions

- `checkInstructions` — goes on once every instruction can be scheduled
- `checkSchedule` — goes on once the whole graph can be scheduled
- `Graph.attemptSchedule` — the plan of a graph
-/

namespace ModuleGraph

variable {L : Type} [Label L]

open Label (isKey isText)

/-- Whether an instruction can name the node at the source of a wire: the name of an account is made
into that of a type, others are collected. -/
def nameable (wire : Resolved L) : Bool :=
  if wire.sourceNode.isAccount then isText wire.sourceNode.name else isKey wire.sourceNode.name

/-- Goes on once every instruction can be scheduled. -/
def checkInstructions {α : Type} (wires : List (Resolved L)) :
    List (Node L × ModuleLabel) → Attempt α → Attempt α
  | [], next => next
  | (node, label) :: rest, next =>
    .require (isText node.name) .notAName
      (Attempt.after (renameRecord node label)
        (.require (isText node.kind) .notAName
          (.require ((incoming wires node.id).all nameable) .notAText
            (checkInstructions wires rest next))))

/-- Goes on once the whole graph can be scheduled. -/
def checkSchedule {α : Type} (graph : Graph L) (next : Attempt α) : Attempt α :=
  .require (resolves graph.nodes graph.connections) .notAKey
    (Attempt.after (skipLog graph.nodes graph.connections)
      (checkInstructions (resolved graph.nodes graph.connections)
        (assignLabels [] (behavioral graph.nodes))
        (.require ((graph.nodes.filter (·.isAccount)).all fun node => isText node.name) .notAText
          next)))

/-- The plan of a graph, for a program of the given name. -/
def Graph.attemptSchedule (graph : Graph L) (programName : String) : Attempt (Schedule L) :=
  checkSchedule graph (.done (buildSchedule programName graph.nodes graph.connections) [])

end ModuleGraph
