import ModuleGraph.Proofs.Flow.Unguarded
import ModuleGraph.Proofs.Schedule.Agreement

/-!
# Compilations by look-ups that can miss

The summary of a program looks the nodes of the execution order up by their identifiers. Here such a
look-up can miss, as those of the table of dependencies can. None ever does: the execution order has
identifiers of nodes only.

## Main definitions

- `Unguarded.nodeOf` — the node with an identifier, by a look-up that can miss
- `Unguarded.programFlow`, `Unguarded.compile` — the summary and the workspace made of such look-ups

## Main statements

- `Unguarded.programFlow_eq_ok` — the summary is the one that misses nothing
- `Unguarded.nothing_missed` — neither an analysis nor a compilation misses anything
-/

namespace ModuleGraph

namespace Unguarded

variable {L : Type} [Label L]

open Label (wording)

/-- The first node with an identifier. -/
def nodeOf (nodes : List (Node L)) (id : L) : Except (Miss L) (Node L) :=
  match findNode? nodes id with
  | none => .error (.noNode id)
  | some node => .ok node

/-- The nodes with the given identifiers that become instructions. -/
def orderedInstructions (nodes : List (Node L)) (order : List L) :
    Except (Miss L) (List (Node L)) := do
  return behavioral (← order.mapM (nodeOf nodes))

/-- The summary of a graph. -/
def programFlow (nodes : List (Node L)) (connections : List (Connection L)) :
    Except (Miss L) (ProgramFlow L) := do
  let table ← dependencies nodes connections
  let instructions ← orderedInstructions nodes (executionOrder table (distinctIds nodes))
  return {
    entryPoints := entryPoints nodes (resolved nodes connections)
    executionOrder := instructions.map fun node => wording node.name
    dataFlow := (resolved nodes connections).map transfer }

/-- The plan of a graph, for a program of the given name. -/
def buildSchedule (programName : String) (nodes : List (Node L))
    (connections : List (Connection L)) : Except (Miss L) (Schedule L) := do
  let flow ← programFlow nodes connections
  return {
    programName
    instructions := scheduleInstructions nodes (resolved nodes connections)
    accounts := scheduleAccounts nodes (resolved nodes connections)
    flow
    hasConnections := !connections.isEmpty }

/-- The workspace of a graph, for a program of the name asked for. -/
def compile (nodes : List (Node L)) (connections : List (Connection L))
    (requested : Option Text) : Except (Miss L) (Workspace L) := do
  return emit (← buildSchedule (programNameOf requested) nodes connections)

theorem mapM_nodeOf {nodes : List (Node L)} {order : List L}
    (h : ∀ id ∈ order, (findNode? nodes id).isSome = true) :
    order.mapM (nodeOf nodes) = .ok (order.filterMap (findNode? nodes)) := by
  induction order with
  | nil => rfl
  | cons id order ih =>
    rw [List.forall_mem_cons] at h
    obtain ⟨node, hnode⟩ := Option.isSome_iff_exists.1 h.1
    rw [List.mapM_cons, nodeOf, hnode, ih h.2, List.filterMap_cons, hnode]
    rfl

theorem orderedInstructions_eq_ok {nodes : List (Node L)} {order : List L}
    (h : ∀ id ∈ order, (findNode? nodes id).isSome = true) :
    orderedInstructions nodes order = .ok (ModuleGraph.orderedInstructions nodes order) := by
  rw [orderedInstructions, mapM_nodeOf h]
  rfl

variable [LawfulBEq L]

/-- The execution order has identifiers of nodes only. -/
theorem programFlow_eq_ok (nodes : List (Node L)) (connections : List (Connection L)) :
    programFlow nodes connections = .ok (ModuleGraph.programFlow nodes connections) := by
  have hnodes : ∀ id ∈ executionOrder (ModuleGraph.dependencies nodes connections)
      (distinctIds nodes), (findNode? nodes id).isSome = true :=
    fun id hid => isSome_findNode? (mem_executionOrder_dependencies.1 hid)
  rw [programFlow, dependencies_eq_ok, ok_bind, orderedInstructions_eq_ok hnodes]
  rfl

theorem compile_eq_ok (nodes : List (Node L)) (connections : List (Connection L))
    (requested : Option Text) :
    compile nodes connections requested =
      .ok (ModuleGraph.compile nodes connections requested) := by
  rw [compile, buildSchedule, programFlow_eq_ok]
  rfl

/-- **No look-up ever misses.** Whatever the nodes and connections of a graph are, and whatever its
program is called, the analysis and the compilation by look-ups that can miss return a value: that
of the analysis and the compilation that pass over what is missing. -/
theorem nothing_missed (nodes : List (Node Text)) (connections : List (Connection Text))
    (requested : Option Text) :
    analyze nodes connections = .ok (ModuleGraph.analyze nodes connections) ∧
    compile nodes connections requested =
      .ok (ModuleGraph.compile nodes connections requested) :=
  ⟨analyze_eq_ok nodes connections, compile_eq_ok nodes connections requested⟩

end Unguarded

end ModuleGraph
