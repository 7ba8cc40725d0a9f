import Mathlib.Logic.Relation
import ModuleGraph.Session.Editor

/-!
# Steps of a history

Whatever happens in a session happens to its history as a sequence of four kinds of steps: an edit
commits a snapshot, undo and redo move the position, and a reset begins anew.

## Main definitions

- `HistoryStep`, `History.apply`, `History.run` — the steps, and what they do to a history
- `History.AllGraphs` — a property of every graph that the history holds
-/

namespace ModuleGraph

/-- What can happen to a history. -/
inductive HistoryStep (L : Type) where
  | edit (graph : Graph L) (action : Text)
  | undo
  | redo
  | reset (graph : Graph L)
  deriving DecidableEq, Repr

variable {L : Type}

namespace History

/-- The history after a step. -/
def apply (history : History L) : HistoryStep L → History L
  | .edit graph action => history.commit graph action
  | .undo => history.undo
  | .redo => history.redo
  | .reset graph => history.reset graph

/-- The history after steps in turn. -/
def run (history : History L) (steps : List (HistoryStep L)) : History L :=
  steps.foldl apply history

/-! ### What holds of all snapshots -/

/-- Every graph that the history holds has the property. -/
def AllGraphs (P : Graph L → Prop) (history : History L) : Prop :=
  ∀ snapshot ∈ history.snapshots, P snapshot.graph

variable {P : Graph L → Prop} {history : History L}

theorem AllGraphs.graph (h : history.AllGraphs P) : P history.graph :=
  h _ (List.get_mem _ _)

theorem allGraphs_start {graph : Graph L} (h : P graph) (limit : Int) :
    (start graph limit).AllGraphs P := by
  simpa [AllGraphs, start] using h

/-- An edit keeps some of the snapshots that were there, and adds its own. -/
theorem AllGraphs.commit (h : history.AllGraphs P) {graph : Graph L} (hgraph : P graph)
    (action : Text) : (history.commit graph action).AllGraphs P := by
  intro snapshot hsnapshot
  have hkept : snapshot ∈ history.extended ⟨graph, action⟩ := List.mem_of_mem_drop hsnapshot
  rcases List.mem_append.1 hkept with hearlier | hnew
  · exact h snapshot (List.mem_of_mem_take hearlier)
  · cases List.mem_singleton.1 hnew
    exact hgraph

theorem AllGraphs.undo (h : history.AllGraphs P) : history.undo.AllGraphs P := h

theorem AllGraphs.redo (h : history.AllGraphs P) : history.redo.AllGraphs P := by
  rw [History.redo]
  split <;> exact h

theorem allGraphs_reset (history : History L) {graph : Graph L} (h : P graph) :
    (history.reset graph).AllGraphs P := by
  simpa [AllGraphs, reset] using h

end History

end ModuleGraph
