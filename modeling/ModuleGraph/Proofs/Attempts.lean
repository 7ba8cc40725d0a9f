import Mathlib.Data.List.TakeWhile
import ModuleGraph.Flow.Attempt
import ModuleGraph.Workspace

/-!
# Attempts at graphs of texts

A text can be looked up, joined with other texts and made into a name. An attempt at a graph whose
labels are texts therefore comes to what the operation itself gives, with the records of the whole
operation.

## Main statements

- `attemptAnalysis_text` — the attempt at an analysis
- `attemptCompile_text` — the attempt at compiling
-/

namespace ModuleGraph

namespace Attempt

variable {α : Type}

theorem require_true (fault : LabelFault) (next : Attempt α) : require true fault next = next :=
  if_pos rfl

@[simp] theorem after_after (log first : Log) (attempt : Attempt α) :
    (attempt.after log).after first = attempt.after (first ++ log) := by
  simp [after]

@[simp] theorem after_done (log first : Log) (value : α) :
    (done value log).after first = done value (first ++ log) := rfl

end Attempt

variable {α : Type}

theorem resolves_text (nodes : List (Node Text)) (connections : List (Connection Text)) :
    resolves nodes connections = true := by
  simp [resolves]

theorem reportCycles_text (cycles : List (List Text)) (next : Attempt α) :
    reportCycles cycles next = next.after (cycleLog cycles) := by
  have hreported : cycles.takeWhile (·.all Label.isText) = cycles :=
    List.takeWhile_eq_self_iff.2 fun cycle _ => by simp
  rw [reportCycles, hreported, decide_eq_true rfl, Attempt.require_true]

theorem Graph.attemptAnalysis_text (graph : Graph Text) :
    graph.attemptAnalysis = .done graph.analyze (graph.analyze.log graph.connections.length) := by
  simp only [attemptAnalysis, resolves_text, Attempt.require_true, reportCycles_text,
    Attempt.after_done, Analysis.log]

theorem nameable_text (wire : Resolved Text) : nameable wire = true := by
  simp [nameable]

/-- Every instruction leaves its record on the way to what comes after all of them. -/
theorem checkInstructions_text (wires : List (Resolved Text))
    (labelled : List (Node Text × ModuleLabel)) (next : Attempt α) :
    checkInstructions wires labelled next =
      next.after (labelled.flatMap fun (node, label) => renameRecord node label) := by
  induction labelled with
  | nil => rfl
  | cons entry labelled ih =>
    obtain ⟨node, label⟩ := entry
    have hnameable : (incoming wires node.id).all nameable = true :=
      List.all_eq_true.2 fun wire _ => nameable_text wire
    simp only [checkInstructions, Label.isText_text, hnameable, Attempt.require_true, ih,
      Attempt.after_after, List.flatMap_cons]

theorem checkSchedule_text (graph : Graph Text) (next : Attempt α) :
    checkSchedule graph next = next.after (scheduleLog graph.nodes graph.connections) := by
  have haccounts : ((graph.nodes.filter (·.isAccount)).all fun node => Label.isText node.name) =
      true := by
    simp
  simp only [checkSchedule, resolves_text, haccounts, Attempt.require_true, checkInstructions_text,
    Attempt.after_after, scheduleLog]

theorem Graph.attemptCompile_text (graph : Graph Text) (requested : Text) :
    graph.attemptCompile (some requested) =
      .done (compile graph.nodes graph.connections (some requested))
        (compileLog graph.nodes graph.connections (some requested)) := by
  have hname : ((some requested).all fun name => Label.isText name || Label.isEmpty name) =
      true := by
    simp
  simp only [attemptCompile, hname, Attempt.require_true, checkSchedule_text, Attempt.after_done]
  rfl

end ModuleGraph
