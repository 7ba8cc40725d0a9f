import ModuleGraph.Proofs.Session.HistoryStep

/-!
# What commands do to a history

Every command, whether it succeeds or fails, does to the history what a sequence of steps does: a
failure takes no step, and an edit commits a graph that comes from the current one by one change.

## Main definitions

- `Graph.Edit` — what one edit may make of a graph
- `Editor.addNode_cases`, `Editor.addStart_cases`, `Editor.removeNode_cases`,
  `Editor.disconnect_cases`, `Editor.editor_connect_cases` — everything that an edit can do
- `History.Leads` — steps that commands may take lead from one history to another
- `History.Leads.allGraphs` — what all edits keep holds of all graphs of the history
- `Editor.leads_perform` — a command leads from the history before to the history after it
- `Turn`, `Editor.play` — commands in turn, with the identifiers and templates at hand at each
-/

namespace ModuleGraph

open Label (wording)
open Relation (ReflTransGen)

variable {L : Type} [Label L]

/-! ### Edits -/

namespace Graph

variable {graph : Graph L}

/-- Nodes and ports are proposed if all four look-ups find something. -/
theorem propose_eq_ok_iff {ends : Endpoints L} {proposal : Proposal L} :
    graph.propose ends = .ok proposal ↔
      graph.node? ends.sourceNode = some proposal.sourceNode ∧
      graph.node? ends.targetNode = some proposal.targetNode ∧
      proposal.sourceNode.output? ends.sourcePort = some proposal.sourcePort ∧
      proposal.targetNode.input? ends.targetPort = some proposal.targetPort := by
  obtain ⟨source, sourcePort, target, targetPort⟩ := proposal
  simp only [propose, requireNode]
  -- the nodes are looked up one after the other, the ports both at once
  cases graph.node? ends.sourceNode with
  | none => simp [bind, Except.bind]
  | some node =>
    cases graph.node? ends.targetNode with
    | none => simp [bind, Except.bind]
    | some node' =>
      simp only [bind, Except.bind, Option.some.injEq]
      constructor
      · intro h
        split at h
        · cases h
        · cases h
        · cases h
          exact ⟨rfl, rfl, by assumption, by assumption⟩
      · rintro ⟨rfl, rfl, hsource, htarget⟩
        rw [hsource, htarget]
        rfl

theorem propose_ne_unusable (ends : Endpoints L) (fault : LabelFault) :
    graph.propose ends ≠ .error (.unusable fault) := by
  intro h
  simp only [propose, requireNode] at h
  cases hsource : graph.node? ends.sourceNode with
  | none => simp [hsource, bind, Except.bind] at h
  | some source =>
    cases htarget : graph.node? ends.targetNode with
    | none => simp [hsource, htarget, bind, Except.bind] at h
    | some target =>
      simp only [hsource, htarget, bind, Except.bind] at h
      split at h <;> cases h

/-- What one edit may make of a graph. -/
inductive Edit (graph : Graph L) : Graph L → Prop
  | addNode {node : Node L} (hnew : graph.node? node.id = none) : Edit graph (graph.addNode node)
  | removeNode {id : L} {node : Node L} (hfound : graph.node? id = some node) :
    Edit graph (graph.removeNode id)
  | addWire {ends : Endpoints L} {proposal : Proposal L} (id : L)
    (hends : graph.propose ends = .ok proposal)
    (hverdict : proposal.verdict graph.connections = none) :
    Edit graph (graph.addConnection (History.wireOf proposal id))
  | removeWire {id : L} {connection : Connection L}
    (hfound : graph.connections.find? (·.id == id) = some connection) :
    Edit graph (graph.removeConnection id)

end Graph

/-! ### What an edit can do -/

namespace Editor

variable (editor : Editor L)

/-- A node is added, unless its identifier is there. -/
theorem addNode_cases (node : Node L) :
    (∃ found, editor.graph.node? node.id = some found ∧
      editor.addNode node = .failed editor (.nodeExists node.id)) ∨
    (editor.graph.node? node.id = none ∧
      editor.addNode node = editor.committed (editor.history.commit (editor.graph.addNode node)
        ("add node " ++ wording node.name)) node) := by
  rw [addNode, History.addNode, graph]
  cases hfound : editor.history.graph.node? node.id with
  | some found => exact .inl ⟨found, rfl, rfl⟩
  | none => exact .inr ⟨rfl, rfl⟩

/-- The node where the program begins is added like any other, unless there is one. -/
theorem addStart_cases :
    (editor.graph.nodes.any (·.isStart) = true ∧ editor.addStart = .failed editor .secondStart) ∨
    (editor.graph.nodes.any (·.isStart) = false ∧
      editor.addStart = editor.addMade (startNode editor.supply)) := by
  rw [addStart]
  cases editor.graph.nodes.any (·.isStart) with
  | true => exact .inl ⟨rfl, rfl⟩
  | false => exact .inr ⟨rfl, rfl⟩

/-- A node is removed, unless there is none. -/
theorem removeNode_cases (id : L) :
    (editor.graph.node? id = none ∧ editor.removeNode id = .failed editor (.unknownNode id)) ∨
    (∃ node, editor.graph.node? id = some node ∧
      editor.removeNode id = editor.committed (editor.history.commit (editor.graph.removeNode id)
        ("remove node " ++ wording node.name)) node) := by
  rw [removeNode, History.removeNode, Graph.requireNode, graph]
  cases hfound : editor.history.graph.node? id with
  | none => exact .inl ⟨rfl, rfl⟩
  | some node => exact .inr ⟨node, rfl, rfl⟩

/-- A wire is removed, unless there is none. -/
theorem disconnect_cases (id : L) :
    (editor.graph.connections.find? (·.id == id) = none ∧
      editor.disconnect id = .failed editor (.unknownConnection id)) ∨
    (∃ connection, editor.graph.connections.find? (·.id == id) = some connection ∧
      editor.disconnect id = editor.committed (editor.history.commit
        (editor.graph.removeConnection id) ("disconnect " ++ wording id)) connection) := by
  rw [disconnect, History.disconnect, graph]
  cases hfound : editor.history.graph.connections.find? (·.id == id) with
  | none => exact .inl ⟨rfl, rfl⟩
  | some connection => exact .inr ⟨connection, rfl, rfl⟩

/-- Nothing changes with a wire that is proposed, unless it is accepted: then it is added under the
next identifier. -/
theorem editor_connect_cases (ends : Endpoints L) :
    (editor.connect ends).editor = editor ∨
    (∃ proposal, editor.graph.propose ends = .ok proposal ∧
      proposal.verdict editor.graph.connections = none ∧
      (editor.connect ends).editor =
        ⟨editor.history.addWire proposal (Label.ofText editor.supply.next),
          editor.supply.advance 1⟩) := by
  rw [connect]
  cases hends : editor.graph.propose ends with
  | error error => exact .inl rfl
  | ok proposal =>
    simp only
    split
    · cases hverdict : proposal.verdict editor.graph.connections with
      | some reason => exact .inl rfl
      | none => exact .inr ⟨proposal, rfl, hverdict, rfl⟩
    · exact .inl rfl

end Editor

/-! ### Steps that commands may take -/

/-- Whether a command may take a step: an edit has to be one of the current graph, and what a reset
begins with has to be fresh. -/
def HistoryStep.Allowed (fresh : Graph L → Prop) (history : History L) : HistoryStep L → Prop
  | .edit graph _ => history.graph.Edit graph
  | .undo => True
  | .redo => True
  | .reset graph => fresh graph

namespace History

/-- Steps that commands may take lead from the first history to the second. -/
def Leads (fresh : Graph L → Prop) : History L → History L → Prop :=
  ReflTransGen fun history next => ∃ step, step.Allowed fresh history ∧ history.apply step = next

variable {fresh : Graph L → Prop} {history next : History L}

theorem Leads.of_step (step : HistoryStep L) (h : step.Allowed fresh history) :
    history.Leads fresh (history.apply step) :=
  ReflTransGen.single ⟨step, h, rfl⟩

theorem leads_addWire {ends : Endpoints L} {proposal : Proposal L} (id : L)
    (hends : history.graph.propose ends = .ok proposal)
    (hverdict : proposal.verdict history.graph.connections = none) :
    history.Leads fresh (history.addWire proposal id) :=
  Leads.of_step (.edit _ _) (Graph.Edit.addWire id hends hverdict)

variable {P : Graph L → Prop}

/-- What edits keep, and what fresh graphs have, holds of all graphs after a step. -/
theorem AllGraphs.apply {step : HistoryStep L} (h : history.AllGraphs P)
    (hallowed : step.Allowed fresh history)
    (hedit : ∀ graph edited : Graph L, P graph → graph.Edit edited → P edited)
    (hfresh : ∀ graph, fresh graph → P graph) : (history.apply step).AllGraphs P := by
  cases step with
  | edit graph action => exact h.commit (hedit _ graph h.graph hallowed) action
  | undo => exact h.undo
  | redo => exact h.redo
  | reset graph => exact history.allGraphs_reset (hfresh graph hallowed)

/-- The same after any steps that commands may take. -/
theorem Leads.allGraphs (hleads : history.Leads fresh next)
    (hedit : ∀ graph edited : Graph L, P graph → graph.Edit edited → P edited)
    (hfresh : ∀ graph, fresh graph → P graph) (h : history.AllGraphs P) : next.AllGraphs P := by
  induction hleads with
  | refl => exact h
  | tail _ hlast ih =>
    obtain ⟨step, hallowed, rfl⟩ := hlast
    exact ih.apply hallowed hedit hfresh

end History

/-! ### Commands -/

/-- Whether a command begins anew only with fresh graphs. -/
def Command.ResetsTo (fresh : Graph L → Prop) : Command L → Prop
  | .reset graph => fresh (graph.getD .empty)
  | _ => True

/-- A command, with the templates and the identifiers that are at hand. -/
structure Turn (L : Type) where
  catalog : Catalog L
  supply : IdSupply
  command : Command L

namespace Editor

variable {fresh : Graph L → Prop}

theorem leads_addNode (editor : Editor L) (node : Node L) :
    editor.history.Leads fresh (editor.addNode node).editor.history := by
  rcases editor.addNode_cases node with ⟨_, -, hfailed⟩ | ⟨hnew, hadded⟩
  · rw [hfailed]
    exact ReflTransGen.refl
  · rw [hadded]
    exact History.Leads.of_step (.edit _ _) (Graph.Edit.addNode hnew)

theorem leads_addMade (editor : Editor L) (made : Node L × IdSupply) :
    editor.history.Leads fresh (editor.addMade made).editor.history :=
  leads_addNode { editor with supply := made.2 } made.1

theorem leads_addStart (editor : Editor L) :
    editor.history.Leads fresh editor.addStart.editor.history := by
  rcases editor.addStart_cases with ⟨-, hfailed⟩ | ⟨-, hadded⟩
  · rw [hfailed]
    exact ReflTransGen.refl
  · rw [hadded]
    exact editor.leads_addMade _

/-- Nodes added in turn take a step each, as far as they get. -/
theorem leads_addNodes (editor : Editor L) (nodes : List (Node L)) :
    editor.history.Leads fresh (editor.addNodes nodes).editor.history := by
  induction nodes generalizing editor with
  | nil => exact ReflTransGen.refl
  | cons node nodes ih =>
    have hfirst : editor.history.Leads fresh (editor.addNode node).editor.history :=
      editor.leads_addNode node
    rw [addNodes]
    split
    · exact hfirst
    · exact hfirst.trans (ih _)

theorem leads_removeNode (editor : Editor L) (id : L) :
    editor.history.Leads fresh (editor.removeNode id).editor.history := by
  rcases editor.removeNode_cases id with ⟨-, hfailed⟩ | ⟨node, hfound, hremoved⟩
  · rw [hfailed]
    exact ReflTransGen.refl
  · rw [hremoved]
    exact History.Leads.of_step (.edit _ _) (Graph.Edit.removeNode hfound)

theorem leads_connect (editor : Editor L) (ends : Endpoints L) :
    editor.history.Leads fresh (editor.connect ends).editor.history := by
  rcases editor.editor_connect_cases ends with hsame | ⟨proposal, hends, hverdict, hadded⟩
  · rw [hsame]
    exact ReflTransGen.refl
  · rw [hadded]
    exact History.leads_addWire _ hends hverdict

theorem leads_disconnect (editor : Editor L) (id : L) :
    editor.history.Leads fresh (editor.disconnect id).editor.history := by
  rcases editor.disconnect_cases id with ⟨-, hfailed⟩ | ⟨connection, hfound, hremoved⟩
  · rw [hfailed]
    exact ReflTransGen.refl
  · rw [hremoved]
    exact History.Leads.of_step (.edit _ _) (Graph.Edit.removeWire hfound)

theorem leads_perform (editor : Editor L) (catalog : Catalog L) {command : Command L}
    (h : command.ResetsTo fresh) :
    editor.history.Leads fresh (editor.perform catalog command).editor.history := by
  cases command with
  | addNode node => exact editor.leads_addNode node
  | addTemplate id name =>
    rw [perform]
    split
    · exact editor.leads_addMade _
    · exact ReflTransGen.refl
  | addBlank kind name => exact editor.leads_addMade _
  | addStart => exact editor.leads_addStart
  | addNodes nodes => exact editor.leads_addNodes nodes
  | removeNode id => exact editor.leads_removeNode id
  | connect ends => exact editor.leads_connect ends
  | disconnect id => exact editor.leads_disconnect id
  | undo => exact History.Leads.of_step .undo trivial
  | redo => exact History.Leads.of_step .redo trivial
  | reset graph => exact History.Leads.of_step (.reset _) h

/-- The editor after a turn. -/
def turn (editor : Editor L) (turn : Turn L) : Editor L :=
  ({ editor with supply := turn.supply }.perform turn.catalog turn.command).editor

/-- The editor after turns, one by one. -/
def play (editor : Editor L) (turns : List (Turn L)) : Editor L := turns.foldl Editor.turn editor

theorem leads_play (editor : Editor L) {turns : List (Turn L)}
    (h : ∀ turn ∈ turns, turn.command.ResetsTo fresh) :
    editor.history.Leads fresh (editor.play turns).history := by
  induction turns generalizing editor with
  | nil => exact ReflTransGen.refl
  | cons turn turns ih =>
    obtain ⟨hturn, hturns⟩ := List.forall_mem_cons.1 h
    have hfirst : editor.history.Leads fresh (editor.turn turn).history :=
      leads_perform { editor with supply := turn.supply } turn.catalog hturn
    exact hfirst.trans (ih _ hturns)

end Editor

end ModuleGraph
