import ModuleGraph.Proofs.FreshId
import ModuleGraph.Proofs.Session.Atomicity
import ModuleGraph.Proofs.Session.DependencyEdits
import ModuleGraph.Proofs.Session.WellFormed

/-!
# Edits taken back by hand

A wire that has been added can be removed again, and so can a node. Both removals go by identifiers
and take all that they fit, so that nothing else is lost only because the identifiers are new: no
wire has an identifier that was not handed out before, and no wire names a node that is not there.

## Main definitions

- `IdSupply.labelsUntil`, `Editor.handedOut` — the identifiers handed out in the course of turns
- `Graph.WiresAmong` — the identifiers of the wires are among the given ones

## Main statements

- `Editor.wiresAmong_perform`, `Editor.wiresAmong_play` — the wires of a session have identifiers
  that were handed out
- `Graph.removeConnection_addConnection`, `Graph.removeNode_addNode` — what is removed right after
  it was added
- `Graph.nodes_removeNode`, `Graph.connections_removeNode` — what is left without a node
- `inverse_edits_restore` — a session after an edit and its inverse
-/

namespace ModuleGraph

open History (AllGraphs)

/-! ### Identifiers of wires -/

namespace Graph

variable {L : Type} {graph : Graph L} {given : List L}

/-- The identifiers of the wires are among the given ones. -/
def WiresAmong (given : List L) (graph : Graph L) : Prop :=
  ∀ connection ∈ graph.connections, connection.id ∈ given

theorem WiresAmong.mono {more : List L} (h : graph.WiresAmong given) (hmore : given ⊆ more) :
    graph.WiresAmong more :=
  fun connection hconnection => hmore (h connection hconnection)

theorem WiresAmong.addNode (h : graph.WiresAmong given) (node : Node L) :
    (graph.addNode node).WiresAmong given := h

theorem WiresAmong.addConnection (h : graph.WiresAmong given) (connection : Connection L) :
    (graph.addConnection connection).WiresAmong (given ++ [connection.id]) := by
  refine List.forall_mem_append.2 ⟨fun other hother => ?_, ?_⟩
  · exact List.mem_append_left _ (h other hother)
  · simp

variable [Label L]

theorem WiresAmong.removeNode (h : graph.WiresAmong given) (id : L) :
    (graph.removeNode id).WiresAmong given :=
  fun connection hconnection => h connection (List.mem_filter.1 hconnection).1

theorem WiresAmong.removeConnection (h : graph.WiresAmong given) (id : L) :
    (graph.removeConnection id).WiresAmong given :=
  fun connection hconnection => h connection (List.mem_filter.1 hconnection).1

theorem wiresAmong_empty (given : List L) : (empty : Graph L).WiresAmong given := by
  simp [WiresAmong, empty]

end Graph

theorem History.AllGraphs.append {L : Type} {history : History L} {given : List L}
    (h : history.AllGraphs (·.WiresAmong given)) (more : List L) :
    history.AllGraphs (·.WiresAmong (given ++ more)) :=
  fun snapshot hsnapshot => (h snapshot hsnapshot).mono (List.subset_append_left given more)

/-- The identifiers that are handed out until the supply is a later one. -/
def IdSupply.labelsUntil {L : Type} [Label L] (supply later : IdSupply) : List L :=
  supply.labels (later.taken - supply.taken)

theorem IdSupply.labelsUntil_advance_one {L : Type} [Label L] (supply : IdSupply) :
    (supply.labelsUntil (supply.advance 1) : List L) = [Label.ofText supply.next] := by
  rw [labelsUntil, advance, Nat.add_sub_cancel_left, labels_succ]
  rfl

namespace Editor

variable {L : Type} [Label L] {editor : Editor L} {given : List L}

theorem wiresAmong_addNode (h : editor.history.AllGraphs (·.WiresAmong given)) (node : Node L) :
    (editor.addNode node).editor.history.AllGraphs (·.WiresAmong given) := by
  rcases editor.addNode_cases node with ⟨_, -, hfailed⟩ | ⟨-, hadded⟩
  · rw [hfailed]
    exact h
  · rw [hadded]
    exact h.commit (h.graph.addNode node) _

theorem wiresAmong_addMade (h : editor.history.AllGraphs (·.WiresAmong given))
    (made : Node L × IdSupply) :
    (editor.addMade made).editor.history.AllGraphs (·.WiresAmong given) := by
  have hsame : { editor with supply := made.2 }.history.AllGraphs (·.WiresAmong given) := h
  exact wiresAmong_addNode hsame made.1

theorem wiresAmong_addStart (h : editor.history.AllGraphs (·.WiresAmong given)) :
    editor.addStart.editor.history.AllGraphs (·.WiresAmong given) := by
  rcases editor.addStart_cases with ⟨-, hfailed⟩ | ⟨-, hadded⟩
  · rw [hfailed]
    exact h
  · rw [hadded]
    exact wiresAmong_addMade h _

theorem wiresAmong_addNodes (h : editor.history.AllGraphs (·.WiresAmong given))
    (nodes : List (Node L)) :
    (editor.addNodes nodes).editor.history.AllGraphs (·.WiresAmong given) := by
  induction nodes generalizing editor with
  | nil => exact h
  | cons node nodes ih =>
    have hfirst := wiresAmong_addNode h node
    rw [addNodes]
    split
    · exact hfirst
    · exact ih hfirst

theorem wiresAmong_removeNode (h : editor.history.AllGraphs (·.WiresAmong given)) (id : L) :
    (editor.removeNode id).editor.history.AllGraphs (·.WiresAmong given) := by
  rcases editor.removeNode_cases id with ⟨-, hfailed⟩ | ⟨node, -, hremoved⟩
  · rw [hfailed]
    exact h
  · rw [hremoved]
    exact h.commit (h.graph.removeNode id) _

theorem wiresAmong_disconnect (h : editor.history.AllGraphs (·.WiresAmong given)) (id : L) :
    (editor.disconnect id).editor.history.AllGraphs (·.WiresAmong given) := by
  rcases editor.disconnect_cases id with ⟨-, hfailed⟩ | ⟨connection, -, hremoved⟩
  · rw [hfailed]
    exact h
  · rw [hremoved]
    exact h.commit (h.graph.removeConnection id) _

/-- A wire that is added has the identifier that was handed out for it. -/
theorem wiresAmong_connect (h : editor.history.AllGraphs (·.WiresAmong given))
    (ends : Endpoints L) :
    let next := (editor.connect ends).editor
    next.history.AllGraphs (·.WiresAmong (given ++ editor.supply.labelsUntil next.supply)) := by
  rcases editor.editor_connect_cases ends with hsame | ⟨proposal, -, -, hadded⟩
  · rw [hsame]
    exact h.append _
  · have hwires := h.graph.addConnection
      (History.wireOf proposal (Label.ofText editor.supply.next))
    rw [hadded]
    simp only [IdSupply.labelsUntil_advance_one]
    exact (h.append _).commit hwires _

theorem wiresAmong_perform (h : editor.history.AllGraphs (·.WiresAmong given))
    (catalog : Catalog L) {command : Command L} (hreset : command.ResetsTo (· = .empty)) :
    let next := (editor.perform catalog command).editor
    next.history.AllGraphs (·.WiresAmong (given ++ editor.supply.labelsUntil next.supply)) := by
  cases command with
  | addNode node => exact (wiresAmong_addNode h node).append _
  | addTemplate id name =>
    rw [perform]
    split
    · exact (wiresAmong_addMade h _).append _
    · exact h.append _
  | addBlank kind name => exact (wiresAmong_addMade h _).append _
  | addStart => exact (wiresAmong_addStart h).append _
  | addNodes nodes => exact (wiresAmong_addNodes h nodes).append _
  | removeNode id => exact (wiresAmong_removeNode h id).append _
  | connect ends => exact wiresAmong_connect h ends
  | disconnect id => exact (wiresAmong_disconnect h id).append _
  | undo => exact h.undo.append _
  | redo => exact h.redo.append _
  | reset graph =>
    have hempty : (graph.getD .empty).WiresAmong given := by
      rw [show graph.getD .empty = .empty from hreset]
      exact Graph.wiresAmong_empty given
    exact (editor.history.allGraphs_reset hempty).append _

/-- The identifiers that are handed out in the course of turns. -/
def handedOut (editor : Editor L) : List (Turn L) → List L
  | [] => []
  | turn :: turns =>
    let next := editor.turn turn
    turn.supply.labelsUntil next.supply ++ next.handedOut turns

/-- The wires of a session have identifiers that were handed out in its course. -/
theorem wiresAmong_play (h : editor.history.AllGraphs (·.WiresAmong given)) {turns : List (Turn L)}
    (hresets : ∀ turn ∈ turns, turn.command.ResetsTo (· = .empty)) :
    (editor.play turns).history.AllGraphs (·.WiresAmong (given ++ editor.handedOut turns)) := by
  induction turns generalizing editor given with
  | nil => exact h.append _
  | cons turn turns ih =>
    obtain ⟨hturn, hturns⟩ := List.forall_mem_cons.1 hresets
    have hsame : { editor with supply := turn.supply }.history.AllGraphs (·.WiresAmong given) := h
    have hfirst := wiresAmong_perform hsame turn.catalog hturn
    have hrest := ih hfirst hturns
    rw [List.append_assoc] at hrest
    exact hrest

end Editor

/-! ### What is removed right after it was added -/

section Removal

variable {L : Type} [Label L] {graph : Graph L}

/-- Only the last item goes when all items under its key are removed, if the key is new. -/
theorem filter_key_concat {α : Type} (key : α → L) {items : List α} {item : α}
    (h : ∀ other ∈ items, (key other == key item) = false) :
    (items ++ [item]).filter (key · != key item) = items := by
  have hothers : items.filter (key · != key item) = items :=
    List.filter_eq_self.2 fun other hother => by rw [bne, h other hother]; rfl
  have hlast : [item].filter (key · != key item) = [] := by simp [bne]
  rw [List.filter_append, hothers, hlast, List.append_nil]

namespace Graph

theorem removeConnection_addConnection {connection : Connection L}
    (h : ∀ other ∈ graph.connections, (other.id == connection.id) = false) :
    (graph.addConnection connection).removeConnection connection.id = graph := by
  rw [removeConnection, addConnection, filter_key_concat Connection.id h]

theorem removeNode_addNode {node : Node L} (h : graph.node? node.id = none)
    (huntouched : ∀ connection ∈ graph.connections, connection.touches node.id = false) :
    (graph.addNode node).removeNode node.id = graph := by
  have hothers : ∀ other ∈ graph.nodes, (other.id == node.id) = false :=
    findNode?_eq_none_iff.1 h
  have hwires : graph.connections.filter (!·.touches node.id) = graph.connections :=
    List.filter_eq_self.2 fun connection hconnection => by simp [huntouched connection hconnection]
  rw [removeNode, addNode, filter_key_concat Node.id hothers, hwires]

theorem nodes_removeNode (graph : Graph Text) (id : Text) :
    (graph.removeNode id).nodes = graph.nodes.filter (·.id ≠ id) := by
  refine List.filter_congr fun node _ => ?_
  rw [Bool.eq_iff_iff]
  simp

theorem connections_removeNode (graph : Graph Text) (id : Text) :
    (graph.removeNode id).connections = graph.connections.filter (fun connection =>
      connection.sourceNode ≠ id ∧ connection.targetNode ≠ id) := by
  refine List.filter_congr fun connection _ => ?_
  rw [Bool.eq_iff_iff]
  simp [Connection.touches]

/-- No wire of a well-formed graph names a node that is not there. -/
theorem WellFormed.untouched (h : graph.WellFormed) {id : L} (hnone : graph.node? id = none) :
    ∀ connection ∈ graph.connections, connection.touches id = false := by
  intro connection hconnection
  obtain ⟨wire, hwire, -⟩ := h.wired connection hconnection
  obtain ⟨hsource, htarget, -⟩ := resolve?_eq_some_iff.1 hwire
  have hother : ∀ {tip : L} {node : Node L}, findNode? graph.nodes tip = some node →
      (tip == id) = false := by
    intro tip node hfound
    cases hsame : tip == id with
    | false => rfl
    | true =>
      rw [findNode?_congr graph.nodes hsame, ← node?, hnone] at hfound
      cases hfound
  rw [Connection.touches, hother hsource, hother htarget]
  rfl

end Graph

end Removal

namespace Editor

variable {editor : Editor Text}

theorem removeNode_of_node? {id : Text} {node : Node Text} (h : editor.graph.node? id = some node) :
    (editor.removeNode id).result = .ok node ∧
      (editor.removeNode id).editor.graph = editor.graph.removeNode id := by
  rcases editor.removeNode_cases id with ⟨hnone, -⟩ | ⟨found, hfound, hremoved⟩
  · rw [h] at hnone
    cases hnone
  · rw [h] at hfound
    cases hfound
    rw [hremoved]
    exact ⟨rfl, History.graph_commit _ _ _⟩

theorem disconnect_of_find? {id : Text} {connection : Connection Text}
    (h : editor.graph.connections.find? (·.id == id) = some connection) :
    (editor.disconnect id).result = .ok connection ∧
      (editor.disconnect id).editor.graph = editor.graph.removeConnection id := by
  rcases editor.disconnect_cases id with ⟨hnone, -⟩ | ⟨found, hfound, hremoved⟩
  · rw [h] at hnone
    cases hnone
  · rw [h] at hfound
    cases hfound
    rw [hremoved]
    exact ⟨rfl, History.graph_commit _ _ _⟩

/-- A wire under a new identifier is removed again by disconnecting it. -/
theorem disconnect_connect {ends : Endpoints Text} {connection : Connection Text}
    (hadded : (editor.connect ends).result = .ok (.added connection))
    (hnew : ∀ other ∈ editor.graph.connections, other.id ≠ connection.id) :
    let back := (editor.connect ends).editor.disconnect connection.id
    back.result = .ok connection ∧ back.editor.graph = editor.graph := by
  obtain ⟨-, -, -, hgraph⟩ := graph_connect_of_added hadded
  have hothers : ∀ other ∈ editor.graph.connections, (other.id == connection.id) = false :=
    fun other hother => beq_eq_false_iff_ne.2 (hnew other hother)
  have hfirst : editor.graph.connections.find? (·.id == connection.id) = none := by
    simpa using hnew
  have hfound : (editor.connect ends).editor.graph.connections.find? (·.id == connection.id) =
      some connection := by
    rw [hgraph, Graph.addConnection, List.find?_append, hfirst]
    simp
  obtain ⟨hresult, hback⟩ := disconnect_of_find? hfound
  rw [hgraph, Graph.removeConnection_addConnection hothers] at hback
  exact ⟨hresult, hback⟩

/-- A node that no wire names is removed again without anything else. -/
theorem removeNode_addNode {node added : Node Text}
    (hadded : (editor.addNode node).result = .ok added)
    (huntouched : ∀ id, editor.graph.node? id = none →
      ∀ connection ∈ editor.graph.connections, connection.touches id = false) :
    let back := (editor.addNode node).editor.removeNode added.id
    back.result = .ok added ∧ back.editor.graph = editor.graph := by
  obtain ⟨hnew, hgraph⟩ := graph_addNode hadded
  have hsame : added = node := by
    rcases editor.addNode_cases node with ⟨_, -, hfailed⟩ | ⟨-, hcommitted⟩
    · rw [hfailed] at hadded
      cases hadded
    · rw [hcommitted] at hadded
      cases hadded
      rfl
  rw [hsame]
  have hfound : (editor.addNode node).editor.graph.node? node.id = some node := by
    rw [hgraph]
    exact findNode?_concat hnew
  obtain ⟨hresult, hback⟩ := removeNode_of_node? hfound
  rw [hgraph, Graph.removeNode_addNode hnew (huntouched _ hnew)] at hback
  exact ⟨hresult, hback⟩

end Editor

/-- **Inverse edits restore the graph.** A session begins with the empty graph; any commands follow,
as long as resets lead back to it. If the next identifier was not handed out before, then a wire
that is accepted can be removed under its identifier, and the graph is as before. The same goes for
a node that is added; and removing a node leaves the nodes of other identifiers and the wires that
do not name it, in their order. -/
theorem inverse_edits_restore (limit : Int) (turns : List (Turn Text))
    (hresets : ∀ turn ∈ turns, turn.command.ResetsTo (· = .empty)) (supply : IdSupply)
    (hfresh : Label.ofText supply.next ∉ (Editor.start .empty limit).handedOut turns) :
    let editor : Editor Text := { (Editor.start .empty limit).play turns with supply }
    (∀ ends connection, (editor.connect ends).result = .ok (.added connection) →
      let back := (editor.connect ends).editor.disconnect connection.id
      back.result = .ok connection ∧ back.editor.graph = editor.graph) ∧
    (∀ node added, (editor.addNode node).result = .ok added →
      let back := (editor.addNode node).editor.removeNode added.id
      back.result = .ok added ∧ back.editor.graph = editor.graph) ∧
    ∀ id node, (editor.removeNode id).result = .ok node →
      let edited := (editor.removeNode id).editor.graph
      edited.name = editor.graph.name ∧
      edited.nodes = editor.graph.nodes.filter (·.id ≠ id) ∧
      edited.connections = editor.graph.connections.filter (fun connection =>
        connection.sourceNode ≠ id ∧ connection.targetNode ≠ id) ∧
      ∀ connection ∈ edited.connections,
        connection.sourceNode ≠ id ∧ connection.targetNode ≠ id := by
  intro editor
  have hgiven : editor.graph.WiresAmong ((Editor.start .empty limit).handedOut turns) := by
    have hstart : (Editor.start (.empty : Graph Text) limit).history.AllGraphs (·.WiresAmong []) :=
      History.allGraphs_start (Graph.wiresAmong_empty []) limit
    exact (Editor.wiresAmong_play hstart hresets).graph
  have hwell : editor.graph.WellFormed :=
    wellFormed_of_mem_session limit turns hresets _ (List.get_mem _ _)
  refine ⟨fun ends connection hadded => ?_, fun node added hadded => ?_, fun id node hremoved => ?_⟩
  · obtain ⟨proposal, hconnection, -⟩ := editor.exists_wireOf_of_added hadded
    refine Editor.disconnect_connect hadded fun other hother hid => hfresh ?_
    have hother := hgiven other hother
    rw [hid, hconnection] at hother
    exact hother
  · exact Editor.removeNode_addNode hadded fun id => hwell.untouched
  · rw [Editor.graph_removeNode hremoved]
    refine ⟨rfl, Graph.nodes_removeNode _ id, Graph.connections_removeNode _ id, ?_⟩
    intro connection hconnection
    rw [Graph.connections_removeNode] at hconnection
    simpa using (List.mem_filter.1 hconnection).2

/-- A mint feeds a vault under the first identifier of the supply; the wire is undone, redone, and
undone again. -/
def unwiredVault : List (Turn Text) :=
  let mint : Node Text := ⟨"mint", "token_mint", "Mint", [], [⟨"out", "Out", "number"⟩]⟩
  let vault : Node Text := ⟨"vault", "vault", "Vault", [⟨"in", "In", "string"⟩], []⟩
  [⟨⟨[]⟩, ⟨0⟩, .reset none⟩, ⟨⟨[]⟩, ⟨0⟩, .addNode mint⟩, ⟨⟨[]⟩, ⟨0⟩, .addNode vault⟩,
    ⟨⟨[]⟩, ⟨0⟩, .connect ⟨"mint", "out", "vault", "in"⟩⟩, ⟨⟨[]⟩, ⟨1⟩, .undo⟩, ⟨⟨[]⟩, ⟨1⟩, .redo⟩,
    ⟨⟨[]⟩, ⟨1⟩, .undo⟩]

/-- The wire is drawn again under the second identifier, and disconnected; or a fee is added, and
removed; or the mint is removed. -/
theorem inverse_edits_restore_unwiredVault :
    let editor : Editor Text := { (Editor.start .empty 10).play unwiredVault with supply := ⟨1⟩ }
    let fee : Node Text := ⟨"fee", "fee", "Fee", [], []⟩
    let wire : Endpoints Text := ⟨"mint", "out", "vault", "in"⟩
    let drawn : Connection Text := ⟨wire, Text.ofString (IdSupply.next ⟨1⟩)⟩
    (∀ turn ∈ unwiredVault, turn.command.ResetsTo (· = .empty)) ∧
    Label.ofText (IdSupply.next ⟨1⟩) ∉
      (Editor.start (.empty : Graph Text) 10).handedOut unwiredVault ∧
    (editor.connect wire).result = .ok (.added drawn) ∧
    ((editor.connect wire).editor.disconnect drawn.id).editor.graph = editor.graph ∧
    ((editor.addNode fee).editor.removeNode fee.id).editor.graph = editor.graph ∧
    ((editor.removeNode "mint").editor.graph.nodes.map (·.id)) = ["vault"] := by
  intro editor fee wire drawn
  have hresets : ∀ turn ∈ unwiredVault, turn.command.ResetsTo (· = .empty) := by
    simp [unwiredVault, Command.ResetsTo]
  have hfresh : Label.ofText (IdSupply.next ⟨1⟩) ∉
      (Editor.start (.empty : Graph Text) 10).handedOut unwiredVault := by decide
  have hadded : (editor.connect wire).result = .ok (.added drawn) := by decide
  obtain ⟨hconnect, haddNode, hremove⟩ := inverse_edits_restore 10 unwiredVault hresets ⟨1⟩ hfresh
  obtain ⟨-, hdisconnected⟩ := hconnect wire drawn hadded
  obtain ⟨-, hremoved⟩ := haddNode fee fee rfl
  obtain ⟨-, hnodes, -⟩ := hremove "mint" _ rfl
  refine ⟨hresets, hfresh, hadded, hdisconnected, hremoved, ?_⟩
  rw [hnodes]
  decide

end ModuleGraph
