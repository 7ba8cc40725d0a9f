import ModuleGraph.Proofs.Graph.Lookup
import ModuleGraph.Proofs.Graph.Verdict
import ModuleGraph.Proofs.Session.Commands

/-!
# Well-formed graphs

Edits do not judge again what is there already. Even so, whatever a session does, the graphs that
its history holds are well-formed: identifiers are not repeated, and every wire joins existing ports
of two different nodes whose types fit, at an input that no other wire feeds.

## Main definitions

- `Graph.WellFormed` — what every graph of a session satisfies
- `Graph.WellFormed.edit` — it is kept by every edit
- `wellFormed_of_mem_session` — it holds of every graph in the history of a session
-/

namespace ModuleGraph

variable {L : Type} [Label L]

/-- What every graph of a session satisfies. -/
structure Graph.WellFormed (graph : Graph L) : Prop where
  /-- No two nodes have the same identifier. -/
  distinct : graph.nodes.Pairwise fun node other => (node.id == other.id) = false
  /-- The ends of every wire exist, and their types fit. -/
  wired : ∀ connection ∈ graph.connections, ∃ wire, resolve? graph.nodes connection = some wire ∧
    PortType.feeds wire.sourcePort.type wire.targetPort.type = true
  /-- No wire joins a node to itself. -/
  straight : ∀ connection ∈ graph.connections,
    (connection.sourceNode == connection.targetNode) = false
  /-- No two wires feed the same input port. -/
  single : graph.connections.Pairwise fun connection other =>
    (connection.targetNode == other.targetNode && connection.targetPort == other.targetPort) = false

namespace Graph

variable {graph edited : Graph L}

theorem wellFormed_empty : (empty : Graph L).WellFormed where
  distinct := List.Pairwise.nil
  wired := by simp [empty]
  straight := by simp [empty]
  single := List.Pairwise.nil

/-! ### Nodes -/

theorem WellFormed.addNode (h : graph.WellFormed) {node : Node L}
    (hnew : graph.node? node.id = none) : (graph.addNode node).WellFormed where
  distinct := by
    have hother : ∀ other ∈ graph.nodes, (other.id == node.id) = false :=
      findNode?_eq_none_iff.1 hnew
    exact List.pairwise_append.2 ⟨h.distinct, List.pairwise_singleton _ _, by simpa using hother⟩
  wired := by
    intro connection hconnection
    obtain ⟨wire, hwire, hfeeds⟩ := h.wired connection hconnection
    exact ⟨wire, resolve?_append hwire [node], hfeeds⟩
  straight := h.straight
  single := h.single

theorem WellFormed.removeNode (h : graph.WellFormed) (id : L) :
    (graph.removeNode id).WellFormed where
  distinct := h.distinct.filter _
  wired := by
    intro connection hconnection
    obtain ⟨hconnection, hstays⟩ := List.mem_filter.1 hconnection
    obtain ⟨wire, hwire, hfeeds⟩ := h.wired connection hconnection
    have htouches : connection.touches id = false := by simpa using hstays
    -- the wires that stay do not name the node, so their ends are looked up as before.
    have hsame := resolve?_filter_id graph.nodes htouches
    exact ⟨wire, hsame.trans hwire, hfeeds⟩
  straight := fun connection hconnection => h.straight connection (List.mem_filter.1 hconnection).1
  single := h.single.filter _

/-! ### Wires -/

/-- The wire made from a proposal has the ends that were proposed. -/
theorem resolve?_wireOf {ends : Endpoints L} {proposal : Proposal L}
    (h : graph.propose ends = .ok proposal) (id : L) :
    resolve? graph.nodes (History.wireOf proposal id) =
      some ⟨History.wireOf proposal id, proposal.sourceNode, proposal.sourcePort,
        proposal.targetNode, proposal.targetPort⟩ := by
  obtain ⟨hsource, htarget, hsourcePort, htargetPort⟩ := propose_eq_ok_iff.1 h
  exact resolve?_eq_some_iff.2 ⟨findNode?_id hsource, findNode?_id htarget,
    Node.output?_id hsourcePort, Node.input?_id htargetPort, rfl⟩

theorem WellFormed.addWire (h : graph.WellFormed) {ends : Endpoints L} {proposal : Proposal L}
    (id : L) (hends : graph.propose ends = .ok proposal)
    (hverdict : proposal.verdict graph.connections = none) :
    (graph.addConnection (History.wireOf proposal id)).WellFormed := by
  obtain ⟨hloop, hfeeds, hfree⟩ := Proposal.verdict_eq_none_iff.1 hverdict
  refine ⟨h.distinct, ?_, ?_, ?_⟩
  · refine List.forall_mem_append.2 ⟨h.wired, ?_⟩
    intro connection hconnection
    cases List.mem_singleton.1 hconnection
    exact ⟨_, resolve?_wireOf hends id, hfeeds⟩
  · refine List.forall_mem_append.2 ⟨h.straight, ?_⟩
    intro connection hconnection
    cases List.mem_singleton.1 hconnection
    exact hloop
  · refine List.pairwise_append.2 ⟨h.single, List.pairwise_singleton _ _, ?_⟩
    intro connection hconnection other hother
    cases List.mem_singleton.1 hother
    exact hfree connection hconnection

theorem WellFormed.removeConnection (h : graph.WellFormed) (id : L) :
    (graph.removeConnection id).WellFormed where
  distinct := h.distinct
  wired := fun connection hconnection => h.wired connection (List.mem_filter.1 hconnection).1
  straight := fun connection hconnection => h.straight connection (List.mem_filter.1 hconnection).1
  single := h.single.filter _

/-- Every edit keeps a graph well-formed. -/
theorem WellFormed.edit (h : graph.WellFormed) (hedit : graph.Edit edited) : edited.WellFormed := by
  cases hedit with
  | addNode hnew => exact h.addNode hnew
  | removeNode => exact h.removeNode _
  | addWire id hends hverdict => exact h.addWire id hends hverdict
  | removeWire => exact h.removeConnection _

end Graph

/-! ### Sessions -/

/-- **The graphs of a session are well-formed.** A session begins with the empty graph, under any
limit. Whatever commands follow, with whatever templates and identifiers at hand, as long as resets
lead back to the empty graph: every graph in the history is well-formed. -/
theorem wellFormed_of_mem_session (limit : Int) (turns : List (Turn L))
    (hresets : ∀ turn ∈ turns, turn.command.ResetsTo (· = .empty)) :
    ∀ snapshot ∈ ((Editor.start .empty limit).play turns).history.snapshots,
      snapshot.graph.WellFormed := by
  have hstart : (Editor.start (.empty : Graph L) limit).history.AllGraphs Graph.WellFormed :=
    History.allGraphs_start Graph.wellFormed_empty limit
  have hleads := (Editor.start .empty limit).leads_play hresets
  refine hleads.allGraphs ?_ ?_ hstart
  · intro graph edited hgraph hedit
    exact hgraph.edit hedit
  · intro graph hempty
    rw [hempty]
    exact Graph.wellFormed_empty

/-- A mint feeds a vault. The vault is removed, the removal undone, the wire asked for once more,
and the vault removed for good and replaced by one that has no input. -/
def replacedVault : List (Turn Text) :=
  let mint : Node Text := ⟨"mint", "token_mint", "Mint", [], [⟨"out", "Out", "number"⟩]⟩
  let vault : Node Text := ⟨"vault", "vault", "Vault", [⟨"in", "In", "string"⟩], []⟩
  let wire : Endpoints Text := ⟨"mint", "out", "vault", "in"⟩
  [⟨⟨[]⟩, ⟨0⟩, .addNode mint⟩, ⟨⟨[]⟩, ⟨1⟩, .addNode vault⟩, ⟨⟨[]⟩, ⟨2⟩, .connect wire⟩,
    ⟨⟨[]⟩, ⟨3⟩, .removeNode "vault"⟩, ⟨⟨[]⟩, ⟨4⟩, .undo⟩, ⟨⟨[]⟩, ⟨5⟩, .connect wire⟩,
    ⟨⟨[]⟩, ⟨6⟩, .removeNode "vault"⟩, ⟨⟨[]⟩, ⟨7⟩, .addNode { vault with inputs := [] }⟩]

/-- The session just described holds six graphs, one of them with a wire. -/
theorem wellFormed_replacedVault :
    (∀ turn ∈ replacedVault, turn.command.ResetsTo (· = .empty)) ∧
    (((Editor.start .empty 100).play replacedVault).history.snapshots.map fun snapshot =>
      (snapshot.graph.nodes.length, snapshot.graph.connections.length)) =
        [(0, 0), (1, 0), (2, 0), (2, 1), (1, 0), (2, 0)] ∧
    ∀ snapshot ∈ ((Editor.start .empty 100).play replacedVault).history.snapshots,
      snapshot.graph.WellFormed := by
  have hresets : ∀ turn ∈ replacedVault, turn.command.ResetsTo (· = .empty) := by
    simp [replacedVault, Command.ResetsTo]
  exact ⟨hresets, by decide, wellFormed_of_mem_session 100 replacedVault hresets⟩

end ModuleGraph
