import ModuleGraph.Proofs.Flow.Coherence
import ModuleGraph.Proofs.Session.Proposals

/-!
# Edits and dependencies

Every edit of a graph is an operation on its table of dependencies: removing a node takes its
identifier out of the table, adding a wire adds one dependency, and adding a node adds an identifier
that has none. So a node that is removed leaves no cycle that was not there, and a wire closes one
only if its source depends on its target already.

## Main definitions

- `Dependencies.without` — the table without an identifier

## Main statements

- `dependencies_removeNode`, `dependencies_addConnection` — the table after an edit of a graph
- `transGen_of_one_more` — what is connected once a relation has one more pair
- `Graph.cycles_analyze_eq_nil_iff` — a graph has no cycles iff nothing in it depends on itself
- `Graph.cycles_addConnection_ne_nil_iff` — when a wire closes a cycle
- `dependencies_after_edits` — all of this for the edits of a session
-/

namespace ModuleGraph

open Relation (ReflTransGen TransGen)

variable {L : Type} [Label L] {nodes : List (Node L)} {connections : List (Connection L)}

/-- The table without an identifier: neither is it listed, nor does anything depend on it. -/
def Dependencies.without (table : Dependencies L) (removed : L) : Dependencies L :=
  (table.filter (·.1 != removed)).map fun (id, sources) => (id, sources.filter (· != removed))

/-! ### A node is removed -/

/-- The wires that stay when a node is removed are those without an end at it. -/
theorem resolved_removeNode (nodes : List (Node L)) (connections : List (Connection L))
    (removed : L) :
    resolved (nodes.filter (·.id != removed)) (connections.filter (!·.touches removed)) =
      (resolved nodes connections).filter (!·.reaches removed) := by
  rw [resolved, resolved, List.filterMap_filter, List.filter_filterMap]
  refine List.filterMap_congr fun connection _ => ?_
  cases htouches : connection.touches removed with
  | true =>
    rw [if_neg (by simp)]
    cases hwire : resolve? nodes connection with
    | none => rfl
    | some wire => simp [Option.filter, reaches_eq_touches hwire, htouches]
  | false =>
    rw [if_pos (by simp), resolve?_filter_id nodes htouches]
    cases hwire : resolve? nodes connection with
    | none => rfl
    | some wire => simp [Option.filter, reaches_eq_touches hwire, htouches]

variable [LawfulBEq L]

theorem distinctIds_filter_id (nodes : List (Node L)) (removed : L) :
    distinctIds (nodes.filter (·.id != removed)) = (distinctIds nodes).filter (· != removed) := by
  rw [distinctIds, distinctIds, ← eraseDups_filter, List.filter_map]
  rfl

/-- Without the wires at a node, the others have the same sources but for this node. -/
theorem sourcesInto_filter (wires : List (Resolved L)) {id removed : L} (h : id ≠ removed) :
    sourcesInto (wires.filter (!·.reaches removed)) id =
      (sourcesInto wires id).filter (· != removed) := by
  rw [sourcesInto, sourcesInto, ← eraseDups_filter, List.filter_map, List.filter_filter,
    List.filter_filter]
  congr 2
  refine List.filter_congr fun wire _ => ?_
  by_cases htarget : wire.targetNode.id = id
  · simp [Resolved.reaches, htarget, h, bne]
  · simp [beq_eq_false_iff_ne.2 htarget]

theorem dependencies_removeNode (nodes : List (Node L)) (connections : List (Connection L))
    (removed : L) :
    dependencies (nodes.filter (·.id != removed)) (connections.filter (!·.touches removed)) =
      (dependencies nodes connections).without removed := by
  rw [dependencies_eq, dependencies_eq, resolved_removeNode, distinctIds_filter_id,
    Dependencies.without, List.filter_map, List.map_map]
  refine List.map_congr_left fun id hid => ?_
  have hother : id ≠ removed := by simpa using (List.mem_filter.1 hid).2
  rw [sourcesInto_filter _ hother]
  rfl

/-! ### A wire is added -/

/-- A connection that resolves is the last of the wires when it is added. -/
theorem resolved_addConnection (connections : List (Connection L)) {connection : Connection L}
    (h : (resolve? nodes connection).isSome) :
    ∃ wire, resolved nodes (connections ++ [connection]) = resolved nodes connections ++ [wire] ∧
      wire.sourceNode.id = connection.sourceNode ∧
      wire.targetNode.id = connection.targetNode := by
  obtain ⟨wire, hwire⟩ := Option.isSome_iff_exists.1 h
  obtain ⟨hsource, htarget, -⟩ := resolve?_eq_some_iff.1 hwire
  refine ⟨wire, ?_, eq_of_beq (beq_of_findNode? hsource), eq_of_beq (beq_of_findNode? htarget)⟩
  rw [resolved, List.filterMap_append, List.filterMap_cons_some hwire]
  rfl

theorem dependencies_addConnection {connection : Connection L}
    (h : (resolve? nodes connection).isSome) :
    dependencies nodes (connections ++ [connection]) =
      (dependencies nodes connections).add connection.targetNode connection.sourceNode := by
  obtain ⟨wire, hwires, hsource, htarget⟩ := resolved_addConnection connections h
  rw [dependencies, hwires, List.foldl_append, List.foldl_cons, List.foldl_nil, hsource, htarget]
  rfl

/-! ### Relations with more pairs -/

/-- What is connected once a relation has one more pair: either it was before, or the new pair leads
from what the first is connected with to what is connected with the second. -/
theorem transGen_of_one_more {α : Type} {r s : α → α → Prop} {first second : α}
    (h : ∀ a b, s a b → r a b ∨ a = first ∧ b = second) {a b : α} (hab : TransGen s a b) :
    TransGen r a b ∨ ReflTransGen r a first ∧ ReflTransGen r second b := by
  induction hab with
  | single hstep =>
    rcases h _ _ hstep with hold | ⟨rfl, rfl⟩
    · exact .inl (.single hold)
    · exact .inr ⟨.refl, .refl⟩
  | tail _ hstep ih =>
    rcases h _ _ hstep with hold | ⟨rfl, rfl⟩
    · exact ih.imp (fun hbefore => hbefore.tail hold) fun ⟨hto, hfrom⟩ => ⟨hto, hfrom.tail hold⟩
    · exact .inr ⟨ih.elim TransGen.to_reflTransGen And.left, .refl⟩

omit [LawfulBEq L] in
/-- Fewer direct dependencies make no new rings. -/
theorem Dependencies.IsRing.mono {table other : Dependencies L} {ring : List L}
    (hsub : ∀ id dependency, table.Direct id dependency → other.Direct id dependency)
    (h : table.IsRing ring) : other.IsRing ring where
  ne_nil := h.ne_nil
  linked := h.linked.imp hsub
  closed := fun last hlast first hfirst => hsub _ _ (h.closed last hlast first hfirst)

/-! ### Edits of graphs -/

namespace Graph

variable {graph : Graph L} {connection : Connection L} {id dependency : L}

theorem direct_iff :
    graph.analyze.dependencies.Direct id dependency ↔
      ∃ wire ∈ resolved graph.nodes graph.connections,
        wire.targetNode.id = id ∧ wire.sourceNode.id = dependency := by
  have hlisted := of_dependencies graph.nodes graph.connections id
  rw [Dependencies.Direct, Graph.analyze, ModuleGraph.analyze, hlisted, mem_sourcesInto]

/-- A graph has no cycles iff nothing in it depends on itself. -/
theorem cycles_analyze_eq_nil_iff :
    graph.analyze.cycles = [] ↔ ∀ id, ¬TransGen graph.analyze.dependencies.Direct id id := by
  refine cycles_eq_nil_iff.trans ⟨fun hacyclic id hloop => ?_, fun hacyclic id _ => hacyclic id⟩
  -- what depends on something is a node, so the walk begins at it
  obtain ⟨dependency, hdirect, -⟩ := TransGen.head'_iff.1 hloop
  obtain ⟨wire, hwire, rfl, -⟩ := direct_iff.1 hdirect
  exact hacyclic _ (.root (id_targetNode_mem hwire)) hloop

/-- What depends on something without a node does so with it. -/
theorem direct_of_removeNode {removed : L}
    (h : (graph.removeNode removed).analyze.dependencies.Direct id dependency) :
    graph.analyze.dependencies.Direct id dependency := by
  obtain ⟨wire, hwire, hends⟩ := direct_iff.1 h
  rw [removeNode, resolved_removeNode] at hwire
  exact direct_iff.2 ⟨wire, (List.mem_filter.1 hwire).1, hends⟩

/-- A node that is removed leaves no cycle that was not there. -/
theorem cycles_removeNode_eq_nil (removed : L) (h : graph.analyze.cycles = []) :
    (graph.removeNode removed).analyze.cycles = [] := by
  rw [cycles_analyze_eq_nil_iff] at h ⊢
  exact fun id hloop => h id (TransGen.mono (fun _ _ => direct_of_removeNode) id id hloop)

/-- With one more wire, its target also depends on its source. -/
theorem direct_addConnection_iff (h : (resolve? graph.nodes connection).isSome) :
    (graph.addConnection connection).analyze.dependencies.Direct id dependency ↔
      graph.analyze.dependencies.Direct id dependency ∨
        id = connection.targetNode ∧ dependency = connection.sourceNode := by
  obtain ⟨wire, hwires, hsource, htarget⟩ := resolved_addConnection graph.connections h
  simp only [direct_iff, addConnection, hwires, List.mem_append, List.mem_singleton, or_and_right,
    exists_or, exists_eq_left, hsource, htarget]
  rw [eq_comm (a := connection.targetNode), eq_comm (a := connection.sourceNode)]

/-- In a graph without cycles, a wire between two nodes closes one iff its source depends on its
target already. -/
theorem cycles_addConnection_ne_nil_iff (h : (resolve? graph.nodes connection).isSome)
    (hends : connection.sourceNode ≠ connection.targetNode) (hnone : graph.analyze.cycles = []) :
    (graph.addConnection connection).analyze.cycles ≠ [] ↔
      TransGen graph.analyze.dependencies.Direct connection.sourceNode connection.targetNode := by
  rw [cycles_analyze_eq_nil_iff] at hnone
  rw [Ne, cycles_analyze_eq_nil_iff, not_forall_not]
  constructor
  · rintro ⟨id, hloop⟩
    rcases transGen_of_one_more (fun _ _ => (direct_addConnection_iff h).1) hloop with
      hbefore | ⟨hto, hfrom⟩
    · exact absurd hbefore (hnone id)
    · exact (Relation.reflTransGen_iff_eq_or_transGen.1 (hfrom.trans hto)).resolve_left hends.symm
  · intro hneeds
    refine ⟨connection.targetNode, .head ((direct_addConnection_iff h).2 (.inr ⟨rfl, rfl⟩)) ?_⟩
    exact TransGen.mono (fun _ _ hold => (direct_addConnection_iff h).2 (.inl hold)) _ _ hneeds

end Graph

/-! ### Edits of a session -/

namespace Editor

omit [LawfulBEq L] in
theorem graph_removeNode {editor : Editor L} {id : L} {node : Node L}
    (h : (editor.removeNode id).result = .ok node) :
    (editor.removeNode id).editor.graph = editor.graph.removeNode id := by
  rcases editor.removeNode_cases id with ⟨-, hfailed⟩ | ⟨found, -, hremoved⟩
  · rw [hfailed] at h
    cases h
  · rw [hremoved]
    exact History.graph_commit _ _ _

omit [LawfulBEq L] in
theorem graph_addNode {editor : Editor L} {node added : Node L}
    (h : (editor.addNode node).result = .ok added) :
    editor.graph.node? node.id = none ∧
      (editor.addNode node).editor.graph = editor.graph.addNode node := by
  rcases editor.addNode_cases node with ⟨_, -, hfailed⟩ | ⟨hnew, hadded⟩
  · rw [hfailed] at h
    cases h
  · rw [hadded]
    exact ⟨hnew, History.graph_commit _ _ _⟩

/-- A wire that is accepted joins two nodes that exist. -/
theorem graph_connect_of_added {editor : Editor Text} {ends : Endpoints Text}
    {connection : Connection Text} (h : (editor.connect ends).result = .ok (.added connection)) :
    connection.toEndpoints = ends ∧
    (resolve? editor.graph.nodes connection).isSome ∧
    connection.sourceNode ≠ connection.targetNode ∧
    (editor.connect ends).editor.graph = editor.graph.addConnection connection := by
  rcases editor.connect_cases ends with ⟨error, -, hconnect⟩ | ⟨reason, log, -, hconnect⟩ |
    ⟨added, hjudged, rfl, hresult, hgraph⟩
  · rw [hconnect] at h
    cases h
  · rw [hconnect] at h
    cases h
  · rw [hresult] at h
    cases h
    obtain ⟨proposal, hproposed, hverdict⟩ := Graph.judge_eq_ok_iff.1 hjudged
    obtain ⟨hsource, htarget, hsourcePort, htargetPort⟩ := Graph.propose_eq_ok_iff.1 hproposed
    have hresolved : resolve? editor.graph.nodes connection = some ⟨connection,
        proposal.sourceNode, proposal.sourcePort, proposal.targetNode, proposal.targetPort⟩ :=
      resolve?_eq_some_iff.2 ⟨hsource, htarget, hsourcePort, htargetPort, rfl⟩
    have hstraight : proposal.endpoints.sourceNode ≠ proposal.endpoints.targetNode :=
      ne_of_beq_false (Proposal.verdict_eq_none_iff.1 hverdict).1
    rw [Graph.endpoints_of_propose hproposed] at hstraight
    exact ⟨rfl, Option.isSome_of_eq_some hresolved, hstraight, hgraph⟩

end Editor

/-- **Edits of a session act on its dependencies.** When a node is removed, its identifier is taken
out of the table of dependencies, and no cycle arises. When a wire is accepted, its target also
depends on its source, and a graph without cycles gets one iff the source depends on the target
already. When a node is added that no wire names, it is listed last, with no dependencies. -/
theorem dependencies_after_edits (editor : Editor Text) :
    (∀ id node, (editor.removeNode id).result = .ok node →
      let edited := (editor.removeNode id).editor.graph
      edited.analyze.dependencies = editor.graph.analyze.dependencies.without id ∧
      (∀ ring, edited.analyze.dependencies.IsRing ring →
        editor.graph.analyze.dependencies.IsRing ring) ∧
      (editor.graph.analyze.cycles = [] → edited.analyze.cycles = [])) ∧
    (∀ ends connection, (editor.connect ends).result = .ok (.added connection) →
      let edited := (editor.connect ends).editor.graph
      edited.analyze.dependencies =
        editor.graph.analyze.dependencies.add ends.targetNode ends.sourceNode ∧
      (editor.graph.analyze.cycles = [] → (edited.analyze.cycles ≠ [] ↔
        TransGen editor.graph.analyze.dependencies.Direct ends.sourceNode ends.targetNode))) ∧
    (∀ node added, (editor.addNode node).result = .ok added →
      (∀ connection ∈ editor.graph.connections, connection.touches node.id = false) →
        (editor.addNode node).editor.graph.analyze.dependencies =
          editor.graph.analyze.dependencies ++ [(node.id, [])]) := by
  refine ⟨fun id node hremoved => ?_, fun ends connection hadded => ?_, ?_⟩
  · rw [Editor.graph_removeNode hremoved]
    exact ⟨dependencies_removeNode _ _ id, fun ring => .mono fun _ _ => Graph.direct_of_removeNode,
      Graph.cycles_removeNode_eq_nil id⟩
  · obtain ⟨rfl, hresolves, hstraight, hgraph⟩ := Editor.graph_connect_of_added hadded
    rw [hgraph]
    exact ⟨dependencies_addConnection hresolves,
      Graph.cycles_addConnection_ne_nil_iff hresolves hstraight⟩
  · intro node added hadded huntouched
    obtain ⟨hnew, hgraph⟩ := Editor.graph_addNode hadded
    rw [hgraph]
    exact dependencies_addNode hnew huntouched

/-- A mint feeds a vault, which feeds a fee; the vault is listed again, without its ports, and a
wire comes from a node that is not there. -/
def vaultTwice : Editor Text :=
  let into : Port Text := ⟨"in", "In", "number"⟩
  let out : Port Text := ⟨"out", "Out", "number"⟩
  .start ⟨"bank",
    [⟨"mint", "token_mint", "Mint", [into], [out]⟩, ⟨"vault", "vault", "Vault", [into], [out]⟩,
      ⟨"vault", "vault", "Vault", [], []⟩, ⟨"fee", "fee", "Fee", [into], [out]⟩],
    [⟨⟨"mint", "out", "vault", "in"⟩, "c1"⟩, ⟨⟨"vault", "out", "fee", "in"⟩, "c2"⟩,
      ⟨⟨"ghost", "out", "fee", "in"⟩, "c3"⟩]⟩ 10

/-- The vault is removed; or a wire from the fee to the mint closes a cycle; or a node is added. -/
theorem dependencies_after_edits_vaultTwice :
    let back : Endpoints Text := ⟨"fee", "out", "mint", "in"⟩
    let rent : Node Text := ⟨"rent", "sysvar", "Rent", [], []⟩
    let table : Dependencies Text := [("mint", []), ("vault", ["mint"]), ("fee", ["vault"])]
    let unvaulted : Dependencies Text := [("mint", []), ("fee", [])]
    let circular : Dependencies Text := [("mint", ["fee"]), ("vault", ["mint"]), ("fee", ["vault"])]
    vaultTwice.graph.analyze.dependencies = table ∧
    (vaultTwice.removeNode "vault").editor.graph.analyze.dependencies = unvaulted ∧
    (vaultTwice.removeNode "vault").editor.graph.analyze.cycles = [] ∧
    (vaultTwice.connect back).editor.graph.analyze.dependencies = circular ∧
    (vaultTwice.connect back).editor.graph.analyze.cycles ≠ [] ∧
    (vaultTwice.addNode rent).editor.graph.analyze.dependencies = table ++ [(rent.id, [])] := by
  intro back rent table unvaulted circular
  obtain ⟨hremove, hconnect, hadd⟩ := dependencies_after_edits vaultTwice
  have htable : vaultTwice.graph.analyze.dependencies = table := by decide
  have hnone : vaultTwice.graph.analyze.cycles = [] := by cbv
  have hneeds : TransGen vaultTwice.graph.analyze.dependencies.Direct "fee" "mint" := by
    have hfee : ("vault" : Text) ∈ table.of "fee" := by decide
    have hvault : ("mint" : Text) ∈ table.of "vault" := by decide
    rw [htable]
    exact .tail (.single hfee) hvault
  obtain ⟨hwithout, -, hstill⟩ := hremove "vault" _ rfl
  obtain ⟨hmore, hcycles⟩ := hconnect back _ rfl
  have hlast := hadd rent _ rfl (by decide)
  rw [htable] at hwithout hmore hlast
  exact ⟨htable, hwithout, hstill hnone, hmore, (hcycles hnone).2 hneeds, hlast⟩

end ModuleGraph
