import ModuleGraph.Proofs.Api.Sending
import ModuleGraph.Proofs.Document.Encoding
import ModuleGraph.Proofs.Document.Warnings
import ModuleGraph.Proofs.Session.WellFormed

/-!
# The document of a session

Nothing that requests do to a session keeps its graph from being compiled: no identifier is given
twice, no wire leads nowhere, and a strict inspection accepts the document that the server answers
with. The one thing that may fail is to send it: UTF-8 has no form for half of a surrogate pair, and
a name may hold one.

## Main definitions

- `Graph.Drawn` — what every graph of a served session satisfies
- `graphRequest`, `ShowsGraph` — the request for the graph, and what its answer should be

## Main statements

- `Graph.Drawn.revision` — every revision keeps it
- `inspect_true_encodeGraph` — a graph whose wires all resolve passes the strict inspection
- `response_graphRequest` — the answer to the request for the graph
- `not_showsGraph_halfNamed` — a graph that cannot be sent
- `session_document_strict` — the document of a session, and when it is sent
-/

namespace ModuleGraph

/-! ### Graphs of a session -/

/-- What every graph of a served session satisfies: it is well-formed, no identifier of a port or of
a wire is given twice, and those of the wires were handed out by the supply. -/
structure Graph.Drawn (supply : IdSupply) (graph : Graph Text) : Prop where
  wellFormed : graph.WellFormed
  ports : ∀ node ∈ graph.nodes, node.DistinctPorts
  connections : (graph.connections.map (·.id)).Nodup
  given : ∀ connection ∈ graph.connections, supply.HasGiven connection.id

namespace Graph

variable {supply : IdSupply} {graph edited : Graph Text}

theorem drawn_empty (supply : IdSupply) : (empty : Graph Text).Drawn supply where
  wellFormed := wellFormed_empty
  ports := by simp [empty]
  connections := List.nodup_nil
  given := by simp [empty]

theorem Drawn.advance (h : graph.Drawn supply) (count : Nat) :
    graph.Drawn (supply.advance count) where
  wellFormed := h.wellFormed
  ports := h.ports
  connections := h.connections
  given := fun connection hconnection => (h.given connection hconnection).advance count

/-- Nodes and wires may be taken away. -/
theorem Drawn.shrink (h : graph.Drawn supply) (hwellFormed : edited.WellFormed)
    (hnodes : edited.nodes ⊆ graph.nodes)
    (hconnections : edited.connections.Sublist graph.connections) : edited.Drawn supply where
  wellFormed := hwellFormed
  ports := fun node hnode => h.ports node (hnodes hnode)
  connections := h.connections.sublist (hconnections.map _)
  given := fun connection hconnection => h.given connection (hconnections.subset hconnection)

theorem Drawn.addWire (h : graph.Drawn supply) {proposal : Proposal Text}
    (hwellFormed : (graph.addConnection
      (History.wireOf proposal (Label.ofText supply.next))).WellFormed) :
    (graph.addConnection (History.wireOf proposal (Label.ofText supply.next))).Drawn
      (supply.advance 1) where
  wellFormed := hwellFormed
  ports := h.ports
  connections := by
    -- the identifiers of the wires that are there were handed out, and that of the new one was not
    have hnew : Label.ofText supply.next ∉ graph.connections.map (·.id) := by
      intro hmem
      obtain ⟨connection, hconnection, hid⟩ := List.mem_map.1 hmem
      exact supply.not_hasGiven_next (hid ▸ h.given connection hconnection)
    rw [addConnection, List.map_append, List.map_singleton, ← List.concat_eq_append]
    exact h.connections.concat hnew
  given := by
    refine List.forall_mem_append.2 ⟨(h.advance 1).given, ?_⟩
    intro connection hconnection
    cases List.mem_singleton.1 hconnection
    exact supply.hasGiven_next

/-- Every revision keeps what the graphs of a session satisfy. -/
theorem Drawn.revision (h : graph.Drawn supply) {count : Nat}
    (hrevision : graph.Revision supply edited count) : edited.Drawn (supply.advance count) := by
  have hwellFormed : edited.WellFormed := h.wellFormed.edit hrevision.edit
  cases hrevision with
  | addNode =>
    refine ⟨hwellFormed, List.forall_mem_append.2 ⟨h.ports, ?_⟩, h.connections, (h.advance _).given⟩
    intro node hnode
    cases List.mem_singleton.1 hnode
    rw [Node.DistinctPorts, map_id_ports_stampNode]
    exact IdSupply.nodup_labels _ _
  | removeNode => exact h.shrink hwellFormed List.filter_sublist.subset List.filter_sublist
  | addWire => exact h.addWire hwellFormed
  | removeWire => exact h.shrink hwellFormed (List.Subset.refl _) List.filter_sublist

theorem Drawn.distinct (h : graph.Drawn supply) : graph.Distinct where
  nodes := by
    rw [List.Nodup, List.pairwise_map]
    exact h.wellFormed.distinct.imp fun hother => by simpa using hother
  ports := h.ports
  connections := h.connections

theorem Drawn.isSome_resolve? (h : graph.Drawn supply) :
    ∀ connection ∈ graph.connections, (resolve? graph.nodes connection).isSome = true := by
  intro connection hconnection
  obtain ⟨wire, hwire, -⟩ := h.wellFormed.wired connection hconnection
  rw [hwire, Option.isSome_some]

end Graph

/-! ### Documents -/

namespace Document

/-- A graph without repeated identifiers whose wires all resolve passes the strict inspection. -/
theorem inspect_true_encodeGraph {graph : Graph Text} (hdistinct : graph.Distinct)
    (hwires : ∀ connection ∈ graph.connections, (resolve? graph.nodes connection).isSome = true)
    (programName : Option Text) : inspect true (encodeGraph graph programName) = ⟨[], none⟩ := by
  rw [inspect_true, inspect_encodeGraph hdistinct, (danglings_eq_nil_iff _ _).2 hwires]
  rfl

end Document

/-! ### The answer of the server -/

namespace Api

open Document (encodeGraph decodeGraph inspect inspect_true_encodeGraph decodeGraph_encodeGraph
  holdsUnbounded_encodeGraph)

/-- The request for the graph of the session. -/
def graphRequest : Request := ⟨"GET", "/api/graph", none⟩

variable (environment : Environment) (catalog : Catalog Text) (editor : Editor Text)

/-- The graph of the session is sent, unless its document holds half of a surrogate pair. -/
theorem response_graphRequest :
    (handle environment catalog editor graphRequest).response =
      if (encodeGraph editor.graph none).hasHalf then .error (.send .halfInResult)
      else .ok ⟨200, .graph editor.graph⟩ := by
  have hmethod : graphRequest.method.upper = "GET" := by decide
  have hpath : Destination.ofPath graphRequest.path = .found .graph := by decide
  have hsent : (⟨200, .graph editor.graph⟩ : Response Text).sendError? =
      if (encodeGraph editor.graph none).hasHalf then some .halfInResult else none := by
    rw [Response.sendError?]
    simp only [Content.encode?, holdsUnbounded_encodeGraph, isSuccess]
    cases (encodeGraph editor.graph none).hasHalf <;> rfl
  have hhandled : handle environment catalog editor graphRequest =
      (currentGraph editor).sent := by
    rw [handle, hmethod, hpath]
    rfl
  rw [hhandled, currentGraph, Handled.respond, Handled.sent, Except.bind, hsent]
  cases (encodeGraph editor.graph none).hasHalf <;> rfl

/-- The request for the graph is answered with a document which a strict inspection accepts and
which denotes the graph of the session. -/
def ShowsGraph : Prop :=
  ∃ response body, (handle environment catalog editor graphRequest).response = .ok response ∧
    response.content.encode? = some body ∧ (inspect true body).accepted = true ∧
    decodeGraph body = .ok editor.graph

/-- A request for a node whose name ends in half of a surrogate pair. -/
def halfNamed : Request :=
  ⟨"POST", "/api/graph/nodes", some (.text "\x7b\"kind\":\"token\",\"name\":\"A\\ud800\"\x7d")⟩

/-- The node is added, and from then on the graph cannot be sent. -/
theorem not_showsGraph_halfNamed :
    ¬ ShowsGraph [] .builtIn (serve [] .builtIn (.start .empty 100) [halfNamed]) := by
  rintro ⟨response, body, hresponse, -⟩
  have hhalf : (encodeGraph (serve [] .builtIn (.start (.empty : Graph Text) 100)
      [halfNamed]).graph none).hasHalf = true := by decide +kernel
  rw [response_graphRequest, if_pos hhalf] at hresponse
  cases hresponse

/-- **Every graph that a session can hold is accepted strictly.** A session begins with the empty
graph, under any limit. Whatever requests are served, the document of its graph passes the strict
inspection and denotes the graph. It is what the request for the graph is answered with, except that
an answer with half of a surrogate pair cannot be sent. -/
theorem session_document_strict (limit : Int) (supply : IdSupply) (requests : List Request) :
    let editor := serve environment catalog ⟨.start .empty limit, supply⟩ requests
    let body := encodeGraph editor.graph none
    inspect true body = ⟨[], none⟩ ∧
    decodeGraph body = .ok editor.graph ∧
    (Content.graph editor.graph).encode? = some body ∧
    (handle environment catalog editor graphRequest).response =
      if body.hasHalf then .error (.send .halfInResult) else .ok ⟨200, .graph editor.graph⟩ := by
  intro editor body
  have hstart : (History.start (.empty : Graph Text) limit).AllGraphs (Graph.Drawn supply) :=
    History.allGraphs_start (Graph.drawn_empty supply) limit
  have hall : editor.history.AllGraphs (Graph.Drawn editor.supply) := by
    refine allGraphs_serve environment catalog ?_ ?_ hstart requests
    · exact fun supply graph count hgraph => hgraph.advance count
    · exact fun supply graph edited count hgraph hrevision => hgraph.revision hrevision
  have hdrawn : editor.graph.Drawn editor.supply := hall.graph
  exact ⟨inspect_true_encodeGraph hdrawn.distinct hdrawn.isSome_resolve? none,
    decodeGraph_encodeGraph editor.graph none, rfl,
    response_graphRequest environment catalog editor⟩

end Api

end ModuleGraph
