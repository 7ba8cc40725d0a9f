import ModuleGraph.Document.Encode
import ModuleGraph.Proofs.Document.Inspection
import ModuleGraph.Proofs.Graph.Lookup
import ModuleGraph.Schedule.Build

/-!
# Wires that lead nowhere

An inspection looks for the ends of a wire among the identifiers that nodes declare, and graphs look
for them among the nodes. On every document that passes the inspection both find the same, so that
what the inspection notes is what the schedule of the graph passes over.

## Main definitions

- `skipRecord` — what the schedule of a graph says of so many connections passed over

## Main statements

- `declares_of` — looking among what nodes declare is looking among their ports
- `dangling?_eq_none_iff` — a wire is not noted exactly if it resolves
- `mem_danglings_iff`, `length_danglings_add`, `danglings_eq_nil_iff` — the wires noted in a graph
- `inspect_agrees_with_resolution` — the documents that pass, the graphs read from them, and the
  wires noted
-/

namespace ModuleGraph.Document

/-! ### One wire -/

/-- Looking for a port among what the nodes declare on one side is looking for it among their ports
on that side. -/
theorem declares_of (ports : Declared → List Text) (side : Node Text → List (Port Text))
    (hside : ∀ node, ports (Declared.of node) = (side node).map (·.id))
    (nodes : List (Node Text)) (id port : Text) :
    declares (nodes.map Declared.of) ports id port =
      ((findNode? nodes id).bind fun node => (side node).find? (·.id == port)).isSome := by
  have hfind : (nodes.map Declared.of).find? (·.id == id) =
      (findNode? nodes id).map Declared.of := List.find?_map
  rw [declares, hfind]
  cases findNode? nodes id with
  | none => rfl
  | some node =>
    simp only [Option.map_some, Option.bind_some, hside, List.isSome_find?]
    rw [List.contains_eq_any_beq, List.any_map]
    congr 1
    funext port'
    exact BEq.comm

/-- A wire is not noted exactly if it resolves. -/
theorem dangling?_eq_none_iff (nodes : List (Node Text)) (index : Nat)
    (connection : Connection Text) :
    dangling? (nodes.map Declared.of) index connection.toEndpoints = none ↔
      (resolve? nodes connection).isSome = true := by
  have hsource : declares (nodes.map Declared.of) (·.outputs) connection.sourceNode
      connection.sourcePort =
        ((findNode? nodes connection.sourceNode).bind (·.output? connection.sourcePort)).isSome :=
    declares_of (·.outputs) (·.outputs) (fun _ => rfl) nodes _ _
  have htarget : declares (nodes.map Declared.of) (·.inputs) connection.targetNode
      connection.targetPort =
        ((findNode? nodes connection.targetNode).bind (·.input? connection.targetPort)).isSome :=
    declares_of (·.inputs) (·.inputs) (fun _ => rfl) nodes _ _
  rw [isSome_resolve?, ← hsource, ← htarget]
  simp only [dangling?]
  cases declares (nodes.map Declared.of) (·.outputs) connection.sourceNode
      connection.sourcePort <;>
    cases declares (nodes.map Declared.of) (·.inputs) connection.targetNode
      connection.targetPort <;> simp

theorem index_of_dangling? {nodes : List Declared} {index : Nat} {ends : Endpoints Text}
    {wire : Dangling} (h : dangling? nodes index ends = some wire) : wire.index = index := by
  simp only [dangling?] at h
  split at h
  · cases h
    rfl
  · cases h

/-! ### All wires -/

theorem mem_danglings_iff {nodes : List Declared} {connections : List (Connection Text)}
    {index : Nat} :
    (∃ wire ∈ danglings nodes 0 connections, wire.index = index) ↔
      ∃ connection, connections[index]? = some connection ∧
        dangling? nodes index connection.toEndpoints ≠ none := by
  simp only [danglings, List.mem_filterMap, Prod.exists, List.mk_mem_zipIdx_iff_getElem?]
  constructor
  · rintro ⟨wire, ⟨connection, position, hconnection, hwire⟩, rfl⟩
    rw [index_of_dangling? hwire]
    exact ⟨connection, hconnection, by simp [hwire]⟩
  · rintro ⟨connection, hconnection, hdangling⟩
    obtain ⟨wire, hwire⟩ := Option.ne_none_iff_exists'.1 hdangling
    exact ⟨wire, ⟨connection, index, hconnection, hwire⟩, index_of_dangling? hwire⟩

/-- Every connection is noted or resolves. -/
theorem length_danglings_add (nodes : List (Node Text)) (index : Nat)
    (connections : List (Connection Text)) :
    (danglings (nodes.map Declared.of) index connections).length +
      (resolved nodes connections).length = connections.length := by
  induction connections generalizing index with
  | nil => rfl
  | cons connection connections ih =>
    have hrest := ih (index + 1)
    have hiff := dangling?_eq_none_iff nodes index connection
    simp only [danglings, resolved, List.zipIdx_cons, List.filterMap_cons] at hrest ⊢
    cases hwire : resolve? nodes connection <;>
      cases hdangling : dangling? (nodes.map Declared.of) index connection.toEndpoints <;>
        simp_all <;> omega

theorem danglings_eq_nil_iff (nodes : List (Node Text)) (connections : List (Connection Text)) :
    danglings (nodes.map Declared.of) 0 connections = [] ↔
      ∀ connection ∈ connections, (resolve? nodes connection).isSome = true := by
  rw [← List.filterMap_length_eq_length, ← List.length_eq_zero_iff]
  have h := length_danglings_add nodes 0 connections
  rw [resolved] at h
  omega

/-! ### Documents -/

/-- What the schedule of a graph says of so many connections passed over. -/
def skipRecord (count : Nat) : Log :=
  if count = 0 then []
  else [⟨.schedule, .debug, s!"Skipping {count} connection(s) with unresolved endpoints"⟩]

/-- **The inspection and the resolution of wires agree.** Every document that passes the inspection
is read as a graph, whose identifiers are not repeated. The positions of the wires noted are those
of the connections that do not resolve, one for one, and the schedule of the graph passes over as
many. A strict inspection accepts the document exactly if every connection resolves. -/
theorem inspect_agrees_with_resolution {value : Json}
    (h : (inspect false value).accepted = true) :
    ∃ graph : Graph Text, decodeGraph value = .ok graph ∧ graph.Distinct ∧
      (∀ index, (∃ wire ∈ (inspect false value).warnings, wire.index = index) ↔
        ∃ connection, graph.connections[index]? = some connection ∧
          resolve? (indexNodes graph.nodes) connection = none) ∧
      (inspect false value).warnings.length =
        graph.connections.length - (resolved graph.nodes graph.connections).length ∧
      skipLog graph.nodes graph.connections =
        skipRecord (inspect false value).warnings.length ∧
      ((inspect true value).accepted = true ↔
        ∀ connection ∈ graph.connections, (resolve? graph.nodes connection).isSome = true) := by
  have hclean : inspect false value = ⟨(inspect false value).warnings, none⟩ := by
    rw [Inspection.accepted, Option.isNone_iff_eq_none] at h
    rw [← h]
  obtain ⟨graph, hgraph, hdistinct, -, hwarnings⟩ := inspect_false_eq_iff.1 hclean
  have hcount : (inspect false value).warnings.length =
      graph.connections.length - (resolved graph.nodes graph.connections).length := by
    rw [← hwarnings]
    have := length_danglings_add graph.nodes 0 graph.connections
    omega
  refine ⟨graph, decodeGraph_eq_ok hgraph, hdistinct, ?_, hcount, ?_, ?_⟩
  · intro index
    rw [← hwarnings, mem_danglings_iff]
    simp only [ne_eq, dangling?_eq_none_iff, resolve?_indexNodes,
      Option.not_isSome_iff_eq_none]
  · rw [hcount]
    rfl
  · rw [inspect_true, Inspection.accepted_harden_iff, ← hwarnings, danglings_eq_nil_iff]
    simp [h]

/-- A mint feeds a vault. Of the three wires one joins an output to an input, one leaves the mint by
a port that it has not, and one comes from a node that is not there. -/
def looseEnds : Json :=
  let out : Port Text := ⟨"out", "Out", "number"⟩
  let into : Port Text := ⟨"in", "In", "number"⟩
  let wires : List (Connection Text) :=
    [⟨⟨"mint", "out", "vault", "in"⟩, "w1"⟩, ⟨⟨"mint", "in", "vault", "in"⟩, "w2"⟩,
      ⟨⟨"gone", "out", "vault", "in"⟩, "w3"⟩]
  .object
    [("nodes", .array
        [.object [("id", .string "mint"), ("kind", .string "token_mint"),
          ("name", .string "Mint"), ("outputs", .array [encodePort out])],
        .object [("id", .string "vault"), ("type", .string "vault"),
          ("name", .string "Vault"), ("inputs", .array [encodePort into])]]),
      ("connections", .array (wires.map encodeConnection))]

theorem inspect_agrees_with_resolution_looseEnds :
    (inspect false looseEnds).accepted = true ∧
      (inspect false looseEnds).warnings.map (·.index) = [1, 2] ∧
      ∃ graph : Graph Text, decodeGraph looseEnds = .ok graph ∧ graph.Distinct ∧
        (∃ connection, graph.connections[2]? = some connection ∧
          resolve? (indexNodes graph.nodes) connection = none) ∧
        ¬ ∀ connection ∈ graph.connections, (resolve? graph.nodes connection).isSome = true := by
  have haccepted : (inspect false looseEnds).accepted = true := by decide
  have hstrict : (inspect true looseEnds).accepted = false := by decide
  obtain ⟨graph, hgraph, hdistinct, hwarned, -, -, hresolve⟩ :=
    inspect_agrees_with_resolution haccepted
  refine ⟨haccepted, by decide, graph, hgraph, hdistinct, (hwarned 2).1 (by decide), ?_⟩
  intro hall
  rw [hresolve.2 hall] at hstrict
  cases hstrict

end ModuleGraph.Document
