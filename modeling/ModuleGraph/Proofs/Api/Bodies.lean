import ModuleGraph.Api.Server
import ModuleGraph.Proofs.Document.Encoding

/-!
# What bodies denote

A body that denotes a part of a graph is taken for that part, wherever it stands in a request. Other
than a document, a body has the kind of a node under `type` only. A graph that was posted is dumped
to a document and read from that: what is read is what was posted.

## Main definitions

- `TypedNodes` — every node of a document has its kind under `type`
- `DenotesEnds` — a body that names the ends of a wire

## Main statements

- `graphBody_eq_value` — a graph is read from a body as it is from a document
- `toGraph_eq_ok`, `onGraph_eq` — the body of a graph is dumped, and read back
- `edgeBody_eq_value`, `validateBody_eq_value`, `analyzeBody_eq_value`, `generateBody_eq_value` —
  the bodies of requests
-/

namespace ModuleGraph.Api

open Document (HasLabel DenotesList DenotesPort DenotesNode DenotesConnection DenotesGraph nodeKind)

/-! ### Members -/

section Members

variable {path : List Step} {body : Json} {key : String}

theorem requiredText_eq_value {text : Text} (h : HasLabel body key text) :
    requiredText path body key = .value text := by
  rw [HasLabel] at h
  rw [requiredText, h]
  rfl

theorem requiredLabel_eq_value {label : Text} (h : HasLabel body key label) :
    (requiredLabel path body key : Checked Text) = .value label := by
  rw [requiredLabel, requiredText_eq_value h]
  rfl

theorem itemsFrom_eq_value {α : Type} {part : List Step → Json → Checked α} {items : List Json}
    {parts : List α} (position : Nat)
    (h : List.Forall₂ (fun item value => ∀ path, part path item = .value value) items parts) :
    itemsFrom part path position items = .value parts := by
  induction h generalizing position with
  | nil => rfl
  | cons hpart _ ih =>
    rw [itemsFrom, hpart, ih]
    rfl

/-- A list that is absent has no items. -/
theorem listOf_eq_value {α : Type} {part : List Step → Json → Checked α} {parts : List α}
    {Denotes : Json → α → Prop}
    (hpart : ∀ item value, Denotes item value → ∀ path, part path item = .value value)
    (h : DenotesList Denotes ((body.field? key).getD (.array [])) parts) :
    listOf part path body key = .value parts := by
  obtain ⟨items, hitems, hparts⟩ := h
  rw [listOf]
  cases hfield : body.field? key with
  | none =>
    rw [hfield] at hitems
    cases hitems
    cases hparts
    rfl
  | some list =>
    rw [hfield] at hitems
    cases hitems
    exact itemsFrom_eq_value 0 (hparts.imp hpart)

/-- What has a member is an object. -/
theorem objectBody_eq {α : Type} {part : List Step → Json → Checked α} {member : Json}
    (h : body.field? key = some member) : objectBody part path body = part path body := by
  cases body with
  | object members => rfl
  | _ => cases h

end Members

/-! ### Parts -/

theorem portBody_eq_value (body : Json) (port : Port Text) (h : DenotesPort body port)
    (path : List Step) : portBody path body = .value port := by
  rw [portBody, objectBody_eq h.id, requiredText_eq_value h.id, requiredText_eq_value h.name,
    requiredText_eq_value h.type]
  rfl

theorem nodeBody_eq_value (body : Json) (node : Node Text)
    (h : DenotesNode body node ∧ (body.field? "type").isSome = true) (path : List Step) :
    nodeBody path body = .value node := by
  obtain ⟨hnode, htyped⟩ := h
  have hkind : HasLabel body "type" node.kind := by
    obtain ⟨kind, hkind⟩ := Option.isSome_iff_exists.1 htyped
    have hnodeKind := hnode.kind
    rw [nodeKind, hkind] at hnodeKind
    rw [HasLabel, hkind, ← hnodeKind]
  rw [nodeBody, objectBody_eq hnode.id, requiredText_eq_value hnode.id,
    requiredText_eq_value hkind, requiredText_eq_value hnode.name,
    listOf_eq_value portBody_eq_value hnode.inputs, listOf_eq_value portBody_eq_value hnode.outputs]
  rfl

/-- A body that names the ends of a wire. -/
structure DenotesEnds (body : Json) (ends : Endpoints Text) : Prop where
  sourceNode : HasLabel body "sourceNodeId" ends.sourceNode
  sourcePort : HasLabel body "sourcePortId" ends.sourcePort
  targetNode : HasLabel body "targetNodeId" ends.targetNode
  targetPort : HasLabel body "targetPortId" ends.targetPort

theorem endpointMembers_eq_value {body : Json} {ends : Endpoints Text} (h : DenotesEnds body ends)
    (path : List Step) : endpointMembers path body = .value ends := by
  rw [endpointMembers, requiredLabel_eq_value h.sourceNode, requiredLabel_eq_value h.sourcePort,
    requiredLabel_eq_value h.targetNode, requiredLabel_eq_value h.targetPort]
  rfl

theorem connectionBody_eq_value (body : Json) (connection : Connection Text)
    (h : DenotesConnection body connection) (path : List Step) :
    connectionBody path body = .value connection := by
  have hends : DenotesEnds body connection.toEndpoints :=
    ⟨h.sourceNode, h.sourcePort, h.targetNode, h.targetPort⟩
  rw [connectionBody, objectBody_eq h.id, requiredText_eq_value h.id,
    endpointMembers_eq_value hends]
  rfl

/-! ### Graphs -/

/-- Every node of a document has its kind under `type`. -/
def TypedNodes (document : Json) : Prop :=
  ∀ items, document.field? "nodes" = some (.array items) →
    ∀ item ∈ items, (item.field? "type").isSome = true

instance (document : Json) : Decidable (TypedNodes document) :=
  match h : document.field? "nodes" with
  | some (.array items) =>
    decidable_of_iff (∀ item ∈ items, (item.field? "type").isSome = true)
      (by simp [TypedNodes, h])
  | none | some .null | some (.bool _) | some (.number _) | some (.string _) | some (.object _) =>
    .isTrue (by simp [TypedNodes, h])

theorem textOr_eq_value {path : List Step} {body : Json} {key : String} {fallback text : Text}
    (h : (body.field? key).getD (.string fallback) = .string text) :
    textOr path body key fallback = .value text := by
  rw [textOr]
  cases hfield : body.field? key with
  | none =>
    rw [hfield] at h
    cases h
    rfl
  | some member =>
    rw [hfield] at h
    cases h
    rfl

/-- A graph is read from a body as it is from a document. -/
theorem graphBody_eq_value {body : Json} {graph : Graph Text} (h : DenotesGraph body graph)
    (htyped : TypedNodes body) (path : List Step) : graphBody path body = .value graph := by
  obtain ⟨items, hitems, hnodes⟩ := h.nodes
  have hfield := Document.field?_eq_of_getD_null hitems
  have hnodes : DenotesList
      (fun item node => DenotesNode item node ∧ (item.field? "type").isSome = true)
      ((body.field? "nodes").getD (.array [])) graph.nodes := by
    refine ⟨items, by rw [hfield, Option.getD_some], ?_⟩
    exact ((List.forall₂_and_left _ _).2 ⟨htyped items hfield, hnodes⟩).imp fun _ _ h => ⟨h.2, h.1⟩
  have hconnections := h.connections.of_present (.array [])
  have hname : textOr path body "name" untitled = .value graph.name := textOr_eq_value h.name
  rw [graphBody, objectBody_eq hfield, hname, listOf_eq_value nodeBody_eq_value hnodes,
    listOf_eq_value connectionBody_eq_value hconnections]
  rfl

/-- The body of a graph denotes the graph that it consists of. -/
theorem toGraph_eq_ok (graph : Graph Text) : toGraph graph = .ok graph :=
  Document.decodeGraph_encodeGraph graph none

/-- What goes on with a graph does so with the one that was posted, or with that of the session. -/
theorem onGraph_eq (editor : Editor Text) (body : Option (Graph Text))
    (proceed : Graph Text → Handled Text) :
    onGraph editor body proceed = proceed (body.getD editor.graph) := by
  cases body with
  | none => rfl
  | some graph =>
    rw [onGraph]
    simp only [toGraph_eq_ok, Option.getD_some]

/-! ### Requests -/

section Requests

variable {path : List Step} {body : Json}

theorem withBody_eq_proceed {α : Type} {editor : Editor Text} {payload : Option Payload}
    {part : List Step → Json → Checked α} {proceed : α → Handled Text} {value : α}
    (hbody : payloadJson payload = .ok body) (hvalue : part [.key "body"] body = .value value) :
    withBody editor payload part proceed = proceed value := by
  rw [withBody, hbody]
  simp only [hvalue]

theorem edgeBody_eq_value {ends : Endpoints Text} (h : DenotesEnds body ends) :
    edgeBody path body = .value ends := by
  rw [edgeBody, objectBody_eq h.sourceNode, endpointMembers_eq_value h]

theorem optionalGraph_eq_none (h : body.field? "graph" = none ∨ body.field? "graph" = some .null) :
    optionalPart graphBody path body "graph" = .value none := by
  rw [optionalPart]
  rcases h with h | h <;> rw [h]

theorem optionalGraph_eq_some {document : Json} {graph : Graph Text}
    (hfield : body.field? "graph" = some document) (h : DenotesGraph document graph)
    (htyped : TypedNodes document) :
    optionalPart graphBody path body "graph" = .value (some graph) := by
  rw [optionalPart, hfield]
  cases document with
  | object members =>
    simp only [graphBody_eq_value h htyped]
    rfl
  | _ =>
    obtain ⟨items, hitems, -⟩ := h.nodes
    cases hitems

theorem validateBody_eq_value {ends : Endpoints Text} (h : DenotesEnds body ends)
    (hgraph : body.field? "graph" = none ∨ body.field? "graph" = some .null) :
    validateBody path body = .value ⟨ends, none⟩ := by
  rw [validateBody, objectBody_eq h.sourceNode, endpointMembers_eq_value h,
    optionalGraph_eq_none hgraph]
  rfl

theorem analyzeBody_eq_value {document : Json} {graph : Graph Text}
    (hfield : body.field? "graph" = some document) (h : DenotesGraph document graph)
    (htyped : TypedNodes document) : analyzeBody path body = .value (some graph) := by
  rw [analyzeBody, objectBody_eq hfield, optionalGraph_eq_some hfield h htyped]

theorem generateBody_eq_value {document : Json} {graph : Graph Text} {name : Option Text}
    (hfield : body.field? "graph" = some document) (h : DenotesGraph document graph)
    (htyped : TypedNodes document) (hname : body.field? "programName" = name.map .string) :
    generateBody path body = .value ⟨some graph, name⟩ := by
  have hprogramName : optionalText path body "programName" = .value name := by
    rw [optionalText, hname]
    cases name <;> rfl
  rw [generateBody, objectBody_eq hfield, optionalGraph_eq_some hfield h htyped, hprogramName]
  rfl

end Requests

end ModuleGraph.Api
