import Mathlib.Data.List.Forall2
import ModuleGraph.Document.Decode

/-!
# What documents denote

The graph that a JSON value denotes, said member by member and without regard to the order in which
the members are read. A value that denotes a graph is read as that graph.

## Main definitions

- `HasLabel`, `DenotesList` — a member that is a label, and a list whose items denote parts
- `DenotesPort`, `DenotesNode`, `DenotesConnection`, `DenotesGraph` — what values denote

## Main statements

- `decodePort_eq_ok`, `decodeNode_eq_ok`, `decodeConnection_eq_ok`, `decodeGraph_eq_ok` — what a
  value denotes is read from it
-/

namespace ModuleGraph.Document

variable {L : Type} [Label L]

open Label (toJson)

/-! ### Values and what they denote -/

/-- The member of an object under a key is a label. -/
def HasLabel (value : Json) (key : String) (label : L) : Prop :=
  value.field? key = some (toJson label)

/-- A list whose items denote the given parts, one by one. -/
def DenotesList {α : Type} (Denotes : Json → α → Prop) (value : Json) (parts : List α) : Prop :=
  ∃ items, value = .array items ∧ List.Forall₂ Denotes items parts

/-- What makes a value denote a port. -/
structure DenotesPort (value : Json) (port : Port L) : Prop where
  id : HasLabel value "id" port.id
  name : HasLabel value "name" port.name
  type : HasLabel value "type" port.type

/-- What makes a value denote a node. A list of ports that is absent has none. -/
structure DenotesNode (value : Json) (node : Node L) : Prop where
  id : HasLabel value "id" node.id
  kind : nodeKind value = toJson node.kind
  name : HasLabel value "name" node.name
  inputs : DenotesList DenotesPort ((value.field? "inputs").getD (.array [])) node.inputs
  outputs : DenotesList DenotesPort ((value.field? "outputs").getD (.array [])) node.outputs

/-- What makes a value denote a connection. -/
structure DenotesConnection (value : Json) (connection : Connection L) : Prop where
  id : HasLabel value "id" connection.id
  sourceNode : HasLabel value "sourceNodeId" connection.sourceNode
  sourcePort : HasLabel value "sourcePortId" connection.sourcePort
  targetNode : HasLabel value "targetNodeId" connection.targetNode
  targetPort : HasLabel value "targetPortId" connection.targetPort

/-- What makes a value denote a graph. Both lists are there; a name that is absent is the one of
graphs without a name. -/
structure DenotesGraph (value : Json) (graph : Graph L) : Prop where
  nodes : DenotesList DenotesNode ((value.field? "nodes").getD .null) graph.nodes
  connections :
    DenotesList DenotesConnection ((value.field? "connections").getD .null) graph.connections
  name : (value.field? "name").getD (toJson (Label.ofText untitled : L)) = toJson graph.name

/-! ### Reading members -/

section Members

variable {value : Json} {key : String}

theorem decodeLabel_toJson (label : L) : decodeLabel (toJson label) = .ok label := by
  rw [decodeLabel, Label.ofJson?_toJson]

theorem labelField_eq_ok {label : L} (h : HasLabel value key label) :
    labelField value key = .ok label := by
  cases value with
  | object members =>
    rw [HasLabel] at h
    rw [labelField, h]
    exact decodeLabel_toJson label
  | _ => cases h

theorem mapM_eq_ok {ε α β : Type} {read : α → Except ε β} {items : List α} {parts : List β}
    (h : List.Forall₂ (fun item part => read item = .ok part) items parts) :
    items.mapM read = .ok parts := by
  induction h with
  | nil => rfl
  | cons hpart _ ih =>
    rw [List.mapM_cons, hpart, ih]
    rfl

/-- A list whose items are read as what they denote, be it there or absent. -/
theorem listField_mapM_eq_ok {α : Type} {Denotes : Json → α → Prop}
    {read : Json → Except DecodeError α} {parts : List α}
    (hread : ∀ item part, Denotes item part → read item = .ok part)
    (h : DenotesList Denotes ((value.field? key).getD (.array [])) parts) :
    ∃ items, listField value key = .ok items ∧ items.mapM read = .ok parts := by
  obtain ⟨items, hitems, hparts⟩ := h
  refine ⟨items, ?_, mapM_eq_ok (hparts.imp hread)⟩
  cases hfield : value.field? key with
  | none =>
    rw [hfield] at hitems
    cases hitems
    rw [listField, hfield]
  | some list =>
    rw [hfield] at hitems
    cases hitems
    rw [listField, hfield]
    rfl

/-- A list for which nothing else can stand is there. -/
theorem field?_eq_of_getD_null {items : List Json}
    (h : (value.field? key).getD .null = .array items) :
    value.field? key = some (.array items) := by
  cases hfield : value.field? key with
  | none => rw [hfield] at h; cases h
  | some list => rw [hfield] at h; exact congrArg some h

theorem DenotesList.of_present {α : Type} {Denotes : Json → α → Prop} {parts : List α}
    (h : DenotesList Denotes ((value.field? key).getD .null) parts) (fallback : Json) :
    DenotesList Denotes ((value.field? key).getD fallback) parts := by
  obtain ⟨items, hitems, hparts⟩ := h
  exact ⟨items, by rw [field?_eq_of_getD_null hitems, Option.getD_some], hparts⟩

end Members

/-! ### Reading parts -/

theorem decodePort_eq_ok (value : Json) (port : Port L) (h : DenotesPort value port) :
    decodePort value = .ok port := by
  rw [decodePort, labelField_eq_ok h.id, labelField_eq_ok h.name, labelField_eq_ok h.type]
  rfl

theorem decodeNode_eq_ok (value : Json) (node : Node L) (h : DenotesNode value node) :
    decodeNode value = .ok node := by
  obtain ⟨inputs, hinputs, hreadInputs⟩ := listField_mapM_eq_ok decodePort_eq_ok h.inputs
  obtain ⟨outputs, houtputs, hreadOutputs⟩ := listField_mapM_eq_ok decodePort_eq_ok h.outputs
  rw [decodeNode, labelField_eq_ok h.id, h.kind, decodeLabel_toJson, labelField_eq_ok h.name,
    hinputs, houtputs]
  simp only [bind, Except.bind, hreadInputs, hreadOutputs]
  rfl

theorem decodeConnection_eq_ok (value : Json) (connection : Connection L)
    (h : DenotesConnection value connection) : decodeConnection value = .ok connection := by
  rw [decodeConnection, labelField_eq_ok h.id, labelField_eq_ok h.sourceNode,
    labelField_eq_ok h.sourcePort, labelField_eq_ok h.targetNode, labelField_eq_ok h.targetPort]
  rfl

theorem graphName_eq_ok {value : Json} {name : L}
    (h : (value.field? "name").getD (toJson (Label.ofText untitled : L)) = toJson name) :
    graphName value = .ok name := by
  rw [graphName]
  cases hfield : value.field? "name" with
  | none =>
    rw [hfield] at h
    -- labels that are written the same are the same, since what is written can be read
    have hname := congrArg (decodeLabel (L := L)) h
    rw [Option.getD_none, decodeLabel_toJson, decodeLabel_toJson] at hname
    exact hname
  | some member =>
    rw [hfield] at h
    rw [show member = toJson name from h]
    exact decodeLabel_toJson name

/-- What a value denotes is read from it. -/
theorem decodeGraph_eq_ok {value : Json} {graph : Graph L} (h : DenotesGraph value graph) :
    decodeGraph value = .ok graph := by
  obtain ⟨nodes, hnodes, hreadNodes⟩ :=
    listField_mapM_eq_ok decodeNode_eq_ok (h.nodes.of_present _)
  obtain ⟨connections, hconnections, hreadConnections⟩ :=
    listField_mapM_eq_ok decodeConnection_eq_ok (h.connections.of_present _)
  cases value with
  | object members =>
    rw [decodeGraph, hnodes, hconnections, graphName_eq_ok h.name]
    simp only [bind, Except.bind, hreadNodes, hreadConnections]
    rfl
  | _ =>
    obtain ⟨items, hitems, -⟩ := h.nodes
    cases hitems

end ModuleGraph.Document
