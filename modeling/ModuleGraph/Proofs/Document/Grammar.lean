import ModuleGraph.Proofs.Document.Unguarded

/-!
# The grammar of documents

Which JSON values are documents of graphs, said of the values themselves: which members an object
has, of which sort they are, and which identifiers differ. The grammar knows no order of checks. An
inspection accepts exactly its values.

## Main definitions

- `IsPort`, `IsNode`, `IsConnection`, `IsGraph` — the values of the grammar
- `idsUnder` — the identifiers of the items of a list

## Main statements

- `isPort_iff`, `isNode_iff`, `isConnection_iff`, `isGraph_iff` — the values of the grammar are
  those that denote parts of graphs whose identifiers are not repeated
- `inspect_accepts_grammar` — inspections never break down, and accept the values of the grammar
-/

namespace ModuleGraph.Document

/-! ### The grammar -/

/-- The member of an object under a key is a text. -/
def HasText (value : Json) (key : String) : Prop :=
  ∃ text, value.field? key = some (.string text)

/-- A list all of whose items are of one sort. -/
def IsListOf (IsItem : Json → Prop) (value : Json) : Prop :=
  ∃ items, value = .array items ∧ ∀ item ∈ items, IsItem item

/-- The identifiers of the items of the list under a key. -/
def idsUnder (value : Json) (key : String) : List Text :=
  (((value.field? key).bind Json.asArray?).getD []).filterMap fun item =>
    (item.field? "id").bind Json.asText?

/-- An object with an identifier, a name and a type, which are texts. -/
structure IsPort (value : Json) : Prop where
  id : HasText value "id"
  name : HasText value "name"
  type : HasText value "type"

/-- An object whose identifier, name and kind are texts. The kind stands under `type` if that key is
there, whatever its value, and else under `kind`. Its ports are lists or absent, and no two ports
share an identifier, on whichever sides they are. -/
structure IsNode (value : Json) : Prop where
  id : HasText value "id"
  name : HasText value "name"
  kind : ∃ kind, (value.field? "type").or (value.field? "kind") = some (.string kind)
  inputs : ∀ ports, value.field? "inputs" = some ports → IsListOf IsPort ports
  outputs : ∀ ports, value.field? "outputs" = some ports → IsListOf IsPort ports
  distinct : (idsUnder value "inputs" ++ idsUnder value "outputs").Nodup

/-- An object whose identifier and four ends are texts. -/
structure IsConnection (value : Json) : Prop where
  id : HasText value "id"
  sourceNode : HasText value "sourceNodeId"
  sourcePort : HasText value "sourcePortId"
  targetNode : HasText value "targetNodeId"
  targetPort : HasText value "targetPortId"

/-- An object with a list of nodes and a list of connections. No two nodes and no two connections
share an identifier. The names of the graph and of the program are texts or absent. -/
structure IsGraph (value : Json) : Prop where
  nodes : ∃ nodes, value.field? "nodes" = some nodes ∧ IsListOf IsNode nodes
  connections :
    ∃ connections, value.field? "connections" = some connections ∧
      IsListOf IsConnection connections
  name : TextIfPresent value "name"
  programName : TextIfPresent value "programName"
  distinctNodes : (idsUnder value "nodes").Nodup
  distinctConnections : (idsUnder value "connections").Nodup

/-! ### Lists -/

section Lists

variable {α : Type} {IsItem : Json → Prop} {Denotes : Json → α → Prop} {value : Json}
variable {key : String} {parts : List α}

theorem forall_exists_iff_forall₂ {items : List Json} :
    (∀ item ∈ items, ∃ part, Denotes item part) ↔ ∃ parts, List.Forall₂ Denotes items parts := by
  constructor
  · intro h
    induction items with
    | nil => exact ⟨[], .nil⟩
    | cons item items ih =>
      obtain ⟨⟨part, hpart⟩, hitems⟩ := List.forall_mem_cons.1 h
      obtain ⟨parts, hparts⟩ := ih hitems
      exact ⟨part :: parts, .cons hpart hparts⟩
  · rintro ⟨parts, hparts⟩
    induction hparts with
    | nil => simp
    | cons hpart _ ih => exact List.forall_mem_cons.2 ⟨⟨_, hpart⟩, ih⟩

theorem isListOf_iff (hitem : ∀ item, IsItem item ↔ ∃ part, Denotes item part) :
    IsListOf IsItem value ↔ ∃ parts, DenotesList Denotes value parts := by
  simp only [IsListOf, DenotesList, hitem, forall_exists_iff_forall₂]
  constructor
  · rintro ⟨items, hitems, parts, hparts⟩
    exact ⟨parts, items, hitems, hparts⟩
  · rintro ⟨parts, items, hitems, hparts⟩
    exact ⟨items, hitems, parts, hparts⟩

/-- A list that may be absent, in which case it has no items. -/
theorem isListOf_ifPresent_iff (hitem : ∀ item, IsItem item ↔ ∃ part, Denotes item part) :
    (∀ list, value.field? key = some list → IsListOf IsItem list) ↔
      ∃ parts, DenotesList Denotes ((value.field? key).getD (.array [])) parts := by
  cases hfield : value.field? key with
  | none =>
    have hempty : DenotesList Denotes (.array []) [] := ⟨[], rfl, .nil⟩
    simp only [reduceCtorEq, false_implies, implies_true, Option.getD_none, true_iff]
    exact ⟨[], hempty⟩
  | some list =>
    simp only [Option.some.injEq, forall_eq', Option.getD_some]
    exact isListOf_iff hitem

/-- A list that has to be there. -/
theorem isListOf_present_iff (hitem : ∀ item, IsItem item ↔ ∃ part, Denotes item part) :
    (∃ list, value.field? key = some list ∧ IsListOf IsItem list) ↔
      ∃ parts, DenotesList Denotes ((value.field? key).getD .null) parts := by
  constructor
  · rintro ⟨list, hlist, hitems⟩
    rw [hlist, Option.getD_some]
    exact (isListOf_iff hitem).1 hitems
  · rintro ⟨parts, items, hitems, hparts⟩
    exact ⟨_, field?_eq_of_getD_null hitems, (isListOf_iff hitem).2 ⟨parts, items, rfl, hparts⟩⟩

/-- The identifiers of the items of a list are those of the parts that they denote. -/
theorem idsUnder_eq (id : α → Text)
    (hid : ∀ item part, Denotes item part → HasLabel item "id" (id part))
    (h : DenotesList Denotes ((value.field? key).getD (.array [])) parts) :
    idsUnder value key = parts.map id := by
  obtain ⟨items, hitems, hparts⟩ := h
  have hlist : ((value.field? key).bind Json.asArray?).getD [] = items := by
    cases hfield : value.field? key with
    | none =>
      rw [hfield] at hitems
      cases hitems
      rfl
    | some list =>
      rw [hfield] at hitems
      rw [show list = .array items from hitems]
      rfl
  rw [idsUnder, hlist]
  clear hitems hlist
  induction hparts with
  | nil => rfl
  | cons hpart _ ih =>
    have hfirst := hid _ _ hpart
    rw [HasLabel] at hfirst
    rw [List.filterMap_cons_some (by rw [hfirst]; rfl), List.map_cons, ih]

end Lists

/-! ### Values of the grammar and what they denote -/

theorem isPort_iff (value : Json) : IsPort value ↔ ∃ port : Port Text, DenotesPort value port := by
  constructor
  · rintro ⟨⟨id, hid⟩, ⟨name, hname⟩, ⟨type, htype⟩⟩
    exact ⟨⟨id, name, type⟩, hid, hname, htype⟩
  · rintro ⟨port, h⟩
    exact ⟨⟨_, h.id⟩, ⟨_, h.name⟩, ⟨_, h.type⟩⟩

theorem isConnection_iff (value : Json) :
    IsConnection value ↔ ∃ connection : Connection Text, DenotesConnection value connection := by
  constructor
  · rintro ⟨⟨id, hid⟩, ⟨sourceNode, hsourceNode⟩, ⟨sourcePort, hsourcePort⟩,
      ⟨targetNode, htargetNode⟩, ⟨targetPort, htargetPort⟩⟩
    exact ⟨⟨⟨sourceNode, sourcePort, targetNode, targetPort⟩, id⟩, hid, hsourceNode, hsourcePort,
      htargetNode, htargetPort⟩
  · rintro ⟨connection, h⟩
    exact ⟨⟨_, h.id⟩, ⟨_, h.sourceNode⟩, ⟨_, h.sourcePort⟩, ⟨_, h.targetNode⟩, ⟨_, h.targetPort⟩⟩

theorem kind_iff {value : Json} {kind : Text} :
    (value.field? "type").or (value.field? "kind") = some (.string kind) ↔
      nodeKind value = .string kind := by
  rw [nodeKind]
  cases value.field? "type" with
  | some type => simp
  | none => cases value.field? "kind" <;> simp

theorem DenotesNode.nodup_idsUnder_iff {value : Json} {node : Node Text}
    (h : DenotesNode value node) :
    (idsUnder value "inputs" ++ idsUnder value "outputs").Nodup ↔ node.DistinctPorts := by
  rw [idsUnder_eq Port.id (fun _ _ hport => hport.id) h.inputs,
    idsUnder_eq Port.id (fun _ _ hport => hport.id) h.outputs, Node.DistinctPorts]

theorem isNode_iff (value : Json) :
    IsNode value ↔ ∃ node : Node Text, DenotesNode value node ∧ node.DistinctPorts := by
  constructor
  · rintro ⟨⟨id, hid⟩, ⟨name, hname⟩, ⟨kind, hkind⟩, hinputs, houtputs, hdistinct⟩
    obtain ⟨inputs, hinputs⟩ := (isListOf_ifPresent_iff isPort_iff).1 hinputs
    obtain ⟨outputs, houtputs⟩ := (isListOf_ifPresent_iff isPort_iff).1 houtputs
    have hnode : DenotesNode value (⟨id, kind, name, inputs, outputs⟩ : Node Text) :=
      ⟨hid, kind_iff.1 hkind, hname, hinputs, houtputs⟩
    exact ⟨_, hnode, hnode.nodup_idsUnder_iff.1 hdistinct⟩
  · rintro ⟨node, h, hdistinct⟩
    exact ⟨⟨_, h.id⟩, ⟨_, h.name⟩, ⟨_, kind_iff.2 h.kind⟩,
      (isListOf_ifPresent_iff isPort_iff).2 ⟨_, h.inputs⟩,
      (isListOf_ifPresent_iff isPort_iff).2 ⟨_, h.outputs⟩, h.nodup_idsUnder_iff.2 hdistinct⟩

theorem isGraph_iff (value : Json) :
    IsGraph value ↔ ∃ graph : Graph Text, DenotesGraph value graph ∧ graph.Distinct ∧
      TextIfPresent value "programName" := by
  have hnodeIds : ∀ nodes : List (Node Text),
      DenotesList (fun item node => DenotesNode item node ∧ node.DistinctPorts)
        ((value.field? "nodes").getD .null) nodes →
      idsUnder value "nodes" = nodes.map (·.id) := fun nodes hnodes =>
    idsUnder_eq Node.id (fun _ _ hnode => hnode.1.id) (hnodes.of_present _)
  have hconnectionIds : ∀ connections : List (Connection Text),
      DenotesList DenotesConnection ((value.field? "connections").getD .null) connections →
      idsUnder value "connections" = connections.map (·.id) := fun connections hconnections =>
    idsUnder_eq Connection.id (fun _ _ hconnection => hconnection.id) (hconnections.of_present _)
  constructor
  · rintro ⟨hnodes, hconnections, hname, hprogramName, hdistinctNodes, hdistinctConnections⟩
    obtain ⟨nodes, hnodes⟩ := (isListOf_present_iff isNode_iff).1 hnodes
    obtain ⟨connections, hconnections⟩ := (isListOf_present_iff isConnection_iff).1 hconnections
    obtain ⟨name, hname⟩ := (textIfPresent_iff_getD untitled).1 hname
    rw [hnodeIds nodes hnodes] at hdistinctNodes
    rw [hconnectionIds connections hconnections] at hdistinctConnections
    obtain ⟨items, hitems, hnodes⟩ := hnodes
    obtain ⟨hnodes, hports⟩ := forall₂_and_right.1 hnodes
    exact ⟨⟨name, nodes, connections⟩, ⟨⟨items, hitems, hnodes⟩, hconnections, hname⟩,
      ⟨hdistinctNodes, hports, hdistinctConnections⟩, hprogramName⟩
  · rintro ⟨graph, h, hdistinct, hprogramName⟩
    obtain ⟨items, hitems, hnodes⟩ := h.nodes
    have hnodes : DenotesList (fun item node => DenotesNode item node ∧ node.DistinctPorts)
        ((value.field? "nodes").getD .null) graph.nodes :=
      ⟨items, hitems, forall₂_and_right.2 ⟨hnodes, hdistinct.ports⟩⟩
    exact ⟨(isListOf_present_iff isNode_iff).2 ⟨_, hnodes⟩,
      (isListOf_present_iff isConnection_iff).2 ⟨_, h.connections⟩,
      (textIfPresent_iff_getD untitled).2 ⟨_, h.name⟩, hprogramName,
      hnodeIds _ hnodes ▸ hdistinct.nodes, hconnectionIds _ h.connections ▸ hdistinct.connections⟩

/-! ### Acceptance -/

/-- **The inspection accepts its grammar.** Whatever JSON value it is given, no look-up of an
inspection breaks down: it ends with a fault of the document or not early at all. It accepts exactly
the values of the grammar. A strict inspection accepts exactly those that the other one accepts
without noting a wire. -/
theorem inspect_accepts_grammar (value : Json) :
    (∀ strict, Unguarded.inspect strict value =
      ⟨(inspect strict value).warnings, (inspect strict value).fault.map Stop.fault⟩) ∧
    ((inspect false value).accepted = true ↔ IsGraph value) ∧
    ((inspect true value).accepted = true ↔
      (inspect false value).accepted = true ∧ (inspect false value).warnings = []) := by
  refine ⟨fun strict => Unguarded.inspect_eq strict value, ?_, ?_⟩
  · rw [accepted_iff, isGraph_iff]
  · rw [inspect_true]
    exact Inspection.accepted_harden_iff

/-- A node whose `type` is null has no kind, though another stands under `kind`. -/
example : (inspect false (.object
    [("nodes", .array [.object [("id", .string "n"), ("name", .string "N"), ("type", .null),
      ("kind", .string "token")]]), ("connections", .array [])])).fault =
    some (.missingMember (.node 0) "type") := by
  decide

end ModuleGraph.Document
