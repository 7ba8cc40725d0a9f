import Mathlib.Data.List.Nodup
import ModuleGraph.Document.Schema
import ModuleGraph.Proofs.Document.Denotation

/-!
# What inspections accept

A document passes the inspection if it denotes a graph whose identifiers are not repeated, and the
wires noted are those that lead nowhere in it. A strict inspection ends where the other one notes
its first wire.

## Main definitions

- `Graph.Distinct` — no identifier is given twice where it has to tell parts apart
- `Declared.of` — what a node declares
- `danglings` — the connections that lead nowhere, in order
- `Inspection.harden` — the inspection with the first wire noted turned into a fault

## Main statements

- `inspectPort_eq_ok_iff`, `inspectNode_eq_ok_iff`, `inspectConnection_eq_ok_iff` — the parts that
  pass, each behind the identifiers that are taken
- `loop_eq_ok_iff` — a list passes if its items do and their identifiers are new
- `inspect_false_eq_iff`, `accepted_iff` — the documents that pass, with the wires noted
- `inspect_true` — strict inspections
-/

namespace ModuleGraph

variable {L : Type}

/-- No two ports of a node have the same identifier, on whichever sides they are. -/
def Node.DistinctPorts (node : Node L) : Prop :=
  (node.inputs.map (·.id) ++ node.outputs.map (·.id)).Nodup

/-- No two nodes, no two ports of one node, and no two connections have the same identifier. -/
structure Graph.Distinct (graph : Graph L) : Prop where
  nodes : (graph.nodes.map (·.id)).Nodup
  ports : ∀ node ∈ graph.nodes, node.DistinctPorts
  connections : (graph.connections.map (·.id)).Nodup

namespace Document

/-- What a node declares. -/
def Declared.of (node : Node Text) : Declared :=
  ⟨node.id, node.inputs.map (·.id), node.outputs.map (·.id)⟩

/-! ### Requirements -/

section Requirements

variable {place : Place} {value : Json} {key : String}

theorem bind_eq_ok_iff {ε α β : Type} {attempt : Except ε α} {next : α → Except ε β} {result : β} :
    attempt >>= next = .ok result ↔ ∃ value, attempt = .ok value ∧ next value = .ok result := by
  cases attempt <;> simp [bind, Except.bind]

theorem pure_eq_ok_iff {ε α : Type} {value result : α} :
    (pure value : Except ε α) = .ok result ↔ value = result := by
  simp [pure, Except.pure]

theorem HasLabel.isSome {label : Text} (h : HasLabel value key label) :
    (value.field? key).isSome = true := by
  rw [HasLabel] at h
  rw [h]
  rfl

/-- What has a member is an object. -/
theorem requireObject_eq_ok {member : Json} (h : value.field? key = some member) :
    requireObject place value = .ok () := by
  cases value with
  | object members => rfl
  | _ => cases h

theorem requireKeys_eq_ok_iff {keys : List String} :
    requireKeys place value keys = .ok () ↔ ∀ key ∈ keys, (value.field? key).isSome := by
  induction keys with
  | nil => simp [requireKeys]
  | cons key keys ih =>
    rw [requireKeys, List.forall_mem_cons]
    split <;> simp_all

theorem requireText_eq_ok_iff {text : Text} :
    requireText place key value = .ok text ↔ value = .string text := by
  cases value <;> simp [requireText]

theorem memberText_eq_ok_iff {text : Text} :
    memberText place value key = .ok text ↔ HasLabel value key text := by
  rw [memberText, requireText_eq_ok_iff, HasLabel]
  cases value.field? key with
  | none => simp
  | some member => rw [Option.getD_some, Option.some.injEq]; rfl

theorem requireList_eq_ok_iff {items : List Json} :
    requireList place key value = .ok items ↔ value = .array items := by
  cases value <;> simp [requireList]

theorem requireNew_eq_ok_iff {seen : List Text} {id : Text} :
    requireNew place seen id = .ok () ↔ id ∉ seen := by
  rw [requireNew]
  split <;> simp_all

theorem requireKind_eq_ok (h : nodeKind value ≠ .null) : requireKind place value = .ok () := by
  rw [requireKind]
  split
  · contradiction
  · rfl

/-- A member of the document is a text if it is there. -/
def TextIfPresent (value : Json) (key : String) : Prop :=
  ∀ member, value.field? key = some member → ∃ text, member = .string text

theorem requireTextIfPresent_eq_ok_iff :
    requireTextIfPresent value key = .ok () ↔ TextIfPresent value key := by
  rw [requireTextIfPresent, TextIfPresent]
  cases value.field? key with
  | none => simp
  | some member => cases member <;> simp [requireText, Except.map]

end Requirements

/-! ### Lists -/

/-- Identifiers that are not repeated, and none of which is taken. -/
def Fresh (seen ids : List Text) : Prop := ids.Nodup ∧ ids.Disjoint seen

theorem fresh_nil_left {ids : List Text} : Fresh [] ids ↔ ids.Nodup := by simp [Fresh]

theorem fresh_cons {seen ids : List Text} {id : Text} :
    Fresh seen (id :: ids) ↔ id ∉ seen ∧ Fresh (id :: seen) ids := by
  simp only [Fresh, List.nodup_cons, List.disjoint_cons_left, List.disjoint_cons_right]
  tauto

theorem nodup_append_iff {ids more : List Text} :
    (ids ++ more).Nodup ↔ ids.Nodup ∧ Fresh ids more := by
  rw [List.nodup_append', List.disjoint_comm, Fresh]

theorem forall₂_and_right {α β : Type} {R : α → β → Prop} {p : β → Prop} {items : List α}
    {parts : List β} :
    List.Forall₂ (fun item part => R item part ∧ p part) items parts ↔
      List.Forall₂ R items parts ∧ ∀ part ∈ parts, p part := by
  induction parts generalizing items with
  | nil => simp
  | cons part parts ih =>
    cases items with
    | nil => simp
    | cons item items =>
      rw [List.forall₂_cons, List.forall₂_cons, List.forall_mem_cons, ih]
      tauto

/-- The items of a list are looked at one after the other, each behind the identifiers of those
before it. If an item passes exactly if it denotes a part whose identifier is new, then the list
passes exactly if its items denote parts and their identifiers are all new. -/
theorem loop_eq_ok_iff {α β : Type} (Denotes : Json → β → Prop) (view : β → α) (id : α → Text)
    {one : Nat → List Text → Json → Except Fault α}
    {loop : Nat → List Text → List Json → Except Fault (List α)}
    (hnil : ∀ index seen, loop index seen [] = .ok [])
    (hcons : ∀ index seen value values, loop index seen (value :: values) = (do
      let item ← one index seen value
      let items ← loop (index + 1) (id item :: seen) values
      return item :: items))
    (hone : ∀ index seen value item, one index seen value = .ok item ↔
      ∃ part, Denotes value part ∧ view part = item ∧ id item ∉ seen)
    {index : Nat} {seen : List Text} {values : List Json} {items : List α} :
    loop index seen values = .ok items ↔
      ∃ parts, List.Forall₂ Denotes values parts ∧ parts.map view = items ∧
        Fresh seen (items.map id) := by
  induction values generalizing index seen items with
  | nil =>
    simp only [hnil, List.forall₂_nil_left_iff, exists_eq_left, List.map_nil, Except.ok.injEq]
    constructor
    · rintro rfl
      exact ⟨rfl, by simp [Fresh]⟩
    · exact And.left
  | cons value values ih =>
    simp only [hcons, bind_eq_ok_iff, hone, ih, pure_eq_ok_iff, List.forall₂_cons_left_iff]
    constructor
    · rintro ⟨_, ⟨part, hpart, rfl, hnew⟩, _, ⟨parts, hparts, rfl, hfresh⟩, rfl⟩
      exact ⟨_, ⟨part, parts, hpart, hparts, rfl⟩, rfl, fresh_cons.2 ⟨hnew, hfresh⟩⟩
    · rintro ⟨_, ⟨part, parts, hpart, hparts, rfl⟩, rfl, hfresh⟩
      obtain ⟨hnew, hfresh⟩ := fresh_cons.1 hfresh
      exact ⟨_, ⟨part, hpart, rfl, hnew⟩, _, ⟨parts, hparts, rfl, hfresh⟩, rfl⟩

/-! ### Parts -/

theorem inspectPort_eq_ok_iff {place : Place} {seen : List Text} {value : Json} {id : Text} :
    inspectPort place seen value = .ok id ↔
      ∃ port : Port Text, DenotesPort value port ∧ port.id = id ∧ id ∉ seen := by
  simp only [inspectPort, bind_eq_ok_iff, memberText_eq_ok_iff, pure_eq_ok_iff]
  constructor
  · rintro ⟨⟨⟩, -, ⟨⟩, -, id, hid, name, hname, type, htype, ⟨⟩, hnew, rfl⟩
    exact ⟨⟨id, name, type⟩, ⟨hid, hname, htype⟩, rfl, requireNew_eq_ok_iff.1 hnew⟩
  · rintro ⟨port, hport, rfl, hnew⟩
    refine ⟨(), requireObject_eq_ok hport.id, (), requireKeys_eq_ok_iff.2 ?_, _, hport.id, _,
      hport.name, _, hport.type, (), requireNew_eq_ok_iff.2 hnew, rfl⟩
    simp [portKeys, hport.id.isSome, hport.name.isSome, hport.type.isSome]

theorem inspectPorts_eq_ok_iff {node : Nat} {side : Side} {seen : List Text} {value : Json}
    {ids : List Text} :
    inspectPorts node side seen value = .ok ids ↔
      ∃ ports : List (Port Text),
        DenotesList DenotesPort ((value.field? side.key).getD (.array [])) ports ∧
          ports.map (·.id) = ids ∧ Fresh seen ids := by
  have hloop : ∀ values, inspectPortsFrom node side 0 seen values = .ok ids ↔
      ∃ ports : List (Port Text), List.Forall₂ DenotesPort values ports ∧
        ports.map (·.id) = ids ∧ Fresh seen ids := by
    intro values
    rw [loop_eq_ok_iff DenotesPort Port.id (fun id => id) (fun _ _ => rfl) (fun _ _ _ _ => rfl)
      fun _ _ _ _ => inspectPort_eq_ok_iff, List.map_id']
  simp only [inspectPorts, bind_eq_ok_iff, requireList_eq_ok_iff, hloop, DenotesList]
  constructor
  · rintro ⟨values, hvalues, ports, hports, hids⟩
    exact ⟨ports, ⟨values, hvalues, hports⟩, hids⟩
  · rintro ⟨ports, ⟨values, hvalues, hports⟩, hids⟩
    exact ⟨values, hvalues, ports, hports, hids⟩

theorem inspectNode_eq_ok_iff {index : Nat} {seen : List Text} {value : Json}
    {declared : Declared} :
    inspectNode index seen value = .ok declared ↔
      ∃ node : Node Text, (DenotesNode value node ∧ node.DistinctPorts) ∧
        Declared.of node = declared ∧ declared.id ∉ seen := by
  simp only [inspectNode, bind_eq_ok_iff, memberText_eq_ok_iff, requireText_eq_ok_iff,
    inspectPorts_eq_ok_iff, pure_eq_ok_iff, fresh_nil_left]
  constructor
  · rintro ⟨⟨⟩, -, ⟨⟩, -, ⟨⟩, -, id, hid, name, hname, kind, hkind, ⟨⟩, hnew,
      _, ⟨inputs, hinputs, rfl, hinputIds⟩, _, ⟨outputs, houtputs, rfl, houtputIds⟩, rfl⟩
    exact ⟨⟨id, kind, name, inputs, outputs⟩, ⟨⟨hid, hkind, hname, hinputs, houtputs⟩,
      nodup_append_iff.2 ⟨hinputIds, houtputIds⟩⟩, rfl, requireNew_eq_ok_iff.1 hnew⟩
  · rintro ⟨node, ⟨hnode, hports⟩, rfl, hnew⟩
    obtain ⟨hinputIds, houtputIds⟩ := nodup_append_iff.1 hports
    have hkind : nodeKind value ≠ .null := by
      rw [hnode.kind]
      nofun
    refine ⟨(), requireObject_eq_ok hnode.id, (), requireKeys_eq_ok_iff.2 ?_,
      (), requireKind_eq_ok hkind, _, hnode.id, _, hnode.name, _, hnode.kind,
      (), requireNew_eq_ok_iff.2 hnew, _, ⟨_, hnode.inputs, rfl, hinputIds⟩,
      _, ⟨_, hnode.outputs, rfl, houtputIds⟩, rfl⟩
    simp [hnode.id.isSome, hnode.name.isSome]

theorem inspectNodesFrom_eq_ok_iff {index : Nat} {seen : List Text} {values : List Json}
    {declared : List Declared} :
    inspectNodesFrom index seen values = .ok declared ↔
      ∃ nodes : List (Node Text), (List.Forall₂ DenotesNode values nodes ∧
        ∀ node ∈ nodes, node.DistinctPorts) ∧ nodes.map Declared.of = declared ∧
          Fresh seen (declared.map (·.id)) := by
  simp only [← forall₂_and_right]
  exact loop_eq_ok_iff (fun value node => DenotesNode value node ∧ node.DistinctPorts) Declared.of
    Declared.id (fun _ _ => rfl) (fun _ _ _ _ => rfl) fun _ _ _ _ => inspectNode_eq_ok_iff

theorem inspectConnection_eq_ok_iff {index : Nat} {seen : List Text} {value : Json}
    {connection : Connection Text} :
    inspectConnection index seen value = .ok connection ↔
      DenotesConnection value connection ∧ connection.id ∉ seen := by
  simp only [inspectConnection, bind_eq_ok_iff, memberText_eq_ok_iff, pure_eq_ok_iff]
  constructor
  · rintro ⟨⟨⟩, -, ⟨⟩, -, id, hid, sourceNode, hsourceNode, sourcePort, hsourcePort,
      targetNode, htargetNode, targetPort, htargetPort, ⟨⟩, hnew, rfl⟩
    exact ⟨⟨hid, hsourceNode, hsourcePort, htargetNode, htargetPort⟩,
      requireNew_eq_ok_iff.1 hnew⟩
  · rintro ⟨h, hnew⟩
    refine ⟨(), requireObject_eq_ok h.id, (), requireKeys_eq_ok_iff.2 ?_, _, h.id,
      _, h.sourceNode, _, h.sourcePort, _, h.targetNode, _, h.targetPort,
      (), requireNew_eq_ok_iff.2 hnew, rfl⟩
    simp [connectionKeys, h.id.isSome, h.sourceNode.isSome, h.sourcePort.isSome,
      h.targetNode.isSome, h.targetPort.isSome]

/-! ### Connections -/

/-- The connections that lead nowhere, in order, the first at the given index. -/
def danglings (nodes : List Declared) (index : Nat) (connections : List (Connection Text)) :
    List Dangling :=
  (connections.zipIdx index).filterMap fun (connection, position) =>
    dangling? nodes position connection.toEndpoints

/-- Connections that are denoted under new identifiers pass, and those that lead nowhere are
noted. -/
theorem inspectConnectionsFrom_false {nodes : List Declared} {index : Nat} {seen : List Text}
    {values : List Json} {connections : List (Connection Text)}
    (h : List.Forall₂ DenotesConnection values connections)
    (hfresh : Fresh seen (connections.map (·.id))) :
    inspectConnectionsFrom false nodes index seen values =
      ⟨danglings nodes index connections, none⟩ := by
  induction h generalizing index seen with
  | nil => rfl
  | @cons value connection values connections hconnection _ ih =>
    obtain ⟨hnew, hfresh⟩ := fresh_cons.1 hfresh
    rw [inspectConnectionsFrom, inspectConnection_eq_ok_iff.2 ⟨hconnection, hnew⟩]
    simp only [ih hfresh, danglings, List.zipIdx_cons, List.filterMap_cons]
    split <;> simp_all [Inspection.warn]

/-- Connections that pass are denoted under new identifiers. -/
theorem denotes_of_inspectConnectionsFrom {nodes : List Declared} {index : Nat} {seen : List Text}
    {values : List Json}
    (h : (inspectConnectionsFrom false nodes index seen values).fault = none) :
    ∃ connections : List (Connection Text), List.Forall₂ DenotesConnection values connections ∧
      Fresh seen (connections.map (·.id)) := by
  induction values generalizing index seen with
  | nil => exact ⟨[], .nil, by simp [Fresh]⟩
  | cons value values ih =>
    rw [inspectConnectionsFrom] at h
    cases hconnection : inspectConnection index seen value with
    | error fault => simp [hconnection, Inspection.failed] at h
    | ok connection =>
      obtain ⟨hdenotes, hnew⟩ := inspectConnection_eq_ok_iff.1 hconnection
      -- noting a wire leaves the fault of the rest as it is
      have hrest : (inspectConnectionsFrom false nodes (index + 1) (connection.id :: seen)
          values).fault = none := by
        simp only [hconnection] at h
        split at h <;> simpa [Inspection.warn] using h
      obtain ⟨connections, hconnections, hfresh⟩ := ih hrest
      exact ⟨connection :: connections, .cons hdenotes hconnections,
        fresh_cons.2 ⟨hnew, hfresh⟩⟩

namespace Inspection

/-- The inspection as it ends if the first wire that is noted is a fault. -/
def harden (inspection : Inspection) : Inspection :=
  match inspection.warnings with
  | [] => inspection
  | wire :: _ => .failed (.dangling wire)

theorem accepted_harden_iff {inspection : Inspection} :
    inspection.harden.accepted = true ↔
      inspection.accepted = true ∧ inspection.warnings = [] := by
  obtain ⟨warnings, fault⟩ := inspection
  cases warnings <;> simp [harden, accepted, failed]

end Inspection

theorem inspectConnectionsFrom_true (nodes : List Declared) (index : Nat) (seen : List Text)
    (values : List Json) :
    inspectConnectionsFrom true nodes index seen values =
      (inspectConnectionsFrom false nodes index seen values).harden := by
  induction values generalizing index seen with
  | nil => rfl
  | cons value values ih =>
    rw [inspectConnectionsFrom, inspectConnectionsFrom]
    cases inspectConnection index seen value with
    | error fault => rfl
    | ok connection =>
      simp only [ih]
      cases dangling? nodes index connection.toEndpoints <;> rfl

/-! ### Documents -/

theorem inspectHead_eq_ok_iff {value : Json} {declared : List Declared} {items : List Json} :
    inspectHead value = .ok (declared, items) ↔
      ∃ nodes : List (Node Text),
        DenotesList DenotesNode ((value.field? "nodes").getD .null) nodes ∧
        (∀ node ∈ nodes, node.DistinctPorts) ∧ (nodes.map (·.id)).Nodup ∧
        nodes.map Declared.of = declared ∧
        (value.field? "connections").getD .null = .array items ∧
        TextIfPresent value "name" ∧ TextIfPresent value "programName" := by
  have hids : ∀ nodes : List (Node Text),
      (nodes.map Declared.of).map (·.id) = nodes.map (·.id) := by
    intro nodes
    rw [List.map_map]
    rfl
  cases value with
  | object members =>
    simp only [inspectHead, bind_eq_ok_iff, requireList_eq_ok_iff, inspectNodesFrom_eq_ok_iff,
      pure_eq_ok_iff, Prod.mk.injEq, fresh_nil_left]
    constructor
    · rintro ⟨⟨⟩, -, values, hvalues, _, hitems, ⟨⟩, hname, ⟨⟩, hprogramName, _,
        ⟨nodes, ⟨hnodes, hports⟩, rfl, hdistinct⟩, rfl, rfl⟩
      exact ⟨nodes, ⟨values, hvalues, hnodes⟩, hports, hids nodes ▸ hdistinct, rfl, hitems,
        requireTextIfPresent_eq_ok_iff.1 hname, requireTextIfPresent_eq_ok_iff.1 hprogramName⟩
    · rintro ⟨nodes, ⟨values, hvalues, hnodes⟩, hports, hdistinct, rfl, hitems, hname,
        hprogramName⟩
      refine ⟨(), requireKeys_eq_ok_iff.2 ?_, values, hvalues, items, hitems,
        (), requireTextIfPresent_eq_ok_iff.2 hname,
        (), requireTextIfPresent_eq_ok_iff.2 hprogramName, _,
        ⟨nodes, ⟨hnodes, hports⟩, rfl, (hids nodes).symm ▸ hdistinct⟩, rfl, rfl⟩
      simp [field?_eq_of_getD_null hvalues, field?_eq_of_getD_null hitems]
  | _ =>
    constructor
    · intro h
      cases h
    · rintro ⟨_, ⟨_, hvalues, -⟩, -⟩
      cases hvalues

theorem textIfPresent_iff_getD {value : Json} {key : String} (fallback : Text) :
    TextIfPresent value key ↔
      ∃ text, (value.field? key).getD (.string fallback) = .string text := by
  rw [TextIfPresent]
  cases value.field? key <;> simp

/-- **What passes the inspection.** A document passes exactly if it denotes a graph whose
identifiers are not repeated and names the program, if at all, by a text. The wires that lead
nowhere in that graph are noted, in order. -/
theorem inspect_false_eq_iff {value : Json} {warnings : List Dangling} :
    inspect false value = ⟨warnings, none⟩ ↔
      ∃ graph : Graph Text, DenotesGraph value graph ∧ graph.Distinct ∧
        TextIfPresent value "programName" ∧
        danglings (graph.nodes.map Declared.of) 0 graph.connections = warnings := by
  rw [inspect]
  constructor
  · intro h
    cases hhead : inspectHead value with
    | error fault => simp [hhead, Inspection.failed] at h
    | ok head =>
      obtain ⟨declared, items⟩ := head
      obtain ⟨nodes, hnodes, hports, hdistinct, rfl, hitems, hname, hprogramName⟩ :=
        inspectHead_eq_ok_iff.1 hhead
      simp only [hhead] at h
      obtain ⟨connections, hconnections, hfresh⟩ :=
        denotes_of_inspectConnectionsFrom (congrArg Inspection.fault h)
      rw [inspectConnectionsFrom_false hconnections hfresh] at h
      obtain ⟨name, hname⟩ := (textIfPresent_iff_getD untitled).1 hname
      exact ⟨⟨name, nodes, connections⟩, ⟨hnodes, ⟨items, hitems, hconnections⟩, hname⟩,
        ⟨hdistinct, hports, fresh_nil_left.1 hfresh⟩, hprogramName,
        congrArg Inspection.warnings h⟩
  · rintro ⟨graph, hgraph, hdistinct, hprogramName, rfl⟩
    obtain ⟨items, hitems, hconnections⟩ := hgraph.connections
    have hname : TextIfPresent value "name" :=
      (textIfPresent_iff_getD untitled).2 ⟨graph.name, hgraph.name⟩
    have hhead : inspectHead value = .ok (graph.nodes.map Declared.of, items) :=
      inspectHead_eq_ok_iff.2 ⟨graph.nodes, hgraph.nodes, hdistinct.ports, hdistinct.nodes, rfl,
        hitems, hname, hprogramName⟩
    simp only [hhead]
    exact inspectConnectionsFrom_false hconnections (fresh_nil_left.2 hdistinct.connections)

/-- What passes, whatever is noted. -/
theorem accepted_iff {value : Json} :
    (inspect false value).accepted = true ↔
      ∃ graph : Graph Text, DenotesGraph value graph ∧ graph.Distinct ∧
        TextIfPresent value "programName" := by
  rw [Inspection.accepted, Option.isNone_iff_eq_none]
  constructor
  · intro h
    have hclean : inspect false value = ⟨(inspect false value).warnings, none⟩ := by rw [← h]
    obtain ⟨graph, hgraph, hdistinct, hprogramName, -⟩ := inspect_false_eq_iff.1 hclean
    exact ⟨graph, hgraph, hdistinct, hprogramName⟩
  · rintro ⟨graph, hgraph, hdistinct, hprogramName⟩
    rw [inspect_false_eq_iff.2 ⟨graph, hgraph, hdistinct, hprogramName, rfl⟩]

/-- **Strict inspections.** A strict inspection ends with the first wire that the other one notes,
and is the same if there is none. -/
theorem inspect_true (value : Json) : inspect true value = (inspect false value).harden := by
  rw [inspect, inspect]
  cases inspectHead value with
  | error fault => rfl
  | ok head => exact inspectConnectionsFrom_true head.1 0 [] head.2

end Document

end ModuleGraph
