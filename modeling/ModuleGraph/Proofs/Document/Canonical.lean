import Mathlib
import ModuleGraph.Proofs.Document.Encoding

/-!
# Canonical documents

A document is made canonical by reading its graph and writing it again. The canonical document says
all that the document says of its graph, and nothing else; members that only an editor knows are
gone, and they never made a difference.

## Main definitions

- `programName?`, `canonical?` — the program that a document names, and its canonical document
- `plain` — a document without the members that mean nothing here

## Main statements

- `denotesGraph_plain` — a document denotes what it denotes without such members
- `inspect_eq_of_denotesGraph` — the inspection depends on the graph that is denoted
- `canonical_round_trip` — writing and reading again, in both directions
-/

namespace ModuleGraph.Document

variable {L : Type} [Label L]

open Label (toJson)

/-! ### Canonical documents -/

/-- The program that a document names. -/
def programName? (value : Json) : Option Text :=
  (value.field? "programName").bind Json.asText?

/-- The document of the graph that a document denotes, naming the same program. -/
def canonical? (value : Json) : Except DecodeError Json :=
  (decodeGraph value).map fun graph : Graph Text => encodeGraph graph (programName? value)

theorem canonical?_eq_ok {value : Json} {graph : Graph Text} (h : DenotesGraph value graph) :
    canonical? value = .ok (encodeGraph graph (programName? value)) := by
  rw [canonical?, decodeGraph_eq_ok h]
  rfl

/-- A name that says nothing is not written, so that writing it again changes nothing. -/
theorem encodeGraph_programName? (graph : Graph Text) (programName : Option Text) :
    encodeGraph graph (programName? (encodeGraph graph programName)) =
      encodeGraph graph programName := by
  rw [programName?, field?_programName_encodeGraph]
  cases programName with
  | none => rfl
  | some name => cases name <;> rfl

/-! ### Members that mean nothing -/

/-- The members of an object under the given keys. -/
def keep (keys : List String) : Json → Json
  | .object members =>
    .object (members.filter fun member => decide (member.1 ∈ keys.map Text.ofString))
  | value => value

/-- A list with a function applied to its items. -/
def overList (f : Json → Json) : Json → Json
  | .array items => .array (items.map f)
  | value => value

/-- An object with a function applied to the items of the list under a key. -/
def overItems (key : String) (f : Json → Json) : Json → Json
  | .object members =>
    .object (members.map fun member =>
      (member.1, if member.1 = Text.ofString key then overList f member.2 else member.2))
  | value => value

/-- A port without the members that mean nothing here. -/
def plainPort : Json → Json := keep portKeys

/-- A node without the members that mean nothing here, nor in its ports. -/
def plainNode (value : Json) : Json :=
  overItems "inputs" plainPort
    (overItems "outputs" plainPort
      (keep ["id", "type", "kind", "name", "inputs", "outputs"] value))

/-- A connection without the members that mean nothing here. -/
def plainConnection : Json → Json := keep connectionKeys

/-- A document without the members that mean nothing here, nor in its parts. -/
def plain (value : Json) : Json :=
  overItems "nodes" plainNode
    (overItems "connections" plainConnection
      (keep ["name", "programName", "nodes", "connections"] value))

section Members

variable {value : Json} {f : Json → Json}

theorem field?_keep {keys : List String} {key : String} (h : key ∈ keys) (value : Json) :
    (keep keys value).field? key = value.field? key := by
  have hkept : Text.ofString key ∈ keys.map Text.ofString := List.mem_map_of_mem h
  cases value with
  | object members =>
    show Json.lastValue? _ (members.filter _) = Json.lastValue? _ members
    induction members with
    | nil => rfl
    | cons member members ih =>
      obtain ⟨name, value⟩ := member
      rw [Json.lastValue?, List.filter_cons]
      by_cases hname : name ∈ keys.map Text.ofString
      · rw [if_pos (by simpa using hname), Json.lastValue?, ih]
      · have hother : name ≠ key := fun heq => hname (heq ▸ hkept)
        rw [if_neg (by simpa using hname), ih, if_neg hother]
        cases Json.lastValue? key members <;> rfl
  | _ => rfl

theorem field?_overItems_self (key : String) (f : Json → Json) (value : Json) :
    (overItems key f value).field? key = (value.field? key).map (overList f) := by
  cases value with
  | object members =>
    show Json.lastValue? _ (members.map _) = (Json.lastValue? _ members).map _
    induction members with
    | nil => rfl
    | cons member members ih =>
      obtain ⟨name, value⟩ := member
      simp only [List.map_cons, Json.lastValue?, ih]
      cases Json.lastValue? key members with
      | some later => rfl
      | none => by_cases hname : name = Text.ofString key <;> simp [hname]
  | _ => rfl

theorem field?_overItems_of_ne {key other : String}
    (h : Text.ofString other ≠ Text.ofString key) (f : Json → Json) (value : Json) :
    (overItems key f value).field? other = value.field? other := by
  cases value with
  | object members =>
    show Json.lastValue? _ (members.map _) = Json.lastValue? _ members
    induction members with
    | nil => rfl
    | cons member members ih =>
      obtain ⟨name, value⟩ := member
      simp only [List.map_cons, Json.lastValue?, ih]
      cases Json.lastValue? other members with
      | some later => rfl
      | none =>
        by_cases hname : name = Text.ofString other
        · simp [hname, h]
        · simp [hname]
  | _ => rfl

/-- A list denotes the same if its items do. -/
theorem denotesList_overList {α : Type} {Denotes : Json → α → Prop}
    (hf : ∀ item part, Denotes (f item) part ↔ Denotes item part) {parts : List α} :
    DenotesList Denotes (overList f value) parts ↔ DenotesList Denotes value parts := by
  cases value with
  | array items =>
    constructor
    · rintro ⟨_, ⟨⟩, hparts⟩
      exact ⟨items, rfl, (List.forall₂_map_left_iff.1 hparts).imp fun _ _ => (hf _ _).1⟩
    · rintro ⟨_, ⟨⟩, hparts⟩
      exact ⟨_, rfl, List.forall₂_map_left_iff.2 (hparts.imp fun _ _ => (hf _ _).2)⟩
  | _ => exact Iff.rfl

/-- The same for a list that may be absent. -/
theorem denotesList_map_overList {α : Type} {Denotes : Json → α → Prop}
    (hf : ∀ item part, Denotes (f item) part ↔ Denotes item part) {fallback : Json}
    {list : Option Json} {parts : List α} :
    DenotesList Denotes ((list.map (overList f)).getD fallback) parts ↔
      DenotesList Denotes (list.getD fallback) parts := by
  cases list with
  | none => exact Iff.rfl
  | some list => exact denotesList_overList hf

end Members

/-! ### What remains without them -/

theorem DenotesPort.of_agree {value other : Json} {port : Port L}
    (h : ∀ key ∈ portKeys, other.field? key = value.field? key) (hport : DenotesPort value port) :
    DenotesPort other port :=
  ⟨(h "id" (by decide)).trans hport.id, (h "name" (by decide)).trans hport.name,
    (h "type" (by decide)).trans hport.type⟩

theorem denotesPort_plainPort (value : Json) (port : Port L) :
    DenotesPort (plainPort value) port ↔ DenotesPort value port := by
  have hagree : ∀ key ∈ portKeys, (plainPort value).field? key = value.field? key :=
    fun key hkey => field?_keep hkey value
  exact ⟨.of_agree fun key hkey => (hagree key hkey).symm, .of_agree hagree⟩

theorem DenotesConnection.of_agree {value other : Json} {connection : Connection L}
    (h : ∀ key ∈ connectionKeys, other.field? key = value.field? key)
    (hconnection : DenotesConnection value connection) : DenotesConnection other connection :=
  ⟨(h "id" (by decide)).trans hconnection.id,
    (h "sourceNodeId" (by decide)).trans hconnection.sourceNode,
    (h "sourcePortId" (by decide)).trans hconnection.sourcePort,
    (h "targetNodeId" (by decide)).trans hconnection.targetNode,
    (h "targetPortId" (by decide)).trans hconnection.targetPort⟩

theorem denotesConnection_plainConnection (value : Json) (connection : Connection L) :
    DenotesConnection (plainConnection value) connection ↔ DenotesConnection value connection := by
  have hagree : ∀ key ∈ connectionKeys, (plainConnection value).field? key = value.field? key :=
    fun key hkey => field?_keep hkey value
  exact ⟨.of_agree fun key hkey => (hagree key hkey).symm, .of_agree hagree⟩

/-- The members of a node that are no lists stay as they are. -/
theorem field?_plainNode {key : String} (h : key ∈ ["id", "type", "kind", "name"]) (value : Json) :
    (plainNode value).field? key = value.field? key := by
  have hlists : ∀ key ∈ ["id", "type", "kind", "name"],
      Text.ofString key ≠ Text.ofString "inputs" ∧ Text.ofString key ≠ Text.ofString "outputs" := by
    decide
  obtain ⟨hinputs, houtputs⟩ := hlists key h
  rw [plainNode, field?_overItems_of_ne hinputs, field?_overItems_of_ne houtputs, field?_keep]
  exact List.mem_append_left ["inputs", "outputs"] h

theorem nodeKind_plainNode (value : Json) : nodeKind (plainNode value) = nodeKind value := by
  rw [nodeKind, nodeKind, field?_plainNode (by decide), field?_plainNode (by decide)]

theorem field?_inputs_plainNode (value : Json) :
    (plainNode value).field? "inputs" = (value.field? "inputs").map (overList plainPort) := by
  rw [plainNode, field?_overItems_self, field?_overItems_of_ne (by decide), field?_keep (by decide)]

theorem field?_outputs_plainNode (value : Json) :
    (plainNode value).field? "outputs" = (value.field? "outputs").map (overList plainPort) := by
  rw [plainNode, field?_overItems_of_ne (by decide), field?_overItems_self, field?_keep (by decide)]

theorem denotesNode_plainNode (value : Json) (node : Node L) :
    DenotesNode (plainNode value) node ↔ DenotesNode value node := by
  have hports : ∀ {list : Option Json} {ports : List (Port L)},
      DenotesList DenotesPort ((list.map (overList plainPort)).getD (.array [])) ports ↔
        DenotesList DenotesPort (list.getD (.array [])) ports :=
    denotesList_map_overList denotesPort_plainPort
  constructor
  · rintro ⟨hid, hkind, hname, hinputs, houtputs⟩
    rw [field?_inputs_plainNode, hports] at hinputs
    rw [field?_outputs_plainNode, hports] at houtputs
    exact ⟨(field?_plainNode (by decide) value).symm.trans hid,
      (nodeKind_plainNode value).symm.trans hkind,
      (field?_plainNode (by decide) value).symm.trans hname, hinputs, houtputs⟩
  · rintro ⟨hid, hkind, hname, hinputs, houtputs⟩
    refine ⟨(field?_plainNode (by decide) value).trans hid, (nodeKind_plainNode value).trans hkind,
      (field?_plainNode (by decide) value).trans hname, ?_, ?_⟩
    · rw [field?_inputs_plainNode, hports]
      exact hinputs
    · rw [field?_outputs_plainNode, hports]
      exact houtputs

/-- The names of the graph and of the program stay as they are. -/
theorem field?_plain {key : String} (h : key ∈ ["name", "programName"]) (value : Json) :
    (plain value).field? key = value.field? key := by
  have hlists : ∀ key ∈ ["name", "programName"],
      Text.ofString key ≠ Text.ofString "nodes" ∧
        Text.ofString key ≠ Text.ofString "connections" := by
    decide
  obtain ⟨hnodes, hconnections⟩ := hlists key h
  rw [plain, field?_overItems_of_ne hnodes, field?_overItems_of_ne hconnections, field?_keep]
  exact List.mem_append_left ["nodes", "connections"] h

theorem field?_nodes_plain (value : Json) :
    (plain value).field? "nodes" = (value.field? "nodes").map (overList plainNode) := by
  rw [plain, field?_overItems_self, field?_overItems_of_ne (by decide), field?_keep (by decide)]

theorem field?_connections_plain (value : Json) :
    (plain value).field? "connections" =
      (value.field? "connections").map (overList plainConnection) := by
  rw [plain, field?_overItems_of_ne (by decide), field?_overItems_self, field?_keep (by decide)]

/-- A document denotes what it denotes without the members that mean nothing. -/
theorem denotesGraph_plain (value : Json) (graph : Graph L) :
    DenotesGraph (plain value) graph ↔ DenotesGraph value graph := by
  have hnodes : DenotesList DenotesNode (((plain value).field? "nodes").getD .null) graph.nodes ↔
      DenotesList DenotesNode ((value.field? "nodes").getD .null) graph.nodes := by
    rw [field?_nodes_plain]
    exact denotesList_map_overList denotesNode_plainNode
  have hconnections :
      DenotesList DenotesConnection (((plain value).field? "connections").getD .null)
          graph.connections ↔
        DenotesList DenotesConnection ((value.field? "connections").getD .null)
          graph.connections := by
    rw [field?_connections_plain]
    exact denotesList_map_overList denotesConnection_plainConnection
  have hname : (plain value).field? "name" = value.field? "name" := field?_plain (by decide) value
  constructor
  · intro h
    exact ⟨hnodes.1 h.nodes, hconnections.1 h.connections, hname ▸ h.name⟩
  · intro h
    exact ⟨hnodes.2 h.nodes, hconnections.2 h.connections, hname.symm ▸ h.name⟩

theorem programName?_plain (value : Json) : programName? (plain value) = programName? value := by
  rw [programName?, programName?, field?_plain (by decide)]

theorem textIfPresent_plain (value : Json) :
    TextIfPresent (plain value) "programName" ↔ TextIfPresent value "programName" := by
  rw [TextIfPresent, TextIfPresent, field?_plain (by decide)]

/-! ### Inspections of what denotes the same -/

/-- Two documents that denote the same graph pass alike, if they name their programs by texts. -/
theorem inspect_eq_of_denotesGraph {value other : Json} {graph : Graph Text}
    (hdistinct : graph.Distinct) (hvalue : DenotesGraph value graph)
    (hother : DenotesGraph other graph) (hname : TextIfPresent value "programName")
    (hotherName : TextIfPresent other "programName") (strict : Bool) :
    inspect strict other = inspect strict value := by
  have hlax : inspect false other = inspect false value :=
    (inspect_false_eq_iff.2 ⟨graph, hother, hdistinct, hotherName, rfl⟩).trans
      (inspect_false_eq_iff.2 ⟨graph, hvalue, hdistinct, hname, rfl⟩).symm
  cases strict with
  | false => exact hlax
  | true => rw [inspect_true, inspect_true, hlax]

/-- **Graphs and documents, there and back.** A graph is read back from its document, whatever
program that names. A document that passes the inspection has a canonical document. It passes with
the same wires noted, denotes the same graph, and is its own canonical document. Any document that
differs only in members that mean nothing passes alike, and has the same canonical document. -/
theorem canonical_round_trip :
    (∀ (L : Type) [Label L] (graph : Graph L) (programName : Option L),
      decodeGraph (encodeGraph graph programName) = .ok graph) ∧
    ∀ value, (inspect false value).accepted = true →
      ∃ (graph : Graph Text) (canonical : Json),
        decodeGraph value = .ok graph ∧ canonical? value = .ok canonical ∧
        (∀ strict, inspect strict canonical = inspect strict value) ∧
        decodeGraph canonical = .ok graph ∧ canonical? canonical = .ok canonical ∧
        ∀ other, plain other = plain value →
          (∀ strict, inspect strict other = inspect strict value) ∧
          canonical? other = .ok canonical := by
  refine ⟨fun L _ graph programName => decodeGraph_encodeGraph graph programName, ?_⟩
  intro value haccepted
  obtain ⟨graph, hgraph, hdistinct, hname⟩ := accepted_iff.1 haccepted
  have hcanonical := denotesGraph_encodeGraph graph (programName? value)
  refine ⟨graph, _, decodeGraph_eq_ok hgraph, canonical?_eq_ok hgraph,
    inspect_eq_of_denotesGraph hdistinct hgraph hcanonical hname
      (textIfPresent_programName_encodeGraph graph _),
    decodeGraph_eq_ok hcanonical, ?_, ?_⟩
  · rw [canonical?_eq_ok hcanonical, encodeGraph_programName?]
  · intro other hplain
    have hother : DenotesGraph other graph := by
      rw [← denotesGraph_plain, hplain, denotesGraph_plain]
      exact hgraph
    have hotherName : TextIfPresent other "programName" := by
      rw [← textIfPresent_plain, hplain, textIfPresent_plain]
      exact hname
    have hsame : programName? other = programName? value := by
      rw [← programName?_plain, hplain, programName?_plain]
    refine ⟨inspect_eq_of_denotesGraph hdistinct hgraph hother hname hotherName, ?_⟩
    rw [canonical?_eq_ok hother, hsame]

/-- A mint whose kind stands under `kind` and whose only wire leads nowhere, with what an editor
keeps about the graph, the node, its port and the wire. -/
def annotated : Json :=
  let out : Json := .object
    [("id", .string "out"), ("color", .string "red"), ("name", .string "Out"),
      ("type", .string "number")]
  let mint : Json := .object
    [("x", .number "40"), ("id", .string "mint"), ("kind", .string "token"),
      ("name", .string "Mint"), ("outputs", .array [out])]
  let wire : Json := .object
    [("id", .string "w"), ("sourceNodeId", .string "mint"), ("sourcePortId", .string "out"),
      ("targetNodeId", .string "gone"), ("targetPortId", .string "in"), ("bend", .null)]
  .object
    [("zoom", .number "1.5"), ("programName", .string "Vault"), ("nodes", .array [mint]),
      ("connections", .array [wire])]

theorem canonical_round_trip_annotated :
    (inspect false annotated).accepted = true ∧
    (inspect false annotated).warnings.map (·.index) = [0] ∧
    (annotated.field? "zoom").isSome = true ∧ (plain annotated).field? "zoom" = none ∧
    ∃ (graph : Graph Text) (canonical : Json),
      decodeGraph annotated = .ok graph ∧ graph.nodes.map (·.kind) = ["token"] ∧
      inspect false canonical = inspect false annotated ∧
      canonical? canonical = .ok canonical ∧ canonical? (plain annotated) = .ok canonical := by
  have haccepted : (inspect false annotated).accepted = true := by decide
  have hplain : plain (plain annotated) = plain annotated := by rfl
  obtain ⟨graph, canonical, hgraph, -, hinspect, -, hagain, hothers⟩ :=
    canonical_round_trip.2 annotated haccepted
  have hkinds : ((decodeGraph annotated : Except DecodeError (Graph Text)).map
      fun graph => graph.nodes.map (·.kind)) = .ok ["token"] := by cbv
  rw [hgraph] at hkinds
  exact ⟨haccepted, by decide, by decide, by decide, graph, canonical, hgraph,
    Except.ok.inj hkinds, hinspect false, hagain, (hothers _ hplain).2⟩

end ModuleGraph.Document
