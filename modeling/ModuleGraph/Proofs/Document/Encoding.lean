import ModuleGraph.Document.Encode
import ModuleGraph.Proofs.Document.Inspection

/-!
# What is written denotes what it was written from

Every graph is read back from its document, whatever its labels are and whether or not the document
names a program. The inspection of the document of a graph depends on the graph alone.

## Main statements

- `denotesNode_encodeNode`, `denotesConnection_encodeConnection`, `denotesGraph_encodeGraph` — the
  documents of graphs and of their parts denote them
- `decodeGraph_encodeGraph` — what is written is read back
- `inspect_encodeGraph` — the inspection of the document of a graph
-/

namespace ModuleGraph

/-! ### Members -/

theorem Json.lastValue?_append (key : Text) (members more : List (Text × Json)) :
    Json.lastValue? key (members ++ more) =
      (Json.lastValue? key more).or (Json.lastValue? key members) := by
  induction members with
  | nil => cases h : Json.lastValue? key more <;> simp [Json.lastValue?, h]
  | cons member members ih =>
    obtain ⟨name, value⟩ := member
    rw [List.cons_append, Json.lastValue?, Json.lastValue?, ih]
    cases Json.lastValue? key more <;> simp

namespace Document

variable {L : Type} [Label L]

open Label (toJson)

theorem lastValue?_programNameMember {key : Text} (h : key ≠ Text.ofString "programName")
    (programName : Option L) : Json.lastValue? key (programNameMember programName) = none := by
  cases programName with
  | none => rfl
  | some name =>
    rw [programNameMember]
    split
    · rfl
    · simp [Json.lastValue?, Ne.symm h]

/-- What the document of a graph says does not depend on the name of the program. -/
theorem field?_encodeGraph {key : Text} (h : key ≠ Text.ofString "programName") (graph : Graph L)
    (programName : Option L) :
    (encodeGraph graph programName).field? key = Json.lastValue? key (graphMembers graph) := by
  rw [encodeGraph, Json.field?, Json.lastValue?_append, lastValue?_programNameMember h,
    Option.none_or]

/-! ### Parts -/

theorem denotesList_map {α : Type} {Denotes : Json → α → Prop} {encode : α → Json}
    (hencode : ∀ part, Denotes (encode part) part) (parts : List α) :
    DenotesList Denotes (.array (parts.map encode)) parts := by
  refine ⟨_, rfl, ?_⟩
  induction parts with
  | nil => exact .nil
  | cons part parts ih => exact .cons (hencode part) ih

theorem denotesPort_encodePort (port : Port L) : DenotesPort (encodePort port) port :=
  ⟨rfl, rfl, rfl⟩

theorem denotesNode_encodeNode (node : Node L) : DenotesNode (encodeNode node) node where
  id := rfl
  kind := rfl
  name := rfl
  inputs := denotesList_map denotesPort_encodePort node.inputs
  outputs := denotesList_map denotesPort_encodePort node.outputs

theorem denotesConnection_encodeConnection (connection : Connection L) :
    DenotesConnection (encodeConnection connection) connection :=
  ⟨rfl, rfl, rfl, rfl, rfl⟩

/-! ### Graphs -/

theorem denotesGraph_encodeGraph (graph : Graph L) (programName : Option L) :
    DenotesGraph (encodeGraph graph programName) graph where
  nodes := by
    rw [field?_encodeGraph (by decide)]
    exact denotesList_map denotesNode_encodeNode graph.nodes
  connections := by
    rw [field?_encodeGraph (by decide)]
    exact denotesList_map denotesConnection_encodeConnection graph.connections
  name := by
    rw [field?_encodeGraph (by decide)]
    rfl

/-- What is written is read back. -/
theorem decodeGraph_encodeGraph (graph : Graph L) (programName : Option L) :
    decodeGraph (encodeGraph graph programName) = .ok graph :=
  decodeGraph_eq_ok (denotesGraph_encodeGraph graph programName)

/-- The program that a document names, unless its name says nothing. -/
theorem field?_programName_encodeGraph (graph : Graph Text) (programName : Option Text) :
    (encodeGraph graph programName).field? "programName" =
      (programName.filter (!·.isEmpty)).map Json.string := by
  have hgraph : Json.lastValue? "programName" (graphMembers graph) = none := rfl
  rw [encodeGraph, Json.field?, Json.lastValue?_append, hgraph, Option.or_none]
  cases programName with
  | none => rfl
  | some name => cases name <;> rfl

theorem textIfPresent_programName_encodeGraph (graph : Graph Text) (programName : Option Text) :
    TextIfPresent (encodeGraph graph programName) "programName" := by
  intro member hmember
  rw [field?_programName_encodeGraph] at hmember
  obtain ⟨name, -, rfl⟩ := Option.map_eq_some_iff.1 hmember
  exact ⟨name, rfl⟩

/-- The document of a graph whose identifiers are not repeated passes the inspection, which notes
the wires of the graph that lead nowhere. -/
theorem inspect_encodeGraph {graph : Graph Text} (h : graph.Distinct) (programName : Option Text) :
    inspect false (encodeGraph graph programName) =
      ⟨danglings (graph.nodes.map Declared.of) 0 graph.connections, none⟩ :=
  inspect_false_eq_iff.2 ⟨graph, denotesGraph_encodeGraph graph programName, h,
    textIfPresent_programName_encodeGraph graph programName, rfl⟩

end Document

end ModuleGraph
