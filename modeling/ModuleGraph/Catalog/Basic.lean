import ModuleGraph.FreshId
import ModuleGraph.Graph.Basic

/-!
# Module templates

A template says which ports a module of some sort has. Stamping it out gives a node whose
identifiers are fresh: first that of the node, then those of its inputs and of its outputs.

## Main definitions

- `PortSpec`, `Template` — a port of a template, and a template
- `stampPorts` — ports with fresh identifiers
- `stampNode` — a node with fresh identifiers
- `blankNode`, `startNode` — nodes that need no template
-/

namespace ModuleGraph

structure PortSpec (L : Type) where
  name : L
  type : L
  description : L
  required : Bool
  deriving DecidableEq, Repr

/-- What a module of some sort looks like. -/
structure Template (L : Type) where
  id : L
  name : L
  category : L
  kind : L
  description : L
  inputs : List (PortSpec L)
  outputs : List (PortSpec L)
  builtIn : Bool
  deriving DecidableEq, Repr

variable {L : Type} [Label L]

/-! ### Stamping out -/

/-- One more fresh identifier, as a label. -/
def IdSupply.takeLabel (supply : IdSupply) : L × IdSupply :=
  (Label.ofText supply.next, supply.advance 1)

/-- Ports as specified, with fresh identifiers. -/
def stampPorts (supply : IdSupply) : List (PortSpec L) → List (Port L) × IdSupply
  | [] => ([], supply)
  | spec :: specs =>
    let (id, supply) : L × IdSupply := supply.takeLabel
    let (ports, supply) := stampPorts supply specs
    (⟨id, spec.name, spec.type⟩ :: ports, supply)

/-- A node with ports as specified and fresh identifiers. -/
def stampNode (supply : IdSupply) (kind name : L) (inputs outputs : List (PortSpec L)) :
    Node L × IdSupply :=
  let (id, supply) : L × IdSupply := supply.takeLabel
  let (inputs, supply) := stampPorts supply inputs
  let (outputs, supply) := stampPorts supply outputs
  ({ id, kind, name, inputs, outputs }, supply)

/-- A required port with a description. -/
def PortSpec.needed (name type description : Text) : PortSpec L where
  name := Label.ofText name
  type := Label.ofText type
  description := Label.ofText description
  required := true

/-- A required port without description. -/
def PortSpec.plain (name type : Text) : PortSpec L := .needed name type ""

/-- A node of a template, under the name asked for or that of the template. -/
def Template.node (template : Template L) (supply : IdSupply) (name : Option L) :
    Node L × IdSupply :=
  stampNode supply template.kind (Label.orElse name template.name) template.inputs template.outputs

/-- A node without template: an account has no ports, any other node one input and one output. -/
def blankNode (supply : IdSupply) (kind : L) (name : Option L) : Node L × IdSupply :=
  if kind == Label.ofText accountKind then
    stampNode supply kind (Label.orElse name (Label.ofText "New Account")) [] []
  else
    stampNode supply kind (Label.orElse name (Label.ofText "New Instruction"))
      [.plain "input" "data"] [.plain "output" "data"]

def startNode (supply : IdSupply) : Node L × IdSupply :=
  stampNode supply (Label.ofText startKind) (Label.ofText "Program Start") []
    [.plain "start" "flow"]

end ModuleGraph
