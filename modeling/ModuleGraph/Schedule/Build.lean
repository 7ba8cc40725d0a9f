import ModuleGraph.Flow.Analysis
import ModuleGraph.Naming
import ModuleGraph.Schedule.Basic

/-!
# Scheduling a graph

Account nodes become data records and all others instructions. Instructions whose names would give
the same module are told apart by a number, which goes to the later ones.

## Main definitions

- `ModuleLabel`, `assignLabels` — the names of the modules, in the order of the nodes
- `bindAccounts` — the data records that an instruction works on
- `programFlow` — the summary of a graph
- `buildSchedule` — the plan of a graph
- `scheduleLog` — the records of building it
-/

namespace ModuleGraph

variable {L : Type} [Label L]

open Label (wording)

/-- The nodes that become instructions. -/
def behavioral (nodes : List (Node L)) : List (Node L) := nodes.filter fun node => !node.isAccount

/-! ### Module names -/

/-- The name of a module: what the name of its node gives, and the number that tells it apart from
an earlier module. -/
structure ModuleLabel where
  base : String
  suffix : Option Nat
  deriving DecidableEq, Repr

def ModuleLabel.text (label : ModuleLabel) : String :=
  match label.suffix with
  | some number => Naming.suffixed label.base number
  | none => label.base

/-- The name of the module of a node, if the names in `used` are taken. -/
def moduleLabel (used : List String) (node : Node L) : ModuleLabel :=
  let base := Naming.orElse (Naming.moduleName (wording node.name)) "instruction"
  if used.contains base then ⟨base, some (Naming.freeSuffix used base)⟩ else ⟨base, none⟩

/-- The nodes with the names of their modules, where the names in `used` are taken. -/
def assignLabels : (used : List String) → List (Node L) → List (Node L × ModuleLabel)
  | _, [] => []
  | used, node :: nodes =>
    let label := moduleLabel used node
    (node, label) :: assignLabels (label.text :: used) nodes

/-! ### Accounts -/

/-- The type of the data record of an account node. -/
def accountType (node : Node L) : String :=
  Naming.orElse (Naming.typeName (wording node.name)) "AccountData"

/-- The data record at the source of a wire. -/
def boundAccount (wire : Resolved L) : BoundAccount L :=
  let type := accountType wire.sourceNode
  ⟨wire.sourceNode.id, type, type.map Char.toLower⟩

/-- The data records at the sources of wires, each field once: the first that claims it has it. -/
def bindAccounts : (fields : List String) → List (Resolved L) → List (BoundAccount L)
  | _, [] => []
  | fields, wire :: wires =>
    if wire.sourceNode.isAccount && !fields.contains (boundAccount wire).fieldName then
      boundAccount wire :: bindAccounts ((boundAccount wire).fieldName :: fields) wires
    else
      bindAccounts fields wires

/-! ### Units -/

/-- The wires into a node. -/
def incoming (wires : List (Resolved L)) (id : L) : List (Resolved L) :=
  wires.filter (·.targetNode.id == id)

/-- The number of wires with an end at a node. -/
def connectionCount (wires : List (Resolved L)) (id : L) : Nat :=
  wires.countP (·.connection.touches id)

/-- The type of the accounts of an instruction. -/
def instructionType (node : Node L) (label : ModuleLabel) : String :=
  let type := Naming.orElse (Naming.typeName (wording node.name)) "Instruction"
  match label.suffix with
  | some number => type ++ toString number
  | none => type

/-- The names of the instructions at the sources of wires, each once. -/
def predecessorNames (wires : List (Resolved L)) : List Text :=
  ((wires.filter fun wire => !wire.sourceNode.isAccount).map
    fun wire => wording wire.sourceNode.name).eraseDups

def scheduleInstruction (wires : List (Resolved L)) (node : Node L) (label : ModuleLabel) :
    Instruction L where
  nodeId := node.id
  nodeName := wording node.name
  category := (wording node.kind).lower
  moduleName := label.text
  typeName := instructionType node label
  boundAccounts := bindAccounts [] (incoming wires node.id)
  predecessors := predecessorNames (incoming wires node.id)
  connectionCount := connectionCount wires node.id

/-- The instructions of a graph, in the order of the nodes. -/
def scheduleInstructions (nodes : List (Node L)) (wires : List (Resolved L)) :
    List (Instruction L) :=
  (assignLabels [] (behavioral nodes)).map fun (node, label) =>
    scheduleInstruction wires node label

/-- The data records of a graph, in the order of the nodes. -/
def scheduleAccounts (nodes : List (Node L)) (wires : List (Resolved L)) : List (Account L) :=
  (nodes.filter (·.isAccount)).map fun node =>
    ⟨node.id, wording node.name, accountType node, connectionCount wires node.id⟩

/-! ### Flow -/

/-- The names of the instructions that nothing is wired into. -/
def entryPoints (nodes : List (Node L)) (wires : List (Resolved L)) : List Text :=
  ((behavioral nodes).filter fun node => !wires.any (·.targetNode.id == node.id)).map
    fun node => wording node.name

/-- The nodes with the given identifiers that become instructions. -/
def orderedInstructions (nodes : List (Node L)) (order : List L) : List (Node L) :=
  behavioral (order.filterMap (findNode? nodes))

/-- How a wire shows in the summary of a program. -/
def transfer (wire : Resolved L) : Transfer L :=
  ⟨wording wire.sourceNode.name, wording wire.targetNode.name, wire.sourcePort.type, true⟩

/-- The summary of a graph. -/
def programFlow (nodes : List (Node L)) (connections : List (Connection L)) : ProgramFlow L :=
  let wires := resolved nodes connections
  let order := executionOrder (dependencies nodes connections) (distinctIds nodes)
  { entryPoints := entryPoints nodes wires
    executionOrder := (orderedInstructions nodes order).map fun node => wording node.name
    dataFlow := wires.map transfer }

/-! ### The plan -/

/-- The plan of a graph, for a program of the given name. -/
def buildSchedule (programName : String) (nodes : List (Node L))
    (connections : List (Connection L)) : Schedule L :=
  let wires := resolved nodes connections
  { programName
    instructions := scheduleInstructions nodes wires
    accounts := scheduleAccounts nodes wires
    flow := programFlow nodes connections
    hasConnections := !connections.isEmpty }

/-- The record of a module that was given a number. -/
def renameRecord (node : Node L) (label : ModuleLabel) : Log :=
  match label.suffix with
  | some _ =>
    [⟨.schedule, .debug,
      "Module name '" ++ label.base ++ "' already used, renaming node " ++ wording node.id ++
        " to '" ++ label.text ++ "'"⟩]
  | none => []

/-- The record of the connections that were passed over. -/
def skipLog (nodes : List (Node L)) (connections : List (Connection L)) : Log :=
  let skipped := connections.length - (resolved nodes connections).length
  if skipped = 0 then []
  else [⟨.schedule, .debug, s!"Skipping {skipped} connection(s) with unresolved endpoints"⟩]

/-- The records of building the plan of a graph. -/
def scheduleLog (nodes : List (Node L)) (connections : List (Connection L)) : Log :=
  skipLog nodes connections ++
    (assignLabels [] (behavioral nodes)).flatMap fun (node, label) => renameRecord node label

end ModuleGraph
