import ModuleGraph.Text.Basic

/-!
# Schedules

A schedule is the plan of a program: the instructions and data records to be written, with all their
names settled, and a summary of how they follow one another.

## Main definitions

- `BoundAccount` — a data record that an instruction works on
- `Instruction`, `Account` — an instruction and a data record to be written
- `Transfer`, `ProgramFlow` — one wire, and the summary of the whole program
- `Schedule` — the plan
-/

namespace ModuleGraph

/-- A data record that an instruction works on: its node, its type, and the field of the instruction
that holds it. -/
structure BoundAccount (L : Type) where
  nodeId : L
  typeName : String
  fieldName : String
  deriving DecidableEq, Repr

/-- An instruction to be written. -/
structure Instruction (L : Type) where
  nodeId : L
  nodeName : Text
  category : Text
  /-- The name of the module and of its entry function. -/
  moduleName : String
  /-- The type of the accounts that the entry function takes. -/
  typeName : String
  boundAccounts : List (BoundAccount L)
  /-- The names of the instructions wired into this one. -/
  predecessors : List Text
  connectionCount : Int
  deriving DecidableEq, Repr

/-- A data record to be written. -/
structure Account (L : Type) where
  nodeId : L
  nodeName : Text
  typeName : String
  connectionCount : Int
  deriving DecidableEq, Repr

/-- One wire, by the names of the nodes that it joins and the type that it carries. -/
structure Transfer (L : Type) where
  source : Text
  target : Text
  dataType : L
  required : Bool
  deriving DecidableEq, Repr

/-- How the instructions of a program follow one another, by the names of their nodes. -/
structure ProgramFlow (L : Type) where
  entryPoints : List Text
  executionOrder : List Text
  dataFlow : List (Transfer L)
  deriving DecidableEq, Repr

/-- The flow of a program without instructions. -/
def ProgramFlow.empty {L : Type} : ProgramFlow L := ⟨[], [], []⟩

/-- The plan of a program. -/
structure Schedule (L : Type) where
  programName : String
  instructions : List (Instruction L)
  accounts : List (Account L)
  flow : ProgramFlow L
  hasConnections : Bool
  deriving DecidableEq, Repr

end ModuleGraph
