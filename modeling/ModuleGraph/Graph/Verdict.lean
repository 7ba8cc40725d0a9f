import ModuleGraph.Graph.Basic
import ModuleGraph.Graph.PortType

/-!
# Judging a proposed connection

A wire may be added if it joins two different nodes, if its port types fit, if it is not there
already, and if its input port is still free.

## Main definitions

- `Rejection` — why a wire may not be added, with its wording and its code
- `Proposal` — the nodes and ports that a wire would join
- `Proposal.scan` — the rules about the wires that are there already, in one pass
- `Proposal.verdict` — the first rule that the wire breaks
- `Proposal.isJudgeable` — whether a verdict can be reached
-/

namespace ModuleGraph

/-- Why a wire may not be added. -/
inductive Rejection (L : Type) where
  | selfConnection
  | incompatibleTypes (source target : L)
  | duplicateConnection
  | inputAlreadyBound
  deriving DecidableEq, Repr

variable {L : Type}

namespace Rejection

def message [Label L] : Rejection L → Text
  | selfConnection => "Cannot connect node to itself"
  | incompatibleTypes source target =>
    "Incompatible types: " ++ Label.wording source ++ " -> " ++ Label.wording target
  | duplicateConnection => "Connection already exists"
  | inputAlreadyBound => "Port already has an input connection"

def code : Rejection L → String
  | selfConnection => "self_connection"
  | incompatibleTypes _ _ => "incompatible_types"
  | duplicateConnection => "duplicate_connection"
  | inputAlreadyBound => "input_already_bound"

end Rejection

/-- The nodes and ports that a wire would join. -/
structure Proposal (L : Type) where
  sourceNode : Node L
  sourcePort : Port L
  targetNode : Node L
  targetPort : Port L

namespace Proposal

def endpoints (proposal : Proposal L) : Endpoints L :=
  ⟨proposal.sourceNode.id, proposal.sourcePort.id, proposal.targetNode.id, proposal.targetPort.id⟩

variable [Label L]

/-- Whether a connection feeds the input port of the proposal. -/
def sharesTarget (proposal : Proposal L) (connection : Connection L) : Bool :=
  connection.targetNode == proposal.targetNode.id && connection.targetPort == proposal.targetPort.id

/-- Whether a connection leaves from the output port of the proposal. -/
def sharesSource (proposal : Proposal L) (connection : Connection L) : Bool :=
  connection.sourceNode == proposal.sourceNode.id && connection.sourcePort == proposal.sourcePort.id

/-- What the existing connections have against the wire. -/
def scan (proposal : Proposal L) : Bool → List (Connection L) → Option (Rejection L)
  -- `bound` tells whether a connection already seen feeds the same input port
  | bound, [] => if bound then some .inputAlreadyBound else none
  | bound, connection :: connections =>
    if proposal.sharesTarget connection then
      if proposal.sharesSource connection then some .duplicateConnection
      else proposal.scan true connections
    else
      proposal.scan bound connections

/-- Whether the wire would join a node to itself. -/
def isLoop (proposal : Proposal L) : Bool := proposal.sourceNode.id == proposal.targetNode.id

/-- The first rule that the wire breaks beside the existing connections, if it breaks one. -/
def verdict (proposal : Proposal L) (existing : List (Connection L)) : Option (Rejection L) :=
  if proposal.isLoop then
    some .selfConnection
  else if PortType.feeds proposal.sourcePort.type proposal.targetPort.type then
    proposal.scan false existing
  else
    some (.incompatibleTypes proposal.sourcePort.type proposal.targetPort.type)

/-- Whether a verdict can be reached: the port types have to be comparable, unless the wire is a
loop. -/
def isJudgeable (proposal : Proposal L) : Bool :=
  proposal.isLoop || PortType.isComparable proposal.sourcePort.type proposal.targetPort.type

end Proposal

end ModuleGraph
