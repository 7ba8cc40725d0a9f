import ModuleGraph.Graph.Label
import ModuleGraph.Log

/-!
# Attempts

An operation on a graph that was taken over as it came may meet a label that is of no use to it. It
then fails, and leaves the records that it has made so far.

## Main definitions

- `Attempt` — the result of an operation or a fault, and the records left
- `Attempt.require` — the operation goes on only if its labels are of use
-/

namespace ModuleGraph

/-- What comes of an operation whose labels may be of no use. -/
structure Attempt (α : Type) where
  result : Except LabelFault α
  log : Log

namespace Attempt

variable {α : Type}

def failed (fault : LabelFault) : Attempt α := ⟨.error fault, []⟩

def done (value : α) (log : Log) : Attempt α := ⟨.ok value, log⟩

/-- The same with records that were left before. -/
def after (log : Log) (attempt : Attempt α) : Attempt α :=
  { attempt with log := log ++ attempt.log }

/-- The operation goes on only if a condition on its labels holds. -/
def require (condition : Bool) (fault : LabelFault) (next : Attempt α) : Attempt α :=
  if condition then next else failed fault

end Attempt

end ModuleGraph
