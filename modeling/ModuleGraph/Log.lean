import ModuleGraph.Text.Basic

/-!
# Log records

What happens is reported as a list of records. Each has a channel, which says what part of the
system speaks, a level and a text.

## Main definitions

- `Log.Channel`, `Log.Level`, `Log.Record` — a record and its parts
- `Log` — records in the order in which they were made
-/

namespace ModuleGraph

namespace Log

/-- The part of the system that speaks. -/
inductive Channel where
  | flow
  | schedule
  | compiler
  | session
  | api
  | commandLine
  deriving DecidableEq, Repr

/-- The weight of a record. -/
inductive Level where
  | debug
  | info
  deriving DecidableEq, Repr

def Level.name : Level → String
  | debug => "DEBUG"
  | info => "INFO"

def Level.rank : Level → Nat
  | debug => 10
  | info => 20

structure Record where
  channel : Channel
  level : Level
  text : Text
  deriving DecidableEq, Repr

end Log

/-- Records in the order in which they were made. -/
abbrev Log := List Log.Record

end ModuleGraph
