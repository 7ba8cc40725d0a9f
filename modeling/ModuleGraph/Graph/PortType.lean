import ModuleGraph.Graph.Label

/-!
# Port types

Which output types may feed which input types. The relation is directed: a number may be shown as a
string or used as a truth value, but a string is no truth value.

## Main definitions

- `acceptances` — for the types that feed others, the other types that they may feed
- `PortType.feeds` — an output of the first type may feed an input of the second
- `PortType.isComparable` — whether that can be decided
-/

namespace ModuleGraph.PortType

/-- The type that fits everything. -/
def any : Text := "any"

/-- The types that feed others, with the other types that an output of each may feed. -/
def acceptances : List (Text × List Text) :=
  [("number", ["string", "boolean"]), ("string", ["number"]), ("data", ["any"]),
    ("control", ["event"]), ("event", ["control"])]

variable {L : Type} [Label L]

/-- The other types that an output of the given type may feed, if it is listed. -/
def acceptedTypes? (source : L) : Option (List Text) :=
  (acceptances.find? fun entry => Label.ofText entry.1 == source).map (·.2)

/-- Whether two types fit without a look at the table: one fits everything, or both are the
same. -/
def fitsAtOnce (source target : L) : Bool :=
  source == Label.ofText any || target == Label.ofText any || source == target

/-- Whether an output of type `source` may feed an input of type `target`. -/
def feeds (source target : L) : Bool :=
  fitsAtOnce source target ||
    ((acceptedTypes? source).getD []).any fun type => Label.ofText type == target

/-- Whether a look at the table can decide about two types. -/
def isComparable (source target : L) : Bool :=
  fitsAtOnce source target ||
    -- the target is looked up only if the source is listed
    (Label.isKey source && (Label.isKey target || (acceptedTypes? source).isNone))

end ModuleGraph.PortType
