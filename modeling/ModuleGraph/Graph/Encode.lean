import ModuleGraph.Graph.Verdict

/-!
# Writing verdicts

## Main definitions

- `Rejection.encode` — the JSON value of a rejection
- `encodeVerdict` — the JSON value of a verdict
-/

namespace ModuleGraph

variable {L : Type} [Label L]

def Rejection.encode (reason : Rejection L) : Json :=
  .object
    [("isValid", .bool false),
      ("error", .string reason.message),
      ("reason", .string reason.code)]

def encodeVerdict : Option (Rejection L) → Json
  | some reason => reason.encode
  | none => .object [("isValid", .bool true)]

end ModuleGraph
