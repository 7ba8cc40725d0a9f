import ModuleGraph.Api.Body
import ModuleGraph.Catalog.Encode
import ModuleGraph.Document.Encode
import ModuleGraph.Flow.Encode
import ModuleGraph.Graph.Encode
import ModuleGraph.Json.Amount
import ModuleGraph.Workspace.Encode

/-!
# Responses

A response is sent as JSON text in UTF-8. One that holds half of a surrogate pair, or a number
beyond every finite one, cannot be sent.

## Main definitions

- `Content`, `Response` — what a response says, with its status
- `Content.encode?` — the JSON value of what a response says, unless it says nothing
- `SendError`, `Response.sendError?` — why a response cannot be sent
-/

namespace ModuleGraph.Api

/-- What a response says. -/
inductive Content (L : Type) where
  | nothing
  | healthy
  | detail (text : Text)
  | faults (faults : List BodyFault)
  | templates (templates : List (Template L))
  | graph (graph : Graph L)
  | node (node : Node L)
  | connection (connection : Connection L)
  | rejection (reason : Rejection L)
  | verdict (reason : Option (Rejection L))
  | analysis (analysis : Analysis L)
  | workspace (workspace : Workspace L)

/-- A status and what goes with it. -/
structure Response (L : Type) where
  status : Nat
  content : Content L

/-! ### Writing -/

def Step.encode : Step → Json
  | key name => .string name
  | index position => .number (toString position)

def BodyFault.encode (fault : BodyFault) : Json :=
  .object
    [("type", .string fault.problem.code),
      ("loc", .array (fault.path.map Step.encode)),
      ("msg", .string fault.problem.message),
      ("input", fault.input)]

/-- The JSON value of a text or a value that tells what is wrong. -/
def encodeDetail (detail : Json) : Json := .object [("detail", detail)]

variable {L : Type} [Label L]

def encodeGenerated (workspace : Workspace L) : Json :=
  .object (workspace.members ++ [(Text.ofString "files", workspace.files.encode)])

/-- The JSON value of what a response says, unless it says nothing. -/
def Content.encode? : Content L → Option Json
  | .nothing => none
  | .healthy => some (.object [("status", .string "ok")])
  | .detail text => some (encodeDetail (.string text))
  | .faults found => some (encodeDetail (.array (found.map BodyFault.encode)))
  | .templates found => some (.array (found.map Template.encode))
  | .graph current => some (Document.encodeGraph current none)
  | .node made => some (Document.encodeNode made)
  | .connection made => some (Document.encodeConnection made)
  | .rejection reason => some (encodeDetail reason.encode)
  | .verdict reason => some (encodeVerdict reason)
  | .analysis result => some result.encode
  | .workspace result => some (encodeGenerated result)

/-! ### Sending -/

/-- Why a response cannot be sent. -/
inductive SendError where
  /-- The result of a request holds half of a surrogate pair. -/
  | halfInResult
  /-- What is wrong with a request is told with half of a surrogate pair. -/
  | halfInRefusal
  | unboundedNumber
  deriving DecidableEq, Repr

def SendError.message : SendError → String
  | halfInResult => "the result has no form in UTF-8"
  | halfInRefusal => "the refusal has no form in UTF-8"
  | unboundedNumber => "Out of range float values are not JSON compliant"

def isSuccess (status : Nat) : Bool := status < 300

def Response.sendError? (response : Response L) : Option SendError :=
  match response.content.encode? with
  | none => none
  | some body =>
    if isSuccess response.status && body.hasHalf then some .halfInResult
    else if body.holdsUnbounded then some .unboundedNumber
    else if body.hasHalf then some .halfInRefusal
    else none

end ModuleGraph.Api
