import ModuleGraph.Document.Decode
import ModuleGraph.Document.Encode
import ModuleGraph.Json.Reader
import ModuleGraph.Text.Encoding

/-!
# Request bodies

A body is checked member by member, and everything wrong with it is reported at once, in the order
in which the members are declared. Members that are not declared are passed over.

## Main definitions

- `Step`, `BodyFault` — where and what is wrong with a body
- `Checked` — a value, or all that is wrong
- `portBody`, `nodeBody`, `connectionBody`, `graphBody`, `edgeBody` — the parts of bodies
- `dumpGraph`, `toGraph` — the document that the body of a graph is dumped to, and its graph
- `ValidateRequest`, `GenerateRequest`, `NewNodeRequest` — the bodies made of several parts
- `Payload`, `payloadText?`, `payloadJson` — what a request carries, its text and its JSON value
-/

namespace ModuleGraph.Api

/-- One step from a body to a part of it. -/
inductive Step where
  | key (name : String)
  | index (position : Nat)
  deriving DecidableEq, Repr

/-- What is wrong with a part of a body. -/
inductive BodyProblem where
  | missing
  | notAnObject
  | notAText
  | notAList
  | notJson
  deriving DecidableEq, Repr

def BodyProblem.code : BodyProblem → String
  | missing => "missing"
  | notAnObject => "model_attributes_type"
  | notAText => "string_type"
  | notAList => "list_type"
  | notJson => "json_invalid"

def BodyProblem.message : BodyProblem → String
  | missing => "Field required"
  | notAnObject => "Input should be a valid dictionary or object to extract fields from"
  | notAText => "Input should be a valid string"
  | notAList => "Input should be a valid list"
  | notJson => "JSON decode error"

/-- A part of a body, by the steps that lead to it, what is wrong with it, and the value that shows
it: the part itself, or what the missing part should belong to. -/
structure BodyFault where
  path : List Step
  problem : BodyProblem
  input : Json

/-- A value, or all that is wrong. -/
inductive Checked (α : Type) where
  | value (a : α)
  | faults (found : List BodyFault)

namespace Checked

variable {α β : Type}

def fault (path : List Step) (problem : BodyProblem) (input : Json) : Checked α :=
  .faults [⟨path, problem, input⟩]

def map (f : α → β) : Checked α → Checked β
  | .value a => .value (f a)
  | .faults found => .faults found

/-- A function and its argument are checked both, and what is wrong with either is kept. -/
def apply (f : Checked (α → β)) (a : Checked α) : Checked β :=
  match f, a with
  | .value f, .value a => .value (f a)
  | .value _, .faults found => .faults found
  | .faults found, .value _ => .faults found
  | .faults found, .faults more => .faults (found ++ more)

instance : Applicative Checked where
  pure := .value
  map := map
  seq f a := apply f (a ())

end Checked

/-! ### Members -/

variable {L : Type} [Label L]

def requiredText (path : List Step) (body : Json) (key : String) : Checked Text :=
  match body.field? key with
  | some (.string text) => .value text
  | some value => .fault (path ++ [.key key]) .notAText value
  | none => .fault (path ++ [.key key]) .missing body

/-- The label under a key; only texts are accepted. -/
def requiredLabel (path : List Step) (body : Json) (key : String) : Checked L :=
  Label.ofText <$> requiredText path body key

/-- The text under a key that may be absent. -/
def textOr (path : List Step) (body : Json) (key : String) (fallback : Text) : Checked Text :=
  match body.field? key with
  | some (.string text) => .value text
  | some value => .fault (path ++ [.key key]) .notAText value
  | none => .value fallback

/-- The text under a key that may be absent or null. -/
def optionalText (path : List Step) (body : Json) (key : String) : Checked (Option Text) :=
  match body.field? key with
  | some (.string text) => .value (some text)
  | some .null | none => .value none
  | some value => .fault (path ++ [.key key]) .notAText value

/-- The parts at the positions of a list, from the given one on. -/
def itemsFrom {α : Type} (part : List Step → Json → Checked α) (path : List Step) :
    (position : Nat) → List Json → Checked (List α)
  | _, [] => .value []
  | position, item :: items =>
    List.cons <$> part (path ++ [.index position]) item <*> itemsFrom part path (position + 1) items

/-- The parts of a list under a key that may be absent. -/
def listOf {α : Type} (part : List Step → Json → Checked α) (path : List Step) (body : Json)
    (key : String) : Checked (List α) :=
  match body.field? key with
  | some (.array items) => itemsFrom part (path ++ [.key key]) 0 items
  | some value => .fault (path ++ [.key key]) .notAList value
  | none => .value []

def objectBody {α : Type} (part : List Step → Json → Checked α) (path : List Step) (body : Json) :
    Checked α :=
  match body with
  | .object _ => part path body
  | _ => .fault path .notAnObject body

/-- A part under a key that may be absent or null. -/
def optionalPart {α : Type} (part : List Step → Json → Checked α) (path : List Step) (body : Json)
    (key : String) : Checked (Option α) :=
  match body.field? key with
  | some .null | none => .value none
  | some value => (part (path ++ [.key key]) value).map some

/-! ### Parts -/

def portBody : List Step → Json → Checked (Port Text) :=
  objectBody fun path body =>
    Port.mk <$> requiredText path body "id" <*> requiredText path body "name" <*>
      requiredText path body "type"

def nodeBody : List Step → Json → Checked (Node Text) :=
  objectBody fun path body =>
    Node.mk <$> requiredText path body "id" <*> requiredText path body "type" <*>
      requiredText path body "name" <*> listOf portBody path body "inputs" <*>
      listOf portBody path body "outputs"

/-- The members that say what a wire runs between. -/
def endpointMembers (path : List Step) (body : Json) : Checked (Endpoints L) :=
  Endpoints.mk <$> requiredLabel path body "sourceNodeId" <*>
    requiredLabel path body "sourcePortId" <*> requiredLabel path body "targetNodeId" <*>
    requiredLabel path body "targetPortId"

def edgeBody : List Step → Json → Checked (Endpoints L) := objectBody endpointMembers

def connectionBody : List Step → Json → Checked (Connection Text) :=
  objectBody fun path body =>
    (fun id ends => Connection.mk ends id) <$> requiredText path body "id" <*>
      endpointMembers path body

/-- The body of a graph. Its members are texts, and lists of bodies. -/
def graphBody : List Step → Json → Checked (Graph Text) :=
  objectBody fun path body =>
    Graph.mk <$> textOr path body "name" untitled <*> listOf nodeBody path body "nodes" <*>
      listOf connectionBody path body "connections"

/-- The document that the body of a graph is dumped to, with the members that were left out. -/
def dumpGraph (body : Graph Text) : Json := Document.encodeGraph body none

/-- The graph of a body, read from the document that it is dumped to. -/
def toGraph (body : Graph Text) : Except Document.DecodeError (Graph L) :=
  Document.decodeGraph (dumpGraph body)

/-! ### Bodies -/

/-- A wire to be judged, in a graph or in that of the session. -/
structure ValidateRequest (L : Type) where
  ends : Endpoints L
  graph : Option (Graph Text)

/-- A graph to be compiled, or that of the session, and the name of the program. -/
structure GenerateRequest where
  graph : Option (Graph Text)
  programName : Option Text

structure NewNodeRequest where
  templateId : Option Text
  kind : Option Text
  name : Option Text

def validateBody : List Step → Json → Checked (ValidateRequest L) :=
  objectBody fun path body =>
    ValidateRequest.mk <$> endpointMembers path body <*> optionalPart graphBody path body "graph"

def analyzeBody : List Step → Json → Checked (Option (Graph Text)) :=
  objectBody fun path body => optionalPart graphBody path body "graph"

def generateBody : List Step → Json → Checked GenerateRequest :=
  objectBody fun path body =>
    GenerateRequest.mk <$> optionalPart graphBody path body "graph" <*>
      optionalText path body "programName"

def newNodeBody : List Step → Json → Checked NewNodeRequest :=
  objectBody fun path body =>
    NewNodeRequest.mk <$> optionalText path body "templateId" <*> optionalText path body "kind" <*>
      optionalText path body "name"

/-! ### Payloads -/

/-- What a request carries. -/
inductive Payload where
  | json (value : Json)
  | text (raw : String)

/-- Why a payload denotes no value. -/
inductive PayloadError where
  | absent
  | malformed
  | unreadable
  deriving DecidableEq, Repr

/-- How deeply the values of a body may be nested. -/
def maxBodyDepth : Nat := 940

/-- The text that the bytes of a payload denote. -/
def payloadText? (bytes : List UInt8) : Option Text :=
  match bytes with
  -- a byte order mark says that they are in UTF-8
  | 0xEF :: 0xBB :: 0xBF :: rest => Text.Encoding.utf8.decode? rest
  | _ => (Text.Encoding.ofBytes bytes).decode? bytes

def payloadJson : Option Payload → Except PayloadError Json
  | none => .error .absent
  | some (.json value) => .ok value
  | some (.text raw) =>
    if raw = "" then .error .absent
    else
      match payloadText? raw.toUTF8.toList with
      | none => .error .unreadable
      | some text =>
        match Json.parse maxBodyDepth text with
        | .ok value => .ok value
        | .error (.malformed ..) => .error .malformed
        | .error (.numeralTooLong _) | .error .tooDeep => .error .unreadable

end ModuleGraph.Api
