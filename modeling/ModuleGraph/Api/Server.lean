import ModuleGraph.Api.Response
import ModuleGraph.Api.Route
import ModuleGraph.Flow.Attempt
import ModuleGraph.Session.Editor
import ModuleGraph.Settings
import ModuleGraph.Text.Case

/-!
# The server

The server answers requests about the graph of a session, and about graphs that a request brings
along. A request that cannot be served leaves the session as it is.

## Main definitions

- `ServerError` — a failure that no response tells of
- `Handled` — the response, the session after it, and the records left
- `withBody`, `onGraph`, `withinLimits` — what goes on with a body, a graph, a graph that is within
  the limits
- `handleRoute` — what is done along a route
- `handle` — the answer to a request
-/

namespace ModuleGraph.Api

/-- A failure that no response tells of. -/
inductive ServerError (L : Type) where
  | settings (error : SettingsError)
  | edit (error : EditError L)
  | unusable (fault : LabelFault)
  /-- The body of a graph does not denote one. -/
  | undecodable (error : Document.DecodeError)
  | send (error : SendError)

/-- A request: its method, the path that it asks for and what it carries. -/
structure Request where
  method : Text
  path : String
  payload : Option Payload

/-- The response to a request, the session after it, and the records left. -/
structure Handled (L : Type) where
  response : Except (ServerError L) (Response L)
  editor : Editor L
  log : Log

namespace Handled

variable {L : Type}

/-- A response that leaves the session as it is. -/
def respond (editor : Editor L) (status : Nat) (content : Content L) : Handled L :=
  ⟨.ok ⟨status, content⟩, editor, []⟩

/-- A response that tells what is wrong. -/
def refuse (editor : Editor L) (status : Nat) (detail : Text) : Handled L :=
  respond editor status (.detail detail)

def fail (editor : Editor L) (error : ServerError L) : Handled L := ⟨.error error, editor, []⟩

def after (log : Log) (handled : Handled L) : Handled L :=
  { handled with log := log ++ handled.log }

end Handled

variable {L : Type} [Label L]

def ofOutcome {α : Type} (outcome : Outcome L α)
    (success : α → Except (ServerError L) (Response L))
    (failure : EditError L → Except (ServerError L) (Response L)) : Handled L :=
  { response :=
      match outcome.result with
      | .ok value => success value
      | .error error => failure error
    editor := outcome.editor
    log := outcome.log }

/-- The failure of an edit as a response, unless a label is of no use. -/
def editRefusal (status : Nat) : EditError L → Except (ServerError L) (Response L)
  | .unusable fault => .error (.unusable fault)
  | error => .ok ⟨status, .detail error.message⟩

def ofAttempt {α : Type} (editor : Editor L) (attempt : Attempt α) (success : α → Handled L) :
    Handled L :=
  let handled :=
    match attempt.result with
    | .ok value => success value
    | .error fault => .fail editor (.unusable fault)
  handled.after attempt.log

/-! ### Bodies -/

/-- What goes on with the body of a request, or the response that it is wrong. -/
def withBody {α : Type} (editor : Editor L) (payload : Option Payload)
    (body : List Step → Json → Checked α) (proceed : α → Handled L) : Handled L :=
  let refuse (problem : BodyProblem) (input : Json) :=
    Handled.respond editor 422 (.faults [⟨[.key "body"], problem, input⟩])
  match payloadJson payload with
  | .error .absent => refuse .missing .null
  | .error .malformed => refuse .notJson (.object [])
  | .error .unreadable => .refuse editor 400 "There was an error parsing the body"
  | .ok json =>
    match body [.key "body"] json with
    | .faults faults => .respond editor 422 (.faults faults)
    | .value value => proceed value

/-- What goes on with the graph of a body, or with that of the session if there is no body. -/
def onGraph (editor : Editor L) (body : Option (Graph Text)) (proceed : Graph L → Handled L) :
    Handled L :=
  match body with
  | none => proceed editor.graph
  | some body =>
    match toGraph body with
    | .ok graph => proceed graph
    | .error error => .fail editor (.undecodable error)

/-- What goes on with a graph within the limits, or the response that it is beyond them. -/
def withinLimits (environment : Environment) (editor : Editor L) (graph : Graph L)
    (proceed : Settings → Handled L) : Handled L :=
  match Settings.read environment with
  | .error error => .fail editor (.settings error)
  | .ok settings =>
    match settings.checkSize graph with
    | .error error => .refuse editor 413 error.message
    | .ok _ => proceed settings

/-! ### Editing -/

def addMade (editor : Editor L) (made : Node L × IdSupply) : Handled L :=
  ofOutcome (editor.addMade made) (fun node => .ok ⟨201, .node node⟩) (fun e => .error (.edit e))

/-- The text given, unless it is empty. -/
def given? (text : Option Text) : Option Text := text.filter fun text => !text.isEmpty

/-- Makes a node of a template or of a kind, and adds it. -/
def addNode (catalog : Catalog L) (editor : Editor L) (request : NewNodeRequest) : Handled L :=
  let name := request.name.map Label.ofText
  match given? request.templateId with
  | some id =>
    match catalog.create editor.supply (Label.ofText id) name with
    | .ok made => addMade editor made
    | .error error => .refuse editor 404 error.message
  | none =>
    match given? request.kind with
    | some kind => addMade editor (blankNode editor.supply (Label.ofText kind) name)
    | none => .refuse editor 400 "Either templateId or kind is required"

/-- Adds the node where the program begins. -/
def addStart (editor : Editor L) : Handled L :=
  ofOutcome editor.addStart (fun node => .ok ⟨201, .node node⟩) (editRefusal 400)

def removeNode (editor : Editor L) (id : L) : Handled L :=
  ofOutcome (editor.removeNode id) (fun _ => .ok ⟨204, .nothing⟩) (editRefusal 404)

/-- The response to a wire that was proposed. -/
def connectResponse : ConnectReply L → Response L
  | .added connection => ⟨201, .connection connection⟩
  | .rejected reason => ⟨400, .rejection reason⟩

def addConnection (editor : Editor L) (ends : Endpoints L) : Handled L :=
  ofOutcome (editor.connect ends) (fun reply => .ok (connectResponse reply)) (editRefusal 404)

def removeConnection (editor : Editor L) (id : L) : Handled L :=
  ofOutcome (editor.disconnect id) (fun _ => .ok ⟨204, .nothing⟩) (editRefusal 404)

def currentGraph (editor : Editor L) : Handled L := .respond editor 200 (.graph editor.graph)

/-! ### Judging, analysing and compiling -/

/-- Judges a wire without adding it. -/
def judge (editor : Editor L) (ends : Endpoints L) (graph : Graph L) : Handled L :=
  match graph.node? ends.sourceNode, graph.node? ends.targetNode with
  | some sourceNode, some targetNode =>
    match sourceNode.output? ends.sourcePort, targetNode.input? ends.targetPort with
    | some sourcePort, some targetPort =>
      let proposal : Proposal L := { sourceNode, sourcePort, targetNode, targetPort }
      if proposal.isJudgeable then
        .respond editor 200 (.verdict (proposal.verdict graph.connections))
      else
        .fail editor (.unusable .notAKey)
    | _, _ => .refuse editor 404 "Port not found"
  | _, _ => .refuse editor 404 "Node not found"

def analyzeGraph (environment : Environment) (editor : Editor L) (graph : Graph L) : Handled L :=
  withinLimits environment editor graph fun _ =>
    ofAttempt editor graph.attemptAnalysis fun analysis =>
      .respond editor 200 (.analysis analysis)

/-- The record of a workspace that was made. -/
def generatedLog (workspace : Workspace L) : Log :=
  let name := workspace.programName
  let modules := workspace.modules.length
  [⟨.api, .info, s!"Generated '{name}' ({modules} modules)"⟩]

def generateGraph (environment : Environment) (editor : Editor L) (graph : Graph L)
    (programName : Option Text) : Handled L :=
  withinLimits environment editor graph fun settings =>
    let requested := Label.ofText ((given? programName).getD settings.programName)
    ofAttempt editor (graph.attemptCompile (some requested)) fun workspace =>
      (Handled.respond editor 200 (.workspace workspace)).after (generatedLog workspace)

/-! ### Requests -/

/-- What is done along a route. -/
def handleRoute (environment : Environment) (catalog : Catalog L) (editor : Editor L)
    (payload : Option Payload) : Route → Handled L
  | .health => .respond editor 200 .healthy
  | .modules => .respond editor 200 (.templates catalog.templates)
  | .graph => currentGraph editor
  | .nodes => withBody editor payload newNodeBody (addNode catalog editor)
  | .start => addStart editor
  | .node id => removeNode editor (Label.ofText id)
  | .connections => withBody editor payload edgeBody (addConnection editor)
  | .connection id => removeConnection editor (Label.ofText id)
  | .undo => currentGraph editor.undo
  | .redo => currentGraph editor.redo
  | .validate =>
    withBody editor payload validateBody fun request =>
      onGraph editor request.graph (judge editor request.ends)
  | .analyze =>
    withBody editor payload analyzeBody fun body =>
      onGraph editor body (analyzeGraph environment editor)
  | .generate =>
    withBody editor payload generateBody fun request =>
      onGraph editor request.graph fun graph =>
        generateGraph environment editor graph request.programName
  | .page => .respond editor 200 .nothing

/-- What is done for a method and a destination. -/
def dispatch (environment : Environment) (catalog : Catalog L) (editor : Editor L)
    (payload : Option Payload) (method : Text) : Destination → Handled L
  | .nowhere => .refuse editor 404 "Not Found"
  | .redirect => .respond editor 307 .nothing
  | .found route =>
    if route.methods.contains method then handleRoute environment catalog editor payload route
    else .refuse editor 405 "Method Not Allowed"

namespace Handled

/-- The same, unless the response cannot be sent. The session stays what it has become. -/
def sent (handled : Handled L) : Handled L :=
  { handled with
    response := handled.response.bind fun response =>
      match response.sendError? with
      | some error => .error (.send error)
      | none => .ok response }

/-- The same with a response that says nothing. -/
def withoutContent (handled : Handled L) : Handled L :=
  { handled with response := handled.response.map fun response => ⟨response.status, .nothing⟩ }

end Handled

/-- The answer to a request. The method may be in any case, and one that asks for the status only is
told nothing more. -/
def handle (environment : Environment) (catalog : Catalog L) (editor : Editor L)
    (request : Request) : Handled L :=
  let method := request.method.upper
  let handled := dispatch environment catalog editor request.payload method (.ofPath request.path)
  if method = "HEAD" then handled.sent.withoutContent else handled.sent

end ModuleGraph.Api
