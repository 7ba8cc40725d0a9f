import ModuleGraph.Api.Server
import ModuleGraph.Proofs.FreshId
import ModuleGraph.Proofs.Session.Commands

/-!
# What requests do to a session

Whatever a request is and whatever becomes of it, the session after it is the one before, or one
that an edit, an undo or a redo leads to. The identifiers that an edit needs are the next of the
supply; they stay taken even if nothing comes of the edit.

## Main definitions

- `Graph.Revision` — what one edit may make of a graph with the identifiers of a supply
- `Editor.Becomes` — what one request may make of an editor
- `serve` — the editor after requests, one by one

## Main statements

- `withBody_cases`, `addNode_cases`, `dispatch_cases` — everything that handlers can do
- `editor_handleRoute` — routes that only read leave the session as it is
- `becomes_handle` — a request makes of an editor what `Editor.Becomes` allows
- `Editor.Becomes.allGraphs`, `allGraphs_serve` — what revisions keep holds throughout a session
-/

namespace ModuleGraph

variable {L : Type} [Label L]

/-! ### Revisions -/

/-- What one edit may make of a graph, and how many identifiers it takes from the supply. -/
inductive Graph.Revision (supply : IdSupply) (graph : Graph L) : Graph L → Nat → Prop
  | addNode {kind name : L} {inputs outputs : List (PortSpec L)}
    (hnew : graph.node? (Label.ofText supply.next) = none) :
    Revision supply graph (graph.addNode (stampNode supply kind name inputs outputs).1)
      (1 + inputs.length + outputs.length)
  | removeNode {id : L} {node : Node L} (hfound : graph.node? id = some node) :
    Revision supply graph (graph.removeNode id) 0
  | addWire {ends : Endpoints L} {proposal : Proposal L} (hends : graph.propose ends = .ok proposal)
    (hverdict : proposal.verdict graph.connections = none) :
    Revision supply graph
      (graph.addConnection (History.wireOf proposal (Label.ofText supply.next))) 1
  | removeWire {id : L} {connection : Connection L}
    (hfound : graph.connections.find? (·.id == id) = some connection) :
    Revision supply graph (graph.removeConnection id) 0

theorem Graph.Revision.edit {supply : IdSupply} {graph edited : Graph L} {count : Nat}
    (h : graph.Revision supply edited count) : graph.Edit edited := by
  cases h with
  | addNode hnew => exact .addNode hnew
  | removeNode hfound => exact .removeNode hfound
  | addWire hends hverdict => exact .addWire _ hends hverdict
  | removeWire hfound => exact .removeWire hfound

/-! ### Editors -/

/-- What one request may make of an editor. -/
inductive Editor.Becomes (editor : Editor L) : Editor L → Prop
  | same : Becomes editor editor
  /-- A node was made that could not be added. -/
  | spent (count : Nat) : Becomes editor ⟨editor.history, editor.supply.advance count⟩
  | edit {graph : Graph L} {count : Nat}
    (hrevision : editor.graph.Revision editor.supply graph count) (action : Text) :
    Becomes editor ⟨editor.history.commit graph action, editor.supply.advance count⟩
  | undo : Becomes editor editor.undo
  | redo : Becomes editor editor.redo

namespace Editor

/-- What revisions keep, and what more identifiers taken leave as it is, holds of all graphs of a
session after a request. -/
theorem Becomes.allGraphs {P : IdSupply → Graph L → Prop} {editor next : Editor L}
    (hbecomes : editor.Becomes next)
    (hadvance : ∀ supply graph count, P supply graph → P (supply.advance count) graph)
    (hrevision : ∀ supply graph edited count, P supply graph →
      graph.Revision supply edited count → P (supply.advance count) edited)
    (h : editor.history.AllGraphs (P editor.supply)) : next.history.AllGraphs (P next.supply) := by
  have hlater : ∀ count, editor.history.AllGraphs (P (editor.supply.advance count)) :=
    fun count snapshot hsnapshot => hadvance _ _ count (h snapshot hsnapshot)
  cases hbecomes with
  | same => exact h
  | spent count => exact hlater count
  | edit hedit action => exact (hlater _).commit (hrevision _ _ _ _ h.graph hedit) action
  | undo => exact h.undo
  | redo => exact h.redo

variable (editor : Editor L)

/-- A node that is stamped out is added, or its identifiers are spent. -/
theorem becomes_addMade (kind name : L) (inputs outputs : List (PortSpec L)) :
    editor.Becomes (editor.addMade (stampNode editor.supply kind name inputs outputs)).editor := by
  rw [addMade, snd_stampNode]
  -- the only reason to refuse a node is that its identifier is there
  rcases addNode_cases _ (stampNode editor.supply kind name inputs outputs).1 with
    ⟨_, -, hfailed⟩ | ⟨hnew, hadded⟩
  · rw [hfailed]
    exact .spent _
  · rw [id_stampNode] at hnew
    have hrevision : editor.graph.Revision editor.supply
        (editor.graph.addNode (stampNode editor.supply kind name inputs outputs).1)
        (1 + inputs.length + outputs.length) := .addNode hnew
    rw [hadded]
    exact .edit hrevision _

theorem becomes_addStart : editor.Becomes editor.addStart.editor := by
  rcases editor.addStart_cases with ⟨-, hfailed⟩ | ⟨-, hadded⟩
  · rw [hfailed]
    exact .same
  · rw [hadded]
    exact editor.becomes_addMade _ _ _ _

theorem becomes_removeNode (id : L) : editor.Becomes (editor.removeNode id).editor := by
  rcases editor.removeNode_cases id with ⟨-, hfailed⟩ | ⟨node, hfound, hremoved⟩
  · rw [hfailed]
    exact .same
  · rw [hremoved]
    exact .edit (.removeNode hfound) _

theorem becomes_connect (ends : Endpoints L) : editor.Becomes (editor.connect ends).editor := by
  rcases editor.editor_connect_cases ends with hsame | ⟨proposal, hends, hverdict, hadded⟩
  · rw [hsame]
    exact .same
  · rw [hadded]
    exact .edit (.addWire hends hverdict) _

theorem becomes_disconnect (id : L) : editor.Becomes (editor.disconnect id).editor := by
  rcases editor.disconnect_cases id with ⟨-, hfailed⟩ | ⟨connection, hfound, hremoved⟩
  · rw [hfailed]
    exact .same
  · rw [hremoved]
    exact .edit (.removeWire hfound) _

end Editor

/-- What a catalog gives is one of its templates. -/
theorem Catalog.mem_of_get {catalog : Catalog L} {id : L} {template : Template L}
    (h : catalog.get id = .ok template) : template ∈ catalog.templates := by
  rw [get] at h
  split at h
  · split at h
    · rename_i hfound
      cases h
      exact List.mem_of_find?_eq_some hfound
    · cases h
  · cases h

namespace Api

/-! ### What a handler can do -/

section Cases

variable (environment : Environment) (catalog : Catalog L) (editor : Editor L)

omit [Label L] in
/-- A body is refused, or what it stands for is gone on with. -/
theorem withBody_cases {α : Type} (payload : Option Payload) (part : List Step → Json → Checked α)
    (proceed : α → Handled L) :
    (∃ status content, 400 ≤ status ∧
      withBody editor payload part proceed = .respond editor status content) ∨
    (∃ body value, payloadJson payload = .ok body ∧ part [.key "body"] body = .value value ∧
      withBody editor payload part proceed = proceed value) := by
  rw [withBody]
  cases payloadJson payload with
  | error error => cases error <;> exact .inl ⟨_, _, by omega, rfl⟩
  | ok body =>
    simp only
    cases hpart : part [.key "body"] body with
    | faults found => exact .inl ⟨_, _, by omega, rfl⟩
    | value value => exact .inr ⟨body, value, rfl, hpart, rfl⟩

/-- A node is refused, or one is stamped out and added: of a template, or of the kind asked for. -/
theorem addNode_cases (request : NewNodeRequest) :
    (∃ status detail, 400 ≤ status ∧
      addNode catalog editor request = .refuse editor status detail) ∨
    (∃ kind name inputs outputs,
      ((∃ template ∈ catalog.templates, kind = template.kind) ∨
        (given? request.templateId = none ∧
          ∃ asked, given? request.kind = some asked ∧ kind = Label.ofText asked)) ∧
      addNode catalog editor request =
        addMade editor (stampNode editor.supply kind name inputs outputs)) := by
  rw [addNode]
  cases hid : given? request.templateId with
  | some id =>
    simp only [Catalog.create]
    cases hget : catalog.get (Label.ofText id) with
    | error error => exact .inl ⟨_, _, by omega, rfl⟩
    | ok template =>
      have hmem : template ∈ catalog.templates := Catalog.mem_of_get hget
      exact .inr ⟨template.kind, _, _, _, .inl ⟨template, hmem, rfl⟩, rfl⟩
  | none =>
    cases hkind : given? request.kind with
    | none => exact .inl ⟨_, _, by omega, rfl⟩
    | some asked =>
      -- an account is stamped out without ports, any other kind with two
      dsimp only [blankNode]
      split
      · exact .inr ⟨_, _, _, _, .inr ⟨rfl, asked, rfl, rfl⟩, rfl⟩
      · exact .inr ⟨_, _, _, _, .inr ⟨rfl, asked, rfl, rfl⟩, rfl⟩

/-- A request is turned away, or handled along the route that its path leads to. -/
theorem dispatch_cases (payload : Option Payload) (method : Text) (destination : Destination) :
    (∃ status content, 300 ≤ status ∧
      dispatch environment catalog editor payload method destination =
        .respond editor status content) ∨
    (∃ route, destination = .found route ∧
      dispatch environment catalog editor payload method destination =
        handleRoute environment catalog editor payload route) := by
  cases destination with
  | nowhere => exact .inl ⟨_, _, by omega, rfl⟩
  | redirect => exact .inl ⟨_, _, by omega, rfl⟩
  | found route =>
    rw [dispatch]
    split
    · exact .inr ⟨route, rfl, rfl⟩
    · exact .inl ⟨_, _, by omega, rfl⟩

end Cases

/-! ### Handlers that change nothing -/

section Reading

variable (environment : Environment) (catalog : Catalog L) (editor : Editor L)

omit [Label L] in
theorem editor_withBody {α : Type} (payload : Option Payload) (part : List Step → Json → Checked α)
    {proceed : α → Handled L} (h : ∀ value, (proceed value).editor = editor) :
    (withBody editor payload part proceed).editor = editor := by
  rcases withBody_cases editor payload part proceed with ⟨status, content, -, hrefused⟩ |
    ⟨body, value, -, -, hproceeds⟩
  · rw [hrefused]
    rfl
  · rw [hproceeds]
    exact h value

theorem editor_onGraph (body : Option (Graph Text)) {proceed : Graph L → Handled L}
    (h : ∀ graph, (proceed graph).editor = editor) :
    (onGraph editor body proceed).editor = editor := by
  cases body with
  | none => exact h _
  | some body =>
    rw [onGraph]
    split
    · exact h _
    · rfl

theorem editor_judge (ends : Endpoints L) (graph : Graph L) :
    (judge editor ends graph).editor = editor := by
  rw [judge]
  split
  · split
    · simp only
      split <;> rfl
    · rfl
  · rfl

omit [Label L] in
theorem editor_withinLimits (graph : Graph L) {proceed : Settings → Handled L}
    (h : ∀ settings, (proceed settings).editor = editor) :
    (withinLimits environment editor graph proceed).editor = editor := by
  rw [withinLimits]
  split
  · rfl
  · split
    · rfl
    · exact h _

omit [Label L] in
theorem editor_ofAttempt {α : Type} (attempt : Attempt α) {success : α → Handled L}
    (h : ∀ value, (success value).editor = editor) :
    (ofAttempt editor attempt success).editor = editor := by
  rw [ofAttempt]
  cases attempt.result with
  | ok value => exact h value
  | error fault => rfl

theorem editor_analyzeGraph (graph : Graph L) :
    (analyzeGraph environment editor graph).editor = editor :=
  editor_withinLimits environment editor graph fun _ =>
    editor_ofAttempt editor _ fun _ => rfl

theorem editor_generateGraph (graph : Graph L) (programName : Option Text) :
    (generateGraph environment editor graph programName).editor = editor :=
  editor_withinLimits environment editor graph fun _ =>
    editor_ofAttempt editor _ fun _ => rfl

/-- Routes that are asked for what there is, and those that judge, analyse and compile, leave the
session as it is. -/
theorem editor_handleRoute (payload : Option Payload) {route : Route}
    (hroute : Text.ofString "GET" ∈ route.methods ∨
      route ∈ [Route.validate, .analyze, .generate]) :
    (handleRoute environment catalog editor payload route).editor = editor := by
  have hpost : Text.ofString "GET" ∉ [Text.ofString "POST"] := by decide
  have hdelete : Text.ofString "GET" ∉ [Text.ofString "DELETE"] := by decide
  cases route with
  | health => rfl
  | modules => rfl
  | graph => rfl
  | page => rfl
  | validate =>
    exact editor_withBody editor payload _ fun request =>
      editor_onGraph editor request.graph (editor_judge editor request.ends)
  | analyze =>
    exact editor_withBody editor payload _ fun body =>
      editor_onGraph editor body (editor_analyzeGraph environment editor)
  | generate =>
    exact editor_withBody editor payload _ fun request =>
      editor_onGraph editor request.graph fun graph =>
        editor_generateGraph environment editor graph request.programName
  -- what changes the session is asked for by another method, and is none of the three
  | nodes | start | connections | undo | redo => exact absurd hroute (not_or.2 ⟨hpost, by simp⟩)
  | node id | connection id => exact absurd hroute (not_or.2 ⟨hdelete, by simp⟩)

end Reading

/-! ### Handlers -/

section Handlers

variable (environment : Environment) (catalog : Catalog L) (editor : Editor L)

theorem becomes_withBody {α : Type} (payload : Option Payload) (part : List Step → Json → Checked α)
    {proceed : α → Handled L} (h : ∀ value, editor.Becomes (proceed value).editor) :
    editor.Becomes (withBody editor payload part proceed).editor := by
  rcases withBody_cases editor payload part proceed with ⟨status, content, -, hrefused⟩ |
    ⟨body, value, -, -, hproceeds⟩
  · rw [hrefused]
    exact .same
  · rw [hproceeds]
    exact h value

theorem becomes_addNode (request : NewNodeRequest) :
    editor.Becomes (addNode catalog editor request).editor := by
  rcases addNode_cases catalog editor request with ⟨status, detail, -, hrefused⟩ |
    ⟨kind, name, inputs, outputs, -, hadded⟩
  · rw [hrefused]
    exact .same
  · rw [hadded]
    exact editor.becomes_addMade _ _ _ _

theorem becomes_handleRoute (payload : Option Payload) (route : Route) :
    editor.Becomes (handleRoute environment catalog editor payload route).editor := by
  cases route with
  | nodes => exact becomes_withBody editor payload _ (becomes_addNode catalog editor)
  | start => exact editor.becomes_addStart
  | node id => exact editor.becomes_removeNode _
  | connections => exact becomes_withBody editor payload _ editor.becomes_connect
  | connection id => exact editor.becomes_disconnect _
  | undo => exact .undo
  | redo => exact .redo
  -- the others read the session, or a graph that the request brings along
  | health | modules | graph | validate | analyze | generate | page =>
    rw [editor_handleRoute environment catalog editor payload (by decide)]
    exact .same

/-- Whether or not its response can be sent, a request leaves what its route made of the session. -/
theorem editor_handle (request : Request) :
    (handle environment catalog editor request).editor =
      (dispatch environment catalog editor request.payload request.method.upper
        (.ofPath request.path)).editor := by
  rw [handle]
  split <;> rfl

theorem becomes_handle (request : Request) :
    editor.Becomes (handle environment catalog editor request).editor := by
  rw [editor_handle]
  rcases dispatch_cases environment catalog editor request.payload request.method.upper
    (.ofPath request.path) with ⟨status, content, -, hrefused⟩ | ⟨route, -, hhandled⟩
  · rw [hrefused]
    exact .same
  · rw [hhandled]
    exact becomes_handleRoute environment catalog editor request.payload route

end Handlers

/-! ### Sessions -/

variable (environment : Environment) (catalog : Catalog L)

/-- The editor after requests, one by one. -/
def serve (editor : Editor L) (requests : List Request) : Editor L :=
  requests.foldl (fun editor request => (handle environment catalog editor request).editor) editor

/-- What revisions keep, and what more identifiers taken leave as it is, holds of all graphs of a
session after any requests. -/
theorem allGraphs_serve {P : IdSupply → Graph L → Prop}
    (hadvance : ∀ supply graph count, P supply graph → P (supply.advance count) graph)
    (hrevision : ∀ supply graph edited count, P supply graph →
      graph.Revision supply edited count → P (supply.advance count) edited)
    {editor : Editor L} (h : editor.history.AllGraphs (P editor.supply)) (requests : List Request) :
    (serve environment catalog editor requests).history.AllGraphs
      (P (serve environment catalog editor requests).supply) := by
  induction requests generalizing editor with
  | nil => exact h
  | cons request requests ih =>
    have hfirst := becomes_handle environment catalog editor request
    exact ih (hfirst.allGraphs hadvance hrevision h)

end Api

end ModuleGraph
