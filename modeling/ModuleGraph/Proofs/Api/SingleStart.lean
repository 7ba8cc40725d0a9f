import ModuleGraph.Proofs.Api.Requests

/-!
# The nodes where a program begins

A program has one node where it begins. The request for such a node sees to that, but a node of any
kind can be asked for by its kind, and nothing is seen to then: two requests give two such nodes.
What holds is a bound: beyond the first, there is at most one for each request that asks for it by
its kind.

## Main definitions

- `Graph.startCount` — the number of nodes where the program begins
- `History.Grows` — what a request may make of the nodes in a history
- `Request.asksForStart` — a request that asks for a node of the kind `start`

## Main statements

- `grows_handle` — a request adds at most one node, of a kind that it is known to add
- `startCount_twoStarts` — two nodes where the program begins
- `startCount_le_of_serve` — the bound, for every graph of a session
-/

namespace ModuleGraph

/-- The number of nodes where the program begins. -/
def Graph.startCount (graph : Graph Text) : Nat := graph.nodes.countP (·.isStart)

/-! ### Nodes in a history -/

/-- What a request may make of the nodes in a history, if it adds nodes of allowed kinds only. -/
inductive History.Grows (allowed : Text → Prop) (history : History Text) : History Text → Prop
  | same : Grows allowed history history
  | undo : Grows allowed history history.undo
  | redo : Grows allowed history history.redo
  | shrink {graph : Graph Text} (action : Text) (h : graph.nodes.Sublist history.graph.nodes) :
    Grows allowed history (history.commit graph action)
  | add {node : Node Text} (action : Text) (h : allowed node.kind) :
    Grows allowed history (history.commit (history.graph.addNode node) action)

namespace History

variable {allowed : Text → Prop} {history next : History Text}

/-- A bound on the nodes where a program begins is kept, or raised by the node that is added. -/
theorem Grows.startCount_le (h : history.Grows allowed next) {bound more : Nat}
    (hbound : history.AllGraphs (·.startCount ≤ bound))
    (hstart : allowed startKind → history.graph.startCount + 1 ≤ bound + more) :
    next.AllGraphs (·.startCount ≤ bound + more) := by
  have hraised : history.AllGraphs (·.startCount ≤ bound + more) :=
    fun snapshot hsnapshot => Nat.le_add_right_of_le (hbound snapshot hsnapshot)
  cases h with
  | same => exact hraised
  | undo => exact hraised.undo
  | redo => exact hraised.redo
  | @shrink graph action hnodes =>
    have hcount : graph.startCount ≤ history.graph.startCount := hnodes.countP_le
    exact hraised.commit (Nat.le_trans hcount hraised.graph) action
  | @add node action hkind =>
    refine hraised.commit ?_ action
    rw [Graph.startCount, Graph.addNode, List.countP_append, List.countP_singleton]
    by_cases hnode : node.isStart = true
    · have hstartKind : node.kind = startKind := beq_iff_eq.1 hnode
      rw [if_pos hnode]
      exact hstart (hstartKind ▸ hkind)
    · rw [if_neg hnode]
      exact hraised.graph

end History

namespace Api

/-! ### Handlers -/

section Handlers

variable {environment : Environment} {catalog : Catalog Text} {editor : Editor Text}
  {allowed : Text → Prop}

theorem grows_addMade {made : Node Text × IdSupply} (h : allowed made.1.kind) :
    editor.history.Grows allowed (editor.addMade made).editor.history := by
  rw [Editor.addMade]
  rcases Editor.addNode_cases { editor with supply := made.2 } made.1 with
    ⟨_, -, hfailed⟩ | ⟨-, hadded⟩
  · rw [hfailed]
    exact .same
  · rw [hadded]
    exact .add _ h

/-- A node of a template has the kind of the template, and one without template that asked for. -/
theorem grows_addNode {request : NewNodeRequest}
    (htemplate : ∀ template ∈ catalog.templates, allowed template.kind)
    (hblank : ∀ kind, given? request.templateId = none → given? request.kind = some kind →
      allowed kind) :
    editor.history.Grows allowed (addNode catalog editor request).editor.history := by
  rcases addNode_cases catalog editor request with ⟨status, detail, -, hrefused⟩ |
    ⟨kind, name, inputs, outputs, horigin, hadded⟩
  · rw [hrefused]
    exact .same
  · rw [hadded]
    refine grows_addMade ?_
    rcases horigin with ⟨template, hmem, rfl⟩ | ⟨hid, _, hkind, rfl⟩
    · exact htemplate template hmem
    · exact hblank _ hid hkind

/-- A node where the program begins is added if there is none. -/
theorem grows_addStart (h : editor.graph.startCount = 0 → allowed startKind) :
    editor.history.Grows allowed (addStart editor).editor.history := by
  rw [addStart]
  rcases editor.addStart_cases with ⟨-, hfailed⟩ | ⟨hnone, hadded⟩
  · rw [hfailed]
    exact .same
  · have hcount : editor.graph.startCount = 0 := by
      rw [Graph.startCount, List.countP_eq_zero]
      simpa using hnone
    rw [hadded]
    exact grows_addMade (h hcount)

theorem grows_removeNode (id : Text) :
    editor.history.Grows allowed (removeNode editor id).editor.history := by
  rw [removeNode]
  rcases editor.removeNode_cases id with ⟨-, hfailed⟩ | ⟨node, -, hremoved⟩
  · rw [hfailed]
    exact .same
  · rw [hremoved]
    exact .shrink _ List.filter_sublist

theorem grows_removeConnection (id : Text) :
    editor.history.Grows allowed (removeConnection editor id).editor.history := by
  rw [removeConnection]
  rcases editor.disconnect_cases id with ⟨-, hfailed⟩ | ⟨connection, -, hremoved⟩
  · rw [hfailed]
    exact .same
  · rw [hremoved]
    exact .shrink _ (List.Sublist.refl _)

theorem grows_addConnection (ends : Endpoints Text) :
    editor.history.Grows allowed (addConnection editor ends).editor.history := by
  rw [addConnection, ofOutcome]
  rcases editor.editor_connect_cases ends with hsame | ⟨proposal, -, -, hadded⟩
  · rw [hsame]
    exact .same
  · rw [hadded]
    exact .shrink _ (List.Sublist.refl _)

theorem grows_withBody {α : Type} (payload : Option Payload) (part : List Step → Json → Checked α)
    {proceed : α → Handled Text}
    (h : ∀ body value, payloadJson payload = .ok body → part [.key "body"] body = .value value →
      editor.history.Grows allowed (proceed value).editor.history) :
    editor.history.Grows allowed (withBody editor payload part proceed).editor.history := by
  rcases withBody_cases editor payload part proceed with ⟨status, content, -, hrefused⟩ |
    ⟨body, value, hbody, hvalue, hproceeds⟩
  · rw [hrefused]
    exact .same
  · rw [hproceeds]
    exact h body value hbody hvalue

end Handlers

/-! ### Requests -/

/-- The node that a payload asks for, if it asks for one. -/
def newNode? (payload : Option Payload) : Option NewNodeRequest :=
  match payloadJson payload with
  | .error _ => none
  | .ok body =>
    match newNodeBody [.key "body"] body with
    | .value new => some new
    | .faults _ => none

/-- Whether a request asks for a node of the kind `start`, and not for one of a template. -/
def Request.asksForStart (request : Request) : Bool :=
  Destination.ofPath request.path = .found .nodes &&
    (newNode? request.payload).any fun new =>
      (given? new.templateId).isNone && given? new.kind == some startKind

theorem Request.asksForStart_of {request : Request} {body : Json} {new : NewNodeRequest}
    (hpath : Destination.ofPath request.path = .found .nodes)
    (hbody : payloadJson request.payload = .ok body)
    (hnew : newNodeBody [.key "body"] body = .value new) (hid : given? new.templateId = none)
    (hkind : given? new.kind = some startKind) : request.asksForStart = true := by
  have hasked : newNode? request.payload = some new := by
    rw [newNode?, hbody]
    simp only [hnew]
  rw [asksForStart, hpath, hasked, Option.any_some, hid, hkind]
  rfl

section Requests

variable (environment : Environment) (catalog : Catalog Text) (editor : Editor Text)

/-- Along its route, a request adds a node where the program begins only if it asks for one by its
kind, or if there is none. -/
theorem grows_handleRoute (hcatalog : ∀ template ∈ catalog.templates, template.kind ≠ startKind)
    {request : Request} {route : Route} (hroute : Destination.ofPath request.path = .found route) :
    editor.history.Grows
      (fun kind => kind = startKind → request.asksForStart = true ∨ editor.graph.startCount = 0)
      (handleRoute environment catalog editor request.payload route).editor.history := by
  cases route with
  | nodes =>
    refine grows_withBody request.payload _ fun body new hbody hnew => ?_
    refine grows_addNode ?_ ?_
    · intro template htemplate hkind
      exact absurd hkind (hcatalog template htemplate)
    · rintro kind hid hgiven rfl
      exact .inl (Request.asksForStart_of hroute hbody hnew hid hgiven)
  | start => exact grows_addStart fun hnone _ => .inr hnone
  | node id => exact grows_removeNode _
  | connections =>
    exact grows_withBody request.payload _ fun _ ends _ _ => grows_addConnection ends
  | connection id => exact grows_removeConnection _
  | undo => exact .undo
  | redo => exact .redo
  | health | modules | graph | validate | analyze | generate | page =>
    rw [editor_handleRoute environment catalog editor request.payload (by decide)]
    exact .same

theorem grows_handle (hcatalog : ∀ template ∈ catalog.templates, template.kind ≠ startKind)
    (request : Request) :
    editor.history.Grows
      (fun kind => kind = startKind → request.asksForStart = true ∨ editor.graph.startCount = 0)
      (handle environment catalog editor request).editor.history := by
  rw [editor_handle]
  rcases dispatch_cases environment catalog editor request.payload request.method.upper
    (.ofPath request.path) with ⟨status, content, -, hrefused⟩ | ⟨route, hroute, hhandled⟩
  · rw [hrefused]
    exact .same
  · rw [hhandled]
    exact grows_handleRoute environment catalog editor hcatalog hroute

/-- One request raises a bound by one if it asks for a node where the program begins, else it keeps
it. -/
theorem startCount_le_of_handle
    (hcatalog : ∀ template ∈ catalog.templates, template.kind ≠ startKind) (request : Request)
    {bound : Nat} (hbound : editor.history.AllGraphs (·.startCount ≤ 1 + bound)) :
    (handle environment catalog editor request).editor.history.AllGraphs
      (·.startCount ≤ 1 + bound + if request.asksForStart then 1 else 0) := by
  have hgrows := grows_handle environment catalog editor hcatalog request
  refine hgrows.startCount_le hbound fun hstart => ?_
  have hcurrent : editor.history.graph.startCount ≤ 1 + bound := hbound.graph
  rcases hstart rfl with hasks | hnone
  · rw [if_pos hasks]
    omega
  · rw [Editor.graph] at hnone
    omega

/-- Requests raise a bound by one each at most. -/
theorem allGraphs_startCount_serve
    (hcatalog : ∀ template ∈ catalog.templates, template.kind ≠ startKind)
    (requests : List Request) {editor : Editor Text} {bound : Nat}
    (hbound : editor.history.AllGraphs (·.startCount ≤ 1 + bound)) :
    (serve environment catalog editor requests).history.AllGraphs
      (·.startCount ≤ 1 + (bound + requests.countP (·.asksForStart))) := by
  -- the first request raises the bound that holds before the others
  induction requests generalizing editor bound with
  | nil => exact hbound
  | cons request requests ih =>
    have hfirst := startCount_le_of_handle environment catalog editor hcatalog request hbound
    rw [Nat.add_assoc] at hfirst
    have hcount : bound + (request :: requests).countP (·.asksForStart) =
        bound + (if request.asksForStart then 1 else 0) + requests.countP (·.asksForStart) := by
      rw [List.countP_cons, Nat.add_assoc, Nat.add_comm (requests.countP _)]
    rw [hcount]
    exact ih hfirst

end Requests

/-! ### Sessions -/

/-- A node where the program begins is asked for, and then another one by its kind. -/
def twoStarts : List Request :=
  [⟨"POST", "/api/graph/start", none⟩,
    ⟨"POST", "/api/graph/nodes", some (.json (.object [("kind", .string "start")]))⟩]

/-- The graph has both nodes. -/
theorem startCount_twoStarts :
    ¬ ∀ snapshot ∈ (serve [] .builtIn (.start .empty 100) twoStarts).history.snapshots,
      snapshot.graph.startCount ≤ 1 := by
  decide

/-- **Nodes where a program begins are bounded by what is asked for.** A session begins with the
empty graph, under any limit, and no template is one of such a node. Whatever requests are served,
every graph in the history has at most one node where the program begins, beyond one for each
request that asks for such a node by its kind. -/
theorem startCount_le_of_serve (environment : Environment) {catalog : Catalog Text}
    (hcatalog : ∀ template ∈ catalog.templates, template.kind ≠ startKind) (limit : Int)
    (supply : IdSupply) (requests : List Request) :
    ∀ snapshot ∈
        (serve environment catalog ⟨.start .empty limit, supply⟩ requests).history.snapshots,
      snapshot.graph.startCount ≤ 1 + requests.countP (·.asksForStart) := by
  have hstart : (⟨.start .empty limit, supply⟩ : Editor Text).history.AllGraphs
      (·.startCount ≤ 1 + 0) :=
    History.allGraphs_start (Nat.zero_le _) limit
  have hserved := allGraphs_startCount_serve environment catalog hcatalog requests
    hstart
  intro snapshot hsnapshot
  simpa using hserved snapshot hsnapshot

/-- No built-in template is one of a node where the program begins, and the bound is met by the two
requests. -/
theorem startCount_le_of_serve_twoStarts :
    (∀ template ∈ (Catalog.builtIn : Catalog Text).templates, template.kind ≠ startKind) ∧
    twoStarts.countP (·.asksForStart) = 1 ∧
    ∀ snapshot ∈
        (serve [] .builtIn ⟨.start .empty 100, .start⟩ twoStarts).history.snapshots,
      snapshot.graph.startCount ≤ 1 + twoStarts.countP (·.asksForStart) := by
  have hcatalog : ∀ template ∈ (Catalog.builtIn : Catalog Text).templates,
      template.kind ≠ startKind := by decide
  have hasked : twoStarts.countP (·.asksForStart) = 1 := by decide
  exact ⟨hcatalog, hasked, startCount_le_of_serve [] hcatalog 100 .start twoStarts⟩

end Api

end ModuleGraph
