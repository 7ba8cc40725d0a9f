import ModuleGraph.Proofs.Api.Bodies
import ModuleGraph.Proofs.Api.DryRun
import ModuleGraph.Proofs.Api.StrictSession

/-!
# The graph of the session, posted back

A request may bring a graph along, or leave it out and mean that of the session. The two ways do not
share much: one takes the graph as it is, the other reads it from the body that the graph was
written to. They lead to the same answer; only a refusal that repeats the body of the request shows
which way it was.

## Main definitions

- `Checked.Agree` — two checks find the same, up to relations between values and between faults
- `withGraph` — the body with a graph besides what it had
- `BodyFault.Repeats` — two faults tell the same of a body with and without a graph
- `judgingRoutes`, `Response.told` — the routes that may take a graph, and what a response tells
- `missingEnds` — the faults of a body that says nothing of a wire

## Main statements

- `validateBody_agree`, `analyzeBody_agree`, `generateBody_agree` — the bodies of requests
- `handleRoute_agree` — the answers that are made
- `sendError?_faults` — refusals that tell the same are both sent, or neither is
- `session_graph_posted_back` — the answers that arrive
- `body_ne_of_missingEnds_mintTwice` — two answers that show how the graph was supplied
-/

namespace ModuleGraph.Api

/-! ### Checks that agree -/

namespace Checked

variable {α β γ δ : Type} {F : BodyFault → BodyFault → Prop} {R : α → β → Prop} {S : γ → δ → Prop}

/-- Both checks give a value and the values are related, or both find faults and these are related
one by one. -/
inductive Agree (F : BodyFault → BodyFault → Prop) (R : α → β → Prop) :
    Checked α → Checked β → Prop
  | value {a : α} {b : β} (h : R a b) : Agree F R (.value a) (.value b)
  | faults {found found' : List BodyFault} (h : List.Forall₂ F found found') :
    Agree F R (.faults found) (.faults found')

theorem Agree.map {a : Checked α} {b : Checked β} {f : α → γ} {g : β → δ} (h : a.Agree F R b)
    (hvalues : ∀ x y, R x y → S (f x) (g y)) : (f <$> a : Checked γ).Agree F S (g <$> b) := by
  cases h with
  | value h => exact .value (hvalues _ _ h)
  | faults h => exact .faults h

theorem Agree.map_eq {a b : Checked α} {f : α → γ} (h : a.Agree F Eq b) :
    (f <$> a : Checked γ).Agree F Eq (f <$> b) :=
  h.map fun _ _ hsame => congrArg f hsame

theorem Agree.apply {f : Checked (α → γ)} {g : Checked (β → δ)} {a : Checked α} {b : Checked β}
    (hf : f.Agree F (fun f g => ∀ x y, R x y → S (f x) (g y)) g) (ha : a.Agree F R b) :
    (f <*> a).Agree F S (g <*> b) := by
  cases hf with
  | value hf =>
    cases ha with
    | value ha => exact .value (hf _ _ ha)
    | faults ha => exact .faults ha
  | faults hf =>
    cases ha with
    | value ha => exact .faults hf
    | faults ha => exact .faults (List.rel_append hf ha)

theorem Agree.refl (a : Checked α) : a.Agree Eq Eq a := by
  cases a with
  | value a => exact .value rfl
  | faults found => exact .faults (List.forall₂_eq_eq_eq ▸ rfl)

/-- What is made in the same way of the same values. -/
theorem Agree.apply_eq {f g : Checked (α → γ)} {a b : Checked α} (hf : f.Agree F Eq g)
    (ha : a.Agree F Eq b) : (f <*> a).Agree F Eq (g <*> b) := by
  refine Agree.apply ?_ ha
  cases hf with
  | value h => exact .value fun x y hxy => congr h hxy
  | faults h => exact .faults h

end Checked

open Checked (Agree)

/-! ### Bodies with and without a graph -/

/-- The members of a body, and a graph besides. -/
def withGraph (members : List (Text × Json)) (document : Json) : Json :=
  .object (members ++ [(Text.ofString "graph", document)])

/-- Two faults tell the same of a body with and without a graph; where a member is missing, the body
that it is missing from is shown. -/
inductive BodyFault.Repeats (members : List (Text × Json)) (document : Json) :
    BodyFault → BodyFault → Prop
  | same (fault : BodyFault) : Repeats members document fault fault
  | missing (path : List Step) : Repeats members document ⟨path, .missing, .object members⟩
    ⟨path, .missing, withGraph members document⟩

section Members

variable {members : List (Text × Json)} {document : Json} {path : List Step} {key : String}

theorem field?_withGraph (h : key ≠ "graph") :
    (withGraph members document).field? key = (Json.object members).field? key := by
  have hother : Text.ofString "graph" ≠ Text.ofString key :=
    fun hsame => h (Text.ofString_injective hsame).symm
  rw [withGraph, Json.field?, Json.lastValue?_append]
  simp [Json.lastValue?, hother, Json.field?]

theorem field?_graph_withGraph : (withGraph members document).field? "graph" = some document := by
  rw [withGraph, Json.field?, Json.lastValue?_append]
  simp [Json.lastValue?]

theorem requiredText_agree (h : key ≠ "graph") :
    (requiredText path (.object members) key).Agree (BodyFault.Repeats members document) Eq
      (requiredText path (withGraph members document) key) := by
  rw [requiredText, requiredText, field?_withGraph h]
  split
  · exact .value rfl
  · exact .faults (.cons (.same _) .nil)
  · exact .faults (.cons (.missing _) .nil)

theorem requiredLabel_agree (h : key ≠ "graph") :
    (requiredLabel path (.object members) key : Checked Text).Agree
      (BodyFault.Repeats members document) Eq
      (requiredLabel path (withGraph members document) key) :=
  (requiredText_agree h).map_eq

theorem endpointMembers_agree :
    (endpointMembers path (.object members) : Checked (Endpoints Text)).Agree
      (BodyFault.Repeats members document) Eq
      (endpointMembers path (withGraph members document)) := by
  rw [endpointMembers, endpointMembers]
  refine .apply_eq (.apply_eq (.apply_eq (.map_eq ?_) ?_) ?_) ?_
  all_goals exact requiredLabel_agree (by decide)

theorem optionalText_withGraph (h : key ≠ "graph") :
    optionalText path (withGraph members document) key =
      optionalText path (.object members) key := by
  rw [optionalText, field?_withGraph h, optionalText]

end Members

/-! ### Requests -/

section Requests

variable {members : List (Text × Json)} {document : Json} {graph : Graph Text} {path : List Step}
variable {F : BodyFault → BodyFault → Prop}

/-- Leaving the graph out means the same as bringing it along. -/
theorem optionalGraph_agree (homits : (Json.object members).field? "graph" = none)
    (hgraph : Document.DenotesGraph document graph) (htyped : TypedNodes document) :
    (optionalPart graphBody path (.object members) "graph").Agree F
      (fun plain posted => plain.getD graph = posted.getD graph)
      (optionalPart graphBody path (withGraph members document) "graph") := by
  have hsome : optionalPart graphBody path (withGraph members document) "graph" =
      .value (some graph) :=
    optionalGraph_eq_some field?_graph_withGraph hgraph htyped
  rw [optionalGraph_eq_none (.inl homits), hsome]
  exact .value rfl

theorem validateBody_agree (homits : (Json.object members).field? "graph" = none)
    (hgraph : Document.DenotesGraph document graph) (htyped : TypedNodes document) :
    (validateBody path (.object members) : Checked (ValidateRequest Text)).Agree
      (BodyFault.Repeats members document)
      (fun plain posted =>
        plain.ends = posted.ends ∧ plain.graph.getD graph = posted.graph.getD graph)
      (validateBody path (withGraph members document)) := by
  refine .apply (.map endpointMembers_agree ?_) (optionalGraph_agree homits hgraph htyped)
  exact fun _ _ hends _ _ hmeant => ⟨hends, hmeant⟩

theorem analyzeBody_agree (homits : (Json.object members).field? "graph" = none)
    (hgraph : Document.DenotesGraph document graph) (htyped : TypedNodes document) :
    (analyzeBody path (.object members)).Agree Eq
      (fun plain posted => plain.getD graph = posted.getD graph)
      (analyzeBody path (withGraph members document)) :=
  optionalGraph_agree homits hgraph htyped

theorem generateBody_agree (homits : (Json.object members).field? "graph" = none)
    (hgraph : Document.DenotesGraph document graph) (htyped : TypedNodes document) :
    (generateBody path (.object members)).Agree Eq
      (fun plain posted => plain.graph.getD graph = posted.graph.getD graph ∧
        plain.programName = posted.programName)
      (generateBody path (withGraph members document)) := by
  have hname : (optionalText path (.object members) "programName").Agree Eq Eq
      (optionalText path (withGraph members document) "programName") := by
    rw [optionalText_withGraph (by decide)]
    exact .refl _
  refine .apply (.map (optionalGraph_agree homits hgraph htyped) ?_) hname
  exact fun _ _ hmeant _ _ hname => ⟨hmeant, hname⟩

/-- Two answers are the same, or both refuse a body for faults that are related. -/
theorem withBody_agree {α : Type} {R : α → α → Prop} {editor : Editor Text}
    {plain posted : Option Payload} {body body' : Json} {part : List Step → Json → Checked α}
    {proceed : α → Handled Text} (hplain : payloadJson plain = .ok body)
    (hposted : payloadJson posted = .ok body')
    (hagree : (part [.key "body"] body).Agree F R (part [.key "body"] body'))
    (hproceed : ∀ a b, R a b → proceed a = proceed b) :
    withBody editor plain part proceed = withBody editor posted part proceed ∨
      ∃ found found', withBody editor plain part proceed = .respond editor 422 (.faults found) ∧
        withBody editor posted part proceed = .respond editor 422 (.faults found') ∧
        List.Forall₂ F found found' := by
  rw [withBody, withBody, hplain, hposted]
  simp only
  generalize part [.key "body"] body = plainly at hagree ⊢
  generalize part [.key "body"] body' = besides at hagree ⊢
  cases hagree with
  | value h => exact .inl (hproceed _ _ h)
  | faults h => exact .inr ⟨_, _, rfl, rfl, h⟩

/-- If no faults are related but the same, the answers are the same. -/
theorem withBody_eq {α : Type} {R : α → α → Prop} {editor : Editor Text}
    {plain posted : Option Payload} {body body' : Json} {part : List Step → Json → Checked α}
    {proceed : α → Handled Text} (hplain : payloadJson plain = .ok body)
    (hposted : payloadJson posted = .ok body')
    (hagree : (part [.key "body"] body).Agree Eq R (part [.key "body"] body'))
    (hproceed : ∀ a b, R a b → proceed a = proceed b) :
    withBody editor plain part proceed = withBody editor posted part proceed := by
  rcases withBody_agree hplain hposted hagree hproceed with hsame |
    ⟨found, found', hfound, hfound', hfaults⟩
  · exact hsame
  · rw [List.forall₂_eq_eq_eq] at hfaults
    rw [hfound, hfound', hfaults]

/-- What goes on with the graph that is meant does not depend on how it is supplied. -/
theorem onGraph_congr {editor : Editor Text} {plain posted : Option (Graph Text)}
    (hmeant : plain.getD editor.graph = posted.getD editor.graph)
    (proceed : Graph Text → Handled Text) :
    onGraph editor plain proceed = onGraph editor posted proceed := by
  rw [onGraph_eq, onGraph_eq, hmeant]

end Requests

/-! ### Refusals -/

section Refusals

open Json (hasHalf anyHasHalf anyMemberHasHalf holdsUnbounded anyHoldsUnbounded
  anyMemberHoldsUnbounded)

variable {members : List (Text × Json)} {document : Json}

theorem hasHalf_withGraph (h : document.hasHalf = false) :
    (withGraph members document).hasHalf = (Json.object members).hasHalf := by
  rw [withGraph, hasHalf, hasHalf]
  induction members with
  | nil =>
    have hkey : (Text.ofString "graph").hasHalf = false := by decide
    simp only [List.nil_append, anyMemberHasHalf, hkey, h, Bool.or_self]
  | cons member members ih =>
    obtain ⟨key, value⟩ := member
    rw [List.cons_append, anyMemberHasHalf, ih, anyMemberHasHalf]

theorem holdsUnbounded_withGraph (h : document.holdsUnbounded = false) :
    (withGraph members document).holdsUnbounded = (Json.object members).holdsUnbounded := by
  rw [withGraph, holdsUnbounded, holdsUnbounded]
  induction members with
  | nil =>
    simp only [List.nil_append, anyMemberHoldsUnbounded, h, Bool.or_self]
  | cons member members ih =>
    obtain ⟨key, value⟩ := member
    rw [List.cons_append, anyMemberHoldsUnbounded, ih, anyMemberHoldsUnbounded]

/-- What can be sent of one fault can be sent of the other, if the graph itself can be sent. -/
theorem BodyFault.Repeats.sendable {fault fault' : BodyFault}
    (h : BodyFault.Repeats members document fault fault') (hhalf : document.hasHalf = false)
    (hnumbers : document.holdsUnbounded = false) :
    fault.encode.hasHalf = fault'.encode.hasHalf ∧
      fault.encode.holdsUnbounded = fault'.encode.holdsUnbounded := by
  cases h with
  | same => exact ⟨rfl, rfl⟩
  | missing path =>
    constructor
    · simp only [BodyFault.encode, hasHalf, anyMemberHasHalf, hasHalf_withGraph hhalf]
    · simp only [BodyFault.encode, holdsUnbounded, anyMemberHoldsUnbounded,
        holdsUnbounded_withGraph hnumbers]

/-- Refusals that tell the same of a body with and without a graph are both sent, or neither is. -/
theorem sendError?_faults {found found' : List BodyFault}
    (hfaults : List.Forall₂ (BodyFault.Repeats members document) found found')
    (hhalf : document.hasHalf = false) (hnumbers : document.holdsUnbounded = false) :
    (⟨422, .faults found⟩ : Response Text).sendError? =
      (⟨422, .faults found'⟩ : Response Text).sendError? := by
  have hall : anyHasHalf (found.map BodyFault.encode) =
        anyHasHalf (found'.map BodyFault.encode) ∧
      anyHoldsUnbounded (found.map BodyFault.encode) =
        anyHoldsUnbounded (found'.map BodyFault.encode) := by
    induction hfaults with
    | nil => exact ⟨rfl, rfl⟩
    | cons hfault _ ih =>
      obtain ⟨hfaultHalf, hfaultNumbers⟩ := hfault.sendable hhalf hnumbers
      simp only [List.map_cons, anyHasHalf, anyHoldsUnbounded, hfaultHalf, hfaultNumbers, ih,
        and_self]
  obtain ⟨hhalves, hunbounded⟩ := hall
  have htold : (encodeDetail (.array (found.map BodyFault.encode))).hasHalf =
      (encodeDetail (.array (found'.map BodyFault.encode))).hasHalf := by
    simp only [encodeDetail, hasHalf, anyMemberHasHalf, hhalves]
  have hnumbered : (encodeDetail (.array (found.map BodyFault.encode))).holdsUnbounded =
      (encodeDetail (.array (found'.map BodyFault.encode))).holdsUnbounded := by
    simp only [encodeDetail, holdsUnbounded, anyMemberHoldsUnbounded, hunbounded]
  simp only [Response.sendError?, Content.encode?]
  rw [htold, hnumbered]

end Refusals

/-! ### Answers -/

section Answers

open Document (encodeGraph encodeNode)

theorem typedNodes_encodeGraph (graph : Graph Text) : TypedNodes (encodeGraph graph none) := by
  intro items hitems item hitem
  have hnodes : (encodeGraph graph none).field? "nodes" =
      some (.array (graph.nodes.map encodeNode)) := rfl
  rw [hnodes] at hitems
  cases hitems
  obtain ⟨node, -, rfl⟩ := List.mem_map.1 hitem
  rfl

variable {environment : Environment} {catalog : Catalog Text} {editor : Editor Text}

/-- What the request for the graph arrives with is the document of the graph, which can be sent. -/
theorem document_of_shown {shown : Response Text} {document : Json}
    (hshown : (handle environment catalog editor graphRequest).response = .ok shown)
    (hdocument : shown.content.encode? = some document) :
    document = encodeGraph editor.graph none ∧ document.hasHalf = false := by
  rw [response_graphRequest] at hshown
  split at hshown
  · cases hshown
  · rename_i hhalf
    cases hshown
    cases hdocument
    exact ⟨rfl, by simpa using hhalf⟩

/-- The routes that take a graph or else that of the session. -/
def judgingRoutes : List Route := [.validate, .analyze, .generate]

theorem handleRoute_agree (environment : Environment) (catalog : Catalog Text)
    {members : List (Text × Json)} {plain posted : Option Payload} {route : Route}
    (hroute : route ∈ judgingRoutes) (hplain : payloadJson plain = .ok (.object members))
    (homits : (Json.object members).field? "graph" = none)
    (hposted : payloadJson posted = .ok (withGraph members (encodeGraph editor.graph none))) :
    handleRoute environment catalog editor plain route =
        handleRoute environment catalog editor posted route ∨
      route = .validate ∧ ∃ found found',
        handleRoute environment catalog editor plain route =
          .respond editor 422 (.faults found) ∧
        handleRoute environment catalog editor posted route =
          .respond editor 422 (.faults found') ∧
        List.Forall₂ (BodyFault.Repeats members (encodeGraph editor.graph none)) found found' := by
  have hgraph := Document.denotesGraph_encodeGraph editor.graph none
  have htyped := typedNodes_encodeGraph editor.graph
  simp only [judgingRoutes, List.mem_cons, List.not_mem_nil, or_false] at hroute
  rcases hroute with rfl | rfl | rfl
  · refine (withBody_agree hplain hposted (validateBody_agree homits hgraph htyped) ?_).imp_right
      fun hfaults => ⟨rfl, hfaults⟩
    rintro request request' ⟨hends, hmeant⟩
    rw [hends]
    exact onGraph_congr hmeant _
  · left
    exact withBody_eq hplain hposted (analyzeBody_agree homits hgraph htyped) fun _ _ hmeant =>
      onGraph_congr hmeant _
  · left
    refine withBody_eq hplain hposted (generateBody_agree homits hgraph htyped) ?_
    rintro request request' ⟨hmeant, hname⟩
    rw [hname]
    exact onGraph_congr hmeant _

/-- What arrives along these routes is what was made, if it can be sent. -/
theorem response_of_judging {request : Request} {route : Route} (hroute : request.LeadsTo route)
    (hjudging : route ∈ judgingRoutes) :
    (handle environment catalog editor request).response =
      (handleRoute environment catalog editor request.payload route).response.bind
        Response.sent := by
  have hwhole : ∀ route ∈ judgingRoutes, Text.ofString "HEAD" ∉ route.methods := by decide
  rw [response_handle hroute (hwhole route hjudging), answerTo, dispatch_of_leadsTo hroute]

end Answers

/-- The response without the parts of a faulty body that it shows. -/
def Response.told (response : Response Text) : Response Text where
  status := response.status
  content :=
    match response.content with
    | .faults found => .faults (found.map fun fault => { fault with input := .null })
    | content => content

/-- Faults that are related tell the same. -/
theorem map_told_of_repeats {members : List (Text × Json)} {document : Json}
    {found found' : List BodyFault}
    (h : List.Forall₂ (BodyFault.Repeats members document) found found') :
    (found.map fun fault => { fault with input := .null }) =
      found'.map fun fault => { fault with input := .null } := by
  induction h with
  | nil => rfl
  | cons hfault _ ih =>
    rw [List.map_cons, List.map_cons, ih]
    cases hfault <;> rfl

/-- **Posting the graph of the session back changes nothing.** The graph of a session arrives as a
document. A request to judge a wire, or to analyse or compile a graph, is answered in the same way
whether it leaves the graph out or brings the document along: with the same status and the same
content, be it a result or a refusal, for size or for anything else. There is one thing to tell the
two apart: where a member of a wire is missing, the refusal shows the body that was posted. -/
theorem session_graph_posted_back (environment : Environment) (catalog : Catalog Text)
    (editor : Editor Text) {shown : Response Text} {document : Json}
    (hshown : (handle environment catalog editor graphRequest).response = .ok shown)
    (hdocument : shown.content.encode? = some document) {request : Request} {route : Route}
    (hroute : request.LeadsTo route) (hjudging : route ∈ judgingRoutes)
    {members : List (Text × Json)} (hplain : payloadJson request.payload = .ok (.object members))
    (homits : (Json.object members).field? "graph" = none) (payload : Option Payload)
    (hposted : payloadJson payload = .ok (withGraph members document)) :
    let plain := (handle environment catalog editor request).response
    let posted := (handle environment catalog editor { request with payload }).response
    plain.map Response.told = posted.map Response.told ∧
    (plain = posted ∨ route = .validate ∧ ∃ found found',
      plain = .ok ⟨422, .faults found⟩ ∧ posted = .ok ⟨422, .faults found'⟩ ∧
        List.Forall₂ (BodyFault.Repeats members document) found found') := by
  intro plain posted
  obtain ⟨rfl, hhalf⟩ := document_of_shown hshown hdocument
  have hplainSent : plain = (handleRoute environment catalog editor request.payload
      route).response.bind Response.sent := response_of_judging hroute hjudging
  have hpostedRoute : Request.LeadsTo { request with payload } route :=
    ⟨hroute.path, hroute.method⟩
  have hpostedSent : posted = (handleRoute environment catalog editor payload
      route).response.bind Response.sent := response_of_judging hpostedRoute hjudging
  rcases handleRoute_agree environment catalog hjudging hplain homits hposted with
    hsame | ⟨rfl, found, found', hfound, hfound', hfaults⟩
  · have hequal : plain = posted := by rw [hplainSent, hpostedSent, hsame]
    exact ⟨congrArg _ hequal, .inl hequal⟩
  · have hplainFaults : plain = Response.sent ⟨422, .faults found⟩ := by
      rw [hplainSent, hfound]
      rfl
    have hpostedFaults : posted = Response.sent ⟨422, .faults found'⟩ := by
      rw [hpostedSent, hfound']
      rfl
    have hsend := sendError?_faults hfaults hhalf (Document.holdsUnbounded_encodeGraph editor.graph)
    rw [hplainFaults, hpostedFaults, Response.sent, Response.sent, hsend]
    -- either both refusals are sent, or neither is
    cases (⟨422, .faults found'⟩ : Response Text).sendError? with
    | some error => exact ⟨rfl, .inl rfl⟩
    | none =>
      refine ⟨?_, .inr ⟨rfl, found, found', rfl, rfl, hfaults⟩⟩
      simp only [Except.map, Response.told, map_told_of_repeats hfaults]

/-- A mint is listed twice, and a wire leads from it to a node that is not there. -/
def mintTwice : Editor Text :=
  let port : Port Text := ⟨"port", "Port", "number"⟩
  .start ⟨"bank", [⟨"mint", "token", "Mint", [port], [port]⟩, ⟨"mint", "token", "Mint", [], []⟩],
    [⟨⟨"mint", "port", "ghost", "in"⟩, "c1"⟩]⟩ 10

/-- A request with a body of the given members. -/
def requestWith (path : String) (members : List (Text × Json)) : Request :=
  ⟨"POST", path, some (.json (.object members))⟩

/-- The members that name the ends of a wire from the mint to itself. -/
def loopMembers : List (Text × Json) :=
  [("sourceNodeId", .string "mint"), ("sourcePortId", .string "port"),
    ("targetNodeId", .string "mint"), ("targetPortId", .string "port")]

/-- The JSON value that arrives, if a response does and says anything. -/
def Handled.body? (handled : Handled Text) : Option Json :=
  handled.response.toOption.bind (·.content.encode?)

/-- What is wrong with a body from which all four ends of a wire are missing. -/
def missingEnds (body : Json) : List BodyFault :=
  ["sourceNodeId", "sourcePortId", "targetNodeId", "targetPortId"].map fun key =>
    ⟨[.key "body", .key key], .missing, body⟩

theorem response_of_faults {environment : Environment} {catalog : Catalog Text}
    {editor : Editor Text} {request : Request} {body : Json} {found : List BodyFault}
    (hroute : request.LeadsTo .validate) (hbody : payloadJson request.payload = .ok body)
    (hfound : (validateBody [.key "body"] body : Checked (ValidateRequest Text)) = .faults found)
    (hsent : (⟨422, .faults found⟩ : Response Text).sendError? = none) :
    (handle environment catalog editor request).response = .ok ⟨422, .faults found⟩ := by
  rw [response_of_judging hroute (by decide), handleRoute, withBody, hbody]
  simp only [hfound, Handled.respond, Except.bind, Response.sent, hsent]

/-- With the graph posted back, an analysis is refused for size by the same body, and a wire is
judged by the same body. A request that says nothing of a wire is told of the same faults. -/
theorem session_graph_posted_back_mintTwice :
    let limited : Environment := [("ANCHORFLOW_MAX_NODES", "1")]
    let shown : Response Text := ⟨200, .graph mintTwice.graph⟩
    let document := Document.encodeGraph mintTwice.graph none
    let answer (path : String) (members : List (Text × Json)) :=
      handle limited .builtIn mintTwice (requestWith path members)
    let posted (path : String) (members : List (Text × Json)) :=
      handle limited .builtIn mintTwice
        { requestWith path members with payload := some (.json (withGraph members document)) }
    (handle limited .builtIn mintTwice graphRequest).response = .ok shown ∧
    shown.content.encode? = some document ∧
    (∀ members, (requestWith "/api/analyze" members).LeadsTo .analyze ∧
      (requestWith "/api/validate" members).LeadsTo .validate) ∧
    (answer "/api/analyze" []).status? = some 413 ∧
    (posted "/api/analyze" []).body? = (answer "/api/analyze" []).body? ∧
    (answer "/api/validate" loopMembers).status? = some 200 ∧
    (posted "/api/validate" loopMembers).body? = (answer "/api/validate" loopMembers).body? ∧
    (posted "/api/validate" []).response.map Response.told =
      .ok ⟨422, .faults (missingEnds .null)⟩ := by
  intro limited shown document answer posted
  have hshown : (handle limited .builtIn mintTwice graphRequest).response = .ok shown := by
    rw [response_graphRequest, if_neg (by decide)]
  have hroutes : ∀ members, (requestWith "/api/analyze" members).LeadsTo .analyze ∧
      (requestWith "/api/validate" members).LeadsTo .validate := by
    have hanalyze : (requestWith "/api/analyze" []).LeadsTo .analyze := ⟨by decide, by decide⟩
    have hvalidate : (requestWith "/api/validate" []).LeadsTo .validate := ⟨by decide, by decide⟩
    exact fun _ => ⟨⟨hanalyze.path, hanalyze.method⟩, ⟨hvalidate.path, hvalidate.method⟩⟩
  have hlarge : (answer "/api/analyze" []).status? = some 413 := by decide
  have hjudged : (answer "/api/validate" loopMembers).status? = some 200 := by decide
  have hmissing : (answer "/api/validate" []).response =
      .ok ⟨422, .faults (missingEnds (.object []))⟩ :=
    response_of_faults (hroutes []).2 rfl rfl (by decide)
  obtain ⟨-, hanalysis⟩ := session_graph_posted_back limited .builtIn mintTwice hshown rfl
    (hroutes []).1 (by decide) rfl rfl (some (.json (withGraph [] document))) rfl
  obtain ⟨-, hjudgement⟩ := session_graph_posted_back limited .builtIn mintTwice hshown rfl
    (hroutes loopMembers).2 (by decide) rfl rfl (some (.json (withGraph loopMembers document))) rfl
  obtain ⟨htold, -⟩ := session_graph_posted_back limited .builtIn mintTwice hshown rfl
    (hroutes []).2 (by decide) rfl rfl (some (.json (withGraph [] document))) rfl
  refine ⟨hshown, rfl, hroutes, hlarge, ?_, hjudged, ?_, ?_⟩
  · rcases hanalysis with hsame | ⟨hroute, -⟩
    · rw [Handled.body?, Handled.body?, hsame]
    · cases hroute
  · rcases hjudgement with hsame | ⟨-, found, found', hfound, -⟩
    · rw [Handled.body?, Handled.body?, hsame]
    · -- a wire that is judged is not refused for faults
      rw [Handled.status?, hfound] at hjudged
      cases hjudged
  · rw [← htold, hmissing]
    rfl

/-- The refusal shows the body that was posted, so that the two ways to supply the graph are told
apart where the ends of a wire are missing. -/
theorem body_ne_of_missingEnds_mintTwice :
    let shown : Response Text := ⟨200, .graph mintTwice.graph⟩
    let document := Document.encodeGraph mintTwice.graph none
    let judging := requestWith "/api/validate" []
    let payload : Option Payload := some (.json (withGraph [] document))
    (handle [] .builtIn mintTwice graphRequest).response = .ok shown ∧
    shown.content.encode? = some document ∧
    judging.LeadsTo .validate ∧
    (handle [] .builtIn mintTwice judging).body? ≠
      (handle [] .builtIn mintTwice { judging with payload }).body? := by
  intro shown document judging payload
  have hjudging : judging.LeadsTo .validate := ⟨by decide, by decide⟩
  have hplain : (handle [] .builtIn mintTwice judging).response =
      .ok ⟨422, .faults (missingEnds (.object []))⟩ :=
    response_of_faults hjudging rfl rfl (by decide)
  have hposted : (handle [] .builtIn mintTwice { judging with payload }).response =
      .ok ⟨422, .faults (missingEnds (withGraph [] document))⟩ :=
    response_of_faults ⟨hjudging.path, hjudging.method⟩ rfl rfl (by decide)
  refine ⟨by rw [response_graphRequest, if_neg (by decide)], rfl, hjudging, ?_⟩
  rw [Handled.body?, Handled.body?, hplain, hposted]
  simp [Except.toOption, Content.encode?, encodeDetail, missingEnds, BodyFault.encode, withGraph]

end ModuleGraph.Api
