import ModuleGraph.Proofs.Api.Requests

/-!
# Answers and what is sent of them

A handler makes an answer, and the answer is sent. One that holds half of a surrogate pair cannot
be sent; other than that only the faults of a body, which repeat parts of it, may fail to be.

## Main definitions

- `Request.LeadsTo` — the route that a request is handled along
- `answerTo` — the answer that is made for a request
- `Response.sent`, `Response.holdsHalf` — what becomes of an answer
- `Answered` — the answer to a request, made and sent

## Main statements

- `Response.sent_eq_ok_iff` — an answer is sent unless it holds half of a surrogate pair
- `status_handle`, `response_handle`, `answered_of_made` — what arrives of an answer
-/

namespace ModuleGraph

/-! ### Answers without numbers -/

namespace Json

theorem anyHoldsUnbounded_map {α : Type} {encode : α → Json}
    (h : ∀ part, (encode part).holdsUnbounded = false) (parts : List α) :
    anyHoldsUnbounded (parts.map encode) = false := by
  induction parts with
  | nil => rfl
  | cons part parts ih => rw [List.map_cons, anyHoldsUnbounded, h, ih, Bool.or_self]

theorem anyMemberHoldsUnbounded_eq_false {members : List (Text × Json)}
    (h : ∀ member ∈ members, member.2.holdsUnbounded = false) :
    anyMemberHoldsUnbounded members = false := by
  induction members with
  | nil => rfl
  | cons member members ih =>
    obtain ⟨hmember, hmembers⟩ := List.forall_mem_cons.1 h
    obtain ⟨key, value⟩ := member
    rw [anyMemberHoldsUnbounded, hmember, ih hmembers, Bool.or_self]

end Json

open Json (holdsUnbounded anyMemberHoldsUnbounded anyHoldsUnbounded_map
  anyMemberHoldsUnbounded_eq_false)

namespace Document

theorem holdsUnbounded_encodeNode (node : Node Text) :
    (encodeNode node).holdsUnbounded = false := by
  have hport : ∀ port : Port Text, (encodePort port).holdsUnbounded = false := fun _ => rfl
  simp [encodeNode, holdsUnbounded, anyMemberHoldsUnbounded, Label.toJson,
    anyHoldsUnbounded_map hport]

/-- The document of a graph holds no numbers at all. -/
theorem holdsUnbounded_encodeGraph (graph : Graph Text) :
    (encodeGraph graph none).holdsUnbounded = false := by
  have hconnection : ∀ connection : Connection Text,
      (encodeConnection connection).holdsUnbounded = false := fun _ => rfl
  simp [encodeGraph, graphMembers, programNameMember, holdsUnbounded, anyMemberHoldsUnbounded,
    Label.toJson, anyHoldsUnbounded_map holdsUnbounded_encodeNode,
    anyHoldsUnbounded_map hconnection]

end Document

theorem Template.holdsUnbounded_encode (template : Template Text) :
    template.encode.holdsUnbounded = false := by
  have hspec : ∀ spec : PortSpec Text, spec.encode.holdsUnbounded = false := fun _ => rfl
  simp [Template.encode, holdsUnbounded, anyMemberHoldsUnbounded, Label.toJson,
    anyHoldsUnbounded_map hspec]

theorem holdsUnbounded_encodeVerdict (reason : Option (Rejection Text)) :
    (encodeVerdict reason).holdsUnbounded = false := by
  cases reason <;> rfl

theorem holdsUnbounded_encodeLabels (labels : List Text) :
    (encodeLabels labels).holdsUnbounded = false :=
  anyHoldsUnbounded_map (fun _ => rfl) labels

theorem Analysis.holdsUnbounded_encode (analysis : Analysis Text) :
    analysis.encode.holdsUnbounded = false := by
  have htable : analysis.dependencies.encode.holdsUnbounded = false :=
    anyMemberHoldsUnbounded_eq_false
      (List.forall_mem_map.2 fun entry _ => holdsUnbounded_encodeLabels entry.2)
  simp [Analysis.encode, holdsUnbounded, anyMemberHoldsUnbounded, htable,
    holdsUnbounded_encodeLabels, anyHoldsUnbounded_map holdsUnbounded_encodeLabels]

namespace Api

theorem holdsUnbounded_encodeGenerated (workspace : Workspace Text) :
    (encodeGenerated workspace).holdsUnbounded = false := by
  have hmodule : ∀ module : ModuleSource Text, module.encode.holdsUnbounded = false :=
    fun _ => rfl
  have htransfer : ∀ transfer : Transfer Text, transfer.encode.holdsUnbounded = false :=
    fun _ => rfl
  have htexts : ∀ items : List Text, (Json.texts items).holdsUnbounded = false :=
    anyHoldsUnbounded_map fun _ => rfl
  have hfiles : workspace.files.encode.holdsUnbounded = false :=
    anyMemberHoldsUnbounded_eq_false (List.forall_mem_map.2 fun _ _ => rfl)
  simp [encodeGenerated, Workspace.members, ProgramFlow.encode, holdsUnbounded,
    anyMemberHoldsUnbounded, hfiles, htexts, anyHoldsUnbounded_map hmodule,
    anyHoldsUnbounded_map htransfer]

/-- Numbers come into an answer only with parts of a faulty body. -/
theorem holdsUnbounded_of_encode? {content : Content Text} {body : Json}
    (h : content.encode? = some body) (hfaults : ∀ found, content ≠ .faults found) :
    body.holdsUnbounded = false := by
  cases content with
  | nothing => cases h
  | faults found => exact absurd rfl (hfaults found)
  | healthy => cases h; rfl
  | detail text => cases h; rfl
  | templates found =>
    cases h
    exact anyHoldsUnbounded_map Template.holdsUnbounded_encode found
  | graph current => cases h; exact Document.holdsUnbounded_encodeGraph current
  | node made => cases h; exact Document.holdsUnbounded_encodeNode made
  | connection made => cases h; rfl
  | rejection reason => cases h; rfl
  | verdict reason => cases h; exact holdsUnbounded_encodeVerdict reason
  | analysis result => cases h; exact result.holdsUnbounded_encode
  | workspace result => cases h; exact holdsUnbounded_encodeGenerated result

/-! ### Sending -/

variable {L : Type} [Label L]

namespace Response

/-- The answer, unless it cannot be sent. -/
def sent (answer : Response L) : Except (ServerError L) (Response L) :=
  match answer.sendError? with
  | some error => .error (.send error)
  | none => .ok answer

/-- Whether an answer holds half of a surrogate pair. -/
def holdsHalf (answer : Response L) : Bool := answer.content.encode?.any Json.hasHalf

theorem sendError?_eq_none_iff {answer : Response Text}
    (hfaults : ∀ found, answer.content ≠ .faults found) :
    answer.sendError? = none ↔ answer.holdsHalf = false := by
  rw [sendError?, holdsHalf]
  cases hbody : answer.content.encode? with
  | none => simp
  | some body =>
    have hnumbers := holdsUnbounded_of_encode? hbody hfaults
    simp only [hnumbers, Option.any_some]
    cases body.hasHalf <;> cases isSuccess answer.status <;> simp

/-- An answer is sent unless it holds half of a surrogate pair. -/
theorem sent_eq_ok_iff {answer : Response Text}
    (hfaults : ∀ found, answer.content ≠ .faults found) :
    answer.sent = .ok answer ↔ answer.holdsHalf = false := by
  rw [← sendError?_eq_none_iff hfaults, sent]
  cases answer.sendError? <;> simp

theorem sent_of_holdsHalf {answer : Response L} (hstatus : isSuccess answer.status = true)
    (hhalf : answer.holdsHalf = true) : answer.sent = .error (.send .halfInResult) := by
  rw [holdsHalf] at hhalf
  obtain ⟨body, hbody, hbodyHalf⟩ := (Option.any_eq_true _ _).1 hhalf
  rw [sent, sendError?, hbody]
  simp only [hstatus, hbodyHalf, Bool.and_self, if_true]

end Response

/-! ### Refusals -/

theorem editRefusal_eq_ok {error : EditError L} (h : ∀ fault, error ≠ .unusable fault)
    (status : Nat) : editRefusal status error = .ok ⟨status, .detail error.message⟩ := by
  cases error with
  | unusable fault => exact absurd rfl (h fault)
  | _ => rfl

/-! ### Requests -/

/-- The request is handled along a route: its path leads there, and the route answers to its
method. -/
structure Request.LeadsTo (request : Request) (route : Route) : Prop where
  path : Destination.ofPath request.path = .found route
  method : request.method.upper ∈ route.methods

section Requests

variable (environment : Environment) (catalog : Catalog L) (editor : Editor L)

/-- The answer that is made for a request, before any of it is sent. -/
def answerTo (request : Request) : Except (ServerError L) (Response L) :=
  (dispatch environment catalog editor request.payload request.method.upper
    (.ofPath request.path)).response

variable {environment catalog editor} {request : Request} {answer : Response L}

/-- Asking for the status only keeps the status. -/
theorem status_handle (h : answerTo environment catalog editor request = .ok answer) :
    (handle environment catalog editor request).response.map (·.status) =
      answer.sent.map (·.status) := by
  have hsent : (dispatch environment catalog editor request.payload request.method.upper
      (.ofPath request.path)).sent.response = answer.sent := by
    rw [Handled.sent, ← answerTo, h]
    rfl
  rw [handle]
  split
  · rw [Handled.withoutContent, hsent]
    cases answer.sent <;> rfl
  · rw [hsent]

theorem dispatch_of_leadsTo {route : Route} (h : request.LeadsTo route) :
    dispatch environment catalog editor request.payload request.method.upper
        (.ofPath request.path) =
      handleRoute environment catalog editor request.payload route := by
  rw [h.path, dispatch, if_pos (List.contains_iff_mem.2 h.method)]

/-- An answer is made for a request, and it is what arrives, unless it holds half of a surrogate
pair and cannot be sent. -/
structure Answered (environment : Environment) (catalog : Catalog L) (editor : Editor L)
    (request : Request) (answer : Response L) : Prop where
  made : answerTo environment catalog editor request = .ok answer
  response : (handle environment catalog editor request).response = answer.sent
  sent : answer.sent = .ok answer ↔ answer.holdsHalf = false

/-- Along a route that does not answer to requests for the status only, an answer is sent whole. -/
theorem response_handle {route : Route} (hroute : request.LeadsTo route)
    (hwhole : Text.ofString "HEAD" ∉ route.methods) :
    (handle environment catalog editor request).response =
      (answerTo environment catalog editor request).bind Response.sent := by
  have hmethod : request.method.upper ≠ Text.ofString "HEAD" := by
    intro hhead
    exact hwhole (hhead ▸ hroute.method)
  rw [handle, if_neg hmethod]
  rfl

/-- Along such a route, an answer that tells of no faults arrives unless it holds half of a
surrogate pair. -/
theorem answered_of_made {environment : Environment} {catalog : Catalog Text}
    {editor : Editor Text} {request : Request} {answer : Response Text} {route : Route}
    (hroute : request.LeadsTo route) (hwhole : Text.ofString "HEAD" ∉ route.methods)
    (hmade : answerTo environment catalog editor request = .ok answer)
    (hfaults : ∀ found, answer.content ≠ .faults found) :
    Answered environment catalog editor request answer where
  made := hmade
  response := by
    rw [response_handle hroute hwhole, hmade]
    rfl
  sent := Response.sent_eq_ok_iff hfaults

end Requests

end Api

end ModuleGraph
