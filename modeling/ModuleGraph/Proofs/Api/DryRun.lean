import ModuleGraph.Proofs.Api.Bodies
import ModuleGraph.Proofs.Api.Requests
import ModuleGraph.Proofs.Api.Sending
import ModuleGraph.Proofs.Graph.Verdict

/-!
# Judging a wire and adding it

A wire may be judged without being added. The two requests look its ends up each in its own way and
word what is missing differently, but what the judgement says is what becomes of the wire, whatever
graph the session holds. They part where an answer cannot be sent: only the one that adds the wire
repeats identifiers in its refusal.

## Main definitions

- `Foretells` — how the judgement of a wire agrees with the answer to the wire itself
- `Handled.status?` — the status that arrives

## Main statements

- `judge_foretells` — the handlers agree
- `status_connect_halfNamed` — a refusal that cannot be sent, of a wire whose judgement is sent
- `judgement_agrees_with_connection` — the requests agree, up to what cannot be sent
-/

namespace ModuleGraph.Api

/-- How the judgement of a wire agrees with the answer to the wire itself. -/
inductive Foretells : Response Text → Response Text → Prop
  | missing (told reason : Text) : Foretells ⟨404, .detail told⟩ ⟨404, .detail reason⟩
  | accepted (connection : Connection Text) :
    Foretells ⟨200, .verdict none⟩ ⟨201, .connection connection⟩
  | rejected (reason : Rejection Text) :
    Foretells ⟨200, .verdict (some reason)⟩ ⟨400, .rejection reason⟩

namespace Foretells

variable {judged made : Response Text}

theorem missing_iff (h : Foretells judged made) : judged.status = 404 ↔ made.status = 404 := by
  cases h <;> simp

theorem encode_rejection_ne (reason : Rejection Text) :
    reason.encode ≠ .object [("isValid", .bool true)] := by
  intro h
  simp [Rejection.encode] at h

theorem accepted_iff (h : Foretells judged made) :
    judged.status = 200 ∧ judged.content.encode? = some (.object [("isValid", .bool true)]) ↔
      made.status = 201 := by
  cases h with
  | missing told reason => simp
  | accepted connection => exact iff_of_true ⟨rfl, rfl⟩ rfl
  | rejected reason =>
    refine iff_of_false (fun hvalid => ?_) (by simp)
    exact encode_rejection_ne reason (Option.some.inj hvalid.2)

/-- A wire that is neither accepted nor missed is rejected for the reason that was foretold. -/
theorem rejected_of (h : Foretells judged made) (hmissing : made.status ≠ 404)
    (haccepted : made.status ≠ 201) :
    judged.status = 200 ∧ made.status = 400 ∧ ∃ reason : Rejection Text,
      judged.content.encode? = some reason.encode ∧
        made.content.encode? = some (encodeDetail reason.encode) := by
  cases h with
  | missing told reason => exact absurd rfl hmissing
  | accepted connection => exact absurd rfl haccepted
  | rejected reason => exact ⟨rfl, rfl, reason, rfl, rfl⟩

/-- Neither answer tells of a faulty body. -/
theorem ne_faults (h : Foretells judged made) :
    (∀ found, judged.content ≠ .faults found) ∧ ∀ found, made.content ≠ .faults found := by
  cases h <;> simp

end Foretells

/-! ### Handlers -/

section Handlers

variable {editor : Editor Text} {ends : Endpoints Text}

/-- An end that keeps a wire from being proposed is missed when the wire is judged, too. -/
theorem judge_of_error {error : EditError Text} (h : editor.graph.propose ends = .error error) :
    ∃ told, judge editor ends editor.graph = .refuse editor 404 told := by
  rw [judge]
  split
  · rename_i source target hsource htarget
    split
    · -- all four are found, and the wire is proposed after all
      rename_i sourcePort targetPort hsourcePort htargetPort
      have hfound : editor.graph.propose ends = .ok ⟨source, sourcePort, target, targetPort⟩ :=
        Graph.propose_eq_ok_iff.2 ⟨hsource, htarget, hsourcePort, htargetPort⟩
      rw [h] at hfound
      cases hfound
    · exact ⟨_, rfl⟩
  · exact ⟨_, rfl⟩

theorem judge_of_ok {proposal : Proposal Text} (h : editor.graph.propose ends = .ok proposal) :
    judge editor ends editor.graph =
      .respond editor 200 (.verdict (proposal.verdict editor.graph.connections)) := by
  obtain ⟨hsource, htarget, hsourcePort, htargetPort⟩ := Graph.propose_eq_ok_iff.1 h
  rw [judge]
  simp only [hsource, htarget, hsourcePort, htargetPort]
  exact if_pos (Proposal.isJudgeable_text _)

theorem addConnection_of_error {error : EditError Text}
    (h : editor.graph.propose ends = .error error) :
    addConnection editor ends = .refuse editor 404 error.message := by
  have husable : ∀ fault, error ≠ .unusable fault := by
    rintro fault rfl
    exact Graph.propose_ne_unusable ends fault h
  rw [addConnection, Editor.connect, h]
  simp only [ofOutcome, Outcome.failed, editRefusal_eq_ok husable]
  rfl

theorem addConnection_of_rejected {proposal : Proposal Text} {reason : Rejection Text}
    (h : editor.graph.propose ends = .ok proposal)
    (hverdict : proposal.verdict editor.graph.connections = some reason) :
    addConnection editor ends =
      ⟨.ok ⟨400, .rejection reason⟩, editor, Editor.rejectionLog proposal reason⟩ := by
  rw [addConnection, Editor.connect, h]
  simp only [Proposal.isJudgeable_text, if_true, hverdict]
  rfl

theorem addConnection_of_accepted {proposal : Proposal Text}
    (h : editor.graph.propose ends = .ok proposal)
    (hverdict : proposal.verdict editor.graph.connections = none) :
    let (id, supply) : Text × IdSupply := editor.supply.takeLabel
    let history := editor.history.addWire proposal id
    addConnection editor ends =
      ⟨.ok ⟨201, .connection (History.wireOf proposal id)⟩, ⟨history, supply⟩,
        Editor.commitLog history⟩ := by
  rw [addConnection, Editor.connect, h]
  simp only [Proposal.isJudgeable_text, if_true, hverdict]
  rfl

theorem judge_foretells (editor : Editor Text) (ends : Endpoints Text) :
    ∃ judged made, (judge editor ends editor.graph).response = .ok judged ∧
      (addConnection editor ends).response = .ok made ∧ Foretells judged made := by
  cases hends : editor.graph.propose ends with
  | error error =>
    obtain ⟨told, htold⟩ := judge_of_error hends
    rw [htold, addConnection_of_error hends]
    exact ⟨_, _, rfl, rfl, .missing _ _⟩
  | ok proposal =>
    rw [judge_of_ok hends]
    cases hverdict : proposal.verdict editor.graph.connections with
    | some reason =>
      rw [addConnection_of_rejected hends hverdict]
      exact ⟨_, _, rfl, rfl, .rejected reason⟩
    | none =>
      rw [addConnection_of_accepted hends hverdict]
      exact ⟨_, _, rfl, rfl, .accepted _⟩

end Handlers

/-! ### Requests -/

/-- The status that arrives, if a response does. -/
def Handled.status? (handled : Handled Text) : Option Nat :=
  handled.response.toOption.map (·.status)

/-- A body that names the ends of a wire, the first by half of a surrogate pair. -/
def halfNamedEnds : Payload :=
  .text "\x7b\"sourceNodeId\":\"\\ud800\",\"sourcePortId\":\"a\",\"targetNodeId\":\"b\",\"targetPortId\":\"c\"\x7d"

/-- In a session without nodes, the judgement that there is no such node arrives. The refusal to add
the wire repeats its identifier, and does not. -/
theorem status_connect_halfNamed :
    ¬ ((handle [] .builtIn (.start .empty 100)
          ⟨"POST", "/api/validate", some halfNamedEnds⟩).status? = some 404 ↔
        (handle [] .builtIn (.start .empty 100)
          ⟨"POST", "/api/graph/connections", some halfNamedEnds⟩).status? = some 404) := by
  decide +kernel

variable (environment : Environment) (catalog : Catalog Text) (editor : Editor Text)

/-- **The judgement of a wire is what becomes of it.** In any session, the answers made for two
requests that name the same ends agree: both miss an end; or the wire is called valid and added; or
it is rejected, by the very object that the judgement consists of. An answer is sent unless it holds
half of a surrogate pair. No request for a judgement changes the session. -/
theorem judgement_agrees_with_connection {judging adding : Request} {judgeBody addBody : Json}
    {ends : Endpoints Text} (hjudging : judging.LeadsTo .validate)
    (hadding : adding.LeadsTo .connections)
    (hjudgeBody : payloadJson judging.payload = .ok judgeBody)
    (haddBody : payloadJson adding.payload = .ok addBody) (hjudgeEnds : DenotesEnds judgeBody ends)
    (haddEnds : DenotesEnds addBody ends)
    (hgraph : judgeBody.field? "graph" = none ∨ judgeBody.field? "graph" = some .null) :
    (∃ judged made : Response Text,
      Answered environment catalog editor judging judged ∧
      Answered environment catalog editor adding made ∧
      (judged.status = 404 ↔ made.status = 404) ∧
      (judged.status = 200 ∧ judged.content.encode? = some (.object [("isValid", .bool true)]) ↔
        made.status = 201) ∧
      (made.status ≠ 404 → made.status ≠ 201 →
        judged.status = 200 ∧ made.status = 400 ∧ ∃ reason : Rejection Text,
          judged.content.encode? = some reason.encode ∧
            made.content.encode? = some (encodeDetail reason.encode))) ∧
    ∀ request : Request, request.LeadsTo .validate →
      (handle environment catalog editor request).editor = editor := by
  refine ⟨?_, ?_⟩
  · obtain ⟨judged, made, hjudged, hmade, hforetells⟩ := judge_foretells editor ends
    have hanswerJudging : answerTo environment catalog editor judging = .ok judged := by
      rw [answerTo, dispatch_of_leadsTo hjudging, handleRoute,
        withBody_eq_proceed hjudgeBody (validateBody_eq_value hjudgeEnds hgraph), onGraph_eq]
      exact hjudged
    have hanswerAdding : answerTo environment catalog editor adding = .ok made := by
      rw [answerTo, dispatch_of_leadsTo hadding, handleRoute,
        withBody_eq_proceed haddBody (edgeBody_eq_value haddEnds), hmade]
    obtain ⟨hjudgedFaults, hmadeFaults⟩ := hforetells.ne_faults
    exact ⟨judged, made, answered_of_made hjudging (by decide) hanswerJudging hjudgedFaults,
      answered_of_made hadding (by decide) hanswerAdding hmadeFaults, hforetells.missing_iff,
      hforetells.accepted_iff, hforetells.rejected_of⟩
  · intro request hrequest
    rw [editor_handle, dispatch_of_leadsTo hrequest]
    exact editor_handleRoute environment catalog editor request.payload (.inr (by simp))

/-- A mint feeds a vault. -/
def mintToVault : Graph Text where
  name := "mint"
  nodes :=
    [⟨"mint", "token", "Mint", [], [⟨"out", "Out", "number"⟩]⟩,
      ⟨"vault", "token", "Vault", [⟨"in", "In", "string"⟩], []⟩]
  connections := [⟨⟨"mint", "out", "vault", "in"⟩, "wire"⟩]

/-- A request about the wire that is there already. -/
def askAgain (path : String) : Request :=
  ⟨"POST", path, some (.json (.object
    [("sourceNodeId", .string "mint"), ("sourcePortId", .string "out"),
      ("targetNodeId", .string "vault"), ("targetPortId", .string "in")]))⟩

/-- The wire is rejected as a duplicate. -/
theorem judgement_agrees_with_connection_duplicate :
    (askAgain "/api/validate").LeadsTo .validate ∧
    (askAgain "/api/graph/connections").LeadsTo .connections ∧
    (handle [] .builtIn (.start mintToVault 100) (askAgain "/api/validate")).status? = some 200 ∧
    (handle [] .builtIn (.start mintToVault 100) (askAgain "/api/graph/connections")).status? =
      some 400 ∧
    ∃ judged made : Response Text,
      Answered [] .builtIn (.start mintToVault 100) (askAgain "/api/validate") judged ∧
      Answered [] .builtIn (.start mintToVault 100) (askAgain "/api/graph/connections") made ∧
      ∃ reason : Rejection Text, judged.content.encode? = some reason.encode ∧
        made.content.encode? = some (encodeDetail reason.encode) := by
  have hjudging : (askAgain "/api/validate").LeadsTo .validate := ⟨by decide, by decide⟩
  have hadding : (askAgain "/api/graph/connections").LeadsTo .connections :=
    ⟨by decide, by decide⟩
  have hends : DenotesEnds (.object
      [("sourceNodeId", .string "mint"), ("sourcePortId", .string "out"),
        ("targetNodeId", .string "vault"), ("targetPortId", .string "in")])
      ⟨"mint", "out", "vault", "in"⟩ := ⟨rfl, rfl, rfl, rfl⟩
  obtain ⟨⟨judged, made, hjudged, hmade, -, -, hrejected⟩, -⟩ :=
    judgement_agrees_with_connection [] .builtIn (.start mintToVault 100) hjudging hadding rfl rfl
      hends hends (.inl rfl)
  have hstatus : made.status = 400 := by
    have hanswer : (answerTo [] .builtIn (.start mintToVault 100)
        (askAgain "/api/graph/connections")).toOption.map (·.status) = some 400 := by
      decide
    rw [hmade.made] at hanswer
    exact Option.some.inj hanswer
  obtain ⟨-, -, hreason⟩ := hrejected (by omega) (by omega)
  exact ⟨hjudging, hadding, by decide, by decide, judged, made, hjudged, hmade,
    hreason⟩

end ModuleGraph.Api
