import ModuleGraph.Proofs.Api.DryRun
import ModuleGraph.Proofs.Api.StrictSession
import ModuleGraph.Proofs.Attempts
import ModuleGraph.Proofs.Session.Atomicity

/-!
# Requests without effect

A request is answered in one of four ways: it is refused, it is told something, it moves in the
history, or it commits one snapshot. Only the last two change the session, and the status of the
answer tells the last from the others. The answer to a snapshot that was committed may still fail to
be sent, and then nothing tells that the session has changed.

## Main definitions

- `Settled` — what may come of a request
- `Handled.Settles` — the answer is made, and what comes of the request is settled

## Main statements

- `settles_dispatch` — what may come of a request, by the lemmas about the handlers
- `history_changed_halfNamed` — a change without a status that tells of it
- `request_without_effect` — requests that are refused and requests that only read change nothing
-/

namespace ModuleGraph.Api

/-- What may come of a request: the answer that is made, and the editor after it. -/
inductive Settled (editor : Editor Text) : Response Text → Editor Text → Prop
  | refused {answer : Response Text} (hstatus : 300 ≤ answer.status) : Settled editor answer editor
  | told {content : Content Text} (hcontent : ∀ found, content ≠ .faults found) :
    Settled editor ⟨200, content⟩ editor
  | undone : Settled editor ⟨200, .graph editor.undo.graph⟩ editor.undo
  | redone : Settled editor ⟨200, .graph editor.redo.graph⟩ editor.redo
  | committed {answer : Response Text} {graph : Graph Text} {supply : IdSupply}
    (hedit : editor.graph.Edit graph) (action : Text)
    (hstatus : answer.status = 201 ∨ answer.status = 204)
    (hcontent : ∀ found, answer.content ≠ .faults found) :
    Settled editor answer ⟨editor.history.commit graph action, supply⟩

namespace Settled

variable {editor next : Editor Text} {answer : Response Text}

theorem eq_of_not_success (h : Settled editor answer next)
    (hstatus : ¬ (200 ≤ answer.status ∧ answer.status < 300)) : next = editor := by
  cases h with
  | refused => rfl
  | told => rfl
  | undone => simp at hstatus
  | redone => simp at hstatus
  | committed _ _ hcommitted => omega

theorem commits_of_status (h : Settled editor answer next)
    (hstatus : answer.status = 201 ∨ answer.status = 204) :
    ∃ graph, editor.graph.Edit graph ∧ editor.history.Commits next.history graph := by
  cases h with
  | refused hrefused => omega
  | told => simp at hstatus
  | undone => simp at hstatus
  | redone => simp at hstatus
  | committed hedit action => exact ⟨_, hedit, editor.history.commits_commit _ action⟩

/-- An answer that tells of success holds no faults of a body. -/
theorem ne_faults_of_success (h : Settled editor answer next) (hstatus : answer.status < 300) :
    ∀ found, answer.content ≠ .faults found := by
  cases h with
  | refused hrefused => omega
  | told hcontent => exact hcontent
  | undone => simp
  | redone => simp
  | committed _ _ _ hcontent => exact hcontent

end Settled

/-- The answer is made, and what comes of the request is settled. -/
def Handled.Settles (handled : Handled Text) (editor : Editor Text) : Prop :=
  ∃ answer, handled.response = .ok answer ∧ Settled editor answer handled.editor

/-! ### Handlers -/

section Handlers

variable {environment : Environment} {settings : Settings} {catalog : Catalog Text}
  {editor : Editor Text}

theorem settles_refuse {status : Nat} (h : 300 ≤ status) (detail : Text) :
    (Handled.refuse editor status detail).Settles editor :=
  ⟨_, rfl, .refused h⟩

theorem settles_respond {content : Content Text} (h : ∀ found, content ≠ .faults found) :
    (Handled.respond editor 200 content).Settles editor :=
  ⟨_, rfl, .told h⟩

theorem settles_withBody {α : Type} (payload : Option Payload) (part : List Step → Json → Checked α)
    {proceed : α → Handled Text} (h : ∀ value, (proceed value).Settles editor) :
    (withBody editor payload part proceed).Settles editor := by
  rcases withBody_cases editor payload part proceed with ⟨status, content, hstatus, hrefused⟩ |
    ⟨body, value, -, -, hproceeds⟩
  · rw [hrefused]
    exact ⟨_, rfl, .refused (Nat.le_trans (by omega) hstatus)⟩
  · rw [hproceeds]
    exact h value

theorem settles_withinLimits (hsettings : Settings.read environment = .ok settings)
    (graph : Graph Text) {proceed : Settings → Handled Text}
    (h : ∀ settings, (proceed settings).Settles editor) :
    (withinLimits environment editor graph proceed).Settles editor := by
  rw [withinLimits, hsettings]
  simp only
  split
  · exact settles_refuse (by omega) _
  · exact h _

/-- A node whose identifier is new is added, whatever a failure would be answered with. -/
theorem settles_stamped (hnew : editor.graph.node? (Label.ofText editor.supply.next) = none)
    (kind name : Text) (inputs outputs : List (PortSpec Text))
    (failure : EditError Text → Except (ServerError Text) (Response Text)) :
    (ofOutcome (editor.addMade (stampNode editor.supply kind name inputs outputs))
      (fun node => .ok ⟨201, .node node⟩) failure).Settles editor := by
  generalize hmade : stampNode editor.supply kind name inputs outputs = made
  have hnone : editor.graph.node? made.1.id = none := by rw [← hmade, id_stampNode, hnew]
  rw [Editor.addMade]
  rcases Editor.addNode_cases { editor with supply := made.2 } made.1 with
    ⟨found, hfound, -⟩ | ⟨-, hadded⟩
  · -- the failure never comes up, so that nothing is asked of it
    cases hnone.symm.trans hfound
  · rw [hadded]
    exact ⟨⟨201, .node made.1⟩, rfl,
      .committed (.addNode hnone) ("add node " ++ made.1.name) (.inl rfl) (by simp)⟩

theorem settles_addNode (hnew : editor.graph.node? (Label.ofText editor.supply.next) = none)
    (request : NewNodeRequest) : (addNode catalog editor request).Settles editor := by
  rcases addNode_cases catalog editor request with ⟨status, detail, hstatus, hrefused⟩ |
    ⟨kind, name, inputs, outputs, -, hadded⟩
  · rw [hrefused]
    exact settles_refuse (Nat.le_trans (by omega) hstatus) detail
  · rw [hadded]
    exact settles_stamped hnew _ _ _ _ _

theorem settles_addStart (hnew : editor.graph.node? (Label.ofText editor.supply.next) = none) :
    (addStart editor).Settles editor := by
  rw [addStart]
  rcases editor.addStart_cases with ⟨-, hfailed⟩ | ⟨-, hadded⟩
  · rw [hfailed]
    exact ⟨_, rfl, .refused (by simp)⟩
  · rw [hadded]
    exact settles_stamped hnew _ _ _ _ _

theorem settles_removeNode (id : Text) : (removeNode editor id).Settles editor := by
  rw [removeNode]
  rcases editor.removeNode_cases id with ⟨-, hfailed⟩ | ⟨node, hfound, hremoved⟩
  · rw [hfailed]
    exact ⟨_, rfl, .refused (by simp)⟩
  · rw [hremoved]
    exact ⟨_, rfl, .committed (.removeNode hfound) _ (.inr rfl) (by simp)⟩

theorem settles_removeConnection (id : Text) : (removeConnection editor id).Settles editor := by
  rw [removeConnection]
  rcases editor.disconnect_cases id with ⟨-, hfailed⟩ | ⟨connection, hfound, hremoved⟩
  · rw [hfailed]
    exact ⟨_, rfl, .refused (by simp)⟩
  · rw [hremoved]
    exact ⟨_, rfl, .committed (.removeWire hfound) _ (.inr rfl) (by simp)⟩

theorem settles_addConnection (ends : Endpoints Text) :
    (addConnection editor ends).Settles editor := by
  cases hends : editor.graph.propose ends with
  | error error =>
    rw [addConnection_of_error hends]
    exact settles_refuse (by omega) _
  | ok proposal =>
    cases hverdict : proposal.verdict editor.graph.connections with
    | some reason =>
      rw [addConnection_of_rejected hends hverdict]
      exact ⟨_, rfl, .refused (by simp)⟩
    | none =>
      rw [addConnection_of_accepted hends hverdict]
      exact ⟨_, rfl, .committed (.addWire _ hends hverdict) _ (.inl rfl) (by simp)⟩

theorem settles_onGraph (body : Option (Graph Text)) {proceed : Graph Text → Handled Text}
    (h : ∀ graph, (proceed graph).Settles editor) :
    (onGraph editor body proceed).Settles editor := by
  rw [onGraph_eq]
  exact h _

theorem settles_judge (ends : Endpoints Text) (graph : Graph Text) :
    (judge editor ends graph).Settles editor := by
  rw [judge]
  simp only [Proposal.isJudgeable_text, if_true]
  split
  · split
    · exact settles_respond (by simp)
    · exact settles_refuse (by omega) _
  · exact settles_refuse (by omega) _

theorem settles_analyzeGraph (hsettings : Settings.read environment = .ok settings)
    (graph : Graph Text) : (analyzeGraph environment editor graph).Settles editor := by
  refine settles_withinLimits hsettings graph fun settings => ?_
  rw [Graph.attemptAnalysis_text]
  exact ⟨_, rfl, .told (by simp)⟩

theorem settles_generateGraph (hsettings : Settings.read environment = .ok settings)
    (graph : Graph Text) (programName : Option Text) :
    (generateGraph environment editor graph programName).Settles editor := by
  refine settles_withinLimits hsettings graph fun settings => ?_
  simp only [Graph.attemptCompile_text]
  exact ⟨_, rfl, .told (by simp)⟩

theorem settles_handleRoute (hsettings : Settings.read environment = .ok settings)
    (hnew : editor.graph.node? (Label.ofText editor.supply.next) = none) (payload : Option Payload)
    (route : Route) : (handleRoute environment catalog editor payload route).Settles editor := by
  cases route with
  | health => exact settles_respond (by simp)
  | modules => exact settles_respond (by simp)
  | graph => exact settles_respond (by simp)
  | nodes => exact settles_withBody payload _ (settles_addNode hnew)
  | start => exact settles_addStart hnew
  | node id => exact settles_removeNode _
  | connections => exact settles_withBody payload _ settles_addConnection
  | connection id => exact settles_removeConnection _
  | undo => exact ⟨_, rfl, .undone⟩
  | redo => exact ⟨_, rfl, .redone⟩
  | validate =>
    exact settles_withBody payload _ fun request =>
      settles_onGraph request.graph (settles_judge request.ends)
  | analyze =>
    exact settles_withBody payload _ fun body =>
      settles_onGraph body (settles_analyzeGraph hsettings)
  | generate =>
    exact settles_withBody payload _ fun request =>
      settles_onGraph request.graph fun graph =>
        settles_generateGraph hsettings graph request.programName
  | page => exact settles_respond (by simp)

theorem settles_dispatch (hsettings : Settings.read environment = .ok settings)
    (hnew : editor.graph.node? (Label.ofText editor.supply.next) = none)
    (payload : Option Payload) (method : Text) (destination : Destination) :
    (dispatch environment catalog editor payload method destination).Settles editor := by
  rcases dispatch_cases environment catalog editor payload method destination with
    ⟨status, content, hstatus, hrefused⟩ | ⟨route, -, hhandled⟩
  · rw [hrefused]
    exact ⟨_, rfl, .refused hstatus⟩
  · rw [hhandled]
    exact settles_handleRoute hsettings hnew payload route

end Handlers

/-! ### Requests -/

/-- A node is added whose answer cannot be sent. No status of success arrives, and yet the history
has changed. -/
theorem history_changed_halfNamed :
    let handled := handle [] .builtIn (.start .empty 100) halfNamed
    ¬ (handled.status?.any isSuccess = false →
        handled.editor.history = (Editor.start (.empty : Graph Text) 100).history) := by
  decide +kernel

variable (environment : Environment) (catalog : Catalog Text) (editor : Editor Text)

/-- **Requests that fail have no effect.** Let the settings be valid, and let the identifier that is
handed out next be new. Then an answer is made for every request, and it arrives with its status
unless it cannot be sent, as is the case for one of success exactly if it holds half of a surrogate
pair. If the answer is not one of success, or the route only reads, the session is what it was. If
it tells that something was made or removed, one snapshot was committed after the current one, with
the graph that one edit makes of the current graph. -/
theorem request_without_effect {settings : Settings}
    (hsettings : Settings.read environment = .ok settings)
    (hnew : editor.graph.node? (Label.ofText editor.supply.next) = none) (request : Request) :
    let handled := handle environment catalog editor request
    ∃ answer : Response Text,
      answerTo environment catalog editor request = .ok answer ∧
      handled.response.map (·.status) = answer.sent.map (·.status) ∧
      (answer.status < 300 → (answer.sent = .ok answer ↔ answer.holdsHalf = false)) ∧
      (¬ (200 ≤ answer.status ∧ answer.status < 300) → handled.editor = editor) ∧
      (∀ route, request.LeadsTo route →
        Text.ofString "GET" ∈ route.methods ∨ route ∈ [Route.validate, .analyze, .generate] →
        handled.editor = editor) ∧
      (answer.status = 201 ∨ answer.status = 204 → ∃ graph,
        editor.graph.Edit graph ∧ editor.history.Commits handled.editor.history graph) := by
  intro handled
  obtain ⟨answer, hanswer, hsettled⟩ :
      (dispatch environment catalog editor request.payload request.method.upper
        (.ofPath request.path)).Settles editor :=
    settles_dispatch hsettings hnew _ _ _
  rw [← editor_handle] at hsettled
  refine ⟨answer, hanswer, status_handle hanswer, ?_, hsettled.eq_of_not_success, ?_,
    hsettled.commits_of_status⟩
  · intro hstatus
    exact Response.sent_eq_ok_iff (hsettled.ne_faults_of_success hstatus)
  · intro route hroute hreads
    show (handle environment catalog editor request).editor = editor
    rw [editor_handle, dispatch_of_leadsTo hroute]
    exact editor_handleRoute environment catalog editor request.payload hreads

/-- A request to remove the mint, with the wire at it. -/
def removeMint : Request := ⟨"DELETE", "/api/graph/nodes/mint", none⟩

/-- What is left of the graph without the mint. -/
def vaultAlone : Graph Text where
  name := "mint"
  nodes := [⟨"vault", "token", "Vault", [⟨"in", "In", "string"⟩], []⟩]
  connections := []

/-- The mint is removed by one edit: the vault stands alone in the one snapshot after the first. -/
theorem request_without_effect_removeMint :
    let next := (handle [] .builtIn (.start mintToVault 100) removeMint).editor
    Settings.read [] = .ok Settings.default ∧
    (Editor.start mintToVault 100).graph.node?
      (Label.ofText (Editor.start mintToVault 100).supply.next) = none ∧
    mintToVault.Edit vaultAlone ∧
    next.history.zipper.past = [⟨mintToVault, "reset"⟩] ∧
    next.history.zipper.present.graph = vaultAlone ∧
    next.history.zipper.future = [] := by
  intro next
  have hsettings : Settings.read [] = .ok Settings.default := by decide
  have hnew : (Editor.start mintToVault 100).graph.node?
      (Label.ofText (Editor.start mintToVault 100).supply.next) = none := by decide
  obtain ⟨answer, hanswer, -, -, -, -, hcommits⟩ :=
    request_without_effect [] .builtIn (.start mintToVault 100) hsettings hnew removeMint
  have hstatus : (answerTo [] .builtIn (.start mintToVault 100) removeMint).toOption.map
      (·.status) = some 204 := by decide
  rw [hanswer] at hstatus
  obtain ⟨graph, hedit, -, action, hzipper⟩ := hcommits (.inr (Option.some.inj hstatus))
  have hpresent : next.history.zipper.present.graph = vaultAlone := by decide
  obtain rfl : graph = vaultAlone := by
    rw [← hpresent, hzipper]
    rfl
  refine ⟨hsettings, hnew, hedit, ?_, hpresent, ?_⟩
  · rw [hzipper]
    rfl
  · rw [hzipper]
    rfl

end ModuleGraph.Api
