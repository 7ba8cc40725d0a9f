import ModuleGraph.Proofs.Graph.Lookup
import ModuleGraph.Proofs.Graph.Verdict
import ModuleGraph.Proofs.Session.Commands
import ModuleGraph.Proofs.Session.Zipper

/-!
# Wires proposed in turn

A wire that is proposed is answered by an error, by a rejection, or by adding it. The answer depends
on the nodes and on what feeds the same input, and a wire that is added changes nothing else. So
wires for different inputs do not get in each other's way: in any order each is answered as it would
be alone. Of different wires for one input only the first is added.

## Main definitions

- `Graph.judge` — the answer to a wire that is proposed for a graph
- `Endpoints.target` — the input that a wire feeds
- `Graph.Legal`, `Graph.IsFree` — a wire breaks no rule but, perhaps, one about the wires that are
  there; and an input that none of these feeds
- `Editor.answers`, `Editor.connectAll` — the answers to wires proposed in turn, and the editor
  after them

## Main statements

- `Editor.connect_cases` — everything that a proposed wire can do
- `judge_addConnection` — a wire does not change the answer to one for another input
- `Editor.answers_of_independent`, `Editor.graph_connectAll_of_independent` — wires for different
  inputs
- `Editor.answers_of_contending` — wires for one input
- `proposals_commute` — both together, for every order
-/

namespace ModuleGraph

/-! ### The answer to a wire -/

/-- The input that a wire feeds: the node and the port. -/
def Endpoints.target {L : Type} (ends : Endpoints L) : L × L := (ends.targetNode, ends.targetPort)

namespace Graph

variable {graph : Graph Text} {ends : Endpoints Text} {proposal : Proposal Text}

/-- The answer to a wire that is proposed: an error, or the reason to reject it, if there is one. -/
def judge (graph : Graph Text) (ends : Endpoints Text) :
    Except (EditError Text) (Option (Rejection Text)) := do
  let proposal ← graph.propose ends
  return proposal.verdict graph.connections

theorem judge_of_error {error : EditError Text} (h : graph.propose ends = .error error) :
    graph.judge ends = .error error := by
  rw [judge, h]
  rfl

theorem judge_of_ok (h : graph.propose ends = .ok proposal) :
    graph.judge ends = .ok (proposal.verdict graph.connections) := by
  rw [judge, h]
  rfl

theorem judge_eq_ok_iff {reason? : Option (Rejection Text)} :
    graph.judge ends = .ok reason? ↔
      ∃ proposal, graph.propose ends = .ok proposal ∧
        proposal.verdict graph.connections = reason? := by
  cases hends : graph.propose ends with
  | error error => simp [judge_of_error hends]
  | ok proposal => simp [judge_of_ok hends]

/-- What is proposed has the ends that were asked for. -/
theorem endpoints_of_propose (h : graph.propose ends = .ok proposal) :
    proposal.endpoints = ends := by
  obtain ⟨hsource, htarget, hsourcePort, htargetPort⟩ := propose_eq_ok_iff.1 h
  have hsourceId := eq_of_beq (beq_of_findNode? hsource)
  have htargetId := eq_of_beq (beq_of_findNode? htarget)
  have hsourcePortId := eq_of_beq (Node.beq_of_output? hsourcePort)
  have htargetPortId := eq_of_beq (Node.beq_of_input? htargetPort)
  rw [Proposal.endpoints, hsourceId, htargetId, hsourcePortId, htargetPortId]

/-- What shares the input of a proposal feeds the input that was asked for. -/
theorem isRival_iff_of_propose (h : graph.propose ends = .ok proposal)
    (connection : Connection Text) :
    proposal.IsRival connection ↔ connection.target = ends.target := by
  rw [← endpoints_of_propose h]
  exact Prod.mk.injEq .. ▸ Iff.rfl

/-- A wire does not change the answer to one for another input. -/
theorem judge_addConnection {connection : Connection Text} (h : connection.target ≠ ends.target) :
    (graph.addConnection connection).judge ends = graph.judge ends := by
  -- the ends are looked up among the nodes, which are the same
  have hsame : (graph.addConnection connection).propose ends = graph.propose ends := rfl
  cases hends : graph.propose ends with
  | error error => rw [judge_of_error hends, judge_of_error (hsame.trans hends)]
  | ok proposal =>
    rw [judge_of_ok hends, judge_of_ok (hsame.trans hends)]
    refine congrArg _ (Proposal.verdict_congr fun other htarget => ?_)
    have hrival := (isRival_iff_of_propose hends other).1 (Proposal.sharesTarget_iff.1 htarget)
    have hother : other ≠ connection := by
      rintro rfl
      exact h hrival
    simp [addConnection, hother]

/-! ### Legal wires -/

/-- The ends of the wire exist and are at different nodes, and their types fit. -/
def Legal (graph : Graph Text) (ends : Endpoints Text) : Prop :=
  ∃ proposal, graph.propose ends = .ok proposal ∧
    proposal.sourceNode.id ≠ proposal.targetNode.id ∧
    PortType.Fits proposal.sourcePort.type proposal.targetPort.type

/-- No wire feeds the input. -/
def IsFree (graph : Graph Text) (input : Text × Text) : Prop :=
  ∀ connection ∈ graph.connections, connection.target ≠ input

/-- A legal wire can break nothing but the rules about other wires. -/
theorem judge_of_legal (h : graph.Legal ends) :
    graph.judge ends = .ok (
      if ∃ connection ∈ graph.connections, connection.toEndpoints = ends then
        some .duplicateConnection
      else if ∃ connection ∈ graph.connections, connection.target = ends.target then
        some .inputAlreadyBound
      else none) := by
  obtain ⟨proposal, hends, hnodes, hfits⟩ := h
  have hnone : firstBroken? [] = none := rfl
  rw [judge_of_ok hends, Proposal.verdict_eq_firstBroken?]
  simp only [Proposal.rules, firstBroken?_cons, hnone, decide_eq_true_iff, hnodes, hfits,
    not_true_eq_false, if_false, endpoints_of_propose hends, isRival_iff_of_propose hends]

theorem judge_of_free (h : graph.Legal ends) (hfree : graph.IsFree ends.target) :
    graph.judge ends = .ok none := by
  have hnew : ¬∃ connection ∈ graph.connections, connection.toEndpoints = ends := by
    rintro ⟨connection, hconnection, rfl⟩
    exact hfree connection hconnection rfl
  have hunfed : ¬∃ connection ∈ graph.connections, connection.target = ends.target := by
    rintro ⟨connection, hconnection, htarget⟩
    exact hfree connection hconnection htarget
  rw [judge_of_legal h, if_neg hnew, if_neg hunfed]

/-- A wire into an input that was free keeps out all others. -/
theorem judge_addConnection_of_free {connection : Connection Text} (h : graph.Legal ends)
    (hfree : graph.IsFree ends.target) (htarget : connection.target = ends.target)
    (hother : connection.toEndpoints ≠ ends) :
    (graph.addConnection connection).judge ends = .ok (some .inputAlreadyBound) := by
  have hnew : ¬∃ other ∈ (graph.addConnection connection).connections,
      other.toEndpoints = ends := by
    rintro ⟨other, hmem, rfl⟩
    rcases List.mem_append.1 hmem with hearlier | hadded
    · exact hfree other hearlier rfl
    · cases List.mem_singleton.1 hadded
      exact hother rfl
  have hfed : ∃ other ∈ (graph.addConnection connection).connections,
      other.target = ends.target :=
    ⟨connection, List.mem_append_right _ List.mem_cons_self, htarget⟩
  have hlegal : (graph.addConnection connection).Legal ends := h
  rw [judge_of_legal hlegal, if_neg hnew, if_pos hfed]

end Graph

/-! ### One wire -/

/-- The reason to reject a wire, if there is one. -/
def ConnectReply.rejection? {L : Type} : ConnectReply L → Option (Rejection L)
  | .added _ => none
  | .rejected reason => some reason

namespace Editor

variable {editor : Editor Text} {ends : Endpoints Text}

/-- Everything that a proposed wire can do: it is answered as it is judged, and only a wire that is
accepted is added; nothing else changes in the graph. -/
theorem connect_cases (editor : Editor Text) (ends : Endpoints Text) :
    (∃ error, editor.graph.judge ends = .error error ∧
      editor.connect ends = .failed editor error) ∨
    (∃ reason log, editor.graph.judge ends = .ok (some reason) ∧
      editor.connect ends = ⟨.ok (.rejected reason), editor, log⟩) ∨
    (∃ connection, editor.graph.judge ends = .ok none ∧ connection.toEndpoints = ends ∧
      (editor.connect ends).result = .ok (.added connection) ∧
      (editor.connect ends).editor.graph = editor.graph.addConnection connection) := by
  rw [connect]
  cases hends : editor.graph.propose ends with
  | error error => exact .inl ⟨error, Graph.judge_of_error hends, rfl⟩
  | ok proposal =>
    have hjudged := Graph.judge_of_ok hends
    simp only [Proposal.isJudgeable_text, if_true]
    cases hverdict : proposal.verdict editor.graph.connections with
    | some reason => exact .inr (.inl ⟨reason, _, hverdict ▸ hjudged, rfl⟩)
    | none =>
      refine .inr (.inr ⟨_, hverdict ▸ hjudged, ?_, rfl, History.graph_commit _ _ _⟩)
      exact Graph.endpoints_of_propose hends

/-- The answer to a proposed wire: an error, or the reason to reject it, if there is one. -/
def answer (editor : Editor Text) (ends : Endpoints Text) :
    Except (EditError Text) (Option (Rejection Text)) :=
  (editor.connect ends).result.map ConnectReply.rejection?

theorem answer_eq (editor : Editor Text) (ends : Endpoints Text) :
    editor.answer ends = editor.graph.judge ends := by
  rw [answer]
  rcases editor.connect_cases ends with ⟨error, hjudged, hconnect⟩ |
    ⟨reason, log, hjudged, hconnect⟩ | ⟨connection, hjudged, -, hresult, -⟩
  · rw [hjudged, hconnect]
    rfl
  · rw [hjudged, hconnect]
    rfl
  · rw [hjudged, hresult]
    rfl

/-- A wire that is not accepted leaves the editor alone. -/
theorem editor_connect_of_ne (h : editor.graph.judge ends ≠ .ok none) :
    (editor.connect ends).editor = editor := by
  rcases editor.connect_cases ends with ⟨error, -, hconnect⟩ | ⟨reason, log, -, hconnect⟩ |
    ⟨connection, hjudged, -⟩
  · rw [hconnect]
    rfl
  · rw [hconnect]
  · exact absurd hjudged h

theorem exists_added_of_accepted (h : editor.graph.judge ends = .ok none) :
    ∃ connection : Connection Text, connection.toEndpoints = ends ∧
      (editor.connect ends).editor.graph = editor.graph.addConnection connection := by
  rcases editor.connect_cases ends with ⟨error, hjudged, -⟩ | ⟨reason, log, hjudged, -⟩ |
    ⟨connection, -, hends, -, hgraph⟩
  · rw [h] at hjudged
    cases hjudged
  · rw [h] at hjudged
    cases hjudged
  · exact ⟨connection, hends, hgraph⟩

/-- A proposed wire does not change the answer to one for another input. -/
theorem judge_graph_connect {other : Endpoints Text} (h : ends.target ≠ other.target) :
    (editor.connect ends).editor.graph.judge other = editor.graph.judge other := by
  by_cases haccepted : editor.graph.judge ends = .ok none
  · obtain ⟨connection, rfl, hgraph⟩ := exists_added_of_accepted haccepted
    rw [hgraph, Graph.judge_addConnection h]
  · rw [editor_connect_of_ne haccepted]

/-! ### Wires in turn -/

/-- Wires proposed in turn, each with the answer to it. -/
def answers (editor : Editor Text) : List (Endpoints Text) →
    List (Endpoints Text × Except (EditError Text) (Option (Rejection Text)))
  | [] => []
  | ends :: proposals =>
    (ends, editor.answer ends) :: (editor.connect ends).editor.answers proposals

/-- The editor after wires were proposed in turn. -/
def connectAll (editor : Editor Text) (proposals : List (Endpoints Text)) : Editor Text :=
  proposals.foldl (fun editor ends => (editor.connect ends).editor) editor

/-- Later wires, for other inputs, are answered as before. -/
theorem judge_graph_connect_of_nodup {proposals : List (Endpoints Text)}
    (h : ((ends :: proposals).map Endpoints.target).Nodup) :
    ∀ other ∈ proposals,
      (editor.connect ends).editor.graph.judge other = editor.graph.judge other := by
  intro other hother
  refine judge_graph_connect fun htarget => (List.nodup_cons.1 h).1 ?_
  rw [htarget]
  exact List.mem_map_of_mem hother

/-- Wires for different inputs are answered as each would be alone. -/
theorem answers_of_independent (editor : Editor Text) {proposals : List (Endpoints Text)}
    (h : (proposals.map Endpoints.target).Nodup) :
    editor.answers proposals = proposals.map fun ends => (ends, editor.graph.judge ends) := by
  induction proposals generalizing editor with
  | nil => rfl
  | cons ends proposals ih =>
    rw [answers, answer_eq, ih _ (List.nodup_cons.1 h).2, List.map_cons]
    refine congrArg _ (List.map_congr_left fun other hother => ?_)
    rw [judge_graph_connect_of_nodup h other hother]

/-- What wires for different inputs leave: the name and the nodes as they were, and behind the
wires that were there those that would be accepted alone. -/
theorem graph_connectAll_of_independent (editor : Editor Text) {proposals : List (Endpoints Text)}
    (h : (proposals.map Endpoints.target).Nodup) :
    (editor.connectAll proposals).graph.name = editor.graph.name ∧
    (editor.connectAll proposals).graph.nodes = editor.graph.nodes ∧
    (editor.connectAll proposals).graph.connections.map (·.toEndpoints) =
      editor.graph.connections.map (·.toEndpoints) ++
        proposals.filter fun ends => editor.graph.judge ends = .ok none := by
  induction proposals generalizing editor with
  | nil => simp [connectAll]
  | cons ends proposals ih =>
    have hlater : (proposals.filter fun other =>
        (editor.connect ends).editor.graph.judge other = .ok none) =
          proposals.filter fun other => editor.graph.judge other = .ok none := by
      refine List.filter_congr fun other hother => ?_
      rw [judge_graph_connect_of_nodup h other hother]
    obtain ⟨hname, hnodes, hwires⟩ := ih (editor.connect ends).editor (List.nodup_cons.1 h).2
    rw [hlater] at hwires
    rw [connectAll, List.foldl_cons, ← connectAll, hname, hnodes, hwires]
    by_cases haccepted : editor.graph.judge ends = .ok none
    · obtain ⟨connection, hends, hgraph⟩ := exists_added_of_accepted haccepted
      rw [hgraph]
      simp [Graph.addConnection, haccepted, hends]
    · rw [editor_connect_of_ne haccepted]
      simp [haccepted]

/-- Wires that are all rejected for one reason. -/
theorem answers_of_rejected {reason : Rejection Text} {proposals : List (Endpoints Text)}
    (h : ∀ ends ∈ proposals, editor.graph.judge ends = .ok (some reason)) :
    editor.answers proposals = proposals.map fun ends => (ends, .ok (some reason)) := by
  induction proposals with
  | nil => rfl
  | cons ends proposals ih =>
    obtain ⟨hfirst, hrest⟩ := List.forall_mem_cons.1 h
    have hsame : (editor.connect ends).editor = editor := by
      apply editor_connect_of_ne
      rw [hfirst]
      nofun
    rw [answers, answer_eq, hfirst, hsame, ih hrest, List.map_cons]

/-- Of different legal wires for one free input the first is added, and keeps out all others. -/
theorem answers_of_contending (editor : Editor Text) {input : Text × Text} {first : Endpoints Text}
    {others : List (Endpoints Text)} (hdifferent : (first :: others).Nodup)
    (hlegal : ∀ ends ∈ first :: others, editor.graph.Legal ends ∧ ends.target = input)
    (hfree : editor.graph.IsFree input) :
    editor.answers (first :: others) =
      (first, .ok none) :: others.map fun ends => (ends, .ok (some .inputAlreadyBound)) := by
  obtain ⟨⟨hfirst, rfl⟩, hothers⟩ := List.forall_mem_cons.1 hlegal
  have haccepted : editor.graph.judge first = .ok none := Graph.judge_of_free hfirst hfree
  obtain ⟨connection, rfl, hgraph⟩ := exists_added_of_accepted haccepted
  have hrejected : ∀ ends ∈ others,
      (editor.connect connection.toEndpoints).editor.graph.judge ends =
        .ok (some .inputAlreadyBound) := by
    intro ends hmem
    obtain ⟨hends, htarget⟩ := hothers ends hmem
    have hnew : connection.toEndpoints ≠ ends := by
      rintro rfl
      exact (List.nodup_cons.1 hdifferent).1 hmem
    rw [hgraph]
    exact Graph.judge_addConnection_of_free hends (htarget ▸ hfree) htarget.symm hnew
  rw [answers, answer_eq, haccepted, answers_of_rejected hrejected]

end Editor

/-- **Proposed wires commute** if they are for different inputs: in any order each gets the same
answer, be it an error, a rejection, or that it is added; and the graphs that are left have the same
name, the same nodes, and wires between the same ends. Of different legal wires for one free input,
in any order the first is added, and all others are rejected. -/
theorem proposals_commute (editor : Editor Text) :
    (∀ proposals permuted : List (Endpoints Text), (proposals.map Endpoints.target).Nodup →
      permuted.Perm proposals →
        (editor.answers permuted).Perm (editor.answers proposals) ∧
        (editor.connectAll permuted).graph.name = (editor.connectAll proposals).graph.name ∧
        (editor.connectAll permuted).graph.nodes = (editor.connectAll proposals).graph.nodes ∧
        ((editor.connectAll permuted).graph.connections.map (·.toEndpoints)).Perm
          ((editor.connectAll proposals).graph.connections.map (·.toEndpoints))) ∧
    (∀ (input : Text × Text) (first : Endpoints Text) (others : List (Endpoints Text)),
      (first :: others).Nodup →
      (∀ ends ∈ first :: others, editor.graph.Legal ends ∧ ends.target = input) →
      editor.graph.IsFree input →
        editor.answers (first :: others) =
          (first, .ok none) :: others.map fun ends => (ends, .ok (some .inputAlreadyBound))) := by
  constructor
  · intro proposals permuted hindependent hperm
    have hindependent' : (permuted.map Endpoints.target).Nodup :=
      ((hperm.map _).nodup_iff).2 hindependent
    obtain ⟨hname, hnodes, hwires⟩ := editor.graph_connectAll_of_independent hindependent
    obtain ⟨hname', hnodes', hwires'⟩ := editor.graph_connectAll_of_independent hindependent'
    rw [editor.answers_of_independent hindependent, editor.answers_of_independent hindependent',
      hwires, hwires']
    exact ⟨hperm.map _, hname'.trans hname.symm, hnodes'.trans hnodes.symm,
      (hperm.filter _).append_left _⟩
  · intro input first others hdifferent hlegal hfree
    exact editor.answers_of_contending hdifferent hlegal hfree

/-- A session with a mint, and with a vault that nothing feeds yet. -/
def mintAndVault : Editor Text :=
  let mint : Node Text :=
    ⟨"mint", "token_mint", "Mint", [], [⟨"amount", "Amount", "number"⟩, ⟨"tag", "Tag", "string"⟩]⟩
  let vault : Node Text :=
    ⟨"vault", "vault", "Vault", [⟨"note", "Note", "string"⟩, ⟨"open", "Open", "boolean"⟩], []⟩
  .start ⟨"bank", [mint, vault], []⟩ 10

/-- A wire that fits, one that does not, and one into a node that is not there, in either order;
and two wires that fit the same input. -/
theorem proposals_commute_mintAndVault :
    let fitting : Endpoints Text := ⟨"mint", "amount", "vault", "note"⟩
    let other : Endpoints Text := ⟨"mint", "tag", "vault", "note"⟩
    let unfitting : Endpoints Text := ⟨"mint", "tag", "vault", "open"⟩
    let dangling : Endpoints Text := ⟨"mint", "tag", "ghost", "note"⟩
    ([fitting, unfitting, dangling].map Endpoints.target).Nodup ∧
    (mintAndVault.answers [dangling, unfitting, fitting]).Perm
      [(fitting, .ok none), (unfitting, .ok (some (.incompatibleTypes "string" "boolean"))),
        (dangling, .error (.unknownNode "ghost"))] ∧
    ((mintAndVault.connectAll [dangling, unfitting, fitting]).graph.connections.map
      (·.toEndpoints)).Perm [fitting] ∧
    mintAndVault.answers [other, fitting] =
      [(other, .ok none), (fitting, .ok (some .inputAlreadyBound))] := by
  intro fitting other unfitting dangling
  obtain ⟨hindependent, hcontending⟩ := proposals_commute mintAndVault
  have hnodup : ([fitting, unfitting, dangling].map Endpoints.target).Nodup := by decide
  obtain ⟨hanswers, -, -, hwires⟩ := hindependent [fitting, unfitting, dangling]
    [dangling, unfitting, fitting] hnodup (by decide)
  have hlegal : ∀ ends ∈ [other, fitting], mintAndVault.graph.Legal ends ∧
      ends.target = (("vault" : Text), ("note" : Text)) := by
    simp only [List.forall_mem_cons, List.not_mem_nil, false_imp_iff, implies_true, and_true]
    exact ⟨⟨⟨_, rfl, by decide, by decide⟩, rfl⟩, ⟨⟨_, rfl, by decide, by decide⟩, rfl⟩⟩
  have hfree : mintAndVault.graph.IsFree (("vault" : Text), ("note" : Text)) := nofun
  have hinOrder : mintAndVault.answers [fitting, unfitting, dangling] =
      [(fitting, .ok none), (unfitting, .ok (some (.incompatibleTypes "string" "boolean"))),
        (dangling, .error (.unknownNode "ghost"))] := by decide
  have hleft : (mintAndVault.connectAll [fitting, unfitting, dangling]).graph.connections.map
      (·.toEndpoints) = [fitting] := by decide
  rw [hinOrder] at hanswers
  rw [hleft] at hwires
  exact ⟨hnodup, hanswers, hwires, hcontending _ _ _ (by decide) hlegal hfree⟩

end ModuleGraph
