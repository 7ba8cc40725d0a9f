import ModuleGraph.Proofs.FreshId
import ModuleGraph.Proofs.Session.Proposals

/-!
# Edits that change nothing

What can be redone is lost with the next snapshot that is committed. So an edit has to be sure that
it can be made before it commits anything: one that fails, and a wire that is rejected, leave the
history alone, and every other edit commits one snapshot.

## Main definitions

- `History.Commits` — one snapshot is the difference between two histories
- `Outcome.Atomic` — an edit that cannot be made changes nothing, any other commits one snapshot
- `Graph.Has`, `Graph.Misses`, `Graph.Rejects` — what an edit can fail for

## Main statements

- `Graph.propose_eq_error_iff` — when the ends of a wire are not found
- `Editor.atomic_addNode`, `Editor.atomic_addStart`, `Editor.atomic_removeNode`,
  `Editor.atomic_disconnect` — the edits one by one
- `edits_atomic` — these and the wires that are proposed
-/

namespace ModuleGraph

/-! ### What cannot be done to a graph -/

namespace Graph

variable {graph : Graph Text} {ends : Endpoints Text}

/-- There is a node with the identifier. -/
def Has (graph : Graph Text) (id : Text) : Prop := ∃ node ∈ graph.nodes, node.id = id

theorem node?_eq_none_iff {id : Text} : graph.node? id = none ↔ ¬graph.Has id := by
  simp [node?, findNode?, Has]

theorem has_iff {id : Text} : graph.Has id ↔ ∃ node, graph.node? id = some node := by
  rw [← Option.ne_none_iff_exists', ne_eq, node?_eq_none_iff, not_not]

/-- An end of a wire is missing: the nodes are looked for first, and then the ports, each time the
source before the target. -/
inductive Misses (graph : Graph Text) (ends : Endpoints Text) : EditError Text → Prop
  | source (h : ¬graph.Has ends.sourceNode) : Misses graph ends (.unknownNode ends.sourceNode)
  | target (hsource : graph.Has ends.sourceNode) (h : ¬graph.Has ends.targetNode) :
    Misses graph ends (.unknownNode ends.targetNode)
  | output {source : Node Text} (hsource : graph.node? ends.sourceNode = some source)
    (htarget : graph.Has ends.targetNode) (h : ∀ port ∈ source.outputs, port.id ≠ ends.sourcePort) :
    Misses graph ends (.unknownOutput ends.sourcePort ends.sourceNode)
  | input {source target : Node Text} (hsource : graph.node? ends.sourceNode = some source)
    (htarget : graph.node? ends.targetNode = some target)
    (houtput : ∃ port ∈ source.outputs, port.id = ends.sourcePort)
    (h : ∀ port ∈ target.inputs, port.id ≠ ends.targetPort) :
    Misses graph ends (.unknownInput ends.targetPort ends.targetNode)

/-- The ends of a wire are there, and the verdict on it is to reject it. -/
def Rejects (graph : Graph Text) (ends : Endpoints Text) (reason : Rejection Text) : Prop :=
  ∃ proposal : Proposal Text,
    graph.node? ends.sourceNode = some proposal.sourceNode ∧
    graph.node? ends.targetNode = some proposal.targetNode ∧
    proposal.sourceNode.output? ends.sourcePort = some proposal.sourcePort ∧
    proposal.targetNode.input? ends.targetPort = some proposal.targetPort ∧
    proposal.verdict graph.connections = some reason

/-- What keeps a wire from being proposed is a missing end. -/
theorem misses_of_propose_eq_error {error : EditError Text}
    (h : graph.propose ends = .error error) : graph.Misses ends error := by
  rw [propose, requireNode, requireNode] at h
  cases hsource : graph.node? ends.sourceNode with
  | none =>
    rw [hsource] at h
    cases h
    exact .source (node?_eq_none_iff.1 hsource)
  | some source =>
    have hfirst : graph.Has ends.sourceNode := has_iff.2 ⟨source, hsource⟩
    cases htarget : graph.node? ends.targetNode with
    | none =>
      rw [hsource, htarget] at h
      cases h
      exact .target hfirst (node?_eq_none_iff.1 htarget)
    | some target =>
      have hsecond : graph.Has ends.targetNode := has_iff.2 ⟨target, htarget⟩
      simp only [hsource, htarget, bind, Except.bind] at h
      split at h
      · rename_i hnone
        cases h
        exact .output hsource hsecond (by simpa [Node.output?] using hnone)
      · rename_i port hport hnone
        cases h
        have houtput : ∃ port ∈ source.outputs, port.id = ends.sourcePort :=
          ⟨port, List.mem_of_find?_eq_some hport, eq_of_beq (Node.beq_of_output? hport)⟩
        exact .input hsource htarget houtput (by simpa [Node.input?] using hnone)
      · cases h

/-- A missing end keeps a wire from being proposed, and is told of. -/
theorem Misses.propose_eq_error {error : EditError Text} (h : graph.Misses ends error) :
    graph.propose ends = .error error := by
  rw [propose, requireNode, requireNode]
  cases h with
  | source h =>
    rw [node?_eq_none_iff.2 h]
    rfl
  | target hsource h =>
    obtain ⟨source, hsource⟩ := has_iff.1 hsource
    rw [hsource, node?_eq_none_iff.2 h]
    rfl
  | @output source hsource htarget h =>
    obtain ⟨target, htarget⟩ := has_iff.1 htarget
    have hnone : source.output? ends.sourcePort = none := by simpa [Node.output?] using h
    simp only [hsource, htarget, hnone, bind, Except.bind]
  | @input source target hsource htarget houtput h =>
    have hnone : target.input? ends.targetPort = none := by simpa [Node.input?] using h
    have hsome : (source.output? ends.sourcePort).isSome := by simpa [Node.output?] using houtput
    obtain ⟨port, hport⟩ := Option.isSome_iff_exists.1 hsome
    simp only [hsource, htarget, hport, hnone, bind, Except.bind]

theorem propose_eq_error_iff {error : EditError Text} :
    graph.propose ends = .error error ↔ graph.Misses ends error :=
  ⟨misses_of_propose_eq_error, Misses.propose_eq_error⟩

theorem judge_eq_error_iff {error : EditError Text} :
    graph.judge ends = .error error ↔ graph.Misses ends error := by
  rw [← propose_eq_error_iff]
  cases hends : graph.propose ends with
  | error other => rw [judge_of_error hends, Except.error.injEq, Except.error.injEq]
  | ok proposal =>
    rw [judge_of_ok hends]
    exact iff_of_false (by rintro ⟨⟩) (by rintro ⟨⟩)

theorem judge_eq_some_iff {reason : Rejection Text} :
    graph.judge ends = .ok (some reason) ↔ graph.Rejects ends reason := by
  simp only [judge_eq_ok_iff, propose_eq_ok_iff, Rejects, and_assoc]

end Graph

/-! ### One snapshot or none -/

/-- One snapshot, with the given graph, is committed after the current one: as many of those before
are kept as the limit allows, and what could be redone is dropped. -/
def History.Commits (before after : History Text) (graph : Graph Text) : Prop :=
  after.limit = before.limit ∧
    ∃ action, after.zipper = before.zipper.edit before.limit ⟨graph, action⟩

theorem History.commits_commit (history : History Text) (graph : Graph Text) (action : Text) :
    history.Commits (history.commit graph action) graph :=
  ⟨rfl, action, history.zipper_commit graph action⟩

/-- An edit fails with the errors that are due, and with no others. If it fails, the history is as
before, and otherwise a snapshot with the edited graph is committed. -/
structure Outcome.Atomic {α : Type} (outcome : Outcome Text α) (before : History Text)
    (Fails : EditError Text → Prop) (edited : Graph Text) : Prop where
  error_iff : ∀ error, outcome.result = .error error ↔ Fails error
  unchanged : ∀ error, outcome.result = .error error → outcome.editor.history = before
  committed : ∀ value, outcome.result = .ok value →
    before.Commits outcome.editor.history edited

namespace Editor

variable {α : Type} {Fails : EditError Text → Prop} {edited : Graph Text}

theorem atomic_failed (editor : Editor Text) {error : EditError Text}
    (hfails : ∀ other, Fails other ↔ other = error) :
    (Outcome.failed editor error : Outcome Text α).Atomic editor.history Fails edited where
  error_iff other := by
    rw [hfails, Outcome.failed, Except.error.injEq, eq_comm]
  unchanged _ _ := rfl
  committed _ h := by cases h

theorem atomic_committed (editor : Editor Text) (action : Text) (value : α)
    (hfails : ∀ error, ¬Fails error) :
    (editor.committed (editor.history.commit edited action) value).Atomic editor.history Fails
      edited where
  error_iff error := iff_of_false (by rintro ⟨⟩) (hfails error)
  unchanged _ h := by cases h
  committed _ _ := History.commits_commit _ _ _

variable (editor : Editor Text)

theorem atomic_addNode (node : Node Text) :
    (editor.addNode node).Atomic editor.history
      (fun error => editor.graph.Has node.id ∧ error = .nodeExists node.id)
      (editor.graph.addNode node) := by
  rcases editor.addNode_cases node with ⟨found, hfound, hfailed⟩ | ⟨hnew, hadded⟩
  · rw [hfailed]
    have hhas : editor.graph.Has node.id := Graph.has_iff.2 ⟨found, hfound⟩
    exact editor.atomic_failed fun error => and_iff_right hhas
  · rw [hadded]
    have hhas : ¬editor.graph.Has node.id := Graph.node?_eq_none_iff.1 hnew
    exact editor.atomic_committed _ _ fun error herror => hhas herror.1

/-- The identifier of the start node is taken from the supply; the history does not see that. -/
theorem atomic_addStart :
    editor.addStart.Atomic editor.history
      (fun error => if ∃ node ∈ editor.graph.nodes, node.kind = startKind then error = .secondStart
        else editor.graph.Has (Label.ofText editor.supply.next) ∧
          error = .nodeExists (Label.ofText editor.supply.next))
      (editor.graph.addNode (startNode editor.supply).1) := by
  have hstart : editor.graph.nodes.any (·.isStart) = true ↔
      ∃ node ∈ editor.graph.nodes, node.kind = startKind := by
    simp only [List.any_eq_true, Node.isStart, beq_iff_eq]
    rfl
  rcases editor.addStart_cases with ⟨hany, hfailed⟩ | ⟨hnone, hadded⟩
  · rw [hfailed]
    simp only [if_pos (hstart.1 hany)]
    exact editor.atomic_failed fun error => Iff.rfl
  · have hfirst : ¬∃ node ∈ editor.graph.nodes, node.kind = startKind :=
      mt hstart.2 (Bool.eq_false_iff.1 hnone)
    rw [hadded]
    simp only [if_neg hfirst]
    exact atomic_addNode { editor with supply := (startNode editor.supply).2 } _

theorem atomic_removeNode (id : Text) :
    (editor.removeNode id).Atomic editor.history
      (fun error => ¬editor.graph.Has id ∧ error = .unknownNode id)
      (editor.graph.removeNode id) := by
  rcases editor.removeNode_cases id with ⟨hnone, hfailed⟩ | ⟨node, hfound, hremoved⟩
  · rw [hfailed]
    exact editor.atomic_failed fun error => and_iff_right (Graph.node?_eq_none_iff.1 hnone)
  · rw [hremoved]
    have hhas : editor.graph.Has id := Graph.has_iff.2 ⟨node, hfound⟩
    exact editor.atomic_committed _ _ fun error herror => herror.1 hhas

theorem atomic_disconnect (id : Text) :
    (editor.disconnect id).Atomic editor.history
      (fun error => (∀ connection ∈ editor.graph.connections, connection.id ≠ id) ∧
        error = .unknownConnection id)
      (editor.graph.removeConnection id) := by
  rcases editor.disconnect_cases id with ⟨hnone, hfailed⟩ | ⟨connection, hfound, hremoved⟩
  · rw [hfailed]
    have hall : ∀ connection ∈ editor.graph.connections, connection.id ≠ id := by
      simpa using hnone
    exact editor.atomic_failed fun error => and_iff_right hall
  · rw [hremoved]
    refine editor.atomic_committed _ _ fun error herror => ?_
    have hid : (connection.id == id) = true := by simpa using List.find?_some hfound
    exact herror.1 connection (List.mem_of_find?_eq_some hfound) (eq_of_beq hid)

variable {ends : Endpoints Text}

theorem result_connect_eq_error_iff {error : EditError Text} :
    (editor.connect ends).result = .error error ↔ editor.graph.Misses ends error := by
  rw [← Graph.judge_eq_error_iff, ← answer_eq, answer]
  cases (editor.connect ends).result <;> simp [Except.map]

theorem result_connect_eq_rejected_iff {reason : Rejection Text} :
    (editor.connect ends).result = .ok (.rejected reason) ↔ editor.graph.Rejects ends reason := by
  rw [← Graph.judge_eq_some_iff, ← answer_eq, answer]
  cases (editor.connect ends).result with
  | error error => simp [Except.map]
  | ok reply => cases reply <;> simp [Except.map, ConnectReply.rejection?]

/-- A wire that is not accepted leaves the history alone. -/
theorem history_connect_of_not_added
    (h : ∀ connection, (editor.connect ends).result ≠ .ok (.added connection)) :
    (editor.connect ends).editor.history = editor.history := by
  rcases editor.connect_cases ends with ⟨error, -, hconnect⟩ | ⟨reason, log, -, hconnect⟩ |
    ⟨connection, -, -, hresult, -⟩
  · rw [hconnect]
    rfl
  · rw [hconnect]
  · exact absurd hresult (h connection)

/-- A wire that is accepted is the one proposed, under a fresh identifier. -/
theorem exists_wireOf_of_added {connection : Connection Text}
    (h : (editor.connect ends).result = .ok (.added connection)) :
    ∃ proposal, connection = History.wireOf proposal (Label.ofText editor.supply.next) ∧
      (editor.connect ends).editor.history = editor.history.addWire proposal connection.id := by
  rw [connect] at h ⊢
  cases hends : editor.graph.propose ends with
  | error error =>
    rw [hends] at h
    cases h
  | ok proposal =>
    simp only [hends, Proposal.isJudgeable_text, if_true] at h ⊢
    cases hverdict : proposal.verdict editor.graph.connections with
    | some reason =>
      rw [hverdict] at h
      cases h
    | none =>
      rw [hverdict] at h
      cases h
      exact ⟨proposal, rfl, rfl⟩

/-- A wire that is accepted commits one snapshot. -/
theorem commits_connect {connection : Connection Text}
    (h : (editor.connect ends).result = .ok (.added connection)) :
    editor.history.Commits (editor.connect ends).editor.history
      (editor.graph.addConnection connection) := by
  obtain ⟨proposal, rfl, hhistory⟩ := editor.exists_wireOf_of_added h
  rw [hhistory]
  exact History.commits_commit _ _ _

end Editor

/-- **Edits are atomic.** In any state of a session, whatever can be undone and redone there: a node
cannot be added iff its identifier is there, nor a start node iff there is one or the fresh
identifier is taken; a node or a connection cannot be removed iff it is not there; and a wire cannot
be proposed iff one of its ends is missing. A proposed wire is rejected iff that is the verdict on
it. In all these cases the history is as before, with all that can be undone and redone; in all
others exactly one snapshot is committed. -/
theorem edits_atomic (editor : Editor Text) :
    (∀ node, (editor.addNode node).Atomic editor.history
      (fun error => editor.graph.Has node.id ∧ error = .nodeExists node.id)
      (editor.graph.addNode node)) ∧
    editor.addStart.Atomic editor.history
      (fun error => if ∃ node ∈ editor.graph.nodes, node.kind = startKind then error = .secondStart
        else editor.graph.Has (Label.ofText editor.supply.next) ∧
          error = .nodeExists (Label.ofText editor.supply.next))
      (editor.graph.addNode (startNode editor.supply).1) ∧
    (∀ id, (editor.removeNode id).Atomic editor.history
      (fun error => ¬editor.graph.Has id ∧ error = .unknownNode id)
      (editor.graph.removeNode id)) ∧
    (∀ id, (editor.disconnect id).Atomic editor.history
      (fun error => (∀ connection ∈ editor.graph.connections, connection.id ≠ id) ∧
        error = .unknownConnection id)
      (editor.graph.removeConnection id)) ∧
    ∀ ends,
      let outcome := editor.connect ends
      (∀ error, outcome.result = .error error ↔ editor.graph.Misses ends error) ∧
      (∀ reason, outcome.result = .ok (.rejected reason) ↔ editor.graph.Rejects ends reason) ∧
      ((∀ connection, outcome.result ≠ .ok (.added connection)) →
        outcome.editor.history = editor.history) ∧
      ∀ connection, outcome.result = .ok (.added connection) →
        editor.history.Commits outcome.editor.history (editor.graph.addConnection connection) := by
  refine ⟨editor.atomic_addNode, editor.atomic_addStart, editor.atomic_removeNode,
    editor.atomic_disconnect, fun ends => ?_⟩
  exact ⟨fun error => editor.result_connect_eq_error_iff,
    fun reason => editor.result_connect_eq_rejected_iff, editor.history_connect_of_not_added,
    fun connection hadded => editor.commits_connect hadded⟩

/-- A mint feeds a vault, and the wire has been undone. -/
def undoneWire : Editor Text :=
  let mint : Node Text := ⟨"mint", "token_mint", "Mint", [], [⟨"out", "Out", "number"⟩]⟩
  let vault : Node Text :=
    ⟨"vault", "vault", "Vault", [⟨"in", "In", "string"⟩], [⟨"out", "Out", "number"⟩]⟩
  let drawn := ((((Editor.start .empty 5).addNode mint).editor.addNode vault).editor.connect
    ⟨"mint", "out", "vault", "in"⟩).editor
  drawn.undo

/-- The vault cannot feed itself, and a fee cannot be removed: the wire can still be redone. Then it
is drawn once more, and nothing is left to redo. -/
theorem edits_atomic_undoneWire :
    let loop : Endpoints Text := ⟨"vault", "out", "vault", "in"⟩
    let wire : Endpoints Text := ⟨"mint", "out", "vault", "in"⟩
    undoneWire.history.canRedo = true ∧
    (undoneWire.connect loop).result = .ok (.rejected .selfConnection) ∧
    (undoneWire.connect loop).editor.history = undoneWire.history ∧
    (undoneWire.removeNode "fee").result = .error (.unknownNode "fee") ∧
    (undoneWire.removeNode "fee").editor.history = undoneWire.history ∧
    (undoneWire.connect wire).editor.history.zipper.future = [] ∧
    (undoneWire.connect wire).editor.history.zipper.past.length = 3 := by
  intro loop wire
  obtain ⟨-, -, hremove, -, hconnect⟩ := edits_atomic undoneWire
  have hrejected : (undoneWire.connect loop).result = .ok (.rejected .selfConnection) := by decide
  obtain ⟨-, -, hunchanged, -⟩ := hconnect loop
  obtain ⟨-, -, -, hadded⟩ := hconnect wire
  have hfee : ¬undoneWire.graph.Has "fee" := Graph.node?_eq_none_iff.1 (by decide)
  have hunknown := ((hremove "fee").error_iff _).2 ⟨hfee, rfl⟩
  obtain ⟨-, action, hzipper⟩ := hadded _ rfl
  refine ⟨by decide, hrejected, hunchanged fun connection => ?_, hunknown,
    (hremove "fee").unchanged _ hunknown, ?_, ?_⟩
  · rw [hrejected]
    rintro ⟨⟩
  · rw [hzipper]
    rfl
  · rw [hzipper]
    rfl

end ModuleGraph
