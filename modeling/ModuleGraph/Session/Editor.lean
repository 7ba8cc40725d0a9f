import ModuleGraph.Catalog.Registry
import ModuleGraph.Log
import ModuleGraph.Session.Edit

/-!
# The editor

An editor holds the history of a graph and the supply of fresh identifiers. It carries out commands
one by one; each gives a reply or an error, and leaves an editor for the next.

## Main definitions

- `Editor` — the history and the supply
- `Outcome` — what a command gives, the editor after it, and the records it leaves
- `Editor.addNode`, `Editor.addStart`, `Editor.removeNode`, `Editor.connect`, `Editor.disconnect` —
  the edits
- `Command`, `Editor.perform` — the commands of a session
-/

namespace ModuleGraph

/-- The history of a graph and the supply of fresh identifiers. -/
structure Editor (L : Type) where
  history : History L
  supply : IdSupply
  deriving DecidableEq, Repr

/-- What an edit gives, the editor after it, and the records it leaves. -/
structure Outcome (L α : Type) where
  result : Except (EditError L) α
  editor : Editor L
  log : Log

namespace Outcome

variable {L α β : Type}

/-- The edit fails and changes nothing. -/
def failed (editor : Editor L) (error : EditError L) : Outcome L α := ⟨.error error, editor, []⟩

/-- The same outcome with another view of its result. -/
def map (f : α → β) (outcome : Outcome L α) : Outcome L β :=
  { outcome with result := outcome.result.map f }

end Outcome

/-- The answer to a wire that was proposed. -/
inductive ConnectReply (L : Type) where
  | added (connection : Connection L)
  | rejected (reason : Rejection L)
  deriving DecidableEq, Repr

variable {L : Type} [Label L]

namespace Editor

/-- The editor at the beginning of a session. -/
def start (graph : Graph L) (limit : Int) : Editor L := ⟨.start graph limit, .start⟩

def graph (editor : Editor L) : Graph L := editor.history.graph

def withHistory (editor : Editor L) (history : History L) : Editor L := { editor with history }

/-- The record of the snapshot that has just been committed. -/
def commitLog (history : History L) : Log :=
  let nodes := history.graph.nodes.length
  let connections := history.graph.connections.length
  [⟨.session, .debug,
    "History: '" ++ history.current.action ++ s!"' ({nodes} nodes, {connections} connections)"⟩]

/-- The outcome of an edit that committed a snapshot. -/
def committed {α : Type} (editor : Editor L) (history : History L) (value : α) : Outcome L α :=
  ⟨.ok value, editor.withHistory history, commitLog history⟩

/-- Adds a node; the result holds it. -/
def addNode (editor : Editor L) (node : Node L) : Outcome L (Node L) :=
  match editor.history.addNode node with
  | .ok history => editor.committed history node
  | .error error => .failed editor error

/-- Adds a node just made, for which identifiers were taken from the supply. -/
def addMade (editor : Editor L) (made : Node L × IdSupply) : Outcome L (Node L) :=
  { editor with supply := made.2 }.addNode made.1

/-- Adds the node where the program begins, unless there is one. -/
def addStart (editor : Editor L) : Outcome L (Node L) :=
  if editor.graph.nodes.any (·.isStart) then .failed editor .secondStart
  else editor.addMade (startNode editor.supply)

/-- Adds nodes in turn, up to the first that cannot be added. -/
def addNodes (editor : Editor L) : List (Node L) → Outcome L Unit
  | [] => ⟨.ok (), editor, []⟩
  | node :: nodes =>
    let first := editor.addNode node
    match first.result with
    | .error error => ⟨.error error, first.editor, first.log⟩
    | .ok _ =>
      let rest := first.editor.addNodes nodes
      { rest with log := first.log ++ rest.log }

/-- Removes a node and the wires at it; the result holds the node. -/
def removeNode (editor : Editor L) (id : L) : Outcome L (Node L) :=
  match editor.history.removeNode id with
  | .ok (node, history) => editor.committed history node
  | .error error => .failed editor error

/-- The record of a wire that was rejected. -/
def rejectionLog (proposal : Proposal L) (reason : Rejection L) : Log :=
  [⟨.session, .info,
    "Rejected connection " ++ Label.wording proposal.sourceNode.name ++ " -> " ++
      Label.wording proposal.targetNode.name ++ ": " ++ reason.message⟩]

/-- Adds a wire under a fresh identifier, unless it is rejected. -/
def connect (editor : Editor L) (ends : Endpoints L) : Outcome L (ConnectReply L) :=
  match editor.graph.propose ends with
  | .error error => .failed editor error
  | .ok proposal =>
    if proposal.isJudgeable then
      match proposal.verdict editor.graph.connections with
      | some reason => ⟨.ok (.rejected reason), editor, rejectionLog proposal reason⟩
      | none =>
        let (id, supply) : L × IdSupply := editor.supply.takeLabel
        { editor with supply }.committed (editor.history.addWire proposal id)
          (.added (History.wireOf proposal id))
    else
      .failed editor (.unusable .notAKey)

/-- Removes a wire; the result holds it. -/
def disconnect (editor : Editor L) (id : L) : Outcome L (Connection L) :=
  match editor.history.disconnect id with
  | .ok (connection, history) => editor.committed history connection
  | .error error => .failed editor error

/-- One snapshot back. -/
def undo (editor : Editor L) : Editor L := editor.withHistory editor.history.undo

/-- One snapshot forward. -/
def redo (editor : Editor L) : Editor L := editor.withHistory editor.history.redo

/-- A new beginning with a graph. -/
def reset (editor : Editor L) (graph : Graph L) : Editor L :=
  editor.withHistory (editor.history.reset graph)

end Editor

/-! ### Commands -/

/-- A command that changes the graph of a session or moves in its history. -/
inductive Command (L : Type) where
  | addNode (node : Node L)
  | addTemplate (id : L) (name : Option L)
  | addBlank (kind : L) (name : Option L)
  | addStart
  | addNodes (nodes : List (Node L))
  | removeNode (id : L)
  | connect (ends : Endpoints L)
  | disconnect (id : L)
  | undo
  | redo
  | reset (graph : Option (Graph L))
  deriving DecidableEq, Repr

/-- What a command gives. -/
inductive Reply (L : Type) where
  | done
  | node (node : Node L)
  | wire (reply : ConnectReply L)
  | connection (connection : Connection L)
  /-- The name of the graph that is now current. -/
  | graphName (name : L)
  deriving DecidableEq, Repr

/-- Why a command fails. -/
inductive CommandError (L : Type) where
  | edit (error : EditError L)
  | catalog (error : CatalogError L)
  deriving DecidableEq, Repr

def CommandError.message : CommandError L → Text
  | edit error => error.message
  | catalog error => error.message

/-- What a command gives, the editor after it, and the records it leaves. -/
structure Performed (L : Type) where
  result : Except (CommandError L) (Reply L)
  editor : Editor L
  log : Log

/-- The outcome of an edit as that of a command. -/
def Outcome.performed {α : Type} (outcome : Outcome L α) (reply : α → Reply L) : Performed L :=
  ⟨(outcome.result.map reply).mapError .edit, outcome.editor, outcome.log⟩

namespace Editor

/-- The outcome of a move in the history. -/
def moved (editor : Editor L) : Performed L := ⟨.ok (.graphName editor.graph.name), editor, []⟩

/-- Carries out a command. Templates are those of the given catalog. -/
def perform (editor : Editor L) (catalog : Catalog L) : Command L → Performed L
  | .addNode node => (editor.addNode node).performed .node
  | .addTemplate id name =>
    match catalog.create editor.supply id name with
    | .ok made => (editor.addMade made).performed .node
    | .error error => ⟨.error (.catalog error), editor, []⟩
  | .addBlank kind name => (editor.addMade (blankNode editor.supply kind name)).performed .node
  | .addStart => editor.addStart.performed .node
  | .addNodes nodes => (editor.addNodes nodes).performed fun _ => .done
  | .removeNode id => (editor.removeNode id).performed .node
  | .connect ends => (editor.connect ends).performed .wire
  | .disconnect id => (editor.disconnect id).performed .connection
  | .undo => editor.undo.moved
  | .redo => editor.redo.moved
  | .reset graph => (editor.reset (graph.getD .empty)).moved

end Editor

end ModuleGraph
