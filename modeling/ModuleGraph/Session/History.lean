import ModuleGraph.Graph.Basic

/-!
# Edit history

The history is a list of snapshots, oldest first, and the position of the current one. An edit drops
what lies after the current snapshot, and then the oldest snapshots beyond the limit.

## Main definitions

- `Snapshot`, `History` — a graph with the action that led to it, and the list of them
- `History.start`, `History.commit`, `History.undo`, `History.redo`, `History.reset` — the moves
- `History.canUndo`, `History.canRedo` — whether a move would change anything
-/

namespace ModuleGraph

/-- A graph with the action that led to it. -/
structure Snapshot (L : Type) where
  graph : Graph L
  action : Text
  deriving DecidableEq, Repr

/-- Snapshots, oldest first, with the position of the current one and the most that are kept. -/
structure History (L : Type) where
  snapshots : List (Snapshot L)
  index : Nat
  limit : Nat
  index_lt : index < snapshots.length
  limit_pos : 0 < limit
  deriving DecidableEq, Repr

variable {L : Type}

namespace History

/-- The action of a snapshot that begins a history. -/
def resetAction : Text := "reset"

/-- The history that begins with a graph. -/
def start (graph : Graph L) (limit : Int) : History L where
  snapshots := [⟨graph, resetAction⟩]
  index := 0
  -- at least one snapshot is kept, whatever is asked for
  limit := max 1 limit.toNat
  index_lt := Nat.zero_lt_one
  limit_pos := Nat.lt_of_lt_of_le Nat.zero_lt_one (Nat.le_max_left 1 _)

def current (history : History L) : Snapshot L :=
  history.snapshots.get ⟨history.index, history.index_lt⟩

def graph (history : History L) : Graph L := history.current.graph

def canUndo (history : History L) : Bool := 0 < history.index

def canRedo (history : History L) : Bool := history.index + 1 < history.snapshots.length

/-- The snapshots up to the current one, followed by one more. -/
def extended (history : History L) (snapshot : Snapshot L) : List (Snapshot L) :=
  history.snapshots.take (history.index + 1) ++ [snapshot]

/-- The latest snapshots, as many as are kept. -/
def keepLatest (limit : Nat) (snapshots : List (Snapshot L)) : List (Snapshot L) :=
  snapshots.drop (snapshots.length - limit)

theorem length_keepLatest_pos {limit : Nat} {snapshots : List (Snapshot L)} (hlimit : 0 < limit)
    (hsnapshots : 0 < snapshots.length) : 0 < (keepLatest limit snapshots).length := by
  simp only [keepLatest, List.length_drop]
  omega

/-- The history after an edit. -/
def commit (history : History L) (graph : Graph L) (action : Text) : History L where
  snapshots := keepLatest history.limit (history.extended ⟨graph, action⟩)
  index := (keepLatest history.limit (history.extended ⟨graph, action⟩)).length - 1
  limit := history.limit
  index_lt := Nat.sub_one_lt_of_lt
    (length_keepLatest_pos history.limit_pos (by simp [extended]))
  limit_pos := history.limit_pos

/-- The history one snapshot earlier, if there is one. -/
def undo (history : History L) : History L :=
  { history with
    index := history.index - 1
    index_lt := Nat.lt_of_le_of_lt (Nat.sub_le _ _) history.index_lt }

/-- The history one snapshot later, if there is one. -/
def redo (history : History L) : History L :=
  if h : history.index + 1 < history.snapshots.length then
    { history with index := history.index + 1, index_lt := h }
  else
    history

/-- The history that begins anew with a graph. -/
def reset (history : History L) (graph : Graph L) : History L :=
  { history with
    snapshots := [⟨graph, resetAction⟩]
    index := 0
    index_lt := Nat.zero_lt_one }

end History

end ModuleGraph
