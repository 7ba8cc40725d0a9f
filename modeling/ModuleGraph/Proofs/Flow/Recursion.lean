import Mathlib
import ModuleGraph.Proofs.Flow.ExecutionOrder

/-!
# The walks as recursions

A walk keeps its path as a value. Written as a recursion, the same traversal keeps it in the calls
that have not returned yet. Here are the two traversals as recursions, each with the marks that it
sets and removes; the walks give what they give.

## Main definitions

- `Marks`, `Dependencies.visit`, `recursiveOrder` — the order, by recursion
- `Trail`, `Dependencies.search`, `recursiveCycles` — the cycles, by recursion
- `resume` — what the calls that a path stands for make of a state

## Main statements

- `resume_visit`, `resume_search` — a walk from a path does what those calls do
- `recursions_eq_walks` — the recursions end, with the execution order and the cycles

## Design notes

The recursions are given by their equations alone, without a measure: one that does not end has the
result `none`. That they end is a part of what is proved, and rests on the end of the walks.
-/

namespace ModuleGraph

variable {L : Type}

/-! ### The order by recursion -/

/-- The identifiers being visited, those that have been visited, and the order given to them. -/
structure Marks (L : Type) where
  visiting : List L
  visited : List L
  order : List L

namespace Marks

/-- Nothing is marked. -/
def start : Marks L := ⟨[], [], []⟩

/-- Marks an identifier as being visited. -/
def enter (marks : Marks L) (id : L) : Marks L := { marks with visiting := id :: marks.visiting }

variable [BEq L]

/-- Whether an identifier is being visited or has been visited. -/
def holds (marks : Marks L) (id : L) : Bool :=
  marks.visiting.contains id || marks.visited.contains id

/-- Marks an identifier as visited and puts it at the end of the order. -/
def leave (marks : Marks L) (id : L) : Marks L where
  visiting := marks.visiting.erase id
  visited := id :: marks.visited
  order := marks.order ++ [id]

end Marks

/-- The marks once an identifier and, before it, its dependencies have been visited. One that is
marked is passed over. -/
def Dependencies.visit [BEq L] (table : Dependencies L) (marks : Marks L) (id : L) :
    Option (Marks L) :=
  if marks.holds id then some marks
  else do
    let inner ← (table.of id).foldlM (table |>.visit) (marks.enter id)
    return inner.leave id
partial_fixpoint

/-- The order in which the visits of the roots leave the identifiers. -/
def recursiveOrder [BEq L] (table : Dependencies L) (roots : List L) : Option (List L) := do
  let marks ← roots.foldlM table.visit .start
  return marks.order

/-! ### The cycles by recursion -/

/-- The path from a root, outermost identifier first, the identifiers that have been visited, and
the cycles recorded. -/
structure Trail (L : Type) where
  path : List L
  visited : List L
  cycles : List (List L)

namespace Trail

/-- The path has not begun. -/
def start : Trail L := ⟨[], [], []⟩

/-- The path leads one identifier further. -/
def extend (trail : Trail L) (id : L) : Trail L := { trail with path := trail.path ++ [id] }

/-- The path ends one identifier earlier, and `id` has been visited. -/
def shrink (trail : Trail L) (id : L) : Trail L :=
  { trail with path := trail.path.dropLast, visited := id :: trail.visited }

/-- Records the path from `id` on as a cycle. -/
def record [BEq L] (trail : Trail L) (id : L) : Trail L :=
  { trail with cycles := trail.cycles ++ [trail.path.dropWhile (· != id)] }

end Trail

/-- The trail once an identifier and its dependencies have been searched. One on the path closes a
cycle, and one that has been visited is passed over. -/
def Dependencies.search [BEq L] (table : Dependencies L) (trail : Trail L) (id : L) :
    Option (Trail L) :=
  if trail.path.contains id then some (trail.record id)
  else if trail.visited.contains id then some trail
  else do
    let inner ← (table.of id).foldlM (table |>.search) (trail.extend id)
    return inner.shrink id
partial_fixpoint

/-- The cycles that the searches from the roots record. -/
def recursiveCycles [BEq L] (table : Dependencies L) (roots : List L) : Option (List (List L)) := do
  let trail ← roots.foldlM table.search .start
  return trail.cycles

/-! ### The calls that a path stands for -/

section Resume

variable {S : Type} {call : S → L → Option S} {leave : S → L → S} {state next : S}
variable {id dependency : L} {pending deps : List L} {path : List (Frame L)}

/-- What the calls that a path stands for make of a state: from the innermost on, each looks at what
it has still to look at and leaves its identifier. -/
def resume (call : S → L → Option S) (leave : S → L → S) : List (Frame L) → S → Option S
  | [], state => some state
  | frame :: path, state => do
    let inner ← frame.pending.foldlM call state
    resume call leave path (leave inner frame.id)

theorem resume_finish :
    resume call leave (⟨id, []⟩ :: path) state = resume call leave path (leave state id) := by
  simp [resume]

/-- A dependency that is only looked at. -/
theorem resume_pass (h : call state dependency = some next) :
    resume call leave (⟨id, dependency :: pending⟩ :: path) state =
      resume call leave (⟨id, pending⟩ :: path) next := by
  simp [resume, h]

/-- A dependency that is entered becomes the innermost call. -/
theorem resume_enter
    (h : call state dependency = (deps.foldlM call next).map (leave · dependency)) :
    resume call leave (⟨id, dependency :: pending⟩ :: path) state =
      resume call leave (⟨dependency, deps⟩ :: ⟨id, pending⟩ :: path) next := by
  simp [resume, h, Option.bind_map, Option.bind_assoc]

/-- A root that is entered is the only call. -/
theorem resume_root :
    (deps.foldlM call next).map (leave · id) = resume call leave [⟨id, deps⟩] next := by
  simp [resume, Option.map_eq_bind]

/-- A recursion that does to the image of a state what a step does to the state, does so along a
list, too. -/
theorem foldlM_eq_foldl {T : Type} {step : T → L → T} (image : T → S)
    (h : ∀ state id, call (image state) id = some (image (step state id))) (ids : List L)
    (state : T) : ids.foldlM call (image state) = some (image (ids.foldl step state)) := by
  induction ids generalizing state with
  | nil => rfl
  | cons id ids ih => simp [h, ih]

end Resume

/-! ### The walk for the order -/

open Dependencies (visit search)

section Order

variable [BEq L] {table : Dependencies L} {path : List (Frame L)} {finished : List L} {id : L}

theorem visit_of_holds {marks : Marks L} (h : marks.holds id = true) :
    visit table marks id = some marks := by
  rw [visit, if_pos h]

theorem visit_of_not_holds {marks : Marks L} (h : ¬ marks.holds id = true) :
    visit table marks id =
      ((table.of id).foldlM (visit table) (marks.enter id)).map (·.leave id) := by
  rw [visit, if_neg h, Option.map_eq_bind]
  rfl

/-- The marks of a walk. -/
def Marks.of (path : List (Frame L)) (finished : List L) : Marks L :=
  ⟨path.map (·.id), finished, finished.reverse⟩

variable [LawfulBEq L]

theorem Marks.holds_of :
    (Marks.of path finished).holds id = (onPath path id || finished.contains id) := by
  rw [Bool.eq_iff_iff, Bool.or_eq_true, onPath_iff]
  simp [of, holds]

theorem Marks.leave_of (frame : Frame L) :
    (Marks.of (frame :: path) finished).leave frame.id = .of path (frame.id :: finished) := by
  simp [of, leave]

/-- From a path, the walk does what the calls that the path stands for do. -/
theorem resume_visit (table : Dependencies L) (path : List (Frame L)) (finished : List L) :
    resume (visit table) Marks.leave path (.of path finished) =
      some (.of [] (orderPath table path finished)) := by
  fun_induction orderPath table path finished with
  | case1 finished => rfl
  | case2 finished id path ih => rw [resume_finish, Marks.leave_of ⟨id, []⟩, ih]
  | case3 finished id dependency pending path hmarked ih =>
    exact (resume_pass (visit_of_holds (Marks.holds_of.trans hmarked))).trans ih
  | case4 finished id dependency pending path hnew ih =>
    refine (resume_enter (visit_of_not_holds ?_)).trans ih
    rw [Marks.holds_of]
    exact hnew

theorem visit_root (table : Dependencies L) (finished : List L) (root : L) :
    visit table (.of [] finished) root = some (.of [] (orderRoot table finished root)) := by
  rw [orderRoot]
  split
  · rename_i hmarked
    exact visit_of_holds (Marks.holds_of.trans hmarked)
  · rename_i hnew
    rw [visit_of_not_holds (by rwa [Marks.holds_of]), resume_root]
    exact resume_visit table [⟨root, table.of root⟩] finished

theorem recursiveOrder_eq (table : Dependencies L) (roots : List L) :
    recursiveOrder table roots = some (executionOrder table roots) := by
  have hvisits : roots.foldlM (visit table) .start = _ :=
    foldlM_eq_foldl (Marks.of []) (visit_root table) roots []
  rw [recursiveOrder, hvisits]
  rfl

end Order

/-! ### The walk for the cycles -/

section Cycles

variable [BEq L] {table : Dependencies L} {path : List (Frame L)} {found : Findings L} {id : L}

theorem search_of_mem_path {trail : Trail L} (h : trail.path.contains id = true) :
    search table trail id = some (trail.record id) := by
  rw [search, if_pos h]

theorem search_of_mem_visited {trail : Trail L} (hpath : ¬ trail.path.contains id = true)
    (h : trail.visited.contains id = true) : search table trail id = some trail := by
  rw [search, if_neg hpath, if_pos h]

theorem search_of_new {trail : Trail L} (hpath : ¬ trail.path.contains id = true)
    (h : ¬ trail.visited.contains id = true) :
    search table trail id =
      ((table.of id).foldlM (search table) (trail.extend id)).map (·.shrink id) := by
  rw [search, if_neg hpath, if_neg h, Option.map_eq_bind]
  rfl

/-- The trail of a walk. -/
def Trail.of (path : List (Frame L)) (found : Findings L) : Trail L :=
  ⟨(path.map (·.id)).reverse, found.finished, found.cycles.reverse⟩

omit [BEq L] in
theorem Trail.shrink_of (frame : Frame L) :
    (Trail.of (frame :: path) found).shrink frame.id = .of path (found.finish frame.id) := by
  simp [of, shrink, Findings.finish]

omit [BEq L] in
theorem Trail.extend_of (frame : Frame L) :
    (Trail.of path found).extend frame.id = .of (frame :: path) found := by
  simp [of, extend]

variable [LawfulBEq L]

theorem Trail.contains_path_of : (Trail.of path found).path.contains id = onPath path id := by
  rw [Bool.eq_iff_iff, onPath_iff]
  simp [of]

/-- What a path without repetitions holds from an identifier on is the ring that the identifier
closes. -/
theorem Trail.record_of (h : onPath path id = true) (hnodup : (path.map (·.id)).Nodup) :
    (Trail.of path found).record id = .of path (found.close (cycleFrom path id)) := by
  obtain ⟨inner, outer, hpath⟩ := List.append_of_mem (onPath_iff.1 h)
  rw [hpath, List.nodup_append, List.nodup_cons] at hnodup
  have hinner : ∀ other ∈ inner, (other != id) = true := by
    intro other hother
    exact bne_iff_ne.2 (hnodup.2.2 other hother id List.mem_cons_self)
  have houter : ∀ other ∈ outer.reverse, (other != id) = true := by
    intro other hother
    exact bne_iff_ne.2 fun heq => hnodup.2.1.1 (heq ▸ List.mem_reverse.1 hother)
  have hring : cycleFrom path id = id :: inner.reverse := by
    rw [cycleFrom, hpath, List.takeWhile_append_of_pos hinner]
    simp
  have hsuffix : (path.map (·.id)).reverse.dropWhile (· != id) = id :: inner.reverse := by
    rw [hpath, List.reverse_append, List.reverse_cons, List.append_assoc,
      List.dropWhile_append_of_pos houter]
    simp
  simp [of, record, Findings.close, hring, hsuffix]

/-- From a path without repetitions, the walk does what the calls that the path stands for do. -/
theorem resume_search (table : Dependencies L) (path : List (Frame L)) (found : Findings L)
    (hnodup : (path.map (·.id)).Nodup) :
    resume (search table) Trail.shrink path (.of path found) =
      some (.of [] (explore table path found)) := by
  fun_induction explore table path found with
  | case1 found => rfl
  | case2 found id path ih =>
    rw [resume_finish, Trail.shrink_of ⟨id, []⟩, ih hnodup.tail]
  | case3 found id dependency pending path hpath ih =>
    rw [← Trail.record_of hpath hnodup] at ih
    refine (resume_pass (search_of_mem_path ?_)).trans (ih hnodup)
    rwa [Trail.contains_path_of]
  | case4 found id dependency pending path hpath hfinished ih =>
    refine (resume_pass (search_of_mem_visited ?_ hfinished)).trans (ih hnodup)
    rwa [Trail.contains_path_of]
  | case5 found id dependency pending path hpath hfinished ih =>
    rw [← Trail.extend_of] at ih
    refine (resume_enter (search_of_new ?_ hfinished)).trans (ih ?_)
    · rwa [Trail.contains_path_of]
    · exact List.nodup_cons.2 ⟨fun hid => hpath (onPath_iff.2 hid), hnodup⟩

theorem search_root (table : Dependencies L) (found : Findings L) (root : L) :
    search table (.of [] found) root = some (.of [] (visitRoot table found root)) := by
  have houtside : ¬ (Trail.of [] found).path.contains root = true := by simp [Trail.of]
  rw [visitRoot]
  split
  · rename_i hfinished
    exact search_of_mem_visited houtside hfinished
  · rename_i hfinished
    rw [search_of_new houtside hfinished, resume_root, Trail.extend_of ⟨root, table.of root⟩]
    exact resume_search table _ found (List.nodup_singleton root)

theorem recursiveCycles_eq (table : Dependencies L) (roots : List L) :
    recursiveCycles table roots = some (cycles table roots) := by
  have hsearches : roots.foldlM (search table) .start = _ :=
    foldlM_eq_foldl (Trail.of []) (search_root table) roots .start
  rw [recursiveCycles, hsearches]
  rfl

end Cycles

/-- **The recursions end with what the walks give**: the visits leave the identifiers in the
execution order, and the searches record the cycles, in the same order. -/
theorem recursions_eq_walks [BEq L] [LawfulBEq L] (table : Dependencies L) (roots : List L) :
    recursiveOrder table roots = some (executionOrder table roots) ∧
    recursiveCycles table roots = some (cycles table roots) :=
  ⟨recursiveOrder_eq table roots, recursiveCycles_eq table roots⟩

open Dependencies (tangled)

/-- A cycle of two identifiers, one of a single identifier, and a root that is repeated. -/
theorem recursions_tangled :
    recursiveOrder tangled ["a", "a", "d"] =
      some [("c" : Text), ("b" : Text), ("x" : Text), ("a" : Text), ("d" : Text)] ∧
    recursiveCycles tangled ["a", "a", "d"] =
      some [[("c" : Text)], [("a" : Text), ("b" : Text)]] := by
  have horder : executionOrder tangled ["a", "a", "d"] =
      [("c" : Text), ("b" : Text), ("x" : Text), ("a" : Text), ("d" : Text)] := by cbv
  have hcycles : cycles tangled ["a", "a", "d"] =
      [[("c" : Text)], [("a" : Text), ("b" : Text)]] := by cbv
  have hspec := recursions_eq_walks tangled ["a", "a", "d"]
  rwa [horder, hcycles] at hspec

end ModuleGraph
