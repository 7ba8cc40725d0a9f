import ModuleGraph.Flow.Dependencies

/-!
# Depth-first walks

Two walks over the dependencies: one for the execution order, one for the cycles. A walk keeps the
path from its root to the identifier in hand. A dependency that is on the path or finished is not
entered again; any other extends the path. An identifier is finished once all its dependencies have
been looked at. The walk for the cycles notes, beside what is finished, the cycle that a dependency
on the path closes.

## Main definitions

- `Frame` — an identifier on the path, with the dependencies that it has still to look at
- `orderPath`, `orderRoot` — the walk for the order from a path to its end, and from a root
- `executionOrder` — the identifiers finished, earliest first
- `Findings` — the identifiers finished and the cycles closed, latest first
- `explore`, `visitRoot`, `walk` — the walk for the cycles from a path, a root and every root
- `cycles` — the cycles closed, earliest first

## Design notes

The path is a value and not a call stack, so a chain of dependencies may be of any length. A walk
ends because each move either opens an entry of the table that was unopened, or leaves the unopened
entries alone and shortens the work left on the path.
-/

namespace ModuleGraph

/-- An identifier on the path, with the dependencies that it has still to look at. -/
structure Frame (L : Type) where
  id : L
  pending : List L
  deriving DecidableEq, Repr

/-- The identifiers finished and the cycles closed so far, latest first. -/
structure Findings (L : Type) where
  finished : List L
  cycles : List (List L)
  deriving DecidableEq, Repr

variable {L : Type}

namespace Findings

/-- Nothing is finished and no cycle closed. -/
def start : Findings L := ⟨[], []⟩

/-- One more identifier is finished. -/
def finish (found : Findings L) (id : L) : Findings L :=
  { found with finished := id :: found.finished }

/-- One more cycle is closed. -/
def close (found : Findings L) (cycle : List L) : Findings L :=
  { found with cycles := cycle :: found.cycles }

end Findings

variable [BEq L]

/-- Whether an identifier lies on the path. -/
def onPath (path : List (Frame L)) (id : L) : Bool := path.any (·.id == id)

/-- The part of the path from `id` to its end, from the outside in: the cycle that a dependency on
`id` closes. -/
def cycleFrom (path : List (Frame L)) (id : L) : List L :=
  id :: ((path.map (·.id)).takeWhile (· != id)).reverse

/-! ### Why the walk ends -/

/-- The number of entries of the table whose identifiers are neither on the path nor finished. -/
def unopened (table : Dependencies L) (path : List (Frame L)) (finished : List L) : Nat :=
  table.countP fun entry => !(onPath path entry.1 || finished.contains entry.1)

/-- The work left on a path: two for each dependency to look at, one for each identifier. -/
def work : List (Frame L) → Nat
  | [] => 0
  | frame :: path => 2 * frame.pending.length + 1 + work path

theorem unopened_pop [EquivBEq L] (table : Dependencies L) (frame : Frame L) (path : List (Frame L))
    (finished : List L) :
    unopened table path (frame.id :: finished) = unopened table (frame :: path) finished := by
  unfold unopened
  congr 1
  funext entry
  have hcontains : (frame.id :: finished).contains entry.1 =
      (frame.id == entry.1 || finished.contains entry.1) := by
    simp only [List.contains_cons, BEq.comm]
  rw [hcontains]
  simp only [onPath, List.any_cons]
  cases frame.id == entry.1 <;> simp

theorem unopened_pending (table : Dependencies L) (id : L) (pending pending' : List L)
    (path : List (Frame L)) (finished : List L) :
    unopened table (⟨id, pending⟩ :: path) finished =
      unopened table (⟨id, pending'⟩ :: path) finished := by
  simp [unopened, onPath]

theorem unopened_push_le (table : Dependencies L) (frame : Frame L) (path : List (Frame L))
    (finished : List L) :
    unopened table (frame :: path) finished ≤ unopened table path finished := by
  unfold unopened
  apply List.countP_mono_left
  intro entry _
  simp only [onPath, List.any_cons]
  cases frame.id == entry.1 <;> simp

/-- The path holds the same identifiers whichever spelling of one is looked for. -/
theorem onPath_congr [EquivBEq L] (path : List (Frame L)) {id id' : L} (h : (id == id') = true) :
    onPath path id = onPath path id' := by
  unfold onPath
  congr 1
  funext frame
  exact BEq.congr_right h

/-- A list contains the same labels whichever spelling of one is looked for. -/
theorem contains_congr [EquivBEq L] (labels : List L) {id id' : L} (h : (id == id') = true) :
    labels.contains id = labels.contains id' := by
  induction labels with
  | nil => rfl
  | cons label labels ih => rw [List.contains_cons, List.contains_cons, ih, BEq.congr_left h]

/-- Opening an identifier that is neither on the path nor finished uses up an unopened entry, unless
the identifier has no dependencies. -/
theorem unopened_push_lt [EquivBEq L] (table : Dependencies L) (id : L) (pending : List L)
    (path : List (Frame L)) (finished : List L) (hpath : onPath path id = false)
    (hfinished : finished.contains id = false) (hdeps : table.of id ≠ []) :
    unopened table (⟨id, pending⟩ :: path) finished < unopened table path finished := by
  induction table with
  | nil => exact absurd rfl hdeps
  | cons entry table ih =>
    have hle := unopened_push_le table ⟨id, pending⟩ path finished
    cases hentry : id == entry.1 with
    | true =>
      rw [onPath_congr path hentry] at hpath
      rw [contains_congr finished hentry] at hfinished
      simp only [unopened, onPath, List.countP_cons, List.any_cons] at hle hpath ⊢
      simp only [hpath, hfinished, hentry] at hle ⊢
      simp at hle ⊢
      omega
    | false =>
      have hdeps' : Dependencies.of table id ≠ [] := by
        obtain ⟨key, sources⟩ := entry
        simpa [Dependencies.of, List.lookup_cons, hentry] using hdeps
      have := ih hdeps'
      simp only [unopened, onPath, List.countP_cons, List.any_cons] at this ⊢
      simp only [hentry, Bool.false_or]
      omega

/-- The measure of a walk, on pairs of numbers of unopened entries and of work left. -/
abbrev WalkMeasure : Nat × Nat → Nat × Nat → Prop := Prod.Lex (· < ·) (· < ·)

theorem walkMeasure_finish [EquivBEq L] (table : Dependencies L) (id : L) (path : List (Frame L))
    (finished : List L) :
    WalkMeasure (unopened table path (id :: finished), work path)
      (unopened table (⟨id, []⟩ :: path) finished, work (⟨id, []⟩ :: path)) := by
  rw [unopened_pop table ⟨id, []⟩]
  exact Prod.Lex.right _ (by simp [work])

theorem walkMeasure_pass (table : Dependencies L) (id dependency : L) (pending : List L)
    (path : List (Frame L)) (finished : List L) :
    WalkMeasure (unopened table (⟨id, pending⟩ :: path) finished, work (⟨id, pending⟩ :: path))
      (unopened table (⟨id, dependency :: pending⟩ :: path) finished,
        work (⟨id, dependency :: pending⟩ :: path)) := by
  rw [unopened_pending table id pending (dependency :: pending)]
  exact Prod.Lex.right _ (by simp [work])

theorem walkMeasure_enter [EquivBEq L] (table : Dependencies L) (id dependency : L)
    (pending : List L) (path : List (Frame L)) (finished : List L)
    (hpath : onPath (⟨id, pending⟩ :: path) dependency = false)
    (hfinished : finished.contains dependency = false) :
    WalkMeasure
      (unopened table (⟨dependency, table.of dependency⟩ :: ⟨id, pending⟩ :: path) finished,
        work (⟨dependency, table.of dependency⟩ :: ⟨id, pending⟩ :: path))
      (unopened table (⟨id, dependency :: pending⟩ :: path) finished,
        work (⟨id, dependency :: pending⟩ :: path)) := by
  rw [unopened_pending table id (dependency :: pending) pending]
  by_cases hdeps : table.of dependency = []
  · have hle := unopened_push_le table ⟨dependency, table.of dependency⟩
      (⟨id, pending⟩ :: path) finished
    rcases Nat.lt_or_eq_of_le hle with hlt | heq
    · exact Prod.Lex.left _ _ hlt
    · rw [heq]
      exact Prod.Lex.right _ (by simp [work, hdeps]; omega)
  · exact Prod.Lex.left _ _ (unopened_push_lt table dependency _ _ _ hpath hfinished hdeps)

/-! ### The walk for the order -/

/-- The identifiers finished, latest first, once a path, innermost identifier first, has been walked
to its end. -/
def orderPath [EquivBEq L] (table : Dependencies L) (path : List (Frame L)) (finished : List L) :
    List L :=
  match path with
  | [] => finished
  | ⟨id, []⟩ :: path => orderPath table path (id :: finished)
  | ⟨id, dependency :: pending⟩ :: path =>
    if onPath (⟨id, pending⟩ :: path) dependency || finished.contains dependency then
      orderPath table (⟨id, pending⟩ :: path) finished
    else
      orderPath table (⟨dependency, table.of dependency⟩ :: ⟨id, pending⟩ :: path) finished
termination_by (unopened table path finished, work path)
decreasing_by
  · exact walkMeasure_finish table id path finished
  · exact walkMeasure_pass table id dependency pending path finished
  · rename_i hnew
    simp only [Bool.or_eq_true, not_or, Bool.not_eq_true] at hnew
    exact walkMeasure_enter table id dependency pending path finished hnew.1 hnew.2

/-- The identifiers finished once a root has been walked from, unless it is finished already. -/
def orderRoot [EquivBEq L] (table : Dependencies L) (finished : List L) (root : L) : List L :=
  if finished.contains root then finished else orderPath table [⟨root, table.of root⟩] finished

/-- The identifiers that the roots depend on, roots included, dependencies first. -/
def executionOrder [EquivBEq L] (table : Dependencies L) (roots : List L) : List L :=
  (roots.foldl (orderRoot table) []).reverse

/-! ### The walk for the cycles -/

/-- The walk from a path, innermost identifier first, to its end. -/
def explore [EquivBEq L] (table : Dependencies L) (path : List (Frame L)) (found : Findings L) :
    Findings L :=
  match path with
  | [] => found
  | ⟨id, []⟩ :: path => explore table path (found.finish id)
  | ⟨id, dependency :: pending⟩ :: path =>
    if onPath (⟨id, pending⟩ :: path) dependency then
      explore table (⟨id, pending⟩ :: path)
        (found.close (cycleFrom (⟨id, pending⟩ :: path) dependency))
    else if found.finished.contains dependency then
      explore table (⟨id, pending⟩ :: path) found
    else
      explore table (⟨dependency, table.of dependency⟩ :: ⟨id, pending⟩ :: path) found
termination_by (unopened table path found.finished, work path)
decreasing_by
  · exact walkMeasure_finish table id path found.finished
  · exact walkMeasure_pass table id dependency pending path found.finished
  · exact walkMeasure_pass table id dependency pending path found.finished
  · rename_i hpath hfinished
    exact walkMeasure_enter table id dependency pending path found.finished
      (by simpa using hpath) (by simpa using hfinished)

/-- The walk from one root, unless it is finished already. -/
def visitRoot [EquivBEq L] (table : Dependencies L) (found : Findings L) (root : L) : Findings L :=
  if found.finished.contains root then found
  else explore table [⟨root, table.of root⟩] found

/-- The walk from every root in turn. -/
def walk [EquivBEq L] (table : Dependencies L) (roots : List L) : Findings L :=
  roots.foldl (visitRoot table) .start

/-- The cycles among the identifiers that the roots depend on, in the order in which they close. -/
def cycles [EquivBEq L] (table : Dependencies L) (roots : List L) : List (List L) :=
  (walk table roots).cycles.reverse

end ModuleGraph
