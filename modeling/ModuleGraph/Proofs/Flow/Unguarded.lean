import ModuleGraph.Flow.Analysis
import ModuleGraph.Proofs.Flow.DependencyTable
import ModuleGraph.Proofs.Flow.WalkInvariant

/-!
# Analyses by look-ups that can miss

An analysis changes the entries of a table, which may have none for an identifier, and the walk for
the cycles looks for an identifier on a path that may not hold it. Here each of these can miss. The
path, the set of the identifiers on it and the dependencies still to be looked at are kept apart, as
three values that may disagree. They never do, and nothing is ever missed: wires end at nodes, every
node has an entry, and the path holds what the set holds.

## Main definitions

- `Miss` — why a look-up misses
- `Unguarded.addSource`, `Unguarded.dependencies` — the table, by look-ups of its entries
- `Unguarded.search`, `Unguarded.cycles` — the walk for the cycles, by look-ups on the path
- `Unguarded.analyze` — the analysis made of them

## Main statements

- `Unguarded.dependencies_eq_ok` — no entry is missed
- `Unguarded.search_eq_ok` — nothing is missed on the path
- `Unguarded.analyze_eq_ok` — the analysis is the one that misses nothing
-/

namespace ModuleGraph

/-- Why a look-up misses. -/
inductive Miss (L : Type) where
  /-- The table has no entry for an identifier. -/
  | noEntry (id : L)
  /-- The path does not hold an identifier. -/
  | notOnPath (id : L)
  /-- The path has no end to be taken off. -/
  | emptyPath
  /-- No node has an identifier. -/
  | noNode (id : L)
  deriving DecidableEq, Repr

namespace Unguarded

theorem ok_bind {ε α β : Type} (value : α) (next : α → Except ε β) :
    (Except.ok value >>= next) = next value := rfl

/-- A fold whose steps do not fail where the invariant holds, and keep it, does not fail. -/
theorem foldlM_eq_ok {σ α ε : Type} {tryStep : σ → α → Except ε σ} {step : σ → α → σ}
    (Invariant : σ → Prop) {items : List α}
    (hstep : ∀ item ∈ items, ∀ state, Invariant state →
      tryStep state item = .ok (step state item) ∧ Invariant (step state item))
    {start : σ} (hstart : Invariant start) :
    items.foldlM tryStep start = .ok (items.foldl step start) := by
  induction items generalizing start with
  | nil => rfl
  | cons item items ih =>
    rw [List.forall_mem_cons] at hstep
    obtain ⟨hfirst, hkept⟩ := hstep.1 start hstart
    rw [List.foldlM_cons, hfirst, List.foldl_cons]
    exact ih hstep.2 hkept

variable {L : Type} [BEq L]

/-! ### The table of dependencies -/

/-- The table with other dependencies for an identifier. -/
def putSources (table : Dependencies L) (target : L) (sources : List L) : Dependencies L :=
  table.map fun (id, old) => if id == target then (id, sources) else (id, old)

/-- The table in which `target` also depends on `source`. -/
def addSource (table : Dependencies L) (target source : L) : Except (Miss L) (Dependencies L) :=
  match table.lookup target with
  | none => .error (.noEntry target)
  | some sources =>
    .ok (if sources.contains source then table else putSources table target (sources ++ [source]))

/-- The table of dependencies of a graph. -/
def dependencies (nodes : List (Node L)) (connections : List (Connection L)) :
    Except (Miss L) (Dependencies L) :=
  (resolved nodes connections).foldlM
    (fun table wire => addSource table wire.targetNode.id wire.sourceNode.id)
    ((distinctIds nodes).map fun id => (id, []))

section Table

variable [LawfulBEq L]

theorem addSource_map {ids : List L} {target : L} (h : target ∈ ids) (sources : L → List L)
    (source : L) :
    addSource (ids.map fun id => (id, sources id)) target source =
      .ok (Dependencies.add (ids.map fun id => (id, sources id)) target source) := by
  rw [addSource, lookup_map_key, if_pos h, add_map]
  refine congrArg Except.ok ?_
  by_cases hlisted : source ∈ sources target
  · -- then the table stays, and adding the source leaves the entry of the target as it is
    rw [if_pos (List.contains_iff_mem.2 hlisted)]
    refine List.map_congr_left fun id _ => ?_
    by_cases htarget : id = target
    · simp [htarget, hlisted]
    · simp [htarget]
  · rw [if_neg (mt List.contains_iff_mem.1 hlisted), putSources, List.map_map]
    refine List.map_congr_left fun id _ => ?_
    by_cases htarget : id = target
    · simp [htarget, hlisted]
    · simp [htarget]

/-- Every wire ends at a node, and every node has an entry. -/
theorem dependencies_eq_ok (nodes : List (Node L)) (connections : List (Connection L)) :
    dependencies nodes connections = .ok (ModuleGraph.dependencies nodes connections) := by
  have hkeep : ∀ wire ∈ resolved nodes connections, ∀ table : Dependencies L,
      (∃ sources : L → List L, table = (distinctIds nodes).map fun id => (id, sources id)) →
      addSource table wire.targetNode.id wire.sourceNode.id =
          .ok (table.add wire.targetNode.id wire.sourceNode.id) ∧
        ∃ sources : L → List L, table.add wire.targetNode.id wire.sourceNode.id =
          (distinctIds nodes).map fun id => (id, sources id) := by
    rintro wire hwire _ ⟨sources, rfl⟩
    exact ⟨addSource_map (id_targetNode_mem hwire) sources _, _, add_map _ _ _ _⟩
  exact foldlM_eq_ok _ hkeep ⟨fun _ => [], rfl⟩

end Table

/-! ### The walk for the cycles -/

/-- The work left on a stack: two for each dependency to look at, one for each list of them. -/
def stackWork : List (List L) → Nat
  | [] => 0
  | pending :: stack => 2 * pending.length + 1 + stackWork stack

/-- The set without an identifier. -/
def discard (members : List L) (id : L) : List L := members.filter (· != id)

/-- A path that holds the given identifiers. -/
def framesOf (members : List L) : List (Frame L) := members.map (⟨·, []⟩)

theorem walkMeasure_of_le {fresh fresh' left left' : Nat} (hfresh : fresh' ≤ fresh)
    (hleft : left' < left) : WalkMeasure (fresh', left') (fresh, left) := by
  rcases Nat.lt_or_eq_of_le hfresh with hless | rfl
  · exact Prod.Lex.left _ _ hless
  · exact Prod.Lex.right _ hleft

theorem onPath_framesOf [LawfulBEq L] (members : List L) (id : L) :
    onPath (framesOf members) id = members.contains id := by
  rw [onPath, framesOf, List.any_map, List.contains_eq_any_beq]
  exact congrArg members.any (funext fun _ => BEq.comm)

theorem walkMeasure_leave [LawfulBEq L] (table : Dependencies L) (stack : List (List L))
    (members finished : List L) (done : L) :
    WalkMeasure
      (unopened table (framesOf (discard members done)) (done :: finished), stackWork stack)
      (unopened table (framesOf members) finished, stackWork ([] :: stack)) := by
  refine walkMeasure_of_le (List.countP_mono_left fun entry _ => ?_) (by rw [stackWork]; omega)
  simp only [onPath_framesOf, discard]
  by_cases hdone : entry.1 = done
  · simp [hdone]
  · simp [hdone]

theorem walkMeasure_skip (table : Dependencies L) (stack : List (List L))
    (members finished : List L) (dependency : L) (pending : List L) :
    WalkMeasure
      (unopened table (framesOf members) finished, stackWork (pending :: stack))
      (unopened table (framesOf members) finished,
        stackWork ((dependency :: pending) :: stack)) := by
  refine walkMeasure_of_le (Nat.le_refl _) ?_
  rw [stackWork, stackWork, List.length_cons]
  omega

theorem walkMeasure_open [LawfulBEq L] (table : Dependencies L) (stack : List (List L))
    (members finished : List L) (dependency : L) (pending : List L)
    (hmembers : members.contains dependency = false)
    (hfinished : finished.contains dependency = false) :
    WalkMeasure
      (unopened table (framesOf (dependency :: members)) finished,
        stackWork (table.of dependency :: pending :: stack))
      (unopened table (framesOf members) finished,
        stackWork ((dependency :: pending) :: stack)) := by
  by_cases hdeps : table.of dependency = []
  · refine walkMeasure_of_le (unopened_push_le table ⟨dependency, []⟩ _ _) ?_
    simp only [hdeps, stackWork, List.length_cons, List.length_nil]
    omega
  · rw [← onPath_framesOf] at hmembers
    exact Prod.Lex.left _ _
      (unopened_push_lt table dependency [] _ _ hmembers hfinished hdeps)

/-- The walk from a path to its end, where `stack` has the dependencies that are still to be looked
at, innermost first, `path` the identifiers from the outside in, and `members` the set of these. -/
def search [LawfulBEq L] (table : Dependencies L) (stack : List (List L))
    (path members : List L) (found : Findings L) : Except (Miss L) (Findings L) :=
  match stack with
  | [] => .ok found
  | [] :: stack =>
    match path.getLast? with
    | none => .error .emptyPath
    | some done =>
      search table stack path.dropLast (discard members done) (found.finish done)
  | (dependency :: pending) :: stack =>
    if members.contains dependency then
      match path.idxOf? dependency with
      | none => .error (.notOnPath dependency)
      | some index =>
        search table (pending :: stack) path members (found.close (path.drop index))
    else if found.finished.contains dependency then
      search table (pending :: stack) path members found
    else
      search table (table.of dependency :: pending :: stack) (path ++ [dependency])
        (dependency :: members) found
-- measured by the set, which says what is opened even where the path would not agree with it
termination_by (unopened table (framesOf members) found.finished, stackWork stack)
decreasing_by
  · exact walkMeasure_leave table stack members found.finished done
  · exact walkMeasure_skip table stack members found.finished dependency pending
  · exact walkMeasure_skip table stack members found.finished dependency pending
  · rename_i hmembers hfinished
    exact walkMeasure_open table stack members found.finished dependency pending
      (by simpa using hmembers) (by simpa using hfinished)

variable [LawfulBEq L]

/-- The walk from one root, unless it is finished already. -/
def visitRoot (table : Dependencies L) (found : Findings L) (root : L) :
    Except (Miss L) (Findings L) :=
  if found.finished.contains root then .ok found
  else search table [table.of root] [root] [root] found

/-- The cycles among the identifiers that the roots depend on, in the order in which they close. -/
def cycles (table : Dependencies L) (roots : List L) : Except (Miss L) (List (List L)) := do
  let found ← roots.foldlM (visitRoot table) .start
  return found.cycles.reverse

/-! ### Nothing is missed -/

section Moves

variable {ids : List L} {id dependency : L} {pending : List L} {stack : List (List L)}
variable {table : Dependencies L} {found : Findings L}

/-- From the outside in, the part of the path from `id` on. -/
theorem drop_idxOf?_reverse (h : id ∈ ids) (hids : ids.Nodup) :
    ∃ index, ids.reverse.idxOf? id = some index ∧
      ids.reverse.drop index = id :: (ids.takeWhile (· != id)).reverse := by
  obtain ⟨outer, houter⟩ := takeWhile_append_isPrefix h
  have hreverse : ids.reverse = outer.reverse ++ id :: (ids.takeWhile (· != id)).reverse := by
    conv_lhs => rw [← houter]
    simp
  have houtside : id ∉ outer.reverse := by
    rw [← houter, List.nodup_append] at hids
    intro hid
    exact hids.2.2 id (by simp) id (List.mem_reverse.1 hid) rfl
  refine ⟨outer.length, ?_, ?_⟩
  · have hnone : outer.reverse.idxOf? id = none := List.idxOf?_eq_none_iff.2 houtside
    rw [List.idxOf?] at hnone ⊢
    rw [hreverse, List.findIdx?_append, hnone]
    simp [List.findIdx?_cons]
  · rw [hreverse, List.drop_left' (List.length_reverse)]

theorem search_leave (h : (id :: ids).Nodup) :
    search table ([] :: stack) (id :: ids).reverse (id :: ids) found =
      search table stack ids.reverse ids (found.finish id) := by
  rw [List.nodup_cons] at h
  have hmembers : discard (id :: ids) id = ids := by
    rw [discard, List.filter_cons_of_neg (by simp), List.filter_eq_self]
    intro other hother
    simpa using fun hsame : other = id => h.1 (hsame ▸ hother)
  rw [search, List.reverse_cons, List.getLast?_concat]
  simp only [List.dropLast_concat, hmembers]

theorem search_close (h : dependency ∈ ids) (hids : ids.Nodup) :
    search table ((dependency :: pending) :: stack) ids.reverse ids found =
      search table (pending :: stack) ids.reverse ids
        (found.close (dependency :: (ids.takeWhile (· != dependency)).reverse)) := by
  obtain ⟨index, hindex, hcycle⟩ := drop_idxOf?_reverse h hids
  rw [search, if_pos (List.contains_iff_mem.2 h), hindex]
  simp only [hcycle]

theorem search_pass (h : dependency ∉ ids) (hfinished : found.finished.contains dependency = true) :
    search table ((dependency :: pending) :: stack) ids.reverse ids found =
      search table (pending :: stack) ids.reverse ids found := by
  rw [search, if_neg (mt List.contains_iff_mem.1 h), if_pos hfinished]

theorem search_enter (h : dependency ∉ ids)
    (hfinished : ¬ found.finished.contains dependency = true) :
    search table ((dependency :: pending) :: stack) ids.reverse ids found =
      search table (table.of dependency :: pending :: stack) (dependency :: ids).reverse
        (dependency :: ids) found := by
  rw [search, if_neg (mt List.contains_iff_mem.1 h), if_neg hfinished, List.reverse_cons]

end Moves

/-- Nothing is missed where the stack, the path and the set are those of one path without
repetition. -/
theorem search_eq_ok (table : Dependencies L) (path : List (Frame L)) (found : Findings L)
    (h : (path.map (·.id)).Nodup) :
    search table (path.map (·.pending)) (path.map (·.id)).reverse (path.map (·.id)) found =
      .ok (explore table path found) := by
  -- every move of the walk keeps the three in step
  fun_induction explore table path found with
  | case1 found => rw [List.map_nil, search.eq_def]
  | case2 found id path ih => exact (search_leave h).trans (ih (List.nodup_cons.1 h).2)
  | case3 found id dependency pending path hpath ih =>
    exact (search_close (onPath_iff.1 hpath) h).trans (ih h)
  | case4 found id dependency pending path hpath hfinished ih =>
    exact (search_pass (mt onPath_iff.2 hpath) hfinished).trans (ih h)
  | case5 found id dependency pending path hpath hfinished ih =>
    have hnew := mt onPath_iff.2 hpath
    exact (search_enter hnew hfinished).trans (ih (List.nodup_cons.2 ⟨hnew, h⟩))

theorem visitRoot_eq_ok (table : Dependencies L) (found : Findings L) (root : L) :
    visitRoot table found root = .ok (ModuleGraph.visitRoot table found root) := by
  rw [visitRoot, ModuleGraph.visitRoot]
  split
  · rfl
  · exact search_eq_ok table [⟨root, table.of root⟩] found (List.nodup_singleton root)

theorem cycles_eq_ok (table : Dependencies L) (roots : List L) :
    cycles table roots = .ok (ModuleGraph.cycles table roots) := by
  have hwalk : roots.foldlM (visitRoot table) .start = .ok (walk table roots) :=
    foldlM_eq_ok (fun _ => True)
      (fun root _ found _ => ⟨visitRoot_eq_ok table found root, trivial⟩) trivial
  rw [cycles, hwalk]
  rfl

/-! ### The analysis -/

/-- The analysis of a graph. -/
def analyze {L : Type} [Label L] [LawfulBEq L] (nodes : List (Node L))
    (connections : List (Connection L)) : Except (Miss L) (Analysis L) := do
  let table ← dependencies nodes connections
  let found ← cycles table (distinctIds nodes)
  return {
    dependencies := table
    executionOrder := executionOrder table (distinctIds nodes)
    cycles := found
    isolated := isolatedIds nodes connections }

theorem analyze_eq_ok {L : Type} [Label L] [LawfulBEq L] (nodes : List (Node L))
    (connections : List (Connection L)) :
    analyze nodes connections = .ok (ModuleGraph.analyze nodes connections) := by
  rw [analyze, dependencies_eq_ok, ok_bind, cycles_eq_ok]
  rfl

end Unguarded

end ModuleGraph
