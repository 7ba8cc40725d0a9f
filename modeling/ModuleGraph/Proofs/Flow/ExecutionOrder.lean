import ModuleGraph.Proofs.Flow.WalkInvariant

/-!
# The execution order

The execution order lists what the roots lead to, each identifier once. A dependency stands before
whatever depends on it, save where the step between the two closes a cycle.

## Main definitions

- `Findings.Grows` — what has been found is kept
- `lateSteps` — the steps to a dependency that does not stand before what depends on it

## Main statements

- `grows_explore`, `grows_foldl` — a path keeps what was found before it, and so do roots
- `mem_executionOrder_iff`, `nodup_executionOrder` — which identifiers are listed, and how often
- `closings_perm` — the steps that close the cycles are the `lateSteps` of the order
- `idxOf_lt_or_closing` — a dependency stands before, or its step closes one of the cycles
- `executionOrder_exact_dependencies_first` — the order is exact, and dependencies come first
  outside of cycles
-/

namespace ModuleGraph

variable {L : Type} [BEq L] [LawfulBEq L]
variable {table : Dependencies L} {roots : List L} {found : Findings L}

/-! ### Both walks finish the same -/

/-- From a path, the walk for the cycles finishes what the walk for the order finishes. -/
theorem finished_explore (table : Dependencies L) (path : List (Frame L)) (found : Findings L) :
    (explore table path found).finished = orderPath table path found.finished := by
  -- the walk for the order does not tell apart what is on the path and what is finished
  fun_induction explore table path found with
  | case1 found => rw [orderPath]
  | case2 found id path ih =>
    rw [ih, orderPath]
    rfl
  | case3 found id dependency pending path hpath ih =>
    rw [ih, orderPath, if_pos (by simp [hpath])]
    rfl
  | case4 found id dependency pending path hpath hfinished ih =>
    rw [ih, orderPath, if_pos (by rw [hfinished, Bool.or_true])]
  | case5 found id dependency pending path hpath hfinished ih =>
    rw [ih, orderPath, if_neg (by rw [Bool.or_eq_true]; exact not_or.2 ⟨hpath, hfinished⟩)]

theorem finished_visitRoot (table : Dependencies L) (found : Findings L) (root : L) :
    (visitRoot table found root).finished = orderRoot table found.finished root := by
  rw [visitRoot, orderRoot]
  split
  · rfl
  · exact finished_explore table _ found

theorem finished_walk (table : Dependencies L) (roots : List L) :
    (walk table roots).finished = roots.foldl (orderRoot table) [] :=
  (List.foldl_hom Findings.finished fun found root =>
    (finished_visitRoot table found root).symm).symm

theorem executionOrder_eq (table : Dependencies L) (roots : List L) :
    executionOrder table roots = (walk table roots).finished.reverse := by
  rw [executionOrder, finished_walk]

/-! ### What has been found is kept -/

/-- Later findings are earlier ones and what has been found since, which is listed in front. -/
structure Findings.Grows (found later : Findings L) : Prop where
  finished : found.finished <:+ later.finished
  cycles : found.cycles <:+ later.cycles

namespace Findings.Grows

omit [BEq L] [LawfulBEq L]

variable {later latest : Findings L}

theorem refl (found : Findings L) : found.Grows found := ⟨List.suffix_rfl, List.suffix_rfl⟩

theorem trans (h : found.Grows later) (hlater : later.Grows latest) : found.Grows latest :=
  ⟨h.finished.trans hlater.finished, h.cycles.trans hlater.cycles⟩

theorem finish (found : Findings L) (id : L) : found.Grows (found.finish id) :=
  ⟨List.suffix_cons _ _, List.suffix_rfl⟩

theorem close (found : Findings L) (cycle : List L) : found.Grows (found.close cycle) :=
  ⟨List.suffix_rfl, List.suffix_cons _ _⟩

end Findings.Grows

open Findings (Grows)

theorem grows_explore (table : Dependencies L) (path : List (Frame L)) (found : Findings L) :
    found.Grows (explore table path found) := by
  fun_induction explore table path found with
  | case1 found => exact .refl found
  | case2 found id path ih => exact (Grows.finish found id).trans ih
  | case3 found id dependency pending path hpath ih => exact (Grows.close found _).trans ih
  | case4 found id dependency pending path hpath hfinished ih => exact ih
  | case5 found id dependency pending path hpath hfinished ih => exact ih

theorem grows_visitRoot (table : Dependencies L) (found : Findings L) (root : L) :
    found.Grows (visitRoot table found root) := by
  rw [visitRoot]
  split
  · exact .refl found
  · exact grows_explore table _ found

theorem grows_foldl (table : Dependencies L) (found : Findings L) (ids : List L) :
    found.Grows (ids.foldl (visitRoot table) found) := by
  induction ids generalizing found with
  | nil => exact .refl found
  | cons id ids ih => exact (grows_visitRoot table found id).trans (ih _)

/-! ### Nothing is left out -/

/-- All that the walk has come to is finished at its end, in the order of `entered`. -/
theorem sublist_finished_explore (table : Dependencies L) (path : List (Frame L))
    (found : Findings L) :
    (entered path found.finished).Sublist (explore table path found).finished := by
  fun_induction explore table path found with
  | case1 found => exact .refl _
  | case2 found id path ih =>
    rw [entered_finish]
    exact ih
  | case3 found id dependency pending path hpath ih => exact ih
  | case4 found id dependency pending path hpath hfinished ih => exact ih
  | case5 found id dependency pending path hpath hfinished ih =>
    exact (sublist_entered_push _ _ _).trans ih

theorem mem_finished_visitRoot (table : Dependencies L) (found : Findings L) (root : L) :
    root ∈ (visitRoot table found root).finished := by
  rw [visitRoot]
  split
  · rename_i hdone
    simpa using hdone
  · exact (sublist_finished_explore table [⟨root, table.of root⟩] found).subset
      (mem_entered_push.2 (.inl rfl))

theorem subset_finished_foldl (table : Dependencies L) (found : Findings L) (ids : List L) :
    ids ⊆ (ids.foldl (visitRoot table) found).finished := by
  induction ids generalizing found with
  | nil => exact List.nil_subset _
  | cons id ids ih =>
    intro other hother
    rcases List.mem_cons.1 hother with rfl | hother
    · exact (grows_foldl table _ ids).finished.subset (mem_finished_visitRoot table found other)
    · exact ih _ hother

/-! ### Which identifiers are listed -/

theorem mem_finished_walk_iff {id : L} :
    id ∈ (walk table roots).finished ↔ table.ReachableFrom roots id := by
  have hprogress := (WalkInvariant.walk table roots).progress
  constructor
  · exact hprogress.reachable id
  · exact fun h => h.mem_of_closed (subset_finished_foldl table .start roots) hprogress.settled

theorem mem_executionOrder_iff {id : L} :
    id ∈ executionOrder table roots ↔ table.ReachableFrom roots id := by
  rw [executionOrder_eq, List.mem_reverse, mem_finished_walk_iff]

theorem nodup_executionOrder (table : Dependencies L) (roots : List L) :
    (executionOrder table roots).Nodup := by
  rw [executionOrder_eq]
  exact List.nodup_reverse.2 (WalkInvariant.walk table roots).progress.nodup

/-! ### What stands before what -/

/-- The steps to a dependency that does not stand before what depends on it in the given order. -/
def lateSteps (table : Dependencies L) (order : List L) : List (L × L) :=
  order.flatMap fun id =>
    ((table.of id).filter fun dependency => ¬ order.idxOf dependency < order.idxOf id).map (id, ·)

omit [LawfulBEq L] in
theorem mem_lateSteps {order : List L} {id dependency : L} :
    (id, dependency) ∈ lateSteps table order ↔
      id ∈ order ∧ dependency ∈ table.of id ∧ ¬ order.idxOf dependency < order.idxOf id := by
  simp [lateSteps]

/-- What stands before an identifier is what the order lists in front of it. -/
theorem idxOf_lt_idxOf_iff {before after : List L} {id dependency : L}
    (hnodup : (before ++ id :: after).Nodup) :
    (before ++ id :: after).idxOf dependency < (before ++ id :: after).idxOf id ↔
      dependency ∈ before := by
  have hid : id ∉ before := fun hid =>
    (List.nodup_append.1 hnodup).2.2 id hid id List.mem_cons_self rfl
  rw [List.idxOf_append_of_notMem hid, List.idxOf_cons_self]
  by_cases hbefore : dependency ∈ before
  · simpa [List.idxOf_append_of_mem hbefore, hbefore] using List.idxOf_lt_length_iff.2 hbefore
  · simp [List.idxOf_append_of_notMem hbefore, hbefore]

/-- The steps that lead back from the earlier ones of what is finished are late steps of the order
in which all of it was finished. -/
theorem backSteps_eq_flatMap (later earlier : List L) (hnodup : (later ++ earlier).Nodup) :
    backSteps table earlier = earlier.flatMap fun id =>
      ((table.of id).filter fun dependency =>
        ¬ (later ++ earlier).reverse.idxOf dependency < (later ++ earlier).reverse.idxOf id).map
          (id, ·) := by
  induction earlier generalizing later with
  | nil => rfl
  | cons id earlier ih =>
    have hsplit : later ++ id :: earlier = (later ++ [id]) ++ earlier := by simp
    have horder : (later ++ id :: earlier).reverse = earlier.reverse ++ id :: later.reverse := by
      simp
    have hbefore (dependency : L) :
        (later ++ id :: earlier).reverse.idxOf dependency <
          (later ++ id :: earlier).reverse.idxOf id ↔ dependency ∈ earlier := by
      rw [← List.nodup_reverse, horder] at hnodup
      rw [horder, idxOf_lt_idxOf_iff hnodup, List.mem_reverse]
    rw [backSteps, List.flatMap_cons]
    simp only [hbefore]
    congr 1
    · simp
    · rw [hsplit]
      exact ih (later ++ [id]) (hsplit ▸ hnodup)

/-- The steps that close the cycles are the late steps of the execution order. -/
theorem closings_perm (table : Dependencies L) (roots : List L) :
    ((cycles table roots).filterMap closingStep?).Perm
      (lateSteps table (executionOrder table roots)) := by
  have hwalk := WalkInvariant.walk table roots
  have hback : backSteps table (walk table roots).finished = _ :=
    backSteps_eq_flatMap [] _ hwalk.progress.nodup
  have hclosings := hwalk.closings
  rw [openSteps, List.nil_append, hback, List.nil_append, ← executionOrder_eq] at hclosings
  refine ((List.reverse_perm _).filterMap _).trans (hclosings.trans ?_)
  rw [lateSteps, executionOrder_eq]
  exact (List.reverse_perm _).symm.flatMap_right _

/-- A dependency stands before what depends on it, or the step to it closes one of the cycles. -/
theorem idxOf_lt_or_closing {id dependency : L} (hid : id ∈ executionOrder table roots)
    (hdirect : dependency ∈ table.of id) :
    (executionOrder table roots).idxOf dependency < (executionOrder table roots).idxOf id ∨
      ∃ ring ∈ cycles table roots, closingStep? ring = some (id, dependency) := by
  by_cases hlt :
      (executionOrder table roots).idxOf dependency < (executionOrder table roots).idxOf id
  · exact .inl hlt
  · have hlate := mem_lateSteps.2 ⟨hid, hdirect, hlt⟩
    exact .inr (List.mem_filterMap.1 ((closings_perm table roots).mem_iff.2 hlate))

theorem isRing_of_mem_cycles {ring : List L} (h : ring ∈ cycles table roots) : table.IsRing ring :=
  (WalkInvariant.walk table roots).rings ring (List.mem_reverse.1 h)

/-- The step that closes a cycle leads to something that needs where it comes from. -/
theorem needs_of_closing {ring : List L} {id dependency : L} (h : ring ∈ cycles table roots)
    (hstep : closingStep? ring = some (id, dependency)) : table.Needs dependency id := by
  obtain ⟨hlast, hfirst⟩ := closingStep?_eq_some_iff.1 hstep
  exact (isRing_of_mem_cycles h).needs (List.mem_of_mem_head? hfirst) (List.mem_of_getLast? hlast)

/-- A dependency that does not need what depends on it stands before it. -/
theorem idxOf_lt_of_not_needs {id dependency : L} (hid : id ∈ executionOrder table roots)
    (hdirect : dependency ∈ table.of id) (hneeds : ¬ table.Needs dependency id) :
    (executionOrder table roots).idxOf dependency < (executionOrder table roots).idxOf id := by
  rcases idxOf_lt_or_closing hid hdirect with hlt | ⟨ring, hring, hstep⟩
  · exact hlt
  · exact absurd (needs_of_closing hring hstep) hneeds

/-- **The execution order is exact, and dependencies come first**: it lists what the roots lead to,
each identifier once; a dependency stands before whatever depends on it unless it needs that in
turn; and so without cycles every dependency stands before. -/
theorem executionOrder_exact_dependencies_first (table : Dependencies L) (roots : List L) :
    (executionOrder table roots).Nodup ∧
    (∀ id, id ∈ executionOrder table roots ↔ table.ReachableFrom roots id) ∧
    (∀ id ∈ executionOrder table roots, ∀ dependency ∈ table.of id,
      ¬ table.Needs dependency id →
        (executionOrder table roots).idxOf dependency < (executionOrder table roots).idxOf id) ∧
    (table.AcyclicFrom roots →
      ∀ id ∈ executionOrder table roots, ∀ dependency ∈ table.of id,
        (executionOrder table roots).idxOf dependency <
          (executionOrder table roots).idxOf id) := by
  refine ⟨nodup_executionOrder table roots, fun id => mem_executionOrder_iff,
    fun id hid dependency => idxOf_lt_of_not_needs hid, ?_⟩
  intro hacyclic id hid dependency hdirect
  refine idxOf_lt_of_not_needs hid hdirect fun hneeds => ?_
  exact hacyclic id (mem_executionOrder_iff.1 hid) (.head' hdirect hneeds)

namespace Dependencies

/-- `a` depends twice on `b` and on `x`, `b` on `c` and back on `a`, and `c` on itself. -/
def tangled : Dependencies Text :=
  [("a", ["b", "b", "x"]), ("b", ["c", "a"]), ("c", ["c"])]

/-- `b` depends on `a`, which is not listed. -/
def straight : Dependencies Text := [("b", ["a"])]

theorem acyclicFrom_straight : straight.AcyclicFrom ["b"] := by
  have hdirect {id dependency : Text} (h : dependency ∈ straight.of id) :
      id = "b" ∧ dependency = "a" := by
    cases hid : id == "b" with
    | true => exact ⟨eq_of_beq hid, by simpa [straight, of, List.lookup_cons, hid] using h⟩
    | false => simp [straight, of, List.lookup_cons, hid] at h
  intro id _ hloop
  obtain ⟨next, hfirst, hneeds⟩ := Relation.TransGen.head'_iff.1 hloop
  obtain ⟨rfl, rfl⟩ := hdirect hfirst
  rcases hneeds.cases_head with heq | ⟨other, hsecond, -⟩
  · exact absurd heq (by decide)
  · exact absurd (hdirect hsecond).1 (by decide)

end Dependencies

open Dependencies (tangled straight acyclicFrom_straight)

theorem executionOrder_tangled_straight :
    (∃ id dependency : Text, dependency ∈ tangled.of id ∧ ¬ tangled.Needs dependency id ∧
      (executionOrder tangled ["a", "a", "d"]).idxOf dependency <
        (executionOrder tangled ["a", "a", "d"]).idxOf id) ∧
    straight.AcyclicFrom ["b"] ∧
    (executionOrder straight ["b"]).idxOf ("a" : Text) <
      (executionOrder straight ["b"]).idxOf ("b" : Text) := by
  have htangled := executionOrder_exact_dependencies_first tangled ["a", "a", "d"]
  have hstraight := executionOrder_exact_dependencies_first straight ["b"]
  have hneeds : ¬ tangled.Needs "x" "a" := by
    intro hneeds
    rcases hneeds.cases_head with heq | ⟨other, hdirect, -⟩
    · exact absurd heq (by decide)
    · exact List.not_mem_nil hdirect
  refine ⟨⟨"a", "x", by decide, hneeds, ?_⟩, acyclicFrom_straight, ?_⟩
  · have ha := (htangled.2.1 "a").2 (.root List.mem_cons_self)
    exact htangled.2.2.1 "a" ha "x" (by decide) hneeds
  · have hb := (hstraight.2.1 "b").2 (.root List.mem_cons_self)
    exact hstraight.2.2.2 acyclicFrom_straight "b" hb "a" (by decide)

example : executionOrder tangled ["a", "a", "d"] =
    [("c" : Text), ("b" : Text), ("x" : Text), ("a" : Text), ("d" : Text)] := by cbv

end ModuleGraph
