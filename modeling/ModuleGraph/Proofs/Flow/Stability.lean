import Mathlib
import ModuleGraph.Proofs.Flow.Cycles

/-!
# Stability of the walks

The walks take the roots one after the other and take nothing back: what they have found after some
of the roots they keep, whatever roots follow. A root whose dependencies are finished is finished at
once. So a list that puts dependencies first is its own execution order, and ordering once more
changes nothing unless there are cycles.

## Main definitions

- `Dependencies.IsTopological` — a list without repetitions that puts dependencies first

## Main statements

- `grows_walk` — what has been found from some of the roots is kept with more roots
- `visitRoot_settled` — a root whose dependencies are finished
- `walk_of_isTopological` — a list that puts dependencies first is walked through as it stands
- `isTopological_executionOrder` — without cycles the execution order is such a list
- `executionOrder_stable` — what this says about the execution order and the cycles
-/

namespace ModuleGraph

variable {L : Type} [BEq L] [LawfulBEq L]
variable {table : Dependencies L} {roots ids : List L} {found : Findings L}

/-! ### More roots -/

/-- More roots are walked from when the others have been. -/
theorem walk_append (table : Dependencies L) (roots more : List L) :
    walk table (roots ++ more) = more.foldl (visitRoot table) (walk table roots) :=
  List.foldl_append

theorem walk_concat (table : Dependencies L) (roots : List L) (root : L) :
    walk table (roots ++ [root]) = visitRoot table (walk table roots) root :=
  walk_append table roots [root]

/-- What has been found from some of the roots is kept, whatever roots follow. -/
theorem grows_walk (table : Dependencies L) (roots more : List L) :
    (walk table roots).Grows (walk table (roots ++ more)) := by
  rw [walk_append]
  exact grows_foldl table _ more

theorem cycles_isPrefix (table : Dependencies L) (roots more : List L) :
    cycles table roots <+: cycles table (roots ++ more) :=
  List.reverse_prefix.2 (grows_walk table roots more).cycles

theorem executionOrder_isPrefix (table : Dependencies L) (roots more : List L) :
    executionOrder table roots <+: executionOrder table (roots ++ more) := by
  rw [executionOrder_eq, executionOrder_eq]
  exact List.reverse_prefix.2 (grows_walk table roots more).finished

/-! ### Tables that list the same -/

/-- The walks see of a table what it lists for each identifier, and nothing else. -/
theorem explore_congr {table other : Dependencies L} (h : ∀ id, table.of id = other.of id)
    (path : List (Frame L)) (found : Findings L) :
    explore table path found = explore other path found := by
  fun_induction explore table path found with
  | case1 found => rw [explore]
  | case2 found id path ih =>
    rw [ih]
    conv_rhs => rw [explore]
  | case3 found id dependency pending path hpath ih =>
    rw [ih]
    conv_rhs => rw [explore, if_pos hpath]
  | case4 found id dependency pending path hpath hfinished ih =>
    rw [ih]
    conv_rhs => rw [explore, if_neg hpath, if_pos hfinished]
  | case5 found id dependency pending path hpath hfinished ih =>
    rw [ih, h dependency]
    conv_rhs => rw [explore, if_neg hpath, if_neg hfinished]

theorem walk_congr {table other : Dependencies L} (h : ∀ id, table.of id = other.of id)
    (roots : List L) : walk table roots = walk other roots := by
  have hvisit : visitRoot table = visitRoot other := by
    funext found root
    rw [visitRoot, visitRoot, explore_congr h, h]
  rw [walk, walk, hvisit]

/-! ### Dependencies that are finished -/

/-- An identifier is finished at once if what it has still to look at is finished. -/
theorem explore_settled {id : L} {pending : List L} (hnew : id ∉ found.finished)
    (hpending : pending ⊆ found.finished) :
    explore table [⟨id, pending⟩] found = found.finish id := by
  induction pending with
  | nil => rw [explore, explore]
  | cons dependency pending ih =>
    obtain ⟨hdependency, hrest⟩ := List.cons_subset.1 hpending
    have hpath : ¬ onPath [⟨id, pending⟩] dependency = true := by
      rintro hon
      cases List.mem_singleton.1 (onPath_iff.1 hon)
      exact hnew hdependency
    rw [explore, if_neg hpath, if_pos (List.contains_iff_mem.2 hdependency), ih hrest]

/-- A root is finished at once, and closes no cycle, if its dependencies are finished. -/
theorem visitRoot_settled {root : L} (hnew : root ∉ found.finished)
    (hsettled : table.of root ⊆ found.finished) :
    visitRoot table found root = found.finish root := by
  rw [visitRoot, if_neg (by simpa using hnew), explore_settled hnew hsettled]

/-! ### Lists that put dependencies first -/

/-- A list without repetitions in which the dependencies of an identifier stand before it. -/
structure Dependencies.IsTopological (table : Dependencies L) (ids : List L) : Prop where
  nodup : ids.Nodup
  before : ∀ id ∈ ids, ∀ dependency ∈ table.of id, ids.idxOf dependency < ids.idxOf id

theorem Dependencies.IsTopological.of_concat {id : L} (h : table.IsTopological (ids ++ [id])) :
    table.IsTopological ids ∧ id ∉ ids ∧ table.of id ⊆ ids := by
  have hnew : id ∉ ids := fun hid =>
    (List.nodup_append.1 h.nodup).2.2 id hid id List.mem_cons_self rfl
  have hearlier : ∀ other ∈ ids, ∀ dependency ∈ table.of other,
      dependency ∈ ids ∧ ids.idxOf dependency < ids.idxOf other := by
    intro other hother dependency hdirect
    have hlt := h.before other (List.mem_append_left _ hother) dependency hdirect
    rw [List.idxOf_append_of_mem hother] at hlt
    -- what stands before one of `ids` stands among them
    have hmem : dependency ∈ ids := by
      by_contra hout
      have hplace := List.idxOf_lt_length_of_mem hother
      rw [List.idxOf_append_of_notMem hout] at hlt
      omega
    rw [List.idxOf_append_of_mem hmem] at hlt
    exact ⟨hmem, hlt⟩
  refine ⟨⟨(List.nodup_append.1 h.nodup).1, fun other hother dependency hdirect =>
    (hearlier other hother dependency hdirect).2⟩, hnew, fun dependency hdirect => ?_⟩
  have hlt := h.before id (by simp) dependency hdirect
  exact (idxOf_lt_idxOf_iff h.nodup).1 hlt

/-- A list that puts dependencies first is finished as it stands, and no cycle is closed. -/
theorem walk_of_isTopological (h : table.IsTopological ids) :
    walk table ids = ⟨ids.reverse, []⟩ := by
  induction ids using List.reverseRecOn with
  | nil => rfl
  | append_singleton ids id ih =>
    obtain ⟨hearlier, hnew, hsettled⟩ := h.of_concat
    have hwalk := ih hearlier
    have hfinished : (walk table ids).finished = ids.reverse := by rw [hwalk]
    rw [walk_concat, visitRoot_settled (by simpa [hfinished] using hnew), hwalk,
      List.reverse_append]
    · rfl
    · simpa [hfinished] using hsettled

theorem executionOrder_of_isTopological (h : table.IsTopological ids) :
    executionOrder table ids = ids := by
  rw [executionOrder_eq, walk_of_isTopological h, List.reverse_reverse]

/-- Without cycles the execution order puts dependencies first. -/
theorem isTopological_executionOrder (h : table.AcyclicFrom roots) :
    table.IsTopological (executionOrder table roots) where
  nodup := nodup_executionOrder table roots
  before := by
    intro id hid dependency hdirect
    rcases idxOf_lt_or_closing hid hdirect with hlt | ⟨ring, hring, -⟩
    · exact hlt
    · rw [cycles_eq_nil_iff.2 h] at hring
      cases hring

/-! ### Stability -/

/-- **The execution order is stable.** A list without repetitions that puts dependencies first is
its own execution order. So if nothing that the roots lead to depends on itself, ordering the
execution order once more changes nothing. More roots behind the others leave what has been ordered
and the cycles that have been closed: they only add to both at the end. -/
theorem executionOrder_stable (table : Dependencies L) (roots : List L) :
    (∀ ids, table.IsTopological ids → executionOrder table ids = ids) ∧
    (table.AcyclicFrom roots →
      executionOrder table (executionOrder table roots) = executionOrder table roots) ∧
    ∀ more, executionOrder table roots <+: executionOrder table (roots ++ more) ∧
      cycles table roots <+: cycles table (roots ++ more) := by
  refine ⟨fun ids => executionOrder_of_isTopological, fun hacyclic => ?_, fun more => ?_⟩
  · exact executionOrder_of_isTopological (isTopological_executionOrder hacyclic)
  · exact ⟨executionOrder_isPrefix table roots more, cycles_isPrefix table roots more⟩

open Dependencies (tangled straight acyclicFrom_straight)

/-- The order of `b` and what it depends on is its own order. With `b` as one more root, the cycle
of `a` and `b` has been closed from `a` and is not reported again. -/
theorem executionOrder_stable_straight_tangled :
    straight.IsTopological [("a" : Text), ("b" : Text)] ∧
    executionOrder straight [("a" : Text), ("b" : Text)] = [("a" : Text), ("b" : Text)] ∧
    straight.AcyclicFrom ["b"] ∧
    executionOrder straight (executionOrder straight ["b"]) = executionOrder straight ["b"] ∧
    executionOrder tangled ["a"] <+: executionOrder tangled ["a", "b", "d"] ∧
    cycles tangled ["a"] <+: cycles tangled ["a", "b", "d"] := by
  obtain ⟨hfixed, hagain, -⟩ := executionOrder_stable straight ["b"]
  obtain ⟨-, -, hprefix⟩ := executionOrder_stable tangled ["a"]
  have htopological : straight.IsTopological [("a" : Text), ("b" : Text)] :=
    ⟨by decide, by decide⟩
  exact ⟨htopological, hfixed _ htopological, acyclicFrom_straight, hagain acyclicFrom_straight,
    hprefix ["b", "d"]⟩

/-- With a cycle, ordering once more turns the order around. -/
example :
    let table : Dependencies Text := [("a", ["b"]), ("b", ["a"])]
    executionOrder table ["a"] = [("b" : Text), ("a" : Text)] ∧
    executionOrder table ["b", "a"] = [("a" : Text), ("b" : Text)] := by
  constructor <;> cbv

end ModuleGraph
