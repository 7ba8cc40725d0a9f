import ModuleGraph.Proofs.Flow.Progress

/-!
# The invariant of the depth-first walk

What holds between any two moves of the walk, and so at its end: beside its progress, an exact
account of the cycles that it has closed.

## Main definitions

- `openSteps`, `backSteps` — the steps of dependency that lead back: from the path, and from what
  is finished
- `WalkInvariant` — progress, and the cycles closed are those that the steps leading back close
- `WalkInvariant.explore`, `WalkInvariant.walk` — it holds at the end of a path and of the walk
-/

namespace ModuleGraph

variable {L : Type} [BEq L]

/-! ### Steps that lead back -/

/-- The dependencies of a frame that have been looked at and lie on the path up to it. -/
def Frame.returns (table : Dependencies L) (path : List (Frame L)) (frame : Frame L) :
    List (L × L) :=
  ((frame.examined table).filter fun dependency => onPath (frame :: path) dependency).map
    (frame.id, ·)

/-- The steps looked at that lead from the path back to the path. -/
def openSteps (table : Dependencies L) : List (Frame L) → List (L × L)
  | [] => []
  | frame :: path => frame.returns table path ++ openSteps table path

/-- The steps from what is finished, latest first, to what was not finished before. -/
def backSteps (table : Dependencies L) : List L → List (L × L)
  | [] => []
  | id :: earlier =>
    ((table.of id).filter fun dependency => !earlier.contains dependency).map (id, ·) ++
      backSteps table earlier

variable {table : Dependencies L} {roots : List L} {path : List (Frame L)} {found : Findings L}
variable {id dependency : L} {pending : List L}

theorem Frame.returns_next (h : dependency :: pending <:+ table.of id) :
    (⟨id, pending⟩ : Frame L).returns table path =
      (⟨id, dependency :: pending⟩ : Frame L).returns table path ++
        if onPath (⟨id, pending⟩ :: path) dependency then [(id, dependency)] else [] := by
  have hpath : onPath (⟨id, pending⟩ :: path) = onPath (⟨id, dependency :: pending⟩ :: path) := by
    funext other
    simp [onPath]
  rw [Frame.returns, Frame.returns, Frame.examined_next h, List.filter_append, List.map_append,
    hpath]
  congr 1
  split <;> rename_i hon <;> simp [hon]

variable [LawfulBEq L]

theorem onPath_iff : onPath path id = true ↔ id ∈ path.map (·.id) := by
  simp [onPath]

theorem mem_entered : id ∈ entered path found.finished ↔
    onPath path id = true ∨ found.finished.contains id = true := by
  simp [entered, onPath_iff]

/-- What is entered and unfinished is on the path, and nothing finished is. -/
theorem Progress.onPath_eq (h : Progress table roots path found.finished)
    (hentered : id ∈ entered path found.finished) :
    onPath path id = !found.finished.contains id := by
  have hdisjoint := (List.nodup_append.1 h.nodup).2.2
  rcases List.mem_append.1 hentered with hpath | hfinished
  · have hpath := List.mem_reverse.1 hpath
    have hfinished : id ∉ found.finished := fun hid =>
      hdisjoint id (List.mem_reverse.2 hpath) id hid rfl
    simp [onPath_iff.2 hpath, hfinished]
  · have hpath : ¬ onPath path id = true := fun hid =>
      hdisjoint id (List.mem_reverse.2 (onPath_iff.1 hid)) id hfinished rfl
    simp [hpath, hfinished]

/-! ### The ring that a dependency on the path closes -/

theorem takeWhile_append_isPrefix {ids : List L} (h : id ∈ ids) :
    ids.takeWhile (· != id) ++ [id] <+: ids := by
  induction ids with
  | nil => exact absurd h List.not_mem_nil
  | cons first ids ih =>
    by_cases hfirst : first = id
    · simp [hfirst]
    · have hrest : id ∈ ids := (List.mem_cons.1 h).resolve_left (Ne.symm hfirst)
      rw [List.takeWhile_cons_of_pos (by simpa using hfirst), List.cons_append]
      exact (List.prefix_cons_inj first).2 (ih hrest)

/-- Read backwards, the ring is the innermost part of the path. -/
theorem reverse_cycleFrom_isPrefix (h : onPath path dependency = true) :
    (cycleFrom path dependency).reverse <+: path.map (·.id) := by
  rw [cycleFrom, List.reverse_cons, List.reverse_reverse]
  exact takeWhile_append_isPrefix (onPath_iff.1 h)

theorem getLast?_cycleFrom {frame : Frame L} (h : onPath (frame :: path) dependency = true) :
    (cycleFrom (frame :: path) dependency).getLast? = some frame.id := by
  obtain ⟨rest, hrest⟩ := reverse_cycleFrom_isPrefix h
  have hne : (cycleFrom (frame :: path) dependency).reverse ≠ [] := by simp [cycleFrom]
  rw [← List.head?_reverse, ← List.head?_append_of_ne_nil _ hne, hrest]
  rfl

theorem closingStep?_cycleFrom {frame : Frame L} (h : onPath (frame :: path) dependency = true) :
    closingStep? (cycleFrom (frame :: path) dependency) = some (frame.id, dependency) :=
  closingStep?_eq_some_iff.2 ⟨getLast?_cycleFrom h, rfl⟩

/-- The ring is a part of what has been entered, in the same order. -/
theorem cycleFrom_sublist_entered (h : onPath path dependency = true) (finished : List L) :
    (cycleFrom path dependency).Sublist (entered path finished) := by
  have hpart := (reverse_cycleFrom_isPrefix h).sublist.reverse
  rw [List.reverse_reverse] at hpart
  exact hpart.trans (List.sublist_append_left _ _)

theorem Progress.isRing_cycleFrom
    (h : Progress table roots (⟨id, dependency :: pending⟩ :: path) found.finished)
    (hpath : onPath (⟨id, pending⟩ :: path) dependency = true) :
    table.IsRing (cycleFrom (⟨id, pending⟩ :: path) dependency) where
  ne_nil := List.cons_ne_nil _ _
  linked := by
    rw [← List.reverse_reverse (cycleFrom _ _), List.isChain_reverse]
    exact h.linked.prefix (reverse_cycleFrom_isPrefix hpath)
  closed := by
    intro last hlast first hfirst
    rw [getLast?_cycleFrom hpath] at hlast
    cases hlast
    cases hfirst
    exact h.direct

/-! ### The invariant -/

/-- **The invariant of the walk**: progress; every cycle closed is a ring whose identifiers are left
in the opposite order; and the steps that close the cycles are the steps that lead back. -/
structure WalkInvariant (table : Dependencies L) (roots : List L) (path : List (Frame L))
    (found : Findings L) : Prop where
  progress : Progress table roots path found.finished
  rings : ∀ ring ∈ found.cycles, table.IsRing ring
  ordered : ∀ ring ∈ found.cycles, ring.Sublist (entered path found.finished)
  closings : (found.cycles.filterMap closingStep?).Perm
    (openSteps table path ++ backSteps table found.finished)

namespace WalkInvariant

omit [LawfulBEq L] in
theorem start : WalkInvariant table roots [] .start where
  progress := .start
  rings := by simp [Findings.start]
  ordered := by simp [Findings.start]
  closings := .refl _

omit [LawfulBEq L] in
theorem root (h : WalkInvariant table roots [] found) (hroot : id ∈ roots)
    (hnew : id ∉ found.finished) : WalkInvariant table roots [⟨id, table.of id⟩] found where
  progress := h.progress.root hroot hnew
  rings := h.rings
  ordered := fun ring hring => (h.ordered ring hring).trans (sublist_entered_push _ _ _)
  closings := by
    have hnone : (⟨id, table.of id⟩ : Frame L).returns table [] = [] := by
      simp [Frame.returns, Frame.examined_opened]
    simpa [openSteps, hnone] using h.closings

/-- The steps that lead back from the innermost identifier now lead back from what is finished. -/
theorem finish (h : WalkInvariant table roots (⟨id, []⟩ :: path) found) :
    WalkInvariant table roots path (found.finish id) where
  progress := h.progress.finish
  rings := h.rings
  ordered := entered_finish ⟨id, []⟩ path found.finished ▸ h.ordered
  closings := by
    -- of the dependencies of `id`, those on the path are those that are not finished
    have hback : (table.of id).filter (fun dep => onPath (⟨id, []⟩ :: path) dep) =
        (table.of id).filter fun dep => !found.finished.contains dep := by
      apply List.filter_congr
      intro dep hdep
      apply h.progress.onPath_eq
      refine h.progress.examined ⟨id, []⟩ List.mem_cons_self dep ?_
      rwa [Frame.examined_all]
    have hreturns : (⟨id, []⟩ : Frame L).returns table path =
        ((table.of id).filter fun dep => !found.finished.contains dep).map (id, ·) := by
      rw [Frame.returns, Frame.examined_all, hback]
    refine h.closings.trans ?_
    rw [openSteps, hreturns, Findings.finish, backSteps, List.append_assoc, ← List.append_assoc,
      ← List.append_assoc]
    exact List.perm_append_comm.append_right _

theorem close (h : WalkInvariant table roots (⟨id, dependency :: pending⟩ :: path) found)
    (hpath : onPath (⟨id, pending⟩ :: path) dependency = true) :
    WalkInvariant table roots (⟨id, pending⟩ :: path)
      (found.close (cycleFrom (⟨id, pending⟩ :: path) dependency)) where
  progress := h.progress.pass (mem_entered.2 (.inl hpath))
  rings := by
    intro ring hring
    rcases List.mem_cons.1 hring with rfl | hring
    · exact h.progress.isRing_cycleFrom hpath
    · exact h.rings ring hring
  ordered := by
    intro ring hring
    rcases List.mem_cons.1 hring with rfl | hring
    · exact cycleFrom_sublist_entered hpath _
    · exact h.ordered ring hring
  closings := by
    rw [Findings.close, List.filterMap_cons_some (closingStep?_cycleFrom hpath), openSteps,
      Frame.returns_next h.progress.next, if_pos hpath]
    refine (h.closings.cons _).trans ?_
    rw [openSteps, List.append_assoc, List.append_assoc, List.append_assoc]
    exact List.perm_middle.symm

theorem pass (h : WalkInvariant table roots (⟨id, dependency :: pending⟩ :: path) found)
    (hpath : ¬ onPath (⟨id, pending⟩ :: path) dependency = true)
    (hfinished : found.finished.contains dependency = true) :
    WalkInvariant table roots (⟨id, pending⟩ :: path) found where
  progress := h.progress.pass (mem_entered.2 (.inr hfinished))
  rings := h.rings
  ordered := h.ordered
  closings := by
    rw [openSteps, Frame.returns_next h.progress.next, if_neg hpath, List.append_nil]
    exact h.closings

theorem enter (h : WalkInvariant table roots (⟨id, dependency :: pending⟩ :: path) found)
    (hpath : ¬ onPath (⟨id, pending⟩ :: path) dependency = true)
    (hfinished : ¬ found.finished.contains dependency = true) :
    WalkInvariant table roots (⟨dependency, table.of dependency⟩ :: ⟨id, pending⟩ :: path)
      found where
  progress := by
    refine h.progress.enter fun hentered => ?_
    rcases mem_entered.1 hentered with hon | hdone
    · exact hpath hon
    · exact hfinished hdone
  rings := h.rings
  ordered := fun ring hring => (h.ordered ring hring).trans (sublist_entered_push _ _ _)
  closings := by
    -- a frame just opened has looked at nothing, so no step leads back from it yet
    have hnone (outer : List (Frame L)) :
        (⟨dependency, table.of dependency⟩ : Frame L).returns table outer = [] := by
      simp [Frame.returns, Frame.examined_opened]
    rw [openSteps, hnone, List.nil_append, openSteps, Frame.returns_next h.progress.next,
      if_neg hpath, List.append_nil]
    exact h.closings

/-- What holds of a path holds at the end of the walk from it. -/
theorem explore (h : WalkInvariant table roots path found) :
    WalkInvariant table roots [] (explore table path found) := by
  fun_induction ModuleGraph.explore table path found with
  | case1 found => exact h
  | case2 found id path ih => exact ih h.finish
  | case3 found id dependency pending path hpath ih => exact ih (h.close hpath)
  | case4 found id dependency pending path hpath hfinished ih => exact ih (h.pass hpath hfinished)
  | case5 found id dependency pending path hpath hfinished ih => exact ih (h.enter hpath hfinished)

theorem visitRoot (h : WalkInvariant table roots [] found) (hroot : id ∈ roots) :
    WalkInvariant table roots [] (visitRoot table found id) := by
  rw [ModuleGraph.visitRoot]
  split
  · exact h
  · rename_i hnew
    exact (h.root hroot (by simpa using hnew)).explore

theorem foldl_visitRoot {ids : List L} (hids : ids ⊆ roots)
    (h : WalkInvariant table roots [] found) :
    WalkInvariant table roots [] (ids.foldl (ModuleGraph.visitRoot table) found) := by
  induction ids generalizing found with
  | nil => exact h
  | cons id ids ih =>
    exact ih (fun other hother => hids (List.mem_cons_of_mem _ hother))
      (h.visitRoot (hids List.mem_cons_self))

theorem walk (table : Dependencies L) (roots : List L) :
    WalkInvariant table roots [] (walk table roots) :=
  foldl_visitRoot (List.Subset.refl _) start

end WalkInvariant

end ModuleGraph
