import Mathlib.Data.List.TakeDrop
import ModuleGraph.Proofs.Session.HistoryStep

/-!
# Histories as zippers

A history behaves as a zipper of snapshots: what lies before the current snapshot, nearest first,
the current snapshot itself, and what lies after it. An edit keeps as many of the past as the limit
allows beside the new snapshot.

## Main definitions

- `Zipper`, with `edit`, `undo`, `redo` and `reset` — the zipper and its moves
- `History.zipper` — the zipper of a history
- `History.zipper_apply` — a step of the history is the same step of its zipper
- `history_run_refines_zipper` — a history agrees with its zipper after any steps
-/

namespace ModuleGraph

/-- What is before, nearest first; what is current; and what is after, nearest first. -/
structure Zipper (α : Type) where
  past : List α
  present : α
  future : List α
  deriving DecidableEq, Repr

namespace Zipper

variable {α L : Type}

/-- The zipper in which nothing is before or after. -/
def start (entry : α) : Zipper α := ⟨[], entry, []⟩

/-- A new entry after the current one, with at most `most` entries in all. -/
def edit (most : Nat) (zipper : Zipper α) (entry : α) : Zipper α :=
  ⟨(zipper.present :: zipper.past).take (most - 1), entry, []⟩

/-- One entry back, if there is one. -/
def undo (zipper : Zipper α) : Zipper α :=
  match zipper.past with
  | [] => zipper
  | entry :: past => ⟨past, entry, zipper.present :: zipper.future⟩

/-- One entry forward, if there is one. -/
def redo (zipper : Zipper α) : Zipper α :=
  match zipper.future with
  | [] => zipper
  | entry :: future => ⟨zipper.present :: zipper.past, entry, future⟩

theorem redo_undo {zipper : Zipper α} (h : zipper.past ≠ []) : zipper.undo.redo = zipper := by
  obtain ⟨past, present, future⟩ := zipper
  cases past with
  | nil => exact absurd rfl h
  | cons entry past => rfl

/-- The zipper of snapshots after a step. -/
def apply (most : Nat) (zipper : Zipper (Snapshot L)) : HistoryStep L → Zipper (Snapshot L)
  | .edit graph action => zipper.edit most ⟨graph, action⟩
  | .undo => zipper.undo
  | .redo => zipper.redo
  | .reset graph => start ⟨graph, History.resetAction⟩

/-- The zipper of snapshots after steps in turn. -/
def run (most : Nat) (zipper : Zipper (Snapshot L)) (steps : List (HistoryStep L)) :
    Zipper (Snapshot L) :=
  steps.foldl (apply most) zipper

end Zipper

namespace History

variable {L : Type}

/-- The zipper of a history. -/
def zipper (history : History L) : Zipper (Snapshot L) where
  past := (history.snapshots.take history.index).reverse
  present := history.current
  future := history.snapshots.drop (history.index + 1)

/-! ### Reading a history off its zipper -/

theorem getElem?_index (history : History L) :
    history.snapshots[history.index]? = some history.current :=
  List.getElem?_eq_getElem history.index_lt

theorem length_past (history : History L) : history.zipper.past.length = history.index := by
  have := history.index_lt
  simp only [zipper, List.length_reverse, List.length_take]
  omega

theorem snapshots_eq (history : History L) :
    history.snapshots =
      history.zipper.past.reverse ++ history.zipper.present :: history.zipper.future := by
  have hindex := history.index_lt
  have hcurrent : history.current = history.snapshots[history.index] := rfl
  simp only [zipper, List.reverse_reverse]
  rw [hcurrent, List.cons_getElem_drop_succ, List.take_append_drop]

/-- The zipper of a history whose snapshots are split at the current one. -/
theorem zipper_eq {history : History L} {before after : List (Snapshot L)} {snapshot : Snapshot L}
    (hsnapshots : history.snapshots = before ++ snapshot :: after)
    (hindex : history.index = before.length) :
    history.zipper = ⟨before.reverse, snapshot, after⟩ := by
  have hcurrent : some history.current = some snapshot := by
    rw [← getElem?_index, hsnapshots, hindex, List.getElem?_append_right (Nat.le_refl _),
      Nat.sub_self]
    rfl
  simp only [zipper, hsnapshots, hindex, Option.some.inj hcurrent]
  simp

theorem canUndo_iff (history : History L) : history.canUndo = true ↔ history.zipper.past ≠ [] := by
  rw [← List.length_pos_iff, length_past, canUndo, decide_eq_true_iff]

theorem canRedo_iff (history : History L) :
    history.canRedo = true ↔ history.zipper.future ≠ [] := by
  rw [← List.length_pos_iff, zipper, List.length_drop, canRedo, decide_eq_true_iff]
  omega

/-! ### Each step is a step of the zipper -/

theorem keepLatest_concat {most : Nat} (hmost : 0 < most) (snapshots : List (Snapshot L))
    (snapshot : Snapshot L) :
    keepLatest most (snapshots ++ [snapshot]) = keepLatest (most - 1) snapshots ++ [snapshot] := by
  have hkept : (snapshots ++ [snapshot]).length - most = snapshots.length - (most - 1) := by
    rw [List.length_append, List.length_singleton]
    omega
  rw [keepLatest, hkept, List.drop_append_of_le_length (Nat.sub_le _ _), keepLatest]

theorem reverse_keepLatest (most : Nat) (snapshots : List (Snapshot L)) :
    (keepLatest most snapshots).reverse = snapshots.reverse.take most := by
  rw [keepLatest, List.reverse_drop]
  by_cases hmost : most ≤ snapshots.length
  · rw [Nat.sub_sub_self hmost]
  · rw [List.take_of_length_le (by simp; omega), List.take_of_length_le (by simp; omega)]

/-- The snapshots up to the current one, backwards. -/
theorem reverse_take_index (history : History L) :
    (history.snapshots.take (history.index + 1)).reverse =
      history.zipper.present :: history.zipper.past := by
  rw [List.take_add_one, getElem?_index, List.reverse_append]
  rfl

theorem zipper_commit (history : History L) (graph : Graph L) (action : Text) :
    (history.commit graph action).zipper = history.zipper.edit history.limit ⟨graph, action⟩ := by
  -- at least one snapshot is kept, so the cut at the front never reaches the new one
  have hsnapshots : (history.commit graph action).snapshots =
      keepLatest (history.limit - 1) (history.snapshots.take (history.index + 1)) ++
        [⟨graph, action⟩] := keepLatest_concat history.limit_pos _ _
  have hindex : (history.commit graph action).index =
      (keepLatest (history.limit - 1) (history.snapshots.take (history.index + 1))).length := by
    change (history.commit graph action).snapshots.length - 1 = _
    rw [hsnapshots, List.length_append, List.length_singleton, Nat.add_sub_cancel]
  rw [zipper_eq hsnapshots hindex, reverse_keepLatest, reverse_take_index, Zipper.edit]

/-- The graph of an edit is current after it. -/
theorem graph_commit (history : History L) (graph : Graph L) (action : Text) :
    (history.commit graph action).graph = graph :=
  congrArg (fun zipper => zipper.present.graph) (history.zipper_commit graph action)

theorem zipper_undo (history : History L) : history.undo.zipper = history.zipper.undo := by
  have hlength := history.length_past
  have hsnapshots := history.snapshots_eq
  cases hpast : history.zipper.past with
  | nil =>
    -- at the beginning the position stays
    rw [hpast] at hlength hsnapshots
    have hsame : history.zipper.undo = history.zipper := by rw [Zipper.undo, hpast]
    have hsplit : history.undo.snapshots =
        [] ++ history.zipper.present :: history.zipper.future := hsnapshots
    have hindex : history.undo.index = ([] : List (Snapshot L)).length := by
      change history.index - 1 = 0
      rw [← hlength]
      rfl
    rw [zipper_eq hsplit hindex, hsame, List.reverse_nil, ← hpast]
  | cons snapshot past =>
    rw [hpast] at hlength hsnapshots
    rw [Zipper.undo, hpast]
    have hsplit : history.undo.snapshots =
        past.reverse ++ snapshot :: history.zipper.present :: history.zipper.future := by
      rw [undo, hsnapshots, List.reverse_cons, List.append_assoc, List.singleton_append]
    have hindex : history.undo.index = past.reverse.length := by
      change history.index - 1 = _
      rw [← hlength, List.length_cons, Nat.add_sub_cancel, List.length_reverse]
    rw [zipper_eq hsplit hindex, List.reverse_reverse]

theorem zipper_redo (history : History L) : history.redo.zipper = history.zipper.redo := by
  have hlength := history.length_past
  have hsnapshots := history.snapshots_eq
  have hredo := history.canRedo_iff
  rw [canRedo, decide_eq_true_iff] at hredo
  cases hfuture : history.zipper.future with
  | nil =>
    rw [Zipper.redo, hfuture, redo, dif_neg fun h => hredo.1 h hfuture]
  | cons snapshot future =>
    have hmore := hredo.2 (by simp [hfuture])
    rw [hfuture] at hsnapshots
    rw [Zipper.redo, hfuture]
    have hsplit : history.redo.snapshots =
        (history.zipper.past.reverse ++ [history.zipper.present]) ++ snapshot :: future := by
      rw [redo, dif_pos hmore]
      simpa using hsnapshots
    have hindex : history.redo.index =
        (history.zipper.past.reverse ++ [history.zipper.present]).length := by
      rw [redo, dif_pos hmore, List.length_append, List.length_reverse, hlength]
      rfl
    rw [zipper_eq hsplit hindex]
    simp

theorem zipper_reset (history : History L) (graph : Graph L) :
    (history.reset graph).zipper = .start ⟨graph, resetAction⟩ := rfl

theorem zipper_start (graph : Graph L) (limit : Int) :
    (start graph limit).zipper = .start ⟨graph, resetAction⟩ := rfl

/-- A step of the history is the same step of its zipper. -/
theorem zipper_apply (history : History L) (step : HistoryStep L) :
    (history.apply step).zipper = history.zipper.apply history.limit step := by
  cases step with
  | edit graph action => exact history.zipper_commit graph action
  | undo => exact history.zipper_undo
  | redo => exact history.zipper_redo
  | reset graph => exact history.zipper_reset graph

/-! ### Runs -/

theorem limit_apply (history : History L) (step : HistoryStep L) :
    (history.apply step).limit = history.limit := by
  cases step with
  | edit graph action => rfl
  | undo => rfl
  | redo =>
    rw [apply, redo]
    split <;> rfl
  | reset graph => rfl

theorem zipper_run (history : History L) (steps : List (HistoryStep L)) :
    (history.run steps).zipper = history.zipper.run history.limit steps := by
  induction steps generalizing history with
  | nil => rfl
  | cons step steps ih =>
    have hrest := ih (history.apply step)
    rw [zipper_apply, limit_apply] at hrest
    exact hrest

theorem limit_run (history : History L) (steps : List (HistoryStep L)) :
    (history.run steps).limit = history.limit := by
  induction steps generalizing history with
  | nil => rfl
  | cons step steps ih =>
    rw [← limit_apply history step]
    exact ih _

/-- No step keeps more snapshots than the limit allows. -/
theorem length_apply_le (history : History L) (step : HistoryStep L)
    (h : history.snapshots.length ≤ history.limit) :
    (history.apply step).snapshots.length ≤ history.limit := by
  have hpos := history.limit_pos
  cases step with
  | edit graph action =>
    simp only [apply, commit, keepLatest, List.length_drop]
    omega
  | undo => exact h
  | redo =>
    rw [apply, redo]
    split <;> exact h
  | reset graph => exact hpos

theorem length_run_le (history : History L) (steps : List (HistoryStep L))
    (h : history.snapshots.length ≤ history.limit) :
    (history.run steps).snapshots.length ≤ history.limit := by
  induction steps generalizing history with
  | nil => exact h
  | cons step steps ih =>
    have hstep := history.length_apply_le step h
    rw [← limit_apply history step] at hstep ⊢
    exact ih _ hstep

/-! ### Undoing an edit -/

/-- A history is told by its zipper and its limit. -/
theorem eq_of_zipper_eq {history other : History L} (hzipper : history.zipper = other.zipper)
    (hlimit : history.limit = other.limit) : history = other := by
  have hsnapshots : history.snapshots = other.snapshots := by
    rw [snapshots_eq, snapshots_eq other, hzipper]
  have hindex : history.index = other.index := by
    rw [← length_past, ← length_past other, hzipper]
  cases history
  cases other
  cases hsnapshots
  cases hindex
  cases hlimit
  rfl

theorem redo_undo {history : History L} (h : history.zipper.past ≠ []) :
    history.undo.redo = history := by
  apply eq_of_zipper_eq
  · rw [zipper_redo, zipper_undo, Zipper.redo_undo h]
  · exact limit_apply history.undo .redo

/-- If two snapshots are kept, the past of an edit begins with what was current. -/
theorem past_commit (history : History L) (graph : Graph L) (action : Text)
    (hlimit : 2 ≤ history.limit) :
    (history.commit graph action).zipper.past =
      history.current :: history.zipper.past.take (history.limit - 2) := by
  obtain ⟨kept, hkept⟩ := Nat.exists_eq_add_of_le hlimit
  have hone : history.limit - 1 = kept + 1 := by omega
  have htwo : history.limit - 2 = kept := by omega
  rw [zipper_commit, Zipper.edit, hone, htwo, List.take_succ_cons]
  rfl

theorem current_undo_commit (history : History L) (graph : Graph L) (action : Text)
    (hlimit : 2 ≤ history.limit) :
    (history.commit graph action).undo.current = history.current := by
  have hundo := (history.commit graph action).zipper_undo
  rw [Zipper.undo, history.past_commit graph action hlimit] at hundo
  exact congrArg Zipper.present hundo

theorem redo_undo_commit (history : History L) (graph : Graph L) (action : Text)
    (hlimit : 2 ≤ history.limit) :
    (history.commit graph action).undo.redo = history.commit graph action := by
  apply redo_undo
  rw [history.past_commit graph action hlimit]
  exact List.cons_ne_nil _ _

end History

/-- **A history refines its zipper**: after any steps from any graph, whatever limit is asked for,
the history and the zipper agree on the current snapshot, on what can be undone and redone, and on
the snapshots kept and their position. At least one snapshot is kept and no more than the limit
allows; and if the limit allows two, an edit can be undone and redone. -/
theorem history_run_refines_zipper {L : Type} (graph : Graph L) (limit : Int)
    (steps : List (HistoryStep L)) :
    let most := (max 1 limit).toNat
    let history := (History.start graph limit).run steps
    let zipper := (Zipper.start ⟨graph, History.resetAction⟩).run most steps
    history.current = zipper.present ∧
    (history.canUndo = true ↔ zipper.past ≠ []) ∧
    (history.canRedo = true ↔ zipper.future ≠ []) ∧
    history.snapshots = zipper.past.reverse ++ zipper.present :: zipper.future ∧
    history.index = zipper.past.length ∧
    history.index < history.snapshots.length ∧
    history.snapshots ≠ [] ∧
    history.snapshots.length ≤ most ∧
    (2 ≤ limit → ∀ edited action,
      (history.commit edited action).undo.current = history.current ∧
        (history.commit edited action).undo.redo = history.commit edited action) := by
  intro most history zipper
  have hmost : (History.start graph limit).limit = most := by
    change max 1 limit.toNat = (max 1 limit).toNat
    omega
  have hlimit : history.limit = most := (History.limit_run _ steps).trans hmost
  have hzipper : history.zipper = zipper := by
    rw [History.zipper_run, hmost, History.zipper_start]
  have hlength : history.snapshots.length ≤ most := by
    rw [← hmost]
    exact History.length_run_le _ steps (History.start graph limit).limit_pos
  have hnonempty := Nat.zero_lt_of_lt history.index_lt
  rw [← hzipper]
  refine ⟨rfl, history.canUndo_iff, history.canRedo_iff, history.snapshots_eq,
    history.length_past.symm, history.index_lt, List.ne_nil_of_length_pos hnonempty, hlength, ?_⟩
  intro htwo edited action
  have htwo' : 2 ≤ history.limit := by omega
  exact ⟨history.current_undo_commit edited action htwo',
    history.redo_undo_commit edited action htwo'⟩

/-- Four edits, two of which are undone, and an edit that drops these two for good. -/
def branchingSteps : List (HistoryStep Text) :=
  [.edit ⟨"first", [], []⟩ "1", .edit ⟨"second", [], []⟩ "2", .edit ⟨"third", [], []⟩ "3",
    .edit ⟨"fourth", [], []⟩ "4", .undo, .undo, .edit ⟨"other", [], []⟩ "5"]

theorem undo_commit_branching :
    (2 : Int) ≤ 3 ∧
      ((((History.start .empty 3).run branchingSteps).commit ⟨"last", [], []⟩ "6").undo.current =
        ((History.start .empty 3).run branchingSteps).current) := by
  have htwo : (2 : Int) ≤ 3 := by decide
  obtain ⟨-, -, -, -, -, -, -, -, hundo⟩ := history_run_refines_zipper .empty 3 branchingSteps
  exact ⟨htwo, (hundo htwo _ _).1⟩

example : ((History.start .empty 3).run branchingSteps).snapshots =
    [⟨⟨"second", [], []⟩, "2"⟩, ⟨⟨"other", [], []⟩, "5"⟩] := by decide

end ModuleGraph
